import Asyncly.Lib.Search
import Asyncly.Srvmocker.Models

/-!
# Dispatch over declared routes

`start_service` groups its routes by method and path, and each group has a dispatcher
that selects the first route taking the request. The dispatcher is compared with the
first route in declaration order that accepts the request.
-/

namespace Asyncly

variable {R : Type}

/-- The groups of `start_service`. -/
def groupRoutes (routes : List MockRoute) : Dict (String × String) (List MockRoute) :=
  routes.foldl (fun groups route => groups.push (route.method, route.path) route) []

/-- The service of `start_service` before its first request. -/
def startService (routes : List MockRoute) : MockService R :=
  { handlerNames := routes.map MockRoute.handlerName }

/-- `route.match is None or route.match.matches(request, body)` -/
def MockRoute.takes (loads : JsonLoads) (request : Request) (body : Bytes) (route : MockRoute) :
    Except Exn Bool :=
  match route.matcher with
  | none => .ok true
  | some m => m.matchesRequest loads request body

/-- The loop of `_dispatch`. -/
def selectRoute (loads : JsonLoads) (routes : List MockRoute) (request : Request)
    (body : Bytes) : Except Exn (Option MockRoute) :=
  Search.search (MockRoute.takes loads request body) routes

def notFound : Exn := .httpNotFound "No MockRoute matched the request"

def missingResponse (name : String) : Exn :=
  .missingResponseError (s!"no response registered for handler {quoted name}; " ++
    s!"call service.register({quoted name}, response)")

/-- The part of `_dispatch` after the selection: record the request and look its
response up. -/
def recordAndLookUp (request : Request) (body : Bytes) (chosen : MockRoute) : ServiceM R R := do
  MockService.record chosen.handlerName
    (.ofRequest request request.matchInfo body chosen.handlerName)
  let service ← get
  match service.handlers.get? chosen.handlerName with
  | none => throw (missingResponse chosen.handlerName)
  | some handler => pure handler

/-- `_dispatch` from the body to the response that is to be run. -/
def dispatch (loads : JsonLoads) (routes : List MockRoute) (request : Request) (body : Bytes) :
    ServiceM R R :=
  match selectRoute loads routes request body with
  | .error exc => throw exc
  | .ok none => throw notFound
  | .ok (some chosen) => recordAndLookUp request body chosen

/-- `_dispatch` up to its response, given the end of `request.read()`. -/
def dispatchRead (loads : JsonLoads) (routes : List MockRoute) (request : Request)
    (read : Except Exn Bytes) : ServiceM R R :=
  match read with
  | .error exc => throw exc
  | .ok body => dispatch loads routes request body

/-! ### The first accepting route -/

namespace MockRoute

variable (loads : JsonLoads) (request : Request) (body : Bytes)

/-- The route has no match, or one whose predicates all hold. -/
def accepts (route : MockRoute) : Bool :=
  route.matcher.all fun m => m.toCriteria.accepts loads request.headers request.query body

/-- The match of the route looks into the body for its JSON value. -/
def Reads (route : MockRoute) : Prop := ∃ m ∈ route.matcher, m.toCriteria.Reads body

variable {loads request body} {route : MockRoute}

theorem eq_accepts_of_takes {answer : Bool} (taken : route.takes loads request body = .ok answer) :
    answer = route.accepts loads request body := by
  rw [takes] at taken
  rw [accepts]
  cases matcher : route.matcher with
  | none =>
      rw [matcher] at taken
      exact (Except.ok.inj taken).symm
  | some m =>
      rw [matcher] at taken
      exact Criteria.eq_accepts_of_check ((Match.matchesRequest_eq ..).symm.trans taken)

theorem takes_eq_accepts_iff :
    route.takes loads request body = .ok (route.accepts loads request body) ↔
      (route.Reads body → Decodes loads body) := by
  rw [takes, accepts, Reads]
  cases route.matcher with
  | none => simp
  | some m =>
      have exact_check : m.matchesRequest loads request body = _ ↔ _ :=
        Match.matchesRequest_eq loads m request body ▸ Criteria.check_eq_accepts_iff
      simpa using exact_check

end MockRoute

/-- The loop selects the first accepting route exactly when each route it comes to can
tell whether it accepts. -/
theorem selectRoute_eq_find?_iff {loads : JsonLoads} {routes : List MockRoute}
    {request : Request} {body : Bytes} :
    selectRoute loads routes request body =
        .ok (routes.find? (MockRoute.accepts loads request body)) ↔
      ∀ route, Search.Reached (MockRoute.accepts loads request body) routes route →
        route.Reads body → Decodes loads body := by
  have answers : ∀ route ∈ routes, ∀ answer, MockRoute.takes loads request body route = .ok answer →
      answer = route.accepts loads request body :=
    fun _ _ _ taken => MockRoute.eq_accepts_of_takes taken
  rw [selectRoute, Search.search_eq_find?_iff answers]
  simp only [MockRoute.takes_eq_accepts_iff]

/-- The declared routes of a group, in declaration order. -/
def declared (routes : List MockRoute) (method path : String) : List MockRoute :=
  routes.filter fun route => (route.method, route.path) = (method, path)

/-- A group is its routes in declaration order. -/
theorem groupRoutes_get? {routes group : List MockRoute} {method path : String}
    (grouped : (groupRoutes routes).get? (method, path) = some group) :
    group = declared routes method path := by
  rw [← Dict.listAt_of_get? grouped]
  exact MultiDict.listAt_foldl_push (fun route => (route.method, route.path)) routes [] _

/-- The request is dispatched by the first declared route that accepts it: that route is
selected without a failure, and the answer is 404 exactly when there is none. -/
structure FirstMatch (loads : JsonLoads) (routes group : List MockRoute) (method path : String)
    (request : Request) (body : Bytes) (read : Except Exn Bytes) (service : MockService R) :
    Prop where
  selects : (read >>= selectRoute loads group request) =
    .ok ((declared routes method path).find? (MockRoute.accepts loads request body))
  answers : ∀ chosen, (declared routes method path).find? (MockRoute.accepts loads request body) =
    some chosen → (dispatchRead loads group request read).call service =
      (recordAndLookUp request body chosen).call service
  notFound : ((dispatchRead loads group request read).call service).1 = .error notFound ↔
    (declared routes method path).find? (MockRoute.accepts loads request body) = none

/-- The request stays recorded however the lookup ends, and it does not end in 404. -/
theorem call_recordAndLookUp (request : Request) (body : Bytes) (chosen : MockRoute)
    (service : MockService R) :
    ((recordAndLookUp request body chosen).call service).2 =
        ((MockService.record chosen.handlerName
          (.ofRequest request request.matchInfo body chosen.handlerName)).call service).2 ∧
    ((recordAndLookUp request body chosen).call service).1 ≠ .error notFound := by
  have differs (name : String) : missingResponse name ≠ notFound := by
    simp [missingResponse, Exn.missingResponseError, notFound, Exn.httpNotFound]
  rw [recordAndLookUp, Stateful.call_bind_of_ok (MockService.call_record _ _ service),
    Stateful.call_get_bind]
  dsimp only
  cases service.handlers.get? chosen.handlerName with
  | none => exact ⟨rfl, fun raised => differs _ (Except.error.inj raised)⟩
  | some handler => exact ⟨rfl, nofun⟩

/-- A selection that goes well decides the whole dispatch. -/
theorem firstMatch_of_selects {loads : JsonLoads} {routes group : List MockRoute}
    {method path : String} {request : Request} {body : Bytes} (service : MockService R)
    (selects : selectRoute loads group request body =
      .ok ((declared routes method path).find? (MockRoute.accepts loads request body))) :
    FirstMatch loads routes group method path request body (.ok body) service := by
  refine ⟨selects, ?_, ?_⟩
  · intro chosen found
    rw [dispatchRead, dispatch, selects, found]
  · rw [dispatchRead, dispatch, selects]
    cases found : (declared routes method path).find? (MockRoute.accepts loads request body) with
    | none => exact iff_of_true rfl rfl
    | some chosen =>
        exact iff_of_false (call_recordAndLookUp request body chosen service).2 (by simp)

/-- A request is dispatched by the first declared route that accepts it exactly when its
body is read, and decodes or is refused as JSON wherever a route that is come to looks
into it. -/
theorem dispatch_firstMatch_iff {loads : JsonLoads} {routes group : List MockRoute}
    {method path : String} (grouped : (groupRoutes routes).get? (method, path) = some group)
    (request : Request) {body : Bytes} {read : Except Exn Bytes}
    (arrives : ∀ bytes, read = .ok bytes → bytes = body) (service : MockService R) :
    FirstMatch loads routes group method path request body read service ↔
      read = .ok body ∧ ∀ route,
        Search.Reached (MockRoute.accepts loads request body) (declared routes method path) route →
          route.Reads body → Decodes loads body := by
  obtain rfl := groupRoutes_get? grouped
  constructor
  · intro first
    cases read with
    | error exc => cases first.selects
    | ok bytes =>
        obtain rfl := arrives bytes rfl
        exact ⟨rfl, selectRoute_eq_find?_iff.mp first.selects⟩
  · rintro ⟨rfl, decodes⟩
    exact firstMatch_of_selects service (selectRoute_eq_find?_iff.mpr decodes)

namespace Sample

/-- A route for an empty object, and one for everything else. -/
def routes : List MockRoute :=
  [{ method := "POST", path := "/items", handlerName := "empty",
     matcher := some { json := .object [] } },
   { method := "POST", path := "/items", handlerName := "other" }]

def postedItem : Request where
  method := "POST"
  url := ⟨"http://mock/items", "http", "/items"⟩
  path := "/items"
  headers := []
  query := []
  matchInfo := []

end Sample

theorem dispatch_firstMatch_iff_sample :
    FirstMatch (R := Nat) Sample.loads Sample.routes Sample.routes "POST" "/items" Sample.postedItem
      [0x7B, 0x7D] (.ok [0x7B, 0x7D]) (startService Sample.routes) := by
  have grouped : (groupRoutes Sample.routes).get? ("POST", "/items") = some Sample.routes := rfl
  refine (dispatch_firstMatch_iff grouped Sample.postedItem ?_ _).mpr ⟨rfl, ?_⟩
  · intro bytes given
    exact (Except.ok.inj given).symm
  · intro route _ _ exc refused
    cases refused

/-- A body that is no text stops the loop at the first route, and the second one is there
for every request. -/
theorem dispatch_firstMatch_fails :
    (∃ chosen, (declared Sample.routes "POST" "/items").find?
      (MockRoute.accepts Sample.loads Sample.postedItem [0xFF]) = some chosen) ∧
    ¬ FirstMatch (R := Nat) Sample.loads Sample.routes Sample.routes "POST" "/items"
      Sample.postedItem [0xFF] (.ok [0xFF]) (startService Sample.routes) := by
  refine ⟨⟨_, rfl⟩, fun first => ?_⟩
  cases first.selects

end Asyncly
