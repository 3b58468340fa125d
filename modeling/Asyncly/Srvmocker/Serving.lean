import Asyncly.Srvmocker.History

/-!
# Which response serves a request

Responses are registered and replaced at any time, between the steps of any requests. The
handler of a request looks its response up once, when it is dispatched, and what it is served
with afterwards is that one.
-/

namespace Asyncly

variable {R : Type}

/-- What an event registers under a declared name. -/
def ServerEvent.registers? (routes : List MockRoute) (name : String) : ServerEvent R → Option R
  | .register other resp =>
      if other = name ∧ name ∈ routes.map MockRoute.handlerName then some resp else none
  | _ => none

theorem ServerEvent.registers?_register (routes : List MockRoute) (name other : String)
    (resp : R) : (register other resp).registers? routes name =
      if other = name ∧ name ∈ routes.map MockRoute.handlerName then some resp else none := rfl

/-- The response registered last under a declared name. -/
def lastRegistered (routes : List MockRoute) (events : List (ServerEvent R)) (name : String) :
    Option R :=
  (events.filterMap (ServerEvent.registers? routes name)).getLast?

/-- What a dispatch comes to, by the responses that are registered. -/
def answered (loads : JsonLoads) (group : List MockRoute) (request : Request) (body : Bytes)
    (registered : String → Option R) : Except Exn R :=
  match selectRoute loads group request body with
  | .error exc => .error exc
  | .ok none => .error notFound
  | .ok (some chosen) =>
      match registered chosen.handlerName with
      | some resp => .ok resp
      | none => .error (missingResponse chosen.handlerName)

/-- What the dispatch of a request came to, with the body it was dispatched with. -/
def ServedRequest.outcome? (r : ServedRequest R) : Option (Bytes × Except Exn R) :=
  match r.stage with
  | .dispatched body outcome | .responded body outcome _ => some (body, outcome)
  | _ => none

/-- A request is served by the route and the response that were there when it was dispatched:
it had arrived and was read, the first route of its group to take it was selected, and the
response was the one registered last under the name of that route. -/
structure ServedAt (loads : JsonLoads) (routes : List MockRoute) (before : List (ServerEvent R))
    (i : Nat) (request : Request) (group : List MockRoute) (body : Bytes)
    (outcome : Except Exn R) : Prop where
  arrived : ∃ method path, .arrive method path request ∈ before ∧
    group = declared routes method path
  read : (Runs.run (MockServer.step loads routes) (.start routes) before).requests[i]? =
    some ⟨request, group, .ready body⟩
  answer : outcome = answered loads group request body (lastRegistered routes before)

section Step

variable {loads : JsonLoads} {routes : List MockRoute} {s : MockServer R}
  {events : List (ServerEvent R)} {event : ServerEvent R}

theorem call_dispatch_answered (loads : JsonLoads) (group : List MockRoute) (request : Request)
    (body : Bytes) (service : MockService R) :
    ((dispatch loads group request body).call service).1 =
      answered loads group request body service.handlers.get? := by
  rw [dispatch, answered]
  cases selectRoute loads group request body with
  | error exc => rfl
  | ok found =>
      cases found with
      | none => rfl
      | some chosen =>
          dsimp only
          rw [recordAndLookUp, Stateful.call_bind_of_ok (MockService.call_record _ _ service),
            Stateful.call_get_bind]
          dsimp only
          cases service.handlers.get? chosen.handlerName <;> rfl

/-- Dispatching changes neither the names nor the responses. -/
theorem call_dispatch_handlers (loads : JsonLoads) (group : List MockRoute) (request : Request)
    (body : Bytes) (service : MockService R) :
    ((dispatch loads group request body).call service).2.handlers = service.handlers ∧
      ((dispatch loads group request body).call service).2.handlerNames =
        service.handlerNames := by
  rcases MockService.call_dispatch loads group request body service with
    ⟨chosen, -, recorded⟩ | ⟨-, exc, raised⟩
  · rw [recorded]
    exact ⟨rfl, rfl⟩
  · rw [raised]
    exact ⟨rfl, rfl⟩

/-- The service has the names of the routes, and for each the response registered last. -/
structure Registered (routes : List MockRoute) (events : List (ServerEvent R))
    (service : MockService R) : Prop where
  names : service.handlerNames = routes.map MockRoute.handlerName
  handlers : ∀ name, service.handlers.get? name = lastRegistered routes events name

theorem lastRegistered_concat {name : String}
    (silent : event.registers? routes name = none) :
    lastRegistered routes (events ++ [event]) name = lastRegistered routes events name := by
  rw [lastRegistered, List.filterMap_append, List.filterMap_cons_none silent, List.filterMap_nil,
    List.append_nil, lastRegistered]

theorem lastRegistered_concat_register {name : String} {resp : R}
    (registers : event.registers? routes name = some resp) :
    lastRegistered routes (events ++ [event]) name = some resp := by
  rw [lastRegistered, List.filterMap_append, List.filterMap_cons_some registers,
    List.filterMap_nil, List.getLast?_concat]

/-- A service that is only asked, or that records, stays as it is registered. -/
theorem Registered.of_same {service service' : MockService R}
    (h : Registered routes events service) (handlers : service'.handlers = service.handlers)
    (names : service'.handlerNames = service.handlerNames)
    (silent : ∀ name, event.registers? routes name = none) :
    Registered routes (events ++ [event]) service' where
  names := names.trans h.names
  handlers name := by rw [handlers, h.handlers, lastRegistered_concat (silent name)]

/-- A response is registered under a declared name, and nothing else happens. -/
theorem Registered.register {service : MockService R} (h : Registered routes events service)
    (name : String) (resp : R) : Registered routes (events ++ [.register name resp])
      ((MockService.register name resp).call service).2 := by
  rw [MockService.register, Stateful.call_get_bind]
  split
  · next known =>
      rw [h.names] at known
      refine ⟨h.names, fun other => ?_⟩
      have registers := ServerEvent.registers?_register routes other name resp
      by_cases same : name = other
      · subst same
        rw [if_pos ⟨rfl, known⟩] at registers
        rw [lastRegistered_concat_register registers]
        exact MultiDict.get?_set_self
      · rw [if_neg fun both => same both.1] at registers
        rw [lastRegistered_concat registers, ← h.handlers other]
        exact MultiDict.get?_set (Ne.symm same)
  · next unknown =>
      rw [h.names] at unknown
      refine ⟨h.names, fun other => ?_⟩
      have registers := ServerEvent.registers?_register routes other name resp
      have undeclared : ¬ (name = other ∧ other ∈ routes.map MockRoute.handlerName) := by
        rintro ⟨rfl, declared⟩
        exact unknown declared
      rw [if_neg undeclared] at registers
      rw [lastRegistered_concat registers]
      exact h.handlers other

theorem Registered.step (h : Registered routes events s.service) (event : ServerEvent R) :
    Registered routes (events ++ [event]) (s.step loads routes event).service := by
  cases event with
  | register name resp => exact h.register name resp
  | arrive method path request =>
      rw [MockServer.step]
      split
      · exact h.of_same rfl rfl fun _ => rfl
      · exact h.of_same rfl rfl fun _ => rfl
  | dispatch i =>
      rw [MockServer.step]
      split
      · next request group body _ =>
          obtain ⟨handlers, names⟩ := call_dispatch_handlers loads group request body s.service
          exact h.of_same handlers names fun _ => rfl
      · exact h.of_same rfl rfl fun _ => rfl
  | getCalls name =>
      rw [MockServer.step, MockService.getCalls_readOnly name s.service]
      exact h.of_same rfl rfl fun _ => rfl
  | lastCall name =>
      rw [MockServer.step, MockService.lastCall_readOnly name s.service]
      exact h.of_same rfl rfl fun _ => rfl
  | assertNotCalled name =>
      rw [MockServer.step, MockService.assertNotCalled_readOnly name s.service]
      exact h.of_same rfl rfl fun _ => rfl
  | _ => exact h.of_same rfl rfl fun _ => rfl

/-- What a step of a server does to one of its requests. -/
inductive ServedMove (loads : JsonLoads) (service : MockService R) (event : ServerEvent R)
    (i : Nat) (request : Request) (group : List MockRoute) : Stage R → Stage R → Prop
  | stays (stage : Stage R) : ServedMove loads service event i request group stage stage
  | reads (body : Bytes) (given : event = .read i (.ok body)) :
      ServedMove loads service event i request group .reading (.ready body)
  | fails (exc : Exn) : ServedMove loads service event i request group .reading (.failed exc)
  | dispatches (body : Bytes) (given : event = .dispatch i) :
      ServedMove loads service event i request group (.ready body)
        (.dispatched body ((dispatch loads group request body).call service).1)
  | responds (body : Bytes) (resp : R) (ended : Except Exn Unit) :
      ServedMove loads service event i request group (.dispatched body (.ok resp))
        (.responded body (.ok resp) ended)

/-- Where a move changes the stage of a request alone, only that request has moved. -/
theorem MockServer.moved_of_modify {i j : Nat} {r : ServedRequest R}
    {move : ServedRequest R → ServedRequest R}
    (moves : ∀ r, s.requests[j]? = some r → (move r).request = r.request ∧
      (move r).group = r.group ∧
      ServedMove loads s.service event j r.request r.group r.stage (move r).stage)
    (at_i : (s.requests.modify j move)[i]? = some r) :
    ∃ stage, s.requests[i]? = some ⟨r.request, r.group, stage⟩ ∧
      ServedMove loads s.service event i r.request r.group stage r.stage := by
  by_cases same : j = i
  · subst same
    rw [List.getElem?_modify_eq] at at_i
    obtain ⟨r', at_j, rfl⟩ := Option.map_eq_some_iff.mp at_i
    obtain ⟨request, group, moved⟩ := moves r' at_j
    rw [request, group]
    exact ⟨r'.stage, at_j, moved⟩
  · rw [List.getElem?_modify_ne _ _ same] at at_i
    exact ⟨r.stage, at_i, .stays r.stage⟩

/-- After a step a request has just arrived, or it has moved. -/
theorem MockServer.moved_of_step {i : Nat} {r : ServedRequest R}
    (at_i : (s.step loads routes event).requests[i]? = some r) :
    (∃ method path, event = .arrive method path r.request ∧ i = s.requests.length ∧
      (groupRoutes routes).get? (method, path) = some r.group ∧ r.stage = .reading) ∨
    ∃ stage, s.requests[i]? = some ⟨r.request, r.group, stage⟩ ∧
      ServedMove loads s.service event i r.request r.group stage r.stage := by
  cases event with
  | arrive method path request =>
      rw [MockServer.step] at at_i
      split at at_i
      · next group grouped =>
          dsimp only at at_i
          rw [List.getElem?_append] at at_i
          split at at_i
          · exact .inr ⟨r.stage, at_i, .stays r.stage⟩
          · have first : i - s.requests.length < 1 := (List.getElem?_eq_some_iff.mp at_i).1
            obtain rfl := List.mem_singleton.mp (List.mem_of_getElem? at_i)
            exact .inl ⟨method, path, rfl, by omega, grouped, rfl⟩
      · exact .inr ⟨r.stage, at_i, .stays r.stage⟩
  | read j read =>
      refine .inr (moved_of_modify (fun r _ => ?_) at_i)
      obtain ⟨request, group, stage⟩ := r
      cases stage with
      | reading =>
          cases read with
          | ok body => exact ⟨rfl, rfl, .reads body rfl⟩
          | error exc => exact ⟨rfl, rfl, .fails exc⟩
      | _ => cases read <;> exact ⟨rfl, rfl, .stays _⟩
  | dispatch j =>
      rw [MockServer.step] at at_i
      split at at_i
      · next request group body at_j =>
          refine .inr (moved_of_modify (fun r at_j' => ?_) at_i)
          obtain rfl := Option.some.inj (at_j.symm.trans at_j')
          exact ⟨rfl, rfl, .dispatches body rfl⟩
      · exact .inr ⟨r.stage, at_i, .stays r.stage⟩
  | respond j ended =>
      refine .inr (moved_of_modify (fun r _ => ?_) at_i)
      obtain ⟨request, group, stage⟩ := r
      cases stage with
      | dispatched body outcome =>
          cases outcome with
          | ok resp => exact ⟨rfl, rfl, .responds body resp ended⟩
          | error exc => exact ⟨rfl, rfl, .stays _⟩
      | _ => exact ⟨rfl, rfl, .stays _⟩
  | _ => exact .inr ⟨r.stage, at_i, .stays r.stage⟩

/-- A request that has come to an outcome had come to it before, or is dispatched by this very
step. -/
theorem outcome?_step {i : Nat} {r : ServedRequest R} {body : Bytes} {outcome : Except Exn R}
    (at_i : (s.step loads routes event).requests[i]? = some r)
    (given : r.outcome? = some (body, outcome)) :
    (∃ r', s.requests[i]? = some r' ∧ r'.request = r.request ∧ r'.group = r.group ∧
      r'.outcome? = r.outcome?) ∨
    (event = .dispatch i ∧ s.requests[i]? = some ⟨r.request, r.group, .ready body⟩ ∧
      outcome = ((dispatch loads r.group r.request body).call s.service).1) := by
  obtain ⟨_, _, -, -, -, arrived⟩ | ⟨stage, before, move⟩ := MockServer.moved_of_step at_i
  · rw [ServedRequest.outcome?, arrived] at given
    cases given
  · obtain ⟨request, group, stage'⟩ := r
    dsimp only at before move
    cases move with
    | stays => exact .inl ⟨_, before, rfl, rfl, rfl⟩
    | reads | fails => cases given
    | dispatches body' dispatched =>
        obtain ⟨rfl, rfl⟩ := Prod.mk.inj (Option.some.inj given)
        exact .inr ⟨dispatched, before, rfl⟩
    | responds => exact .inl ⟨_, before, rfl, rfl, rfl⟩

/-- A request has arrived at the dispatcher of its declared routes. -/
def ServedRequest.Arrived (routes : List MockRoute) (events : List (ServerEvent R))
    (r : ServedRequest R) : Prop :=
  ∃ method path, .arrive method path r.request ∈ events ∧ r.group = declared routes method path

theorem arrived_step (arrived : ∀ r ∈ s.requests, r.Arrived routes events)
    (event : ServerEvent R) :
    ∀ r ∈ (s.step loads routes event).requests, r.Arrived routes (events ++ [event]) := by
  intro r member
  obtain ⟨i, at_i⟩ := List.mem_iff_getElem?.mp member
  obtain ⟨method, path, rfl, -, grouped, -⟩ | ⟨stage, before, -⟩ := MockServer.moved_of_step at_i
  · exact ⟨method, path, by simp, groupRoutes_get? grouped⟩
  · obtain ⟨method, path, came, group⟩ := arrived _ (List.mem_of_getElem? before)
    exact ⟨method, path, List.mem_append_left _ came, group⟩

end Step

/-! ### Every run -/

section Runs

variable (loads : JsonLoads) (routes : List MockRoute)

theorem registered_reached (events : List (ServerEvent R)) : Registered routes events
    (Runs.run (MockServer.step loads routes) (.start routes) events).service := by
  induction events using List.reverseRecOn with
  | nil => exact ⟨rfl, fun _ => rfl⟩
  | append_singleton earlier event ih =>
      rw [Runs.run_append]
      exact ih.step event

theorem arrived_reached (events : List (ServerEvent R)) :
    ∀ r ∈ (Runs.run (MockServer.step loads routes) (.start routes) events).requests,
      r.Arrived routes events := by
  induction events using List.reverseRecOn with
  | nil => exact fun _ member => absurd member List.not_mem_nil
  | append_singleton earlier event ih =>
      rw [Runs.run_append]
      exact arrived_step ih event

/-- In every state a server can come to, a request that has an outcome was given it when it was
dispatched, by the routes of its group and the responses registered until then; whatever was
registered or asked since has not changed it. -/
theorem MockServer.run_served (events : List (ServerEvent R)) {i : Nat} {r : ServedRequest R}
    {body : Bytes} {outcome : Except Exn R}
    (at_i : (Runs.run (step loads routes) (start routes) events).requests[i]? = some r)
    (given : r.outcome? = some (body, outcome)) :
    ∃ before after, events = before ++ .dispatch i :: after ∧
      ServedAt loads routes before i r.request r.group body outcome := by
  -- The last event has dispatched the request, or it had its outcome before.
  induction events using List.reverseRecOn generalizing r with
  | nil => cases at_i
  | append_singleton earlier event ih =>
      rw [Runs.run_append] at at_i
      rcases outcome?_step at_i given with ⟨r', at_i', request, group, same⟩ | ⟨rfl, ready, answer⟩
      · obtain ⟨before, after, split, served⟩ := ih at_i' (same.trans given)
        rw [request, group] at served
        exact ⟨before, after ++ [event], by rw [split, List.append_assoc]; rfl, served⟩
      · have arrived := arrived_reached loads routes earlier _ (List.mem_of_getElem? ready)
        refine ⟨earlier, [], rfl, arrived, ready, ?_⟩
        rw [answer, call_dispatch_answered]
        exact congrArg _ (funext (registered_reached loads routes earlier).handlers)

/-- A request that was dispatched before its response was replaced. -/
theorem MockServer.run_served_sample :
    let events : List (ServerEvent Nat) :=
      [.register "empty" 1, .arrive "POST" "/items" Sample.postedItem,
        .read 0 (.ok [0x7B, 0x7D]), .dispatch 0, .register "empty" 2]
    ∃ before after, events = before ++ .dispatch 0 :: after ∧
      ServedAt Sample.loads Sample.routes before 0 Sample.postedItem Sample.routes [0x7B, 0x7D]
        (.ok 1) := by
  intro events
  have at_0 : (Runs.run (MockServer.step Sample.loads Sample.routes) (.start Sample.routes)
      events).requests[0]? = some ⟨Sample.postedItem, Sample.routes,
        .dispatched [0x7B, 0x7D] (.ok 1)⟩ := rfl
  exact MockServer.run_served Sample.loads Sample.routes events at_0 rfl

end Runs

end Asyncly
