import Asyncly.Client.Effect
import Asyncly.Python.Calls

/-!
# Dispatch of a response to its handler

An entry of a handlers mapping is any object. All that its callers can see is its
truth and how a call with the response ends, by keyword and by position: those two
calls need not agree, and the signature layer says when they do.
-/

namespace Asyncly

variable {B V H K : Type}

/-- How a call ends: the arguments are refused before the body starts, which
raises `TypeError`, or the body runs. -/
inductive CallOutcome (V : Type)
  | rejected (message : String)
  | ran (result : Except Exn V)

/-- An entry of the mapping the caller passes. -/
structure Handler (B V : Type) where
  name : String
  truthy : Bool
  /-- `await handler(response=response)` -/
  byKeyword : Response B → CallOutcome V
  /-- `await handler(response)` -/
  byPosition : Response B → CallOutcome V

namespace Handler

/-- The call of a function with the given parameters. -/
def callFunction (rejection : String) (body : List (Bound (Response B)) → Except Exn V) :
    Option (List (Bound (Response B))) → CallOutcome V
  | some bound => .ran (body bound)
  | none => .rejected rejection

/-- A coroutine function as a handler. -/
def ofFunction (name : String) (params : List Param) (rejection : String)
    (body : List (Bound (Response B)) → Except Exn V) : Handler B V where
  name := name
  truthy := true
  byKeyword response :=
    callFunction rejection body (bindKeyword "response" params (some response))
  byPosition response := callFunction rejection body (bindPosition params (some response))

/-- A function with keyword-only parameters refuses the call by position. -/
theorem ofFunction_byPosition_keywordOnly {params : List Param}
    (kinds : ∀ p ∈ params, p.kind = .keywordOnly) (name rejection : String)
    (body : List (Bound (Response B)) → Except Exn V) (response : Response B) :
    (ofFunction name params rejection body).byPosition response = .rejected rejection := by
  simp only [ofFunction, bindPosition_keywordOnly kinds response, callFunction]

end Handler

/-- What `apply_handler` finds in its mapping: an entry as the caller passed it,
or the wrapper `_wrap_one` made around it. -/
inductive Entry (B V : Type)
  | bare (handler : Handler B V)
  | wrapped (handler : Handler B V)

namespace CallOutcome

/-- The effects of a call of a handler. -/
def perform (name : String) (response : Response B) : CallOutcome V → Async B V
  | rejected message => Traced.raise (.typeError message)
  | ran result => do
      Traced.emit (.handler name response)
      Traced.ofExcept result

end CallOutcome

namespace Entry

/-- `bool(entry)`; a wrapper is a function. -/
def truthy : Entry B V → Bool
  | bare handler => handler.truthy
  | wrapped _ => true

/-- `await entry(response=response)`. The body of a wrapper stores the status and
passes the response on by position. -/
def call (response : Response B) : Entry B V → Async B V
  | bare handler => (handler.byKeyword response).perform handler.name response
  | wrapped handler => do
      Traced.emit (.markStatus response.status)
      (handler.byPosition response).perform handler.name response

end Entry

/-! ### Mappings -/

/-- A key of a handlers mapping. Integers and `HTTPStatus` members are equal as
keys when their values are. -/
inductive HandlerKey
  | status (code : Nat)
  | text (pattern : String)
  deriving DecidableEq, Repr

/-- A mapping with entries of type `H`. `hasItems` is false for an object that
answers lookups but has no `items` method. -/
structure Handlers (H : Type) where
  entries : List (HandlerKey × H)
  hasItems : Bool := true

namespace Handlers

/-- `handlers[key]` when `key in handlers` -/
def get? (handlers : Handlers H) (key : HandlerKey) : Option H :=
  (handlers.entries.find? fun p => p.1 = key).map Prod.snd

def map (f : H → K) (handlers : Handlers H) : Handlers K :=
  ⟨handlers.entries.map fun p => (p.1, f p.2), handlers.hasItems⟩

/-- `_find_handler`: exact, then range, then wildcard. -/
def findHandler (handlers : Handlers H) (status : Nat) : Option H :=
  match handlers.get? (.status status) with
  | some handler => some handler
  | none =>
      match handlers.get? (.text (toString (status / 100) ++ "xx")) with
      | some handler => some handler
      | none => handlers.get? (.text "*")

theorem get?_map (f : H → K) (handlers : Handlers H) (key : HandlerKey) :
    (handlers.map f).get? key = (handlers.get? key).map f := by
  simp only [get?, map, List.find?_map, Option.map_map]
  rfl

/-- Rebuilding the entries one by one does not change which key is selected. -/
theorem findHandler_map (f : H → K) (handlers : Handlers H) (status : Nat) :
    (handlers.map f).findHandler status = (handlers.findHandler status).map f := by
  simp only [findHandler, get?_map]
  cases handlers.get? (.status status) with
  | some handler => rfl
  | none =>
      cases handlers.get? (.text (toString (status / 100) ++ "xx")) with
      | some handler => rfl
      | none => rfl

end Handlers

/-- `UnhandledStatusException(...)` as `apply_handler` raises it. -/
def unhandledStatusException (clientName : String) (response : Response B) : Exn :=
  .raised {
    mro := [.unhandledStatusException, .baseHttpClientException, .clientError, .keyError,
      .other "LookupError", .exception, .baseException]
    text := s!"Unexpected response {response.status} from {response.url.text}"
    status := .int response.status
    details := [("url", response.url.text), ("client_name", clientName)] }

/-- `apply_handler` -/
def applyHandler (handlers : Handlers (Entry B V)) (response : Response B)
    (clientName : String) : Async B V :=
  match handlers.findHandler response.status with
  | none => Traced.raise (unhandledStatusException clientName response)
  | some entry =>
      if entry.truthy then entry.call response
      else Traced.raise (unhandledStatusException clientName response)

section Apply

variable {handlers : Handlers (Handler B V)} {response : Response B} {clientName : String}

theorem applyHandler_unselected {wrap : Handler B V → Entry B V}
    (none : handlers.findHandler response.status = none) :
    applyHandler (handlers.map wrap) response clientName =
      Traced.raise (unhandledStatusException clientName response) := by
  simp only [applyHandler, Handlers.findHandler_map, none, Option.map_none]

theorem applyHandler_bare {handler : Handler B V}
    (selected : handlers.findHandler response.status = some handler) :
    (applyHandler (handlers.map .bare) response clientName : Async B V) =
      if handler.truthy then (handler.byKeyword response).perform handler.name response
      else Traced.raise (unhandledStatusException clientName response) := by
  simp only [applyHandler, Handlers.findHandler_map, selected, Option.map_some]
  rfl

theorem applyHandler_wrapped {handler : Handler B V}
    (selected : handlers.findHandler response.status = some handler) :
    (applyHandler (handlers.map .wrapped) response clientName : Async B V) =
      (Traced.emit (.markStatus response.status) >>= fun _ =>
        (handler.byPosition response).perform handler.name response) := by
  simp only [applyHandler, Handlers.findHandler_map, selected, Option.map_some]
  rfl

end Apply

/-- The effects of a dispatch: the status cell is written and a handler runs. -/
def Effect.OfDispatch : Effect B → Prop
  | markStatus _ | handler _ _ => True
  | _ => False

theorem CallOutcome.only_perform (name : String) (response : Response B)
    (outcome : CallOutcome V) : (outcome.perform name response).Only Effect.OfDispatch := by
  cases outcome with
  | rejected message => exact Traced.only_raise _
  | ran result =>
      exact Traced.only_bind (Traced.only_emit trivial) fun _ => Traced.only_ofExcept result

theorem only_applyHandler (handlers : Handlers (Entry B V)) (response : Response B)
    (clientName : String) :
    (applyHandler handlers response clientName).Only Effect.OfDispatch := by
  rw [applyHandler]
  split
  · exact Traced.only_raise _
  · rename_i entry _
    split
    · cases entry with
      | bare handler => exact CallOutcome.only_perform _ _ _
      | wrapped handler =>
          exact Traced.only_bind (Traced.only_emit trivial) fun _ =>
            CallOutcome.only_perform _ _ _
    · exact Traced.only_raise _

theorem filterMap_applyHandler_log {α : Type} {p : Effect B → Option α}
    (mark : ∀ status, p (.markStatus status) = none)
    (handler : ∀ name response, p (.handler name response) = none)
    (handlers : Handlers (Entry B V)) (response : Response B) (clientName : String) :
    (applyHandler handlers response clientName).log.filterMap p = [] := by
  apply (only_applyHandler handlers response clientName).filterMap_eq_nil
  intro e he
  cases e with
  | markStatus status => exact mark status
  | handler name response => exact handler name response
  | _ => exact he.elim

end Asyncly
