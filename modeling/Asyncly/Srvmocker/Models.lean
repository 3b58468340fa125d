import Asyncly.Lib.Stateful
import Asyncly.Python.Text
import Asyncly.Srvmocker.Matching

/-!
# Routes, recorded requests and the mock service

The methods of a `MockService` run on its state: what they return or raise, and the
state they leave. A method that raises keeps the changes it has made.
-/

namespace Asyncly

/-- Binds a method and a path to a named handler. -/
structure MockRoute where
  method : String
  path : String
  handlerName : String
  matcher : Option Match := none

/-- Immutable snapshot of a request received by the mock server. -/
structure RecordedRequest where
  method : String
  url : Url
  path : String
  headers : Headers
  query : Query
  pathParams : Dict String String
  body : Bytes
  handlerName : String
  deriving DecidableEq

/-- `RecordedRequest(...)` for a request; the multi-dictionaries are copied pair by pair. -/
def RecordedRequest.ofRequest (request : Request) (pathParams : Dict String String)
    (body : Bytes) (handlerName : String) : RecordedRequest where
  method := request.method
  url := request.url
  path := request.path
  headers := request.headers
  query := request.query
  pathParams := pathParams
  body := body
  handlerName := handlerName

/-- Handle to a running mock server. The responses registered with it are objects of `R`. -/
structure MockService (R : Type) where
  history : List RecordedRequest := []
  historyMap : Dict String (List RecordedRequest) := []
  handlers : Dict String R := []
  handlerNames : List String := []

/-- A method of a service. -/
abbrev ServiceM (R : Type) := Stateful (MockService R) Exn

namespace Exn

def unknownHandlerError (text : String) : Exn :=
  .raised {
    mro := [.other "UnknownHandlerError", .other "SrvMockerError", .exception, .baseException]
    text := text }

def missingResponseError (text : String) : Exn :=
  .raised {
    mro := [.other "MissingResponseError", .other "SrvMockerError", .exception, .baseException]
    text := text }

def httpNotFound (reason : String) : Exn :=
  .raised {
    mro := [.other "HTTPNotFound", .other "HTTPClientError", .other "HTTPError",
      .other "HTTPException", .other "Response", .exception, .baseException]
    text := reason }

end Exn

namespace MockService

variable {R : Type}

/-- `register` -/
def register (name : String) (resp : R) : ServiceM R Unit := do
  let service ← get
  if name ∈ service.handlerNames then
    set { service with handlers := service.handlers.set name resp }
  else
    throw (.unknownHandlerError (s!"register() called with unknown handler_name {quoted name}; " ++
      s!"declared handlers: {quotedList service.handlerNames.dedup.mergeSort}"))

/-- `get_calls` -/
def getCalls (name : String) : ServiceM R (List RecordedRequest) := do
  let service ← get
  pure (service.historyMap.listAt name)

/-- `last_call` -/
def lastCall (name : String) : ServiceM R RecordedRequest := do
  let service ← get
  match (service.historyMap.listAt name).getLast? with
  | none => throw (.assertionError s!"no calls recorded for handler {quoted name}")
  | some call => pure call

/-- `assert_not_called` -/
def assertNotCalled (name : String) : ServiceM R Unit := do
  let calls ← getCalls name
  match calls with
  | [] => pure ()
  | calls => throw (.assertionError
      s!"handler {quoted name}: expected no calls, got {calls.length}")

/-- Append a record to the history, and under a name to the map of histories. -/
def record (name : String) (recorded : RecordedRequest) : ServiceM R Unit := do
  modify fun service => { service with history := service.history ++ [recorded] }
  modify fun service => { service with historyMap := service.historyMap.push name recorded }

theorem call_getCalls (name : String) (service : MockService R) :
    (getCalls name).call service = (.ok (service.historyMap.listAt name), service) := rfl

theorem call_record (name : String) (recorded : RecordedRequest) (service : MockService R) :
    (record name recorded).call service = (.ok (), { service with
      history := service.history ++ [recorded]
      historyMap := service.historyMap.push name recorded }) := rfl

theorem call_register (name : String) (resp : R) (service : MockService R) :
    ((register name resp).call service).2 = service ∨ ((register name resp).call service).2 =
      { service with handlers := service.handlers.set name resp } := by
  rw [register, Stateful.call_get_bind]
  split
  · exact .inr rfl
  · exact .inl rfl

/-- Asking about the calls does not change the service. -/
theorem getCalls_readOnly (name : String) : (getCalls (R := R) name).ReadOnly := fun service =>
  congrArg Prod.snd (call_getCalls name service)

theorem lastCall_readOnly (name : String) : (lastCall (R := R) name).ReadOnly := by
  intro service
  rw [lastCall, Stateful.call_get_bind]
  split <;> rfl

theorem assertNotCalled_readOnly (name : String) :
    (assertNotCalled (R := R) name).ReadOnly := by
  intro service
  rw [assertNotCalled, Stateful.call_bind_of_ok (call_getCalls name service)]
  split <;> rfl

end MockService

end Asyncly
