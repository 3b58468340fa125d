import Asyncly.Client.Base
import Asyncly.Metrics.RouteResolver

/-!
# The instrumented client

`InstrumentableHttpClient._request_once` in three parts: what happens before the
request is awaited, the request of the base client on wrapped handlers, and the
`finally` clause. Between the first and the last part other tasks run, so the parts
take the fields of the client as they find them.
-/

namespace Asyncly

variable {B V : Type}

/-! ### The mutable fields -/

/-- The fields the metrics methods write. -/
structure MetricsState where
  metricsSink : Sink
  resolveRoute : RouteResolver
  sinkHasLifecycle : Bool
  sinkHasPhases : Bool

namespace MetricsState

/-- The state of a client whose sink is a fresh `NoopSink`: after `__init__` and after
`disable_metrics`. -/
def disabled (U : UnicodeData) (noopId : Nat) : MetricsState where
  metricsSink := .noop noopId
  resolveRoute := defaultRouteResolver U
  sinkHasLifecycle := false
  sinkHasPhases := false

/-- `enable_metrics` -/
def enableMetrics (sink : Sink) (routeResolver : Option RouteResolver) (metrics : MetricsState) :
    MetricsState where
  metricsSink := sink
  resolveRoute := routeResolver.getD metrics.resolveRoute
  sinkHasLifecycle := sink.detectLifecycle
  sinkHasPhases := sink.hooks.observePhase

end MetricsState

/-! ### One metered attempt -/

/-- The locals of an attempt that outlive its request. -/
structure Frame where
  sink : Sink
  labels : Labels
  deriving DecidableEq, Repr

/-- `operation or route_label` -/
def operationLabel (operation : Option String) (route : String) : String :=
  match operation with
  | some operation => if operation = "" then route else operation
  | none => route

/-- The sink and the labels an attempt starts with, unless the sink is a `NoopSink`. -/
def MetricsState.frame (metrics : MetricsState) (clientName : String) (args : RequestArgs B V) :
    Option Frame :=
  if metrics.metricsSink.isNoop then none
  else
    let route := metrics.resolveRoute args.url
    some ⟨metrics.metricsSink,
      ⟨clientName, args.method, route, operationLabel args.operation route⟩⟩

/-- Labels for the trace callbacks, when the sink records phases. -/
def MetricsState.traceKwargs (metrics : MetricsState) (labels : Labels) (kwargs : Kwargs) :
    Kwargs :=
  if metrics.sinkHasPhases && kwargs.traceRequestCtx.isNone then
    { kwargs with traceRequestCtx := some (.labels labels.client labels.operation) }
  else kwargs

/-- A call of a hook of a sink that never raises from the hooks it defines. -/
def callHook (sink : Sink) (defined : Bool) (name : String) (call : SinkCall) : Async B Unit :=
  if defined then Traced.emit (.sinkCall sink call)
  else Traced.raise (.attributeError ("sink object has no attribute '" ++ name ++ "'"))

/-- Before the request: the in-flight gauge goes up. -/
def startHook (lifecycle : Bool) (frame : Frame) : Async B Unit :=
  if lifecycle then
    callHook frame.sink frame.sink.hooks.onRequestStart "on_request_start"
      (.onRequestStart frame.labels)
  else pure ()

/-- `_success_status` -/
def successStatus : Option Nat → StatusLabel
  | some status => .code status
  | none => .text "ok"

/-- `_classify_failure` -/
def classifyFailure (exc : Exn) (chosen : Option Nat) : StatusLabel × Outcome × ErrorType :=
  if exc.isCancelledError then
    let (outcome, errorType) := classifyException exc
    (.text "none", outcome, errorType)
  else
    let respStatus : Attr :=
      match chosen with
      | some status => .int status
      | none => exc.status.or exc.statusCode
    match respStatus.int? with
    | some status => (.code status, .response, .invalidResponse)
    | none =>
        let (outcome, errorType) := classifyException exc
        (.text "none", outcome, errorType)

/-- What is recorded of an attempt, by its end and the status a handler was chosen for. -/
def observe (ended : Except Exn (RequestResult V)) (chosen : Option Nat) (duration : Binary64) :
    Observation :=
  match ended with
  | .ok (.retryable result) =>
      ⟨successStatus result.context.responseStatus, .response, duration, none⟩
  | .ok (.value _) => ⟨successStatus chosen, .response, duration, none⟩
  | .error exc =>
      let (status, outcome, errorType) :=
        classifyFailure exc.unwrapObservableTransportError chosen
      ⟨status, outcome, duration, some errorType⟩

/-- The `finally` clause, and the end of the attempt after it. -/
def endAttempt (lifecycle : Bool) (frame : Frame) (ended : Except Exn (RequestResult V))
    (chosen : Option Nat) (duration : Binary64) : Async B (RequestResult V) := do
  if lifecycle then
    callHook frame.sink frame.sink.hooks.onRequestEnd "on_request_end"
      (.onRequestEnd frame.labels)
  Traced.emit (.sinkCall frame.sink
    (.observeRequest frame.labels (observe ended chosen duration)))
  Traced.ofExcept ended

/-- `_wrap_handlers_with_status_mark`; `_wrap_one` makes a `wrapped` entry. -/
def wrapHandlersWithStatusMark (handlers : Handlers (Handler B V)) : Handlers (Entry B V) :=
  if handlers.hasItems then handlers.map .wrapped else handlers.map .bare

/-- The status cell after a computation: the last status written. -/
def chosenStatus (log : List (Effect B)) : Option Nat :=
  (log.filterMap Effect.markStatus?).getLast?

/-- `InstrumentableHttpClient._request_once`, whose `finally` clause finds the flag
`lifecycleAtEnd`. -/
def instrumentedAttempt (metrics : MetricsState) (lifecycleAtEnd : Bool) (world : World B)
    (clientName : String) (args : RequestArgs B V) : Async B (RequestResult V) :=
  match metrics.frame clientName args with
  | none => baseAttempt world clientName args
  | some frame => do
      startHook metrics.sinkHasLifecycle frame
      let (log, ended) ← (requestOnce world clientName
        { args with kwargs := metrics.traceKwargs frame.labels args.kwargs }
        (wrapHandlersWithStatusMark args.handlers)).listen
      endAttempt lifecycleAtEnd frame ended (chosenStatus log) (world.duration args.slot)

/-- `_make_req` of an instrumented client whose sink is not switched meanwhile. -/
def instrumentedMakeReq (rt : Runtime) (metrics : MetricsState) (client : BaseHttpClient)
    (world : World B) (call : CallArgs B V) : Async B (RequestResult V) :=
  makeReq rt client
    (instrumentedAttempt metrics metrics.sinkHasLifecycle world client.clientName) world call

/-! ### The parts of an attempt -/

section Parts

variable {metrics : MetricsState} {world : World B} {clientName : String}
  {args : RequestArgs B V} {frame : Frame} {lifecycle : Bool}

/-- The hooks a flag promises are there. -/
def Sink.Honours (sink : Sink) (lifecycle : Bool) : Prop :=
  lifecycle = true → sink.hooks.onRequestStart = true ∧ sink.hooks.onRequestEnd = true

theorem Sink.honours_detectLifecycle (sink : Sink) : sink.Honours sink.detectLifecycle := by
  simp [Sink.Honours, Sink.detectLifecycle]

/-- The calls of the lifecycle hooks, as the flag has it. -/
def startCalls (lifecycle : Bool) (frame : Frame) : List (Effect B) :=
  if lifecycle then [.sinkCall frame.sink (.onRequestStart frame.labels)] else []

def endCalls (lifecycle : Bool) (frame : Frame) (observation : Observation) : List (Effect B) :=
  (if lifecycle then [.sinkCall frame.sink (.onRequestEnd frame.labels)] else []) ++
    [.sinkCall frame.sink (.observeRequest frame.labels observation)]

theorem startHook_eq (h : frame.sink.Honours lifecycle) :
    startHook lifecycle frame = (⟨startCalls lifecycle frame, .ok ()⟩ : Async B Unit) := by
  cases lifecycle with
  | false => rfl
  | true => simp only [startHook, callHook, (h rfl).1, if_true]; rfl

theorem endAttempt_eq (h : lifecycle = true → frame.sink.hooks.onRequestEnd = true)
    (ended : Except Exn (RequestResult V)) (chosen : Option Nat) (duration : Binary64) :
    endAttempt lifecycle frame ended chosen duration =
      (⟨endCalls lifecycle frame (observe ended chosen duration), ended⟩ :
        Async B (RequestResult V)) := by
  cases lifecycle with
  | false => rfl
  | true => simp only [endAttempt, callHook, h rfl, if_true]; rfl

/-- Without the hook nothing is recorded and the end of the attempt is lost. -/
theorem endAttempt_of_missing (missing : frame.sink.hooks.onRequestEnd = false)
    (ended : Except Exn (RequestResult V)) (chosen : Option Nat) (duration : Binary64) :
    endAttempt true frame ended chosen duration =
      (⟨[], .error (.attributeError "sink object has no attribute 'on_request_end'")⟩ :
        Async B (RequestResult V)) := by
  simp only [endAttempt, callHook, missing, if_true]
  rfl

/-- The request of a metered attempt. -/
def meteredRequest (metrics : MetricsState) (frame : Frame) (world : World B)
    (clientName : String) (args : RequestArgs B V) : Async B (RequestResult V) :=
  requestOnce world clientName { args with kwargs := metrics.traceKwargs frame.labels args.kwargs }
    (wrapHandlersWithStatusMark args.handlers)

theorem instrumentedAttempt_of_noop (lifecycleAtEnd : Bool)
    (noop : metrics.metricsSink.isNoop = true) :
    instrumentedAttempt metrics lifecycleAtEnd world clientName args =
      baseAttempt world clientName args := by
  simp only [instrumentedAttempt, MetricsState.frame, noop, if_true]

/-- A metered attempt ends like its request, between the calls of its sink. -/
theorem instrumentedAttempt_eq (h : frame.sink.Honours metrics.sinkHasLifecycle)
    (metered : metrics.frame clientName args = some frame) :
    instrumentedAttempt metrics metrics.sinkHasLifecycle world clientName args =
      let request := meteredRequest metrics frame world clientName args
      ⟨startCalls metrics.sinkHasLifecycle frame ++ (request.log ++
          endCalls metrics.sinkHasLifecycle frame
            (observe request.result (chosenStatus request.log) (world.duration args.slot))),
        request.result⟩ := by
  simp only [instrumentedAttempt, metered]
  rw [startHook_eq h, Traced.mk_ok_bind, Traced.listen_bind]
  simp only [endAttempt_eq fun on => (h on).2]
  rfl

theorem frame_of_not_noop (h : metrics.metricsSink.isNoop = false) :
    ∃ labels, metrics.frame clientName args = some ⟨metrics.metricsSink, labels⟩ := by
  simp only [MetricsState.frame, h, Bool.false_eq_true, if_false]
  exact ⟨_, rfl⟩

theorem frame_sink (h : metrics.frame clientName args = some frame) :
    frame.sink = metrics.metricsSink ∧ metrics.metricsSink.isNoop = false := by
  cases noop : metrics.metricsSink.isNoop with
  | true => simp [MetricsState.frame, noop] at h
  | false =>
      simp only [MetricsState.frame, noop, Bool.false_eq_true, if_false, Option.some.injEq] at h
      exact ⟨by rw [← h], rfl⟩

end Parts

end Asyncly
