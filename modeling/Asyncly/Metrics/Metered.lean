import Asyncly.Client.RetryEvents
import Asyncly.Metrics.Instrumentable

/-!
# Metered attempts

A call made with a sink enabled is a sequence of physical attempts, and the log of
each is a block: the start hook, the request, the end hook and the observation. The
blocks are read off the log of the loop, whatever each attempt comes to.
-/

namespace Asyncly

variable {B V : Type}

/-- The labels of the attempts of a call. -/
def MetricsState.labels (metrics : MetricsState) (client : BaseHttpClient) (call : CallArgs B V) :
    Labels :=
  let route := metrics.resolveRoute call.url
  ⟨client.clientName, call.method, route, operationLabel call.operation route⟩

/-- What is recorded of a metered attempt. -/
def observation (metrics : MetricsState) (frame : Frame) (world : World B) (clientName : String)
    (args : RequestArgs B V) : Observation :=
  let request := meteredRequest metrics frame world clientName args
  observe request.result (chosenStatus request.log) (world.duration args.slot)

/-- A physical attempt or a call of a sink. -/
inductive MeterEvent
  | attempt
  | call (sink : Sink) (call : SinkCall)
  deriving DecidableEq

def Effect.meterEvent? : Effect B → Option MeterEvent
  | request _ _ _ => some .attempt
  | sinkCall sink call => some (.call sink call)
  | _ => none

theorem Effect.meterEvent?_eq_none {e : Effect B} (h : e.OfLoop ∨ e.OfDispatch) :
    e.meterEvent? = none := by
  cases e with
  | request _ _ _ => exact h.elim False.elim False.elim
  | sinkCall _ _ => exact h.elim False.elim False.elim
  | _ => rfl

/-- The calls for one attempt of a sink with both lifecycle hooks. -/
def sinkBlock (sink : Sink) (labels : Labels) (observation : Observation) :
    List (Sink × SinkCall) :=
  [(sink, .onRequestStart labels), (sink, .onRequestEnd labels),
    (sink, .observeRequest labels observation)]

/-- The same calls around the attempt they are for. -/
def attemptBlock (sink : Sink) (labels : Labels) (observation : Observation) : List MeterEvent :=
  [.call sink (.onRequestStart labels), .attempt, .call sink (.onRequestEnd labels),
    .call sink (.observeRequest labels observation)]

/-- A run is metered attempt by attempt: each has its block of calls, which encloses the
request of that attempt and is complete before the next one starts. -/
def MeteredOneForOne {R : Type} (sink : Sink) (labels : Labels) (run : Async B R) : Prop :=
  ∃ observations : List Observation,
    observations.length = attemptsMade run ∧
    run.log.filterMap Effect.sinkCall? = observations.flatMap (sinkBlock sink labels) ∧
    run.log.filterMap Effect.meterEvent? = observations.flatMap (attemptBlock sink labels)

section Attempt

variable {rt : Runtime} {metrics : MetricsState} {client : BaseHttpClient} {world : World B}
  {call : CallArgs B V} {kwargs : Kwargs} {frame : Frame} {args : RequestArgs B V}

theorem frame_attemptArgs (metered : metrics.metricsSink.isNoop = false) (j : Nat) :
    metrics.frame client.clientName (client.attemptArgs rt world call kwargs j) =
      some ⟨metrics.metricsSink, metrics.labels client call⟩ := by
  simp only [MetricsState.frame, metered, Bool.false_eq_true, if_false, BaseHttpClient.attemptArgs]
  cases call.retry <;> rfl

/-- What a metered attempt leaves in the log, without its decisions and handlers. -/
def meteredCalls (metrics : MetricsState) (frame : Frame) (world : World B) (clientName : String)
    (args : RequestArgs B V) : List (Effect B) :=
  startCalls metrics.sinkHasLifecycle frame ++
    .request args.method args.url
        (sessionKwargs args.retry (metrics.traceKwargs frame.labels args.kwargs)) ::
      endCalls metrics.sinkHasLifecycle frame (observation metrics frame world clientName args)

theorem meteredCalls_of_lifecycle (lifecycle : metrics.sinkHasLifecycle = true) :
    meteredCalls metrics frame world client.clientName args =
      [.sinkCall frame.sink (.onRequestStart frame.labels),
        .request args.method args.url
          (sessionKwargs args.retry (metrics.traceKwargs frame.labels args.kwargs)),
        .sinkCall frame.sink (.onRequestEnd frame.labels),
        .sinkCall frame.sink (.observeRequest frame.labels
          (observation metrics frame world client.clientName args))] := by
  simp only [meteredCalls, startCalls, endCalls, lifecycle, if_true, List.cons_append,
    List.nil_append]

theorem filterMap_instrumentedAttempt {α : Type} {p : Effect B → Option α}
    (blind : ∀ e : Effect B, e.OfLoop ∨ e.OfDispatch → p e = none)
    (h : frame.sink.Honours metrics.sinkHasLifecycle)
    (metered : metrics.frame client.clientName args = some frame) :
    (instrumentedAttempt metrics metrics.sinkHasLifecycle world
        client.clientName args).log.filterMap p =
      (meteredCalls metrics frame world client.clientName args).filterMap p := by
  rw [instrumentedAttempt_eq h metered]
  simp only [meteredCalls, List.filterMap_append, List.filterMap_cons, meteredRequest,
    filterMap_requestOnce blind]
  cases p (.request args.method args.url
    (sessionKwargs args.retry (metrics.traceKwargs frame.labels args.kwargs))) <;> rfl

end Attempt

section Run

variable {rt : Runtime} {metrics : MetricsState} {client : BaseHttpClient} {world : World B}
  {call : CallArgs B V} {kwargs : Kwargs}

theorem filterMap_request_meteredCalls {frame : Frame} {args : RequestArgs B V} :
    (meteredCalls metrics frame world client.clientName args).filterMap Effect.request? =
      [sessionKwargs args.retry (metrics.traceKwargs frame.labels args.kwargs)] := by
  rw [meteredCalls]
  cases metrics.sinkHasLifecycle <;> rfl

/-- The attempts of a metered call, as a projection sees them that sees neither decisions
nor handlers. -/
theorem instrumentedMakeReq_log (world : World B)
    (h : metrics.metricsSink.Honours metrics.sinkHasLifecycle)
    (metered : metrics.metricsSink.isNoop = false)
    (prepared : normalizeAuthKwargs rt (client.injectProxy call.kwargs) client.proxyAuth =
      .ok kwargs) :
    let run := instrumentedMakeReq rt metrics client world call
    (∀ j, 1 ≤ j → j ≤ attemptsMade run → (client.attemptArgs rt world call kwargs j).slot = j) ∧
      ∀ (α : Type) (p : Effect B → Option α),
        (∀ e : Effect B, e.OfLoop ∨ e.OfDispatch → p e = none) →
        run.log.filterMap p = (List.range' 1 (attemptsMade run)).flatMap fun j =>
          (meteredCalls metrics ⟨metrics.metricsSink, metrics.labels client call⟩ world
            client.clientName (client.attemptArgs rt world call kwargs j)).filterMap p := by
  intro run
  obtain ⟨k, -, slots, log⟩ := makeReq_log world call
    (instrumentedAttempt metrics metrics.sinkHasLifecycle world client.clientName) prepared
  have seen (α : Type) (p : Effect B → Option α)
      (blind : ∀ e : Effect B, e.OfLoop ∨ e.OfDispatch → p e = none) :
      run.log.filterMap p = (List.range' 1 k).flatMap fun j =>
        (meteredCalls metrics ⟨metrics.metricsSink, metrics.labels client call⟩ world
          client.clientName (client.attemptArgs rt world call kwargs j)).filterMap p := by
    rw [show run.log.filterMap p = _ from log α p fun e he => blind e (.inl he)]
    exact List.flatMap_congr fun j _ =>
      filterMap_instrumentedAttempt blind h (frame_attemptArgs metered j)
  have attempts : attemptsMade run = k := by
    rw [attemptsMade, seen _ Effect.request? fun _ => Effect.request?_eq_none,
      Traced.flatMap_eq_map fun j _ => filterMap_request_meteredCalls]
    simp
  rw [attempts]
  exact ⟨slots, seen⟩

/-- A call made with a sink that defines both lifecycle hooks, and is not a `NoopSink`, is
metered one for one. -/
theorem instrumentedMakeReq_oneForOne (rt : Runtime) (metrics : MetricsState)
    (client : BaseHttpClient) (world : World B) (call : CallArgs B V) {sink : Sink}
    (routeResolver : Option RouteResolver) (defines : sink.detectLifecycle = true)
    (metered : sink.isNoop = false) :
    let enabled := metrics.enableMetrics sink routeResolver
    MeteredOneForOne sink (enabled.labels client call)
      (instrumentedMakeReq rt enabled client world call) := by
  intro enabled
  cases prepared : normalizeAuthKwargs rt (client.injectProxy call.kwargs) client.proxyAuth with
  | error exc =>
      rw [instrumentedMakeReq, makeReq_of_refused rt _ prepared]
      exact ⟨[], rfl, rfl, rfl⟩
  | ok kwargs =>
      have honours : enabled.metricsSink.Honours enabled.sinkHasLifecycle :=
        sink.honours_detectLifecycle
      obtain ⟨-, log⟩ := instrumentedMakeReq_log world honours metered prepared
      let observations := (List.range' 1 (attemptsMade
        (instrumentedMakeReq rt enabled client world call))).map fun j =>
          observation enabled ⟨sink, enabled.labels client call⟩ world client.clientName
            (client.attemptArgs rt world call kwargs j)
      refine ⟨observations, by simp [observations], ?_, ?_⟩
      · rw [log _ _ fun _ => Effect.sinkCall?_eq_none, List.flatMap_map]
        apply List.flatMap_congr
        intro j _
        rw [meteredCalls_of_lifecycle defines]
        rfl
      · rw [log _ _ fun _ => Effect.meterEvent?_eq_none, List.flatMap_map]
        apply List.flatMap_congr
        intro j _
        rw [meteredCalls_of_lifecycle defines]
        rfl

/-- A 503 and then a 200 are two blocks. -/
theorem instrumentedMakeReq_oneForOne_sample :
    let sink := Sink.custom 1 ⟨true, true, false⟩
    let enabled := (MetricsState.disabled .latin1 0).enableMetrics sink none
    let call : CallArgs Unit Nat :=
      { method := "GET", url := Sample.url,
        handlers := Sample.handlers [(.status 200, Sample.handler (.ok 7))],
        retry := some (Sample.policy 1) }
    MeteredOneForOne sink (enabled.labels Sample.client call)
      (instrumentedMakeReq Sample.runtime enabled Sample.client
        (Sample.world fun i => .ok (Sample.response (if i = 1 then 503 else 200))) call) :=
  instrumentedMakeReq_oneForOne _ _ _ _ _ none rfl rfl

/-- A `NoopSink` defines both hooks, and gets no calls. -/
theorem instrumentedMakeReq_oneForOne_fails :
    let sink := Sink.noop 1
    let enabled := (MetricsState.disabled .latin1 0).enableMetrics sink none
    let call : CallArgs Unit Nat :=
      { method := "GET", url := Sample.url,
        handlers := Sample.handlers [(.status 200, Sample.handler (.ok 7))] }
    sink.detectLifecycle = true ∧ ∀ labels, ¬ MeteredOneForOne sink labels
      (instrumentedMakeReq Sample.runtime enabled Sample.client
        (Sample.world fun _ => .ok (Sample.response 200)) call) := by
  intro sink enabled call
  refine ⟨rfl, ?_⟩
  rintro labels ⟨observations, attempts, calls, -⟩
  cases observations with
  | nil => cases attempts
  | cons observation rest => cases calls

end Run

end Asyncly
