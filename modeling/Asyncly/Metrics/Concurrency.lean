import Asyncly.Lib.Interleaving
import Asyncly.Metrics.Accounts
import Asyncly.Metrics.Metered

/-!
# Metered calls side by side

Calls of any clients that share a Prometheus sink run concurrently, and what their attempts
tell the sink arrives in some order. At any moment the gauge is at the number of calls that
are within an attempt, and in the end every attempt has been counted and timed once.
-/

namespace Asyncly

open Interleaving

/-! ### What the sink is told -/

/-- The value of the `outcome` label. -/
def Outcome.label : Outcome → String
  | response => "response"
  | timeout => "timeout"
  | networkError => "network_error"
  | cancelled => "cancelled"

/-- The value of the `error_type` label. -/
def ErrorType.label : ErrorType → String
  | none => "none"
  | dnsError => "dns_error"
  | connectError => "connect_error"
  | tlsError => "tls_error"
  | connectionReset => "connection_reset"
  | readTimeout => "read_timeout"
  | serverDisconnected => "server_disconnected"
  | payloadError => "payload_error"
  | invalidResponse => "invalid_response"
  | other => "other"

/-- The labels in the order a metric declares them. -/
def Labels.values (labels : Labels) : List String :=
  [labels.client, labels.method, labels.route, labels.operation]

/-- The arguments of `observe_request` for an observation. -/
def Observation.request (labels : Labels) (observation : Observation) : RequestObservation where
  client := labels.client
  method := labels.method
  route := labels.route
  operation := labels.operation
  status := observation.status
  outcome := observation.outcome.label
  durationSeconds := observation.durationSeconds
  errorType := observation.errorType.map ErrorType.label

/-- The call of a backend for a call of its sink. -/
def SinkCall.metricsCall : SinkCall → MetricsCall
  | onRequestStart l => .onRequestStart l.client l.method l.route l.operation
  | onRequestEnd l => .onRequestEnd l.client l.method l.route l.operation
  | observeRequest l observation => .observeRequest (observation.request l)

/-- A `PrometheusSink` object, which defines all hooks. -/
def prometheusSink (id : Nat) : Sink := .custom id ⟨true, true, true⟩

variable {B V ι : Type}

/-- What an effect tells a sink. -/
def Effect.told? (sink : Sink) : Effect B → Option MetricsCall
  | sinkCall receiver call => if receiver = sink then some call.metricsCall else none
  | _ => none

theorem Effect.told?_eq_none {sink : Sink} {e : Effect B} (h : e.OfLoop ∨ e.OfDispatch) :
    e.told? sink = none := by
  cases e with
  | sinkCall _ _ => exact h.elim False.elim False.elim
  | _ => rfl

theorem Effect.told?_sinkCall (sink : Sink) (call : SinkCall) :
    (sinkCall sink call : Effect B).told? sink = some call.metricsCall := if_pos rfl

/-- What is told of one attempt. -/
def toldBlock (labels : Labels) (observation : Observation) : List MetricsCall :=
  [SinkCall.metricsCall (.onRequestStart labels), SinkCall.metricsCall (.onRequestEnd labels),
    SinkCall.metricsCall (.observeRequest labels observation)]

theorem filterMap_told_meteredCalls {metrics : MetricsState} {frame : Frame} {world : World B}
    {clientName : String} {args : RequestArgs B V} (lifecycle : metrics.sinkHasLifecycle = true) :
    (meteredCalls metrics frame world clientName args).filterMap (Effect.told? frame.sink) =
      toldBlock frame.labels (observation metrics frame world clientName args) := by
  rw [meteredCalls, startCalls, endCalls, lifecycle, if_pos rfl, if_pos rfl, List.singleton_append,
    List.singleton_append, List.filterMap_cons_some (Effect.told?_sinkCall ..),
    List.filterMap_cons_none rfl, List.filterMap_cons_some (Effect.told?_sinkCall ..),
    List.filterMap_cons_some (Effect.told?_sinkCall ..), List.filterMap_nil]
  rfl

def MetricsCall.isStart : MetricsCall → Bool
  | onRequestStart _ _ _ _ => true
  | _ => false

/-- What the sink was told last is that an attempt starts. -/
def withinAttempt (told : List MetricsCall) : Bool := told.getLast?.any MetricsCall.isStart

/-! ### Counting in blocks -/

section Blocks

variable {labels : Labels} {observations : List Observation} {q : List String → Bool}

theorem withinAttempt_append (observation : Observation) (told : List MetricsCall) :
    withinAttempt (toldBlock labels observation ++ told) = withinAttempt told := by
  rw [withinAttempt, List.getLast?_append]
  cases last : told.getLast? with
  | none => rw [withinAttempt, last]; rfl
  | some call => rw [withinAttempt, last]; rfl

/-- What comes after the start and the end of an attempt is counted as it is alone. -/
theorem countP_attempt (later : List MetricsCall) :
    let told := SinkCall.metricsCall (.onRequestStart labels) ::
      SinkCall.metricsCall (.onRequestEnd labels) :: later
    told.countP (MetricsCall.starts q) + later.countP (MetricsCall.ends q) =
      told.countP (MetricsCall.ends q) + later.countP (MetricsCall.starts q) := by
  intro told
  have once : (if MetricsCall.starts q (SinkCall.metricsCall (.onRequestStart labels)) then 1
      else 0) = if MetricsCall.ends q (SinkCall.metricsCall (.onRequestEnd labels)) then 1 else 0 :=
    rfl
  rw [List.countP_cons, List.countP_cons_of_neg (by exact Bool.false_ne_true),
    List.countP_cons_of_neg (by exact Bool.false_ne_true), List.countP_cons, once]
  omega

/-- Within the block of an attempt, it is started and not ended after its first call only. -/
theorem countP_starts_of_prefix_toldBlock {observation : Observation} {told : List MetricsCall}
    (within : told <+: toldBlock labels observation) :
    told.countP (MetricsCall.starts q) = told.countP (MetricsCall.ends q) +
      if q labels.values && withinAttempt told then 1 else 0 := by
  rcases List.prefix_cons_iff.mp within with rfl | ⟨one, rfl, first⟩
  · simp [withinAttempt]
  rcases List.prefix_cons_iff.mp first with rfl | ⟨two, rfl, second⟩
  · rw [List.countP_singleton, show withinAttempt _ = true from rfl, Bool.and_true]
    exact (Nat.zero_add _).symm
  have balanced : (SinkCall.metricsCall (.onRequestStart labels) ::
      SinkCall.metricsCall (.onRequestEnd labels) :: two).countP (MetricsCall.starts q) +
        two.countP (MetricsCall.ends q) = _ := countP_attempt two
  rcases List.prefix_cons_iff.mp second with rfl | ⟨three, rfl, third⟩
  · rw [show withinAttempt _ = false from rfl, Bool.and_false]
    exact balanced
  · obtain rfl := List.prefix_nil.mp third
    rw [show withinAttempt _ = false from rfl, Bool.and_false]
    exact balanced

theorem countP_toldBlock (observation : Observation) :
    (toldBlock labels observation).countP (MetricsCall.starts q) =
      (toldBlock labels observation).countP (MetricsCall.ends q) :=
  countP_attempt [SinkCall.metricsCall (.observeRequest labels observation)]

/-- However far a call has come, what it has started and not ended is the attempt it is
within. -/
theorem countP_starts_of_prefix {told : List MetricsCall}
    (sofar : told <+: observations.flatMap (toldBlock labels)) :
    told.countP (MetricsCall.starts q) = told.countP (MetricsCall.ends q) +
      if q labels.values && withinAttempt told then 1 else 0 := by
  induction observations generalizing told with
  | nil =>
      rw [List.prefix_nil.mp sofar]
      simp [withinAttempt]
  | cons observation rest ih =>
      rw [List.flatMap_cons] at sofar
      rcases List.prefix_or_prefix_of_prefix sofar (List.prefix_append ..) with
        within | ⟨later, rfl⟩
      · exact countP_starts_of_prefix_toldBlock within
      · rw [withinAttempt_append, List.countP_append, List.countP_append,
          ih ((List.prefix_append_right_inj _).mp sofar), countP_toldBlock, Nat.add_assoc]

/-- A call that is complete is within no attempt. -/
theorem withinAttempt_flatMap (observations : List Observation) :
    withinAttempt (observations.flatMap (toldBlock labels)) = false := by
  induction observations with
  | nil => rfl
  | cons observation rest ih => rw [List.flatMap_cons, withinAttempt_append, ih]

/-- Of a complete call, each attempt is counted once by what is observed of it. -/
theorem countP_flatMap_toldBlock {p : MetricsCall → Bool}
    (start : p (SinkCall.metricsCall (.onRequestStart labels)) = false)
    (finish : p (SinkCall.metricsCall (.onRequestEnd labels)) = false) :
    (observations.flatMap (toldBlock labels)).countP p =
      observations.countP fun observation => p (.observeRequest (observation.request labels)) := by
  induction observations with
  | nil => rfl
  | cons observation rest ih =>
      rw [List.flatMap_cons, List.countP_append, ih, List.countP_cons, Nat.add_comm, toldBlock,
        List.countP_cons_of_neg (by simp [start]), List.countP_cons_of_neg (by simp [finish]),
        List.countP_cons, List.countP_nil, Nat.zero_add]
      rfl

end Blocks

/-! ### What counts as an error -/

/-- The end of an attempt that counts as an error: an exception that is not a cancellation. -/
def countsAsError {R : Type} : Except Exn R → Bool
  | .ok _ => false
  | .error exc => !exc.unwrapObservableTransportError.isCancelledError

theorem ErrorType.label_counted (errorType : ErrorType) :
    (decide (errorType.label ≠ "") && decide (errorType.label ≠ Taxonomy.none)) =
      decide (errorType ≠ .none) := by
  cases errorType <;> decide

theorem classifyFailure_errorType_eq_none_iff (exc : Exn) (chosen : Option Nat) :
    (classifyFailure exc chosen).2.2 = .none ↔ exc.isCancelledError = true := by
  have classified := classifyException_errorType_eq_none_iff exc
  cases cancelled : exc.isCancelledError with
  | true =>
      rw [cancelled] at classified
      simpa only [classifyFailure, cancelled, if_true] using classified
  | false =>
      rw [cancelled] at classified
      refine iff_of_false ?_ Bool.false_ne_true
      simp only [classifyFailure, cancelled, Bool.false_eq_true, if_false]
      split
      · exact fun same => nomatch same
      · exact fun none => Bool.false_ne_true (classified.mp none)

/-- The error of an attempt is counted exactly when its end counts as one. -/
theorem isSome_countedError (labels : Labels) (ended : Except Exn (RequestResult V))
    (chosen : Option Nat) (duration : Binary64) :
    ((observe ended chosen duration).request labels).countedError.isSome =
      countsAsError ended := by
  rcases ended with exc | v | retryable
  · have error : (observe (.error exc : Except Exn (RequestResult V)) chosen duration).errorType =
        some (classifyFailure exc.unwrapObservableTransportError chosen).2.2 := rfl
    have none := classifyFailure_errorType_eq_none_iff exc.unwrapObservableTransportError chosen
    rw [RequestObservation.countedError, Observation.request, error, Option.map_some,
      Option.isSome_filter, Option.any_some, ErrorType.label_counted, countsAsError]
    simp only [ne_eq, none, decide_not, Bool.decide_eq_true]
  · rfl
  · rfl

/-! ### Calls -/

/-- A call of a client for which the sink is enabled. -/
structure MeteredCall (B V : Type) where
  runtime : Runtime
  metrics : MetricsState
  routeResolver : Option RouteResolver
  client : BaseHttpClient
  world : World B
  call : CallArgs B V

namespace MeteredCall

variable (id : Nat) (c : MeteredCall B V)

def enabled : MetricsState := c.metrics.enableMetrics (prometheusSink id) c.routeResolver

def run : Async B (RequestResult V) :=
  instrumentedMakeReq c.runtime (c.enabled id) c.client c.world c.call

def labels : Labels := (c.enabled id).labels c.client c.call

/-- What each attempt of the call was given. A call that is refused makes none. -/
def attempts : List (RequestArgs B V) :=
  match normalizeAuthKwargs c.runtime (c.client.injectProxy c.call.kwargs) c.client.proxyAuth with
  | .error _ => []
  | .ok kwargs => (List.range' 1 (attemptsMade (c.run id))).map
      (c.client.attemptArgs c.runtime c.world c.call kwargs)

/-- How an attempt ends. -/
def ended (args : RequestArgs B V) : Except Exn (RequestResult V) :=
  (instrumentedAttempt (c.enabled id) (c.enabled id).sinkHasLifecycle c.world c.client.clientName
    args).result

/-- What is observed of it. -/
def observed (args : RequestArgs B V) : Observation :=
  observation (c.enabled id) ⟨prometheusSink id, c.labels id⟩ c.world c.client.clientName args

/-- The flag of the client is that of the sink. -/
theorem lifecycle : (c.enabled id).sinkHasLifecycle = true := rfl

/-- A call tells the sink of its attempts, one after the other. -/
theorem log_told : (c.attempts id).length = attemptsMade (c.run id) ∧
    (c.run id).log.filterMap (Effect.told? (prometheusSink id)) =
      ((c.attempts id).map (c.observed id)).flatMap (toldBlock (c.labels id)) := by
  cases prepared : normalizeAuthKwargs c.runtime (c.client.injectProxy c.call.kwargs)
      c.client.proxyAuth with
  | error exc =>
      have refused : c.run id = Traced.raise exc := makeReq_of_refused c.runtime _ prepared
      have none : c.attempts id = [] := by simp only [attempts, prepared]
      rw [refused, none]
      exact ⟨rfl, rfl⟩
  | ok kwargs =>
      have made : c.attempts id = (List.range' 1 (attemptsMade (c.run id))).map
          (c.client.attemptArgs c.runtime c.world c.call kwargs) := by
        simp only [attempts, prepared]
      have honours : (c.enabled id).metricsSink.Honours (c.enabled id).sinkHasLifecycle :=
        (prometheusSink id).honours_detectLifecycle
      obtain ⟨-, log⟩ := instrumentedMakeReq_log c.world honours rfl prepared
      rw [made]
      refine ⟨by simp, ?_⟩
      rw [run, log _ _ fun _ => Effect.told?_eq_none, List.map_map, List.flatMap_map]
      exact List.flatMap_congr fun j _ => filterMap_told_meteredCalls (c.lifecycle id)

variable {id c}

theorem frame_of_mem {args : RequestArgs B V} (member : args ∈ c.attempts id) :
    (c.enabled id).frame c.client.clientName args = some ⟨prometheusSink id, c.labels id⟩ := by
  cases prepared : normalizeAuthKwargs c.runtime (c.client.injectProxy c.call.kwargs)
      c.client.proxyAuth with
  | error exc =>
      simp only [attempts, prepared] at member
      exact absurd member List.not_mem_nil
  | ok kwargs =>
      simp only [attempts, prepared] at member
      obtain ⟨j, -, rfl⟩ := List.mem_map.mp member
      exact frame_attemptArgs rfl j

/-- What is observed of an attempt counts as an error exactly when its end does. -/
theorem isSome_countedError_observed {args : RequestArgs B V} (member : args ∈ c.attempts id) :
    ((c.observed id args).request (c.labels id)).countedError.isSome =
      countsAsError (c.ended id args) := by
  have honours : (prometheusSink id).Honours (c.enabled id).sinkHasLifecycle :=
    (prometheusSink id).honours_detectLifecycle
  rw [ended, instrumentedAttempt_eq honours (frame_of_mem member)]
  exact isSome_countedError ..

end MeteredCall

/-! ### Any interleaving -/

section Interleaved

variable [DecidableEq ι] {id : Nat} {calls : ι → MeteredCall B V} {events : List (ι × Effect B)}
  {q : List String → Bool}

/-- What a sink is told by the events of concurrent calls. -/
def told (sink : Sink) (events : List (ι × Effect B)) : List MetricsCall :=
  events.filterMap fun event => event.2.told? sink

/-- At any moment the gauge is at the calls that are within an attempt. -/
theorem sumWhere_inFlight_told [Fintype ι]
    (sofar : ∀ i, ofParty i events <+: ((calls i).run id).log) (q : List String → Bool) :
    Series.sumWhere q ((told (prometheusSink id) events).filterMap MetricsCall.inFlightChange) =
      (Finset.univ.filter fun i => q ((calls i).labels id).values &&
        withinAttempt ((ofParty i events).filterMap (Effect.told? (prometheusSink id)))).card := by
  have each (i : ι) := countP_starts_of_prefix (q := q)
    (((calls i).log_told id).2 ▸ (sofar i).filterMap (Effect.told? (prometheusSink id)))
  rw [sumWhere_inFlight, told, countP_filterMap_eq_sum, countP_filterMap_eq_sum,
    Finset.sum_congr rfl fun i _ => each i, Finset.sum_add_distrib, Finset.card_filter,
    Nat.cast_add, add_sub_cancel_left]

/-- When all calls have returned, each attempt is counted once by what is observed of it. -/
theorem countP_told_of_complete [Fintype ι]
    (complete : ∀ i, ofParty i events = ((calls i).run id).log) {p : MetricsCall → Bool}
    (only : ∀ call, p call = true → ∃ r, call = .observeRequest r) :
    (told (prometheusSink id) events).countP p = ∑ i, ((calls i).attempts id).countP fun args =>
      p (.observeRequest (((calls i).observed id args).request ((calls i).labels id))) := by
  rw [told, countP_filterMap_eq_sum]
  refine Finset.sum_congr rfl fun i _ => ?_
  have silent (call : MetricsCall) (other : ∀ r, call ≠ .observeRequest r) : p call = false :=
    Bool.eq_false_iff.mpr fun passes => (only call passes).elim other
  rw [complete, ((calls i).log_told id).2, countP_flatMap_toldBlock (silent _ nofun)
    (silent _ nofun), List.countP_map]
  rfl

/-- Of the requests a query selects, a test counts the attempts whose observation it passes. -/
theorem length_selected_of_complete [Fintype ι]
    (complete : ∀ i, ofParty i events = ((calls i).run id).log) (q : List String → Bool)
    (test : RequestObservation → Bool) :
    (((told (prometheusSink id) events).filterMap (MetricsCall.selected q)).filter test).length =
      ∑ i with q ((calls i).labels id).values, ((calls i).attempts id).countP fun args =>
        test (((calls i).observed id args).request ((calls i).labels id)) := by
  rw [← List.countP_eq_length_filter, List.countP_filterMap, countP_told_of_complete complete,
    Finset.sum_filter]
  · refine Finset.sum_congr rfl fun i _ => ?_
    have selects (args : RequestArgs B V) : MetricsCall.selected q (.observeRequest
        (((calls i).observed id args).request ((calls i).labels id))) =
          if q ((calls i).labels id).values then
            some (((calls i).observed id args).request ((calls i).labels id)) else none := rfl
    simp only [selects]
    cases q ((calls i).labels id).values with
    | true => rfl
    | false => exact congrFun List.countP_false _
  · intro call passes
    cases call with
    | observeRequest r => exact ⟨r, rfl⟩
    | _ => exact absurd passes Bool.false_ne_true

/-- The metrics of a sink have counted all attempts of the calls that a query selects. -/
structure AllCounted [Fintype ι] (id : Nat) (calls : ι → MeteredCall B V) (sink : PrometheusSink)
    (q : List String → Bool) : Prop where
  inFlight : sink.inFlight.sumBy q = 0
  requests : sink.total.sumBy (fun values => q (values.take 4)) =
    ∑ i with q ((calls i).labels id).values, attemptsMade ((calls i).run id)
  durations : (sink.latency.sumBy fun values => q (values.take 4)).card =
    ∑ i with q ((calls i).labels id).values, attemptsMade ((calls i).run id)
  errors : sink.errors.sumBy (fun values => q (values.take 4)) =
    ∑ i with q ((calls i).labels id).values,
      ((calls i).attempts id).countP fun args => countsAsError ((calls i).ended id args)

/-- Concurrent calls of clients that share a sink leave it right, however their attempts
interleave: at any moment the gauge is at the calls that are within an attempt, and once all
have returned each attempt is counted once, timed once, and counted as an error exactly when it
ended with an exception that is not a cancellation. -/
theorem PrometheusSink.concurrent_calls [Fintype ι] (nameSpace subsystem : String) (id : Nat)
    (calls : ι → MeteredCall B V) (events : List (ι × Effect B))
    (sofar : ∀ i, ofParty i events <+: ((calls i).run id).log) :
    ∃ sink, (forM (told (prometheusSink id) events) PrometheusSink.feed).call
        (.new nameSpace subsystem) = (.ok (), sink) ∧
      ∀ q : List String → Bool,
        sink.inFlight.sumBy q = (Finset.univ.filter fun i => q ((calls i).labels id).values &&
          withinAttempt ((ofParty i events).filterMap
            (Effect.told? (prometheusSink id)))).card ∧
        ((∀ i, ofParty i events = ((calls i).run id).log) → AllCounted id calls sink q) := by
  obtain ⟨sink, taken, accounts⟩ :=
    (PrometheusSink.accounts_new nameSpace subsystem).forM (told (prometheusSink id) events)
  rw [List.nil_append] at accounts
  refine ⟨sink, taken, fun q => ?_⟩
  have conserved := accounts.conserved q
  have gauge := (accounts.inFlight.sums q).trans (sumWhere_inFlight_told sofar q)
  refine ⟨gauge, fun complete => ?_⟩
  have finished := length_selected_of_complete complete q
  have attempts : ((told (prometheusSink id) events).filterMap (MetricsCall.selected q)).length =
      ∑ i with q ((calls i).labels id).values, attemptsMade ((calls i).run id) := by
    rw [← List.filter_true ((told _ events).filterMap _), finished fun _ => true]
    refine Finset.sum_congr rfl fun i _ => ?_
    rw [List.countP_true, ((calls i).log_told id).1]
  refine ⟨?_, conserved.requests.trans attempts, ?_, ?_⟩
  · rw [gauge, Nat.cast_eq_zero, Finset.card_eq_zero, Finset.filter_eq_empty_iff]
    intro i _
    rw [complete, ((calls i).log_told id).2, withinAttempt_flatMap, Bool.and_false]
    exact Bool.false_ne_true
  · rw [conserved.durations, Multiset.coe_card, List.length_map, attempts]
  · rw [conserved.errors, finished]
    refine Finset.sum_congr rfl fun i _ => List.countP_congr fun args member => ?_
    rw [MeteredCall.isSome_countedError_observed member]

/-- While one call is in its second attempt, another one starts and returns. -/
theorem PrometheusSink.concurrent_calls_sample :
    let metered (name : String) (status : Nat → Nat) : MeteredCall Unit Nat :=
      { runtime := Sample.runtime
        metrics := .disabled .latin1 0
        routeResolver := none
        client := { clientName := name }
        world := Sample.world fun i => .ok (Sample.response (status i))
        call :=
          { method := "GET", url := Sample.url,
            handlers := Sample.handlers [(.status 200, Sample.handler (.ok 7))],
            retry := some (Sample.policy 1) } }
    let calls (first : Bool) : MeteredCall Unit Nat :=
      if first then metered "items" fun i => if i = 1 then 503 else 200
      else metered "users" fun _ => 200
    let log (first : Bool) := ((calls first).run 1).log
    let events := ((log true).take 8).map (Prod.mk true) ++
      ((log false).map (Prod.mk false) ++ ((log true).drop 8).map (Prod.mk true))
    ∃ sink, (forM (told (prometheusSink 1) events) PrometheusSink.feed).call
        (.new "http" "client") = (.ok (), sink) ∧
      ∀ q : List String → Bool,
        sink.inFlight.sumBy q = (Finset.univ.filter fun i => q ((calls i).labels 1).values &&
          withinAttempt ((ofParty i events).filterMap (Effect.told? (prometheusSink 1)))).card ∧
        ((∀ i, ofParty i events = ((calls i).run 1).log) → AllCounted 1 calls sink q) := by
  intro metered calls log events
  refine PrometheusSink.concurrent_calls "http" "client" 1 calls events fun i => ?_
  have whole : ofParty i events = log i := by
    cases i with
    | true =>
        rw [ofParty_append, ofParty_append, ofParty_map_self, ofParty_map (by decide),
          ofParty_map_self, List.nil_append, List.take_append_drop]
    | false =>
        rw [ofParty_append, ofParty_append, ofParty_map (by decide), ofParty_map_self,
          ofParty_map (by decide), List.nil_append, List.append_nil]
  rw [whole]

end Interleaved

end Asyncly
