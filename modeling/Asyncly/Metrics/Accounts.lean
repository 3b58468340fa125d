import Asyncly.Metrics.Backends

/-!
# The accounts of the backends

Whatever calls a Prometheus sink is given, a query over any labels finds what these calls
add up to. So the metrics of one request are in step: the histogram has as many samples as
the counter has requests, and the gauge has what has started and not ended.
-/

namespace Asyncly

/-! ### What a call adds -/

namespace MetricsCall

/-- What a call adds to the number of requests in flight. -/
def inFlightChange : MetricsCall → Option (List String × ℤ)
  | onRequestStart client method route operation => some ([client, method, route, operation], 1)
  | onRequestEnd client method route operation => some ([client, method, route, operation], -1)
  | _ => none

/-- What a finished request adds to a metric. -/
def requestChange {ν : Type} (added : RequestObservation → Option (List String × ν)) :
    MetricsCall → Option (List String × ν)
  | observeRequest r => added r
  | _ => none

def totalChange : MetricsCall → Option (List String × ℕ) := requestChange fun r =>
  some ([r.client, r.method, r.route, r.operation, r.status.str, r.outcome], 1)

def latencyChange : MetricsCall → Option (List String × Multiset Binary64) :=
  requestChange fun r =>
    some ([r.client, r.method, r.route, r.operation, r.histOutcome], {r.durationSeconds})

def errorsChange : MetricsCall → Option (List String × ℕ) := requestChange fun r =>
  r.countedError.map fun errorType =>
    ([r.client, r.method, r.route, r.operation, errorType], 1)

def phaseChange : MetricsCall → Option (List String × Multiset Binary64)
  | observePhase client operation phase seconds => some ([client, operation, phase], {seconds})
  | _ => none

end MetricsCall

namespace PrometheusMetric

variable {ν : Type} [AddCommMonoid ν]

/-- A query: the sum of the children whose label values pass a test. -/
def sumBy (metric : PrometheusMetric ν) (p : List String → Bool) : ν :=
  Series.sumWhere (fun values => p values.1) metric.children

/-- The metric has this many labels, and what was added under any of them. -/
structure Accounts (labels : Nat) (metric : PrometheusMetric ν)
    (changes : List (List String × ν)) : Prop where
  labels : metric.labelnames.length = labels
  nodup : (metric.children.map Prod.fst).Nodup
  sums : ∀ p, metric.sumBy p = Series.sumWhere p changes

/-- A change with as many values as there are labels is accounted for. -/
theorem Accounts.change {labels : Nat} {metric : PrometheusMetric ν}
    {changes : List (List String × ν)} (h : metric.Accounts labels changes) (values : List String)
    (count : values.length = labels) (amount : ν) :
    ∃ changed, metric.change values amount = .ok changed ∧
      changed.Accounts labels (changes ++ [(values, amount)]) := by
  have given : values.length = metric.labelnames.length := count.trans h.labels.symm
  refine ⟨_, dif_pos given, h.labels, Series.nodup_add h.nodup amount, fun p => ?_⟩
  rw [Series.sumWhere_append, ← h.sums, Series.sumWhere_cons, Series.sumWhere_nil, add_zero]
  exact Series.sumWhere_add h.nodup amount

section Calls

variable {labels : Nat} {metric : PrometheusMetric ν} {calls : List MetricsCall}
  {added : MetricsCall → Option (List String × ν)} {call : MetricsCall}

/-- A call that adds nothing to the metric. -/
theorem Accounts.concat_none (h : metric.Accounts labels (calls.filterMap added))
    (none : added call = none) : metric.Accounts labels ((calls ++ [call]).filterMap added) := by
  rwa [List.filterMap_append, List.filterMap_cons_none none, List.filterMap_nil, List.append_nil]

theorem Accounts.concat_some {amount : List String × ν}
    (h : metric.Accounts labels (calls.filterMap added ++ [amount]))
    (some : added call = some amount) :
    metric.Accounts labels ((calls ++ [call]).filterMap added) := by
  rwa [List.filterMap_append, List.filterMap_cons_some some, List.filterMap_nil]

end Calls

end PrometheusMetric

namespace PrometheusSink

/-- Each metric of the sink accounts for its part of the calls. -/
structure Accounts (sink : PrometheusSink) (calls : List MetricsCall) : Prop where
  inFlight : sink.inFlight.Accounts 4 (calls.filterMap MetricsCall.inFlightChange)
  total : sink.total.Accounts 6 (calls.filterMap MetricsCall.totalChange)
  latency : sink.latency.Accounts 5 (calls.filterMap MetricsCall.latencyChange)
  errors : sink.errors.Accounts 5 (calls.filterMap MetricsCall.errorsChange)
  phase : sink.phase.Accounts 3 (calls.filterMap MetricsCall.phaseChange)

theorem accounts_new (nameSpace subsystem : String) :
    (new nameSpace subsystem).Accounts [] := by
  constructor
  all_goals exact ⟨rfl, List.nodup_nil, fun _ => rfl⟩

variable {sink : PrometheusSink} {calls : List MetricsCall}

theorem call_change_of_ok {ν : Type} [AddMonoid ν] {metric : PrometheusSink → PrometheusMetric ν}
    {store : PrometheusSink → PrometheusMetric ν → PrometheusSink} {values : List String}
    {amount : ν} {changed : PrometheusMetric ν}
    (h : (metric sink).change values amount = .ok changed) :
    (change metric store values amount).call sink = (.ok (), store sink changed) := by
  rw [change, Stateful.call_ofCall, h]

/-- A finished request is accounted for in the counter, the histogram and the errors. -/
theorem Accounts.observeRequest (h : sink.Accounts calls) (r : RequestObservation) :
    ∃ sink', (PrometheusSink.observeRequest r).call sink = (.ok (), sink') ∧
      sink'.Accounts (calls ++ [.observeRequest r]) := by
  obtain ⟨total, counted, totalled⟩ := h.total.change
    [r.client, r.method, r.route, r.operation, r.status.str, r.outcome] rfl 1
  obtain ⟨latency, timed, lasted⟩ := h.latency.change
    [r.client, r.method, r.route, r.operation, r.histOutcome] rfl {r.durationSeconds}
  have first : (changeTotal
      [r.client, r.method, r.route, r.operation, r.status.str, r.outcome] 1).call sink =
        (.ok (), { sink with total := total }) := call_change_of_ok counted
  have second : (changeLatency [r.client, r.method, r.route, r.operation, r.histOutcome]
      {r.durationSeconds}).call { sink with total := total } =
        (.ok (), { sink with total := total, latency := latency }) := call_change_of_ok timed
  rw [PrometheusSink.observeRequest, Stateful.call_bind_of_ok first,
    Stateful.call_bind_of_ok second]
  cases failed : r.countedError with
  | none =>
      refine ⟨_, rfl, h.inFlight.concat_none rfl, totalled.concat_some rfl,
        lasted.concat_some rfl, h.errors.concat_none ?_, h.phase.concat_none rfl⟩
      rw [MetricsCall.errorsChange, MetricsCall.requestChange, failed]
      rfl
  | some errorType =>
      obtain ⟨errors, recorded, erred⟩ := h.errors.change
        [r.client, r.method, r.route, r.operation, errorType] rfl 1
      have third : (changeErrors [r.client, r.method, r.route, r.operation, errorType] 1).call
          { sink with total := total, latency := latency } =
            (.ok (), { sink with total := total, latency := latency, errors := errors }) :=
        call_change_of_ok recorded
      refine ⟨_, third, h.inFlight.concat_none rfl, totalled.concat_some rfl,
        lasted.concat_some rfl, erred.concat_some ?_, h.phase.concat_none rfl⟩
      rw [MetricsCall.errorsChange, MetricsCall.requestChange, failed]
      rfl

/-- Every call is taken and accounted for. -/
theorem Accounts.feed (h : sink.Accounts calls) (call : MetricsCall) :
    ∃ sink', (PrometheusSink.feed call).call sink = (.ok (), sink') ∧
      sink'.Accounts (calls ++ [call]) := by
  -- a gauge or histogram call changes one metric, and the others see nothing of it
  cases call with
  | onRequestStart client method route operation =>
      obtain ⟨gauge, changed, gauged⟩ := h.inFlight.change
        [client, method, route, operation] rfl 1
      exact ⟨_, call_change_of_ok changed, gauged.concat_some rfl, h.total.concat_none rfl,
        h.latency.concat_none rfl, h.errors.concat_none rfl, h.phase.concat_none rfl⟩
  | onRequestEnd client method route operation =>
      obtain ⟨gauge, changed, gauged⟩ := h.inFlight.change
        [client, method, route, operation] rfl (-1)
      exact ⟨_, call_change_of_ok changed, gauged.concat_some rfl, h.total.concat_none rfl,
        h.latency.concat_none rfl, h.errors.concat_none rfl, h.phase.concat_none rfl⟩
  | observeRequest r => exact h.observeRequest r
  | observePhase client operation phase seconds =>
      obtain ⟨histogram, changed, timed⟩ := h.phase.change
        [client, operation, phase] rfl {seconds}
      exact ⟨_, call_change_of_ok changed, h.inFlight.concat_none rfl, h.total.concat_none rfl,
        h.latency.concat_none rfl, h.errors.concat_none rfl, timed.concat_some rfl⟩

/-- So are all calls of a run. -/
theorem Accounts.forM (h : sink.Accounts calls) (more : List MetricsCall) :
    ∃ sink', (forM more PrometheusSink.feed).call sink = (.ok (), sink') ∧
      sink'.Accounts (calls ++ more) := by
  induction more generalizing sink calls with
  | nil => exact ⟨sink, rfl, by rwa [List.append_nil]⟩
  | cons call rest ih =>
      obtain ⟨sink', fed, next⟩ := h.feed call
      obtain ⟨sink'', done, all⟩ := ih next
      rw [List.forM_cons, Stateful.call_bind_of_ok fed]
      refine ⟨sink'', done, ?_⟩
      rwa [List.append_assoc, List.singleton_append] at all

end PrometheusSink

/-! ### Metrics in step -/

namespace RequestObservation

/-- The labels all metrics of a request have. -/
def labels (r : RequestObservation) : List String := [r.client, r.method, r.route, r.operation]

end RequestObservation

namespace MetricsCall

/-- The finished request a call is about, if a query selects its labels. -/
def selected (q : List String → Bool) : MetricsCall → Option RequestObservation
  | observeRequest r => if q r.labels then some r else none
  | _ => none

def starts (q : List String → Bool) : MetricsCall → Bool
  | onRequestStart client method route operation => q [client, method, route, operation]
  | _ => false

def ends (q : List String → Bool) : MetricsCall → Bool
  | onRequestEnd client method route operation => q [client, method, route, operation]
  | _ => false

end MetricsCall

section Sums

variable {q : List String → Bool} {calls : List MetricsCall}

/-- What a query finds is what it finds of the requests it selects. -/
theorem sumWhere_requestChange {ν : Type} [AddCommMonoid ν]
    {added : RequestObservation → Option (List String × ν)} {p : List String → Bool}
    {amount : RequestObservation → ν}
    (each : ∀ r, Series.sumWhere p (added r).toList = if q r.labels then amount r else 0)
    (calls : List MetricsCall) :
    Series.sumWhere p (calls.filterMap (MetricsCall.requestChange added)) =
      ((calls.filterMap (MetricsCall.selected q)).map amount).sum := by
  induction calls with
  | nil => rfl
  | cons call rest ih =>
      rw [Series.sumWhere_filterMap_cons, ih, List.filterMap_cons]
      cases call with
      | observeRequest r =>
          rw [MetricsCall.requestChange, each, MetricsCall.selected]
          cases q r.labels with
          | true => rw [if_pos rfl, if_pos rfl, List.map_cons, List.sum_cons]
          | false => exact zero_add _
      | _ => exact zero_add _

theorem card_sum_durations (requests : List RequestObservation) (p : RequestObservation → Bool) :
    ((requests.map fun r => if p r then ({r.durationSeconds} : Multiset Binary64) else 0).sum) =
      (requests.filter p).map RequestObservation.durationSeconds := by
  induction requests with
  | nil => rfl
  | cons r rest ih =>
      rw [List.map_cons, List.sum_cons, ih, List.filter_cons]
      cases p r with
      | true => rfl
      | false => exact zero_add _

theorem sum_ones (requests : List RequestObservation) (p : RequestObservation → Bool) :
    ((requests.map fun r => if p r then 1 else 0).sum : ℕ) = (requests.filter p).length := by
  induction requests with
  | nil => rfl
  | cons r rest ih =>
      rw [List.map_cons, List.sum_cons, ih, List.filter_cons]
      cases p r with
      | true => exact Nat.add_comm 1 _
      | false => exact Nat.zero_add _

/-- The gauge is at what has started and not ended. -/
theorem sumWhere_inFlight (q : List String → Bool) (calls : List MetricsCall) :
    Series.sumWhere q (calls.filterMap MetricsCall.inFlightChange) =
      (calls.countP (MetricsCall.starts q) : ℤ) - calls.countP (MetricsCall.ends q) := by
  induction calls with
  | nil => rfl
  | cons call rest ih =>
      rw [Series.sumWhere_filterMap_cons, ih, List.countP_cons, List.countP_cons]
      cases call with
      | onRequestStart client method route operation =>
          simp only [MetricsCall.inFlightChange, Option.toList_some, Series.sumWhere_cons,
            Series.sumWhere_nil, MetricsCall.starts, MetricsCall.ends]
          by_cases passes : q [client, method, route, operation] = true
          · simp only [passes, if_true, Bool.false_eq_true, if_false, Nat.cast_add, Nat.cast_one]
            omega
          · simp only [passes, Bool.false_eq_true, if_false, Nat.add_zero]
            omega
      | onRequestEnd client method route operation =>
          simp only [MetricsCall.inFlightChange, Option.toList_some, Series.sumWhere_cons,
            Series.sumWhere_nil, MetricsCall.starts, MetricsCall.ends]
          by_cases passes : q [client, method, route, operation] = true
          · simp only [passes, if_true, Bool.false_eq_true, if_false, Nat.cast_add, Nat.cast_one]
            omega
          · simp only [passes, Bool.false_eq_true, if_false, Nat.add_zero]
            omega
      | _ => exact zero_add _

end Sums

/-- What a query over the labels of a request finds in the metrics of a sink that was given
some calls: each finished request is counted once and timed once, under the same reading of its
outcome; its error is counted once if it has one; and the gauge is at the requests that have
started and not ended. -/
structure Conserved (sink : PrometheusSink) (calls : List MetricsCall) (q : List String → Bool) :
    Prop where
  requests : sink.total.sumBy (fun values => q (values.take 4)) =
    (calls.filterMap (MetricsCall.selected q)).length
  durations : sink.latency.sumBy (fun values => q (values.take 4)) =
    (calls.filterMap (MetricsCall.selected q)).map RequestObservation.durationSeconds
  successes : (sink.latency.sumBy
      fun values => q (values.take 4) && values[4]? = some Taxonomy.responseOutcome).card =
    sink.total.sumBy fun values => q (values.take 4) && values[5]? = some Taxonomy.response
  errors : sink.errors.sumBy (fun values => q (values.take 4)) =
    ((calls.filterMap (MetricsCall.selected q)).filter fun r => r.countedError.isSome).length
  inFlight : sink.inFlight.sumBy q =
    (calls.countP (MetricsCall.starts q) : ℤ) - calls.countP (MetricsCall.ends q)

theorem PrometheusSink.Accounts.conserved {sink : PrometheusSink} {calls : List MetricsCall}
    (h : sink.Accounts calls) (q : List String → Bool) : Conserved sink calls q := by
  have total (p : List String → Bool) (test : RequestObservation → Bool)
      (same : ∀ r, p [r.client, r.method, r.route, r.operation, r.status.str, r.outcome] =
        (q r.labels && test r)) :
      sink.total.sumBy p = ((calls.filterMap (MetricsCall.selected q)).filter test).length := by
    rw [h.total.sums, ← sum_ones]
    refine sumWhere_requestChange (fun r => ?_) calls
    rw [Option.toList_some, Series.sumWhere_cons, Series.sumWhere_nil, add_zero, same]
    cases q r.labels <;> rfl
  have latency (p : List String → Bool) (test : RequestObservation → Bool)
      (same : ∀ r, p [r.client, r.method, r.route, r.operation, r.histOutcome] =
        (q r.labels && test r)) :
      sink.latency.sumBy p = ((calls.filterMap (MetricsCall.selected q)).filter test).map
        RequestObservation.durationSeconds := by
    rw [h.latency.sums, ← card_sum_durations]
    refine sumWhere_requestChange (fun r => ?_) calls
    rw [Option.toList_some, Series.sumWhere_cons, Series.sumWhere_nil, add_zero, same]
    cases q r.labels <;> rfl
  refine ⟨?_, ?_, ?_, ?_, ?_⟩
  · rw [total _ (fun _ => true) fun r => (Bool.and_true _).symm, List.filter_true]
  · rw [latency _ (fun _ => true) fun r => (Bool.and_true _).symm, List.filter_true]
  · have outcome (r : RequestObservation) :
        r.histOutcome = Taxonomy.responseOutcome ↔ r.outcome = Taxonomy.response := by
      rw [RequestObservation.histOutcome]
      split
      · exact iff_of_true rfl ‹_›
      · exact iff_of_false (by decide) ‹_›
    rw [total _ (fun r => r.outcome = Taxonomy.response) fun r => ?_,
      latency _ (fun r => r.outcome = Taxonomy.response) fun r => ?_]
    · exact (Multiset.coe_card _).trans (List.length_map ..)
    · simp [RequestObservation.labels, outcome]
    · simp [RequestObservation.labels]
  · rw [h.errors.sums, ← sum_ones]
    refine sumWhere_requestChange (fun r => ?_) calls
    cases r.countedError with
    | none => simp
    | some errorType =>
        rw [Option.map_some, Option.toList_some, Series.sumWhere_cons, Series.sumWhere_nil,
          add_zero]
        rfl
  · rw [h.inFlight.sums, sumWhere_inFlight]

/-- A new sink takes whatever calls it is given, and all its metrics stay in step. -/
theorem PrometheusSink.forM_conserved (nameSpace subsystem : String) (calls : List MetricsCall) :
    ∃ sink, (forM calls PrometheusSink.feed).call (.new nameSpace subsystem) = (.ok (), sink) ∧
      ∀ q, Conserved sink calls q := by
  obtain ⟨sink, taken, accounts⟩ := (accounts_new nameSpace subsystem).forM calls
  rw [List.nil_append] at accounts
  exact ⟨sink, taken, accounts.conserved⟩

end Asyncly
