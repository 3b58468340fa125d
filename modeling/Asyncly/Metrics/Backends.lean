import Asyncly.Lib.Series
import Asyncly.Lib.Stateful
import Asyncly.Metrics.Sink
import Asyncly.Python.Values

/-!
# The two metric backends

One sink gives the labels of a series as a tuple in the order its metric declares, the other
as named attributes. After the same calls both have the same series, if the labels of a
tuple are read by their declared names and no duration is below zero: a histogram of
OpenTelemetry drops those.
-/

namespace Asyncly

/-- `str(status)` -/
def StatusLabel.str : StatusLabel → String
  | code status => toString status
  | text marker => marker

namespace Taxonomy

def response : String := "response"
def responseOutcome : String := "response"
def errorOutcome : String := "error"
def none : String := "none"

end Taxonomy

/-- The arguments of `observe_request`. -/
structure RequestObservation where
  client : String
  method : String
  route : String
  operation : String := ""
  status : StatusLabel
  outcome : String := Taxonomy.response
  durationSeconds : Binary64
  errorType : Option String := none

namespace RequestObservation

def histOutcome (r : RequestObservation) : String :=
  if r.outcome = Taxonomy.response then Taxonomy.responseOutcome else Taxonomy.errorOutcome

/-- The error that is counted: `error_type and error_type != NONE`. -/
def countedError (r : RequestObservation) : Option String :=
  r.errorType.filter fun errorType => errorType ≠ "" && errorType ≠ Taxonomy.none

end RequestObservation

/-- A call of a sink. -/
inductive MetricsCall
  | onRequestStart (client method route operation : String)
  | onRequestEnd (client method route operation : String)
  | observeRequest (r : RequestObservation)
  | observePhase (client operation phase : String) (seconds : Binary64)

/-- The duration a call is to record. -/
def MetricsCall.duration : MetricsCall → Option Binary64
  | observeRequest r => some r.durationSeconds
  | observePhase _ _ _ seconds => some seconds
  | _ => none

/-- The names and values of labels. -/
abbrev LabelSet := Finset (String × String)

/-! ### Prometheus -/

/-- A metric of a Prometheus registry: a child for each tuple of label values. -/
structure PrometheusMetric (ν : Type) where
  name : String
  labelnames : List String
  distinct : labelnames.Nodup
  children : List ({values : List String // values.length = labelnames.length} × ν) := []

namespace PrometheusMetric

variable {ν : Type} [AddMonoid ν]

/-- `labels(*values)` and a change of its child: `inc`, `dec` or `observe`. -/
def change (metric : PrometheusMetric ν) (values : List String) (amount : ν) :
    Except Exn (PrometheusMetric ν) :=
  if count : values.length = metric.labelnames.length then
    .ok { metric with children := Series.add ⟨values, count⟩ amount metric.children }
  else .error (.valueError "Incorrect label count")

/-- The series of a metric, by the names and values of their labels. -/
def exposed (metric : PrometheusMetric ν) : List (LabelSet × ν) :=
  Series.relabel (fun values => Series.assignment metric.labelnames values.1) metric.children

end PrometheusMetric

structure PrometheusSink where
  latency : PrometheusMetric (Multiset Binary64)
  total : PrometheusMetric ℕ
  errors : PrometheusMetric ℕ
  inFlight : PrometheusMetric ℤ
  phase : PrometheusMetric (Multiset Binary64)

namespace PrometheusSink

/-- `PrometheusSink(namespace=..., subsystem=...)` -/
def new (nameSpace subsystem : String) : PrometheusSink where
  latency := {
    name := s!"{nameSpace}_{subsystem}_request_seconds"
    labelnames := ["client", "method", "route", "operation", "outcome"]
    distinct := by decide }
  total := {
    name := s!"{nameSpace}_{subsystem}_requests_total"
    labelnames := ["client", "method", "route", "operation", "status", "outcome"]
    distinct := by decide }
  errors := {
    name := s!"{nameSpace}_{subsystem}_errors_total"
    labelnames := ["client", "method", "route", "operation", "error_type"]
    distinct := by decide }
  inFlight := {
    name := s!"{nameSpace}_{subsystem}_in_flight"
    labelnames := ["client", "method", "route", "operation"]
    distinct := by decide }
  phase := {
    name := s!"{nameSpace}_{subsystem}_phase_duration_seconds"
    labelnames := ["client", "operation", "phase"]
    distinct := by decide }

/-- Change a child of one of the metrics; a `labels` that raises changes none. -/
def change {ν : Type} [AddMonoid ν] (metric : PrometheusSink → PrometheusMetric ν)
    (store : PrometheusSink → PrometheusMetric ν → PrometheusSink) (values : List String)
    (amount : ν) : Stateful PrometheusSink Exn Unit :=
  .ofCall fun sink =>
    match (metric sink).change values amount with
    | .ok changed => (.ok (), store sink changed)
    | .error exc => (.error exc, sink)

def changeLatency : List String → Multiset Binary64 → Stateful PrometheusSink Exn Unit :=
  change latency fun sink metric => { sink with latency := metric }

def changeTotal : List String → ℕ → Stateful PrometheusSink Exn Unit :=
  change total fun sink metric => { sink with total := metric }

def changeErrors : List String → ℕ → Stateful PrometheusSink Exn Unit :=
  change errors fun sink metric => { sink with errors := metric }

def changeInFlight : List String → ℤ → Stateful PrometheusSink Exn Unit :=
  change inFlight fun sink metric => { sink with inFlight := metric }

def changePhase : List String → Multiset Binary64 → Stateful PrometheusSink Exn Unit :=
  change phase fun sink metric => { sink with phase := metric }

/-- `observe_request` -/
def observeRequest (r : RequestObservation) : Stateful PrometheusSink Exn Unit := do
  changeTotal [r.client, r.method, r.route, r.operation, r.status.str, r.outcome] 1
  changeLatency [r.client, r.method, r.route, r.operation, r.histOutcome] {r.durationSeconds}
  match r.countedError with
  | some errorType => changeErrors [r.client, r.method, r.route, r.operation, errorType] 1
  | none => pure ()

/-- A call of the sink. -/
def feed : MetricsCall → Stateful PrometheusSink Exn Unit
  | .onRequestStart client method route operation =>
      changeInFlight [client, method, route, operation] 1
  | .onRequestEnd client method route operation =>
      changeInFlight [client, method, route, operation] (-1)
  | .observeRequest r => observeRequest r
  | .observePhase client operation phase seconds =>
      changePhase [client, operation, phase] {seconds}

end PrometheusSink

/-! ### OpenTelemetry -/

/-- An instrument: the measurements it was given, each with its attributes. -/
structure Instrument (ν : Type) where
  name : String
  measurements : List (LabelSet × ν) := []

/-- `add(amount, attributes=...)` of a counter, `record(amount, attributes=...)` of a
histogram -/
def Instrument.add {ν : Type} (instrument : Instrument ν) (amount : ν)
    (attributes : Dict String String) : Instrument ν :=
  { instrument with
    measurements := instrument.measurements ++ [(attributes.toFinset, amount)] }

theorem Instrument.forall_mem_add {ν : Type} {P : ν → Prop} {instrument : Instrument ν}
    (h : ∀ measurement ∈ instrument.measurements, P measurement.2) {amount : ν}
    (passes : P amount) (attributes : Dict String String) :
    ∀ measurement ∈ (instrument.add amount attributes).measurements, P measurement.2 := by
  intro measurement member
  rcases List.mem_append.mp member with old | given
  · exact h measurement old
  · rw [List.mem_singleton.mp given]
    exact passes

/-- A `Meter` of the SDK: the data point its instruments hold for some attributes. -/
structure Meter where
  counter : List (LabelSet × ℕ) → LabelSet → ℕ
  upDownCounter : List (LabelSet × ℤ) → LabelSet → ℤ
  histogram : List (LabelSet × Binary64) → LabelSet → Multiset Binary64
  /-- The number of attributes an instrument keeps apart, where the SDK limits it. -/
  cardinalityLimit : Option ℕ

namespace Meter

variable (meter : Meter)

/-- The measurements of an instrument stay within the limit. -/
def KeepsApart {ν : Type} (measurements : List (LabelSet × ν)) : Prop :=
  ∀ limit ∈ meter.cardinalityLimit, (measurements.map Prod.fst).toFinset.card ≤ limit

/-- The documented aggregation: counters sum up, and a histogram takes what is not below
zero. -/
structure Documented : Prop where
  counter : ∀ measurements, meter.KeepsApart measurements → ∀ labels,
    meter.counter measurements labels = Series.sumWhere (· = labels) measurements
  upDownCounter : ∀ measurements, meter.KeepsApart measurements → ∀ labels,
    meter.upDownCounter measurements labels = Series.sumWhere (· = labels) measurements
  histogram : ∀ measurements, meter.KeepsApart measurements →
    (∀ measurement ∈ measurements, measurement.2 ≠ .nan) → ∀ labels,
    meter.histogram measurements labels =
      ((measurements.filter fun measurement =>
        measurement.1 = labels && !measurement.2.negative).map Prod.snd : List Binary64)

end Meter

structure OpenTelemetrySink where
  reqCounter : Instrument ℕ
  reqHist : Instrument Binary64
  errCounter : Instrument ℕ
  inFlight : Instrument ℤ
  phaseHist : Instrument Binary64

namespace OpenTelemetrySink

/-- `OpenTelemetrySink(meter)` -/
def new : OpenTelemetrySink where
  reqCounter := { name := "http_client_requests_total" }
  reqHist := { name := "http_client_request_seconds" }
  errCounter := { name := "http_client_errors_total" }
  inFlight := { name := "http_client_in_flight" }
  phaseHist := { name := "http_client_phase_duration_seconds" }

variable (sink : OpenTelemetrySink)

def addInFlight (amount : ℤ) (client method route operation : String) : OpenTelemetrySink :=
  let attributes : Dict String String :=
    [("client", client), ("method", method), ("route", route), ("operation", operation)]
  { sink with inFlight := sink.inFlight.add amount attributes }

/-- `observe_request` -/
def observeRequest (r : RequestObservation) : OpenTelemetrySink :=
  let base : Dict String String :=
    [("client", r.client), ("method", r.method), ("route", r.route), ("operation", r.operation)]
  let sink := { sink with
    reqCounter := sink.reqCounter.add 1
      ((base.set "status" r.status.str).set "outcome" r.outcome)
    reqHist := sink.reqHist.add r.durationSeconds (base.set "outcome" r.histOutcome) }
  match r.countedError with
  | some errorType =>
      { sink with errCounter := sink.errCounter.add 1 (base.set "error_type" errorType) }
  | none => sink

/-- A call of the sink. -/
def feed : MetricsCall → OpenTelemetrySink
  | .onRequestStart client method route operation =>
      addInFlight sink 1 client method route operation
  | .onRequestEnd client method route operation =>
      addInFlight sink (-1) client method route operation
  | .observeRequest r => observeRequest sink r
  | .observePhase client operation phase seconds =>
      let attributes : Dict String String :=
        [("client", client), ("operation", operation), ("phase", phase)]
      { sink with phaseHist := sink.phaseHist.add seconds attributes }

/-- No instrument has more different attributes than the meter keeps apart. -/
structure KeptApart (meter : Meter) : Prop where
  inFlight : meter.KeepsApart sink.inFlight.measurements
  requests : meter.KeepsApart sink.reqCounter.measurements
  errors : meter.KeepsApart sink.errCounter.measurements
  durations : meter.KeepsApart sink.reqHist.measurements
  phases : meter.KeepsApart sink.phaseHist.measurements

theorem keptApart_of_unlimited {meter : Meter} (unlimited : meter.cardinalityLimit = none) :
    sink.KeptApart meter := by
  constructor
  all_goals
    intro limit isLimit
    rw [unlimited] at isLimit
    exact absurd isLimit (Option.not_mem_none limit)

end OpenTelemetrySink

/-! ### The same data -/

/-- A metric and an instrument of one name have the same value for all labels, where `point`
reads the instrument. -/
structure SameSeries {ν α : Type} [AddMonoid ν] (metric : PrometheusMetric ν)
    (instrument : Instrument α) (point : List (LabelSet × α) → LabelSet → ν) : Prop where
  name : metric.name = instrument.name
  value : ∀ labels : LabelSet,
    Series.value labels metric.exposed = point instrument.measurements labels

/-- The two backends have the same data. -/
structure BackendsAgree (meter : Meter) (prometheus : PrometheusSink)
    (otel : OpenTelemetrySink) : Prop where
  inFlight : SameSeries prometheus.inFlight otel.inFlight meter.upDownCounter
  requests : SameSeries prometheus.total otel.reqCounter meter.counter
  errors : SameSeries prometheus.errors otel.errCounter meter.counter
  durations : SameSeries prometheus.latency otel.reqHist meter.histogram
  phases : SameSeries prometheus.phase otel.phaseHist meter.histogram

section Exposed

variable {ν α : Type} [AddCommMonoid ν] {labelnames : List String} {metric : PrometheusMetric ν}
  {instrument : Instrument α} {worth : α → ν}

/-- A metric that declares these labels has the sums of what an instrument was given. -/
structure Exposes (labelnames : List String) (metric : PrometheusMetric ν)
    (instrument : Instrument α) (worth : α → ν) : Prop where
  name : metric.name = instrument.name
  labelnames : metric.labelnames = labelnames
  series : ∀ labels : LabelSet, Series.value labels metric.exposed =
    Series.sumWhere (· = labels)
      (instrument.measurements.map fun measurement => (measurement.1, worth measurement.2))

/-- A tuple with as many values as there are labels changes one series, and the attributes it
stands for change the same one. -/
theorem Exposes.change (h : Exposes labelnames metric instrument worth)
    {attributes : Dict String String} (values : List String) (amount : α)
    (same : labelnames.zip values = attributes) (count : values.length = labelnames.length) :
    ∃ changed, metric.change values (worth amount) = .ok changed ∧
      Exposes labelnames changed (instrument.add amount attributes) worth := by
  obtain ⟨name, rfl, series⟩ := h
  subst same
  refine ⟨_, dif_pos count, name, rfl, fun labels => ?_⟩
  have distinct : Function.Injective
      fun values : {values : List String // values.length = metric.labelnames.length} =>
        Series.assignment metric.labelnames values.1 := fun v w same =>
    Subtype.ext ((Series.assignment_inj metric.distinct v.2 w.2).mp same)
  rw [PrometheusMetric.exposed, ← Series.add_relabel distinct, Series.value_add]
  change Series.value labels metric.exposed + _ = _
  rw [series, Instrument.add, List.map_append, Series.sumWhere_append, List.map_singleton,
    Series.sumWhere_cons, Series.sumWhere_nil, add_zero]
  exact congrArg _ (if_congr decide_eq_true_iff.symm rfl rfl)

end Exposed

/-- Each metric has the sums of what its instrument was given. -/
structure ExposesAll (prometheus : PrometheusSink) (otel : OpenTelemetrySink) : Prop where
  inFlight : Exposes ["client", "method", "route", "operation"] prometheus.inFlight
    otel.inFlight id
  requests : Exposes ["client", "method", "route", "operation", "status", "outcome"]
    prometheus.total otel.reqCounter id
  errors : Exposes ["client", "method", "route", "operation", "error_type"] prometheus.errors
    otel.errCounter id
  durations : Exposes ["client", "method", "route", "operation", "outcome"] prometheus.latency
    otel.reqHist ({·})
  phases : Exposes ["client", "operation", "phase"] prometheus.phase otel.phaseHist ({·})

theorem exposesAll_new : ExposesAll (.new "http" "client") .new := by
  constructor
  all_goals exact ⟨rfl, rfl, fun _ => rfl⟩

namespace PrometheusSink

variable {sink : PrometheusSink} {otel : OpenTelemetrySink}

theorem call_change {ν : Type} [AddMonoid ν] {metric : PrometheusSink → PrometheusMetric ν}
    {store : PrometheusSink → PrometheusMetric ν → PrometheusSink} {values : List String}
    {amount : ν} {changed : PrometheusMetric ν}
    (h : (metric sink).change values amount = .ok changed) :
    (change metric store values amount).call sink = (.ok (), store sink changed) := by
  rw [change, Stateful.call_ofCall, h]

/-- A change of the number of requests in flight. -/
theorem exposesAll_changeInFlight (h : ExposesAll sink otel) (amount : ℤ)
    (client method route operation : String) :
    ∃ sink', (changeInFlight [client, method, route, operation] amount).call sink =
        (.ok (), sink') ∧
      ExposesAll sink' (otel.addInFlight amount client method route operation) := by
  obtain ⟨changed, done, series⟩ :=
    h.inFlight.change [client, method, route, operation] amount rfl rfl
  exact ⟨_, call_change done, series, h.requests, h.errors, h.durations, h.phases⟩

/-- A phase is recorded. -/
theorem exposesAll_changePhase (h : ExposesAll sink otel) (seconds : Binary64)
    (client operation phase : String) :
    ∃ sink', (changePhase [client, operation, phase] {seconds}).call sink = (.ok (), sink') ∧
      ExposesAll sink' (otel.feed (.observePhase client operation phase seconds)) := by
  obtain ⟨changed, done, series⟩ :=
    h.phases.change [client, operation, phase] seconds rfl rfl
  exact ⟨_, call_change done, h.inFlight, h.requests, h.errors, h.durations, series⟩

/-- A finished request is counted, its duration recorded, and its error counted. -/
theorem exposesAll_observeRequest (h : ExposesAll sink otel) (r : RequestObservation) :
    ∃ sink', (observeRequest r).call sink = (.ok (), sink') ∧
      ExposesAll sink' (otel.observeRequest r) := by
  obtain ⟨total, counted, requests⟩ := h.requests.change
    [r.client, r.method, r.route, r.operation, r.status.str, r.outcome] 1 rfl rfl
  obtain ⟨latency, recorded, durations⟩ := h.durations.change
    [r.client, r.method, r.route, r.operation, r.histOutcome] r.durationSeconds rfl rfl
  have first : (changeTotal _ 1).call sink = (.ok (), { sink with total := total }) :=
    call_change counted
  have second : (changeLatency _ {r.durationSeconds}).call { sink with total := total } =
      (.ok (), { sink with total := total, latency := latency }) := call_change recorded
  rw [observeRequest, OpenTelemetrySink.observeRequest,
    Stateful.call_bind_of_ok first, Stateful.call_bind_of_ok second]
  cases r.countedError with
  | none => exact ⟨_, rfl, h.inFlight, requests, h.errors, durations, h.phases⟩
  | some errorType =>
      obtain ⟨failed, noted, errors⟩ := h.errors.change
        [r.client, r.method, r.route, r.operation, errorType] 1 rfl rfl
      exact ⟨_, call_change noted, h.inFlight, requests, errors, durations, h.phases⟩

/-- A call changes both backends alike. -/
theorem exposesAll_feed (h : ExposesAll sink otel) (call : MetricsCall) :
    ∃ sink', (feed call).call sink = (.ok (), sink') ∧ ExposesAll sink' (otel.feed call) := by
  cases call with
  | onRequestStart client method route operation =>
      exact exposesAll_changeInFlight h 1 client method route operation
  | onRequestEnd client method route operation =>
      exact exposesAll_changeInFlight h (-1) client method route operation
  | observeRequest r => exact exposesAll_observeRequest h r
  | observePhase client operation phase seconds =>
      exact exposesAll_changePhase h seconds client operation phase

theorem exposesAll_forM (h : ExposesAll sink otel) (calls : List MetricsCall) :
    ∃ sink', (forM calls feed).call sink = (.ok (), sink') ∧
      ExposesAll sink' (calls.foldl OpenTelemetrySink.feed otel) := by
  induction calls generalizing sink otel with
  | nil => exact ⟨sink, rfl, h⟩
  | cons call rest ih =>
      obtain ⟨sink', done, next⟩ := exposesAll_feed h call
      rw [List.forM_cons, Stateful.call_bind_of_ok done]
      exact ih next

end PrometheusSink

/-! ### Durations

A histogram of the meter drops what is below zero, so it holds what it was given only where
nothing of that is.
-/

namespace OpenTelemetrySink

/-- What the two histograms were given passes a test. -/
structure Recorded (P : Binary64 → Prop) (sink : OpenTelemetrySink) : Prop where
  durations : ∀ measurement ∈ sink.reqHist.measurements, P measurement.2
  phases : ∀ measurement ∈ sink.phaseHist.measurements, P measurement.2

variable {P : Binary64 → Prop} {sink : OpenTelemetrySink}

theorem Recorded.addInFlight (h : sink.Recorded P) (amount : ℤ)
    (client method route operation : String) :
    (sink.addInFlight amount client method route operation).Recorded P :=
  ⟨h.durations, h.phases⟩

theorem Recorded.observeRequest (h : sink.Recorded P) {r : RequestObservation}
    (passes : P r.durationSeconds) : (sink.observeRequest r).Recorded P := by
  have durations := Instrument.forall_mem_add h.durations passes
  rw [OpenTelemetrySink.observeRequest]
  cases r.countedError with
  | none => exact ⟨durations _, h.phases⟩
  | some errorType => exact ⟨durations _, h.phases⟩

theorem Recorded.feed (h : sink.Recorded P) {call : MetricsCall}
    (passes : ∀ seconds ∈ call.duration, P seconds) : (sink.feed call).Recorded P := by
  cases call with
  | onRequestStart client method route operation => exact h.addInFlight 1 _ _ _ _
  | onRequestEnd client method route operation => exact h.addInFlight (-1) _ _ _ _
  | observeRequest r => exact h.observeRequest (passes _ rfl)
  | observePhase client operation phase seconds =>
      exact ⟨h.durations, Instrument.forall_mem_add h.phases (passes _ rfl) _⟩

theorem Recorded.foldl (h : sink.Recorded P) {calls : List MetricsCall}
    (passes : ∀ call ∈ calls, ∀ seconds ∈ call.duration, P seconds) :
    (calls.foldl OpenTelemetrySink.feed sink).Recorded P := by
  induction calls generalizing sink with
  | nil => exact h
  | cons call rest ih =>
      obtain ⟨first, later⟩ := List.forall_mem_cons.mp passes
      exact ih (h.feed first) later

theorem recorded_new : new.Recorded P :=
  ⟨List.forall_mem_nil _, List.forall_mem_nil _⟩

end OpenTelemetrySink

section Points

variable {meter : Meter} {labelnames : List String}

/-- A counter of the meter has the value of its metric. -/
theorem Exposes.sameSeries {ν : Type} [AddCommMonoid ν] {metric : PrometheusMetric ν}
    {instrument : Instrument ν} {point : List (LabelSet × ν) → LabelSet → ν}
    (h : Exposes labelnames metric instrument id)
    (sums : ∀ labels, point instrument.measurements labels =
      Series.sumWhere (· = labels) instrument.measurements) :
    SameSeries metric instrument point := by
  refine ⟨h.name, fun labels => ?_⟩
  rw [h.series, sums]
  exact congrArg (Series.sumWhere _) (List.map_id _)

/-- A histogram that is given nothing below zero has the amounts of its metric. -/
theorem Exposes.sameSeries_histogram {metric : PrometheusMetric (Multiset Binary64)}
    {instrument : Instrument Binary64} (h : Exposes labelnames metric instrument ({·}))
    (documented : meter.Documented) (kept : meter.KeepsApart instrument.measurements)
    (nonneg : ∀ measurement ∈ instrument.measurements, measurement.2.Nonneg) :
    SameSeries metric instrument meter.histogram := by
  refine ⟨h.name, fun labels => ?_⟩
  have number : ∀ measurement ∈ instrument.measurements, measurement.2 ≠ .nan :=
    fun measurement member => (nonneg measurement member).ne_nan
  rw [h.series, Series.sumWhere_singletons, documented.histogram _ kept number]
  congr 2
  refine List.filter_congr fun measurement member => ?_
  rw [(nonneg measurement member).negative_eq_false, Bool.not_false, Bool.and_true]

end Points

theorem ExposesAll.agree {meter : Meter} {prometheus : PrometheusSink} {otel : OpenTelemetrySink}
    (h : ExposesAll prometheus otel) (documented : meter.Documented) (kept : otel.KeptApart meter)
    (nonneg : otel.Recorded Binary64.Nonneg) : BackendsAgree meter prometheus otel where
  inFlight := h.inFlight.sameSeries (documented.upDownCounter _ kept.inFlight)
  requests := h.requests.sameSeries (documented.counter _ kept.requests)
  errors := h.errors.sameSeries (documented.counter _ kept.errors)
  durations := h.durations.sameSeries_histogram documented kept.durations nonneg.durations
  phases := h.phases.sameSeries_histogram documented kept.phases nonneg.phases

/-- Whatever calls they are given, with durations that are zero or above, both backends take
them and have the same data afterwards. -/
theorem backends_agree {meter : Meter} (documented : meter.Documented) {calls : List MetricsCall}
    (nonneg : ∀ call ∈ calls, ∀ seconds ∈ call.duration, seconds.Nonneg)
    (kept : (calls.foldl OpenTelemetrySink.feed .new).KeptApart meter) :
    ∃ prometheus, (forM calls PrometheusSink.feed).call (.new "http" "client") =
        (.ok (), prometheus) ∧
      BackendsAgree meter prometheus (calls.foldl OpenTelemetrySink.feed .new) := by
  obtain ⟨prometheus, done, series⟩ := PrometheusSink.exposesAll_forM exposesAll_new calls
  have recorded := OpenTelemetrySink.recorded_new.foldl nonneg
  exact ⟨prometheus, done, series.agree documented kept recorded⟩

namespace Sample

/-- A meter without a limit. -/
def meter : Meter where
  counter measurements labels := Series.sumWhere (· = labels) measurements
  upDownCounter measurements labels := Series.sumWhere (· = labels) measurements
  histogram measurements labels :=
    ((measurements.filter fun measurement =>
      measurement.1 = labels && !measurement.2.negative).map Prod.snd : List Binary64)
  cardinalityLimit := none

theorem meter_documented : meter.Documented :=
  ⟨fun _ _ _ => rfl, fun _ _ _ => rfl, fun _ _ _ _ => rfl⟩

/-- A request that fails, with one phase. -/
def metricsCalls : List MetricsCall :=
  [.onRequestStart "catfact" "GET" "/fact" "fact",
    .observePhase "catfact" "fact" "connect" (.finite 1),
    .observeRequest {
      client := "catfact"
      method := "GET"
      route := "/fact"
      status := .text "timeout"
      outcome := "timeout"
      durationSeconds := .finite 2
      errorType := some "read_timeout" },
    .onRequestEnd "catfact" "GET" "/fact" "fact"]

theorem metricsCalls_nonneg :
    ∀ call ∈ metricsCalls, ∀ seconds ∈ call.duration, seconds.Nonneg := by
  simp [metricsCalls, MetricsCall.duration, Binary64.Nonneg]

end Sample

theorem backends_agree_sample :
    ∃ prometheus, (forM Sample.metricsCalls PrometheusSink.feed).call (.new "http" "client") =
        (.ok (), prometheus) ∧
      BackendsAgree Sample.meter prometheus
        (Sample.metricsCalls.foldl OpenTelemetrySink.feed .new) :=
  backends_agree Sample.meter_documented Sample.metricsCalls_nonneg
    (OpenTelemetrySink.keptApart_of_unlimited _ rfl)

/-- A phase that is shorter than nothing is in one backend only. -/
theorem backends_agree_fails :
    Sample.meter.Documented ∧
      ∃ prometheus,
        (forM [.observePhase "catfact" "fact" "connect" (.finite (-1))]
          PrometheusSink.feed).call (.new "http" "client") = (.ok (), prometheus) ∧
        ¬ BackendsAgree Sample.meter prometheus
          (OpenTelemetrySink.new.feed
            (.observePhase "catfact" "fact" "connect" (.finite (-1)))) := by
  refine ⟨Sample.meter_documented, _, rfl, fun h => ?_⟩
  have here := h.phases.value
    {("client", "catfact"), ("operation", "fact"), ("phase", "connect")}
  revert here
  decide

end Asyncly
