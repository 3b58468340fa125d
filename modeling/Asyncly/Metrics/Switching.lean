import Asyncly.Metrics.Instrumentable

/-!
# Switching sinks

The metrics fields are written by `enable_metrics` and `disable_metrics`, and by the
context managers `instrument` returns, which save and restore them. Contexts are left in
any order, and as often as their owners like.
-/

namespace Asyncly

/-- A write to the metrics fields. A context manager is known by a number. -/
inductive Switch
  | enableMetrics (sink : Sink) (routeResolver : Option RouteResolver)
  | disableMetrics (noopId : Nat)
  | enter (ctx : Nat) (sink : Sink) (routeResolver : Option RouteResolver)
  | exit (ctx : Nat)

/-- The metrics fields of a client, and the `_prev_*` fields of the contexts around it. -/
structure Fields where
  metrics : MetricsState
  saved : Nat → Option MetricsState

namespace Fields

/-- The fields of a new client. -/
def initial (U : UnicodeData) (noopId : Nat) : Fields where
  metrics := .disabled U noopId
  saved _ := none

/-- Leaving a context that was never entered raises before anything is written. -/
def switch (U : UnicodeData) (fields : Fields) : Switch → Fields
  | .enableMetrics sink routeResolver =>
      { fields with metrics := fields.metrics.enableMetrics sink routeResolver }
  | .disableMetrics noopId => { fields with metrics := .disabled U noopId }
  | .enter ctx sink routeResolver =>
      ⟨fields.metrics.enableMetrics sink routeResolver,
        fun other => if other = ctx then some fields.metrics else fields.saved other⟩
  | .exit ctx =>
      match fields.saved ctx with
      | some prev => { fields with metrics := prev }
      | none => fields

end Fields

/-- The capability flag is the one of the sink. It is not read while metrics are off. -/
def MetricsState.Consistent (metrics : MetricsState) : Prop :=
  metrics.metricsSink.isNoop = false →
    metrics.sinkHasLifecycle = metrics.metricsSink.detectLifecycle

/-- The fields, and all that can still be restored, are consistent. -/
structure Fields.Consistent (fields : Fields) : Prop where
  metrics : fields.metrics.Consistent
  saved : ∀ ctx prev, fields.saved ctx = some prev → prev.Consistent

section Consistent

variable {U : UnicodeData} {metrics : MetricsState} {fields : Fields}

theorem MetricsState.consistent_disabled (noopId : Nat) :
    (MetricsState.disabled U noopId).Consistent := nofun

theorem MetricsState.consistent_enableMetrics (sink : Sink)
    (routeResolver : Option RouteResolver) :
    (metrics.enableMetrics sink routeResolver).Consistent := fun _ => rfl

/-- A metered attempt finds the hooks its flag promises. -/
theorem MetricsState.Consistent.honours (h : metrics.Consistent)
    (metered : metrics.metricsSink.isNoop = false) :
    metrics.metricsSink.Honours metrics.sinkHasLifecycle := by
  rw [h metered]
  exact metrics.metricsSink.honours_detectLifecycle

theorem Fields.consistent_initial (noopId : Nat) : (Fields.initial U noopId).Consistent :=
  ⟨MetricsState.consistent_disabled noopId, nofun⟩

/-- Every switch keeps the fields consistent, in whatever order contexts are left. -/
theorem Fields.Consistent.switch (h : fields.Consistent) (s : Switch) :
    (fields.switch U s).Consistent := by
  cases s with
  | enableMetrics sink routeResolver =>
      exact ⟨MetricsState.consistent_enableMetrics sink routeResolver, h.saved⟩
  | disableMetrics noopId => exact ⟨MetricsState.consistent_disabled noopId, h.saved⟩
  | enter ctx sink routeResolver =>
      refine ⟨MetricsState.consistent_enableMetrics sink routeResolver, ?_⟩
      intro other prev found
      by_cases same : other = ctx
      · simp only [Fields.switch, if_pos same] at found
        cases found
        exact h.metrics
      · simp only [Fields.switch, if_neg same] at found
        exact h.saved other prev found
  | exit ctx =>
      rw [Fields.switch]
      split
      · rename_i prev found
        exact ⟨h.saved ctx prev found, h.saved⟩
      · exact h

end Consistent

end Asyncly
