import Asyncly.Lib.Binary64
import Asyncly.Metrics.Taxonomy

/-!
# Metrics sinks

A sink is an object the client calls back. What matters to the client is whether
it is a `NoopSink`, and which of the optional hooks it defines: calling a hook
that is missing raises `AttributeError`.
-/

namespace Asyncly

/-- The optional hooks a sink defines. -/
structure Hooks where
  onRequestStart : Bool
  onRequestEnd : Bool
  observePhase : Bool
  deriving DecidableEq, Repr

/-- A sink object. Every instance of `NoopSink`, or of a subclass of it, inherits
all hooks of `BaseMetricsSink`. -/
inductive Sink
  | noop (id : Nat)
  | custom (id : Nat) (hooks : Hooks)
  deriving DecidableEq, Repr

namespace Sink

/-- `isinstance(sink, NoopSink)` -/
def isNoop : Sink → Bool
  | noop _ => true
  | custom _ _ => false

def hooks : Sink → Hooks
  | noop _ => ⟨true, true, true⟩
  | custom _ hooks => hooks

/-- `_detect_lifecycle` -/
def detectLifecycle (sink : Sink) : Bool := sink.hooks.onRequestStart && sink.hooks.onRequestEnd

end Sink

/-- The labels of one attempt, the same in all its metric calls. -/
structure Labels where
  client : String
  method : String
  route : String
  operation : String
  deriving DecidableEq, Repr

/-- A `status` label: a status code or a marker text. -/
inductive StatusLabel
  | code (status : Int)
  | text (marker : String)
  deriving DecidableEq, Repr

/-- What `observe_request` is told about one finished attempt. -/
structure Observation where
  status : StatusLabel
  outcome : Outcome
  durationSeconds : Binary64
  errorType : Option ErrorType
  deriving DecidableEq

inductive SinkCall
  | onRequestStart (labels : Labels)
  | onRequestEnd (labels : Labels)
  | observeRequest (labels : Labels) (observation : Observation)
  deriving DecidableEq

namespace SinkCall

def isObserve : SinkCall → Bool
  | observeRequest _ _ => true
  | _ => false

def labels : SinkCall → Labels
  | onRequestStart l => l
  | onRequestEnd l => l
  | observeRequest l _ => l

end SinkCall

end Asyncly
