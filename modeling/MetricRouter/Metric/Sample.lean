import MetricRouter.Metric.Identity

/-!
# Samples

A `Metric` is one sample: an identity, a time in milliseconds since the epoch, and a value.

* `Metric.conflate` — a later sample of the same metric absorbed by an earlier one;
* `Metric.confirmKey` — the key that is echoed to an agent once the sample was taken in.
-/

namespace MetricRouter

/-- One sample of a metric. -/
structure Metric where
  identity : Identity
  /-- Milliseconds since the epoch. -/
  time : Int64
  value : Value
  deriving DecidableEq

namespace Metric

/-- The name of the metric sampled. -/
def fqn (m : Metric) : String := m.identity.fqn

/-- The type of the metric sampled. -/
def type (m : Metric) : MetricType := m.identity.type

/-- The key that confirms the sample: the name followed by the time. -/
def confirmKey (m : Metric) : String := m.fqn ++ toString m.time.toInt

/-- The sample as people read it. -/
def display (m : Metric) : String :=
  "[" ++ toString m.time.toInt ++ "] " ++ m.fqn ++ "=" ++ m.value.display

/-- The sample after a later one was absorbed: the values are merged, the later time is kept. -/
def conflate (m other : Metric) : Except MergeRefusal Metric :=
  if m.type ≠ other.type then .error (.typesDiffer m.fqn m.type other.type)
  else
    match m.type.merge m.value other.value with
    | .error refusal => .error refusal
    | .ok value => .ok { m with value := value, time := max m.time other.time }

end Metric

end MetricRouter
