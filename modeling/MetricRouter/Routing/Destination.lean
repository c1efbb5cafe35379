import MetricRouter.Metric.Sample
import MetricRouter.Pattern.Group

/-!
# Destinations

A destination is offered the samples whose names match its patterns. How it answers is left to a
receiver, a function that may depend on all that was offered before.
-/

namespace MetricRouter

/-- Where samples are delivered. Two destinations are the same one exactly when their serial numbers
agree; their names say which one replaces which. -/
structure Destination where
  serial : Nat
  name : String
  deriving DecidableEq

/-- What becomes of an offer. -/
inductive Answer where
  /-- The sample was taken. -/
  | accepted
  /-- The sample was turned down. -/
  | refused
  /-- The destination broke down over the sample. -/
  | failed (reason : String)
  /-- The destination has not made up its mind; the offer stands until it is made again. -/
  | waiting
  deriving DecidableEq

/-- How destinations answer: `σ` is what they have taken in so far. -/
abbrev Receive (σ : Type) := Destination → Metric → σ → Answer × σ

/-- A destination and the patterns of the names it is offered. Two bindings are the same one exactly when their
serial numbers agree; a destination that is registered again has another one. -/
structure Binding where
  serial : Nat
  destination : Destination
  patterns : Pattern.Group

/-- The name of the destination. -/
def Binding.name (b : Binding) : String := b.destination.name

end MetricRouter
