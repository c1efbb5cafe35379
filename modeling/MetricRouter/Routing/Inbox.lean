import MetricRouter.Metric.Sample

/-!
# Inboxes

An inbox keeps samples in order of arrival until they are taken out. It turns a sample down when it is
full or when nobody is left to take samples out.
-/

namespace MetricRouter

/-- Samples that wait to be taken out, and the number of offers by their outcome. -/
structure Inbox where
  capacity : Nat
  /-- Is there somebody to take samples out? -/
  isOpen : Bool
  /-- The samples that wait, oldest first. -/
  waiting : List Metric
  accepted : Nat
  rejected : Nat

namespace Inbox

/-- An inbox without a sample. -/
def create (capacity : Nat) : Inbox :=
  { capacity := capacity, isOpen := true, waiting := [], accepted := 0, rejected := 0 }

/-- The number of samples that may wait: at least one. -/
def room (i : Inbox) : Nat := max i.capacity 1

/-- Offers a sample and tells whether it was taken. -/
def offer (i : Inbox) (m : Metric) : Bool × Inbox :=
  if i.isOpen && i.waiting.length < i.room then
    (true, { i with waiting := i.waiting ++ [m], accepted := i.accepted + 1 })
  else (false, { i with rejected := i.rejected + 1 })

/-- Takes out up to `n` samples, oldest first. -/
def takeOut (i : Inbox) (n : Nat) : List Metric × Inbox :=
  (i.waiting.take n, { i with waiting := i.waiting.drop n })

/-- Takes no more samples in; those that wait can still be taken out. -/
def shut (i : Inbox) : Inbox := { i with isOpen := false }

/-- Gives up the inbox; the samples that wait are lost. -/
def close (i : Inbox) : Inbox := { i with isOpen := false, waiting := [] }

end Inbox

end MetricRouter
