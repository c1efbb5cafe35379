import Mathlib
import MetricRouter.Metric.Sample

/-!
# Laws of samples

* `Metric.Carries` — a sample whose value fits its type;
* `Metric.ofName`, `Metric.names` — the samples of a name, and the names of samples;
* `Metric.amount`, `Metric.total`, `Metric.Fits` — the number that a sample carries, totals, and totals that stay
  in the range of 64 bits however few samples are taken;
* `Metric.toInt_saturatingAdd`, `Metric.toInt_saturatingAdd_of_inRange` — a sum that is held at the ends of the range;
  in the range, it is the sum.
-/

namespace MetricRouter

/-- The sample is of the type and carries a value of its kind. -/
structure Metric.Carries (t : MetricType) (m : Metric) : Prop where
  type : m.type = t
  accepts : t.accepts m.value = true

theorem Metric.Carries.exists_long {t : MetricType} {m : Metric} (h : m.Carries t) (ht : t.isLong = true) :
    ∃ v, m.value = .long v := by
  have haccepts := h.accepts
  cases hvalue : m.value with
  | long v => exact ⟨v, rfl⟩
  | text s =>
    rw [hvalue] at haccepts
    cases t <;> simp [MetricType.accepts, MetricType.isLong] at haccepts ht
  | blob bytes =>
    rw [hvalue] at haccepts
    cases t <;> simp [MetricType.accepts, MetricType.isLong] at haccepts ht

/-- The samples of a name. -/
abbrev Metric.ofName (f : String) (ms : List Metric) : List Metric := ms.filter (fun m => decide (m.fqn = f))

theorem Metric.ofName_append (f : String) (ms more : List Metric) :
    ofName f (ms ++ more) = ofName f ms ++ ofName f more :=
  List.filter_append ms more

/-- The names of samples. -/
def Metric.names (ms : List Metric) : Set String := {f | ∃ m ∈ ms, m.fqn = f}

/-! ## Totals -/

/-- The number that a value carries, 0 if it is not a long. -/
def Value.amount (v : Value) : Int := (v.long?.map Int64.toInt).getD 0

namespace Metric

/-- The number that the sample carries. -/
def amount (m : Metric) : Int := m.value.amount

/-- The sum of the numbers that samples carry. -/
def total (ms : List Metric) : Int := (ms.map amount).sum

/-- Is the number in the range of 64 bits? -/
def InRange (n : Int) : Prop := Int64.minValue.toInt ≤ n ∧ n ≤ Int64.maxValue.toInt

/-- **No total of some of the samples leaves the range of 64 bits.** -/
def Fits (ms : List Metric) : Prop := ∀ part, part.Sublist ms → InRange (total part)

@[simp] theorem total_nil : total [] = 0 := rfl

@[simp] theorem total_cons (m : Metric) (ms : List Metric) : total (m :: ms) = m.amount + total ms := rfl

@[simp] theorem total_append (ms more : List Metric) : total (ms ++ more) = total ms + total more := by
  rw [total, List.map_append, List.sum_append]
  rfl

theorem total_perm {ms ms' : List Metric} (h : ms.Perm ms') : total ms = total ms' := (h.map amount).sum_eq

theorem Fits.of_subperm {ms part : List Metric} (h : Fits ms) (hpart : part.Subperm ms) : Fits part := by
  intro l hl
  obtain ⟨l', hperm, hsub⟩ := hl.subperm.trans hpart
  rw [← total_perm hperm]
  exact h l' hsub

theorem toInt_saturatingAdd (a b : Int64) : (saturatingAdd a b).toInt =
    max Int64.minValue.toInt (min Int64.maxValue.toInt (a.toInt + b.toInt)) := by
  have hlt : max Int64.minValue.toInt (min Int64.maxValue.toInt (a.toInt + b.toInt)) < 2 ^ 63 :=
    max_lt (by decide) (min_lt_of_left_lt (by decide))
  exact Int64.toInt_ofInt_of_le (le_max_left _ _) hlt

theorem toInt_saturatingAdd_of_inRange {a b : Int64} (h : InRange (a.toInt + b.toInt)) :
    (saturatingAdd a b).toInt = a.toInt + b.toInt := by
  rw [toInt_saturatingAdd, min_eq_right h.2, max_eq_right h.1]

end Metric

end MetricRouter
