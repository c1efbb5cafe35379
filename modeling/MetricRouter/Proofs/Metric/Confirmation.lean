import Mathlib
import MetricRouter.Ingest

/-!
# What a confirmation tells apart

The key of a confirmation is the name of the metric with the time of the sample right behind it. Nothing stands between
the two, and a name may end in the characters that times are written with.

* `Metric.RunsInto`, `EndsInNumeral` — a time whose beginning another name has taken over, and names that can do so;
* `confirmKey_eq_iff` — keys are the same if name and time are, or if one sample runs into the other;
* `endsInNumeral_of_runsInto`, `time_ne_of_runsInto` — what this takes;
* `confirmKey_tells_apart` — the main statement;
* `confirmKey_of_digit` — two samples with one key.
-/

namespace MetricRouter

/-- Does the text end in a digit or a hyphen? -/
def EndsInNumeral (s : String) : Prop := ∃ c, s.toList.getLast? = some c ∧ (c.isDigit = true ∨ c = '-')

namespace Metric

variable {m n : Metric}

/-- The name of `n` is that of `m` with a beginning of the time of `m` behind it, and the time of `n` is the rest. -/
def RunsInto (m n : Metric) : Prop :=
  ∃ u : String, u ≠ "" ∧ n.fqn = m.fqn ++ u ∧ toString m.time.toInt = u ++ toString n.time.toInt

/-! ## Times -/

theorem numeral_of_mem_toString {i : Int} {c : Char} (h : c ∈ (toString i).toList) : c.isDigit = true ∨ c = '-' := by
  have hdigit : ∀ k : Nat, c ∈ k.repr.toList → c.isDigit = true := fun k hk => by
    rw [Nat.toList_repr] at hk
    exact Nat.isDigit_of_mem_toDigits (by decide) (by decide) hk
  rw [Int.toString_eq_repr, Int.repr_eq_if] at h
  split at h
  · exact Or.inl (hdigit _ h)
  · rw [String.toList_append, List.mem_append] at h
    exact h.symm.imp (hdigit _) fun hsign => by simpa using hsign

theorem time_eq_of_toString (h : toString m.time.toInt = toString n.time.toInt) : m.time = n.time := by
  rw [Int.toString_eq_repr, Int.toString_eq_repr, Int.repr_inj] at h
  exact Int64.toInt_inj.mp h

/-! ## Keys -/

theorem RunsInto.confirmKey_eq (h : m.RunsInto n) : m.confirmKey = n.confirmKey := by
  obtain ⟨u, -, hname, htime⟩ := h
  rw [confirmKey, confirmKey, hname, htime, String.append_assoc]

/-- Keys that agree are cut in the same place, or the longer name has taken over a beginning of the other's time. -/
theorem runsInto_of_append {u : List Char} (hname : n.fqn.toList = m.fqn.toList ++ u)
    (htime : (toString m.time.toInt).toList = u ++ (toString n.time.toInt).toList) :
    (m.fqn = n.fqn ∧ m.time = n.time) ∨ m.RunsInto n := by
  cases u with
  | nil =>
    refine Or.inl ⟨String.toList_inj.mp ?_, time_eq_of_toString (String.toList_inj.mp htime)⟩
    rw [hname, List.append_nil]
  | cons c rest =>
    refine Or.inr ⟨String.ofList (c :: rest), fun hempty => ?_, String.toList_inj.mp ?_, String.toList_inj.mp ?_⟩
    · simpa using congrArg String.toList hempty
    · rw [String.toList_append, String.toList_ofList, hname]
    · rw [String.toList_append, String.toList_ofList, htime]

/-- **Keys are the same if name and time are, or if one sample runs into the other.** -/
theorem confirmKey_eq_iff :
    m.confirmKey = n.confirmKey ↔ (m.fqn = n.fqn ∧ m.time = n.time) ∨ m.RunsInto n ∨ n.RunsInto m := by
  constructor
  · intro h
    have hcut := congrArg String.toList h
    rw [confirmKey, confirmKey, String.toList_append, String.toList_append] at hcut
    rcases List.append_eq_append_iff.mp hcut with ⟨u, hname, htime⟩ | ⟨u, hname, htime⟩
    · exact (runsInto_of_append hname htime).imp_right Or.inl
    · exact (runsInto_of_append hname htime).imp (fun hsame => ⟨hsame.1.symm, hsame.2.symm⟩) Or.inr
  · rintro (⟨hname, htime⟩ | hruns | hruns)
    · rw [confirmKey, confirmKey, hname, htime]
    · exact hruns.confirmKey_eq
    · exact hruns.confirmKey_eq.symm

/-- The longer name ends in a character of the other's time. -/
theorem endsInNumeral_of_runsInto (h : m.RunsInto n) : EndsInNumeral n.fqn := by
  obtain ⟨u, hu, hname, htime⟩ := h
  have hne : u.toList ≠ [] := fun hnil => hu (String.toList_inj.mp hnil)
  refine ⟨u.toList.getLast hne, ?_, numeral_of_mem_toString (i := m.time.toInt) ?_⟩
  · rw [hname, String.toList_append, List.getLast?_append_of_ne_nil _ hne, List.getLast?_eq_getLast_of_ne_nil hne]
  · rw [htime, String.toList_append]
    exact List.mem_append_left _ (List.getLast_mem hne)

theorem time_ne_of_runsInto (h : m.RunsInto n) : m.time ≠ n.time := by
  obtain ⟨u, hu, -, htime⟩ := h
  intro hsame
  have hlist := congrArg String.toList htime
  rw [hsame, String.toList_append, List.self_eq_append_left] at hlist
  exact hu (String.toList_inj.mp hlist)

theorem fqn_ne_of_runsInto (h : m.RunsInto n) : m.fqn ≠ n.fqn := by
  obtain ⟨u, hu, hname, -⟩ := h
  intro hsame
  have hlist := congrArg String.toList hname
  rw [hsame, String.toList_append, List.self_eq_append_right] at hlist
  exact hu (String.toList_inj.mp hlist)

/-- **What keys tell apart.** Two samples have one key exactly if name and time are the same, or if one name is the
other with a beginning of the other's time behind it, and its time is the rest of that. So samples that differ in name
or time have different keys if one of the two is the same after all, or if neither name ends in a digit or a hyphen. -/
theorem confirmKey_tells_apart (m n : Metric) :
    (m.confirmKey = n.confirmKey ↔ (m.fqn = n.fqn ∧ m.time = n.time) ∨ m.RunsInto n ∨ n.RunsInto m) ∧
    (m.fqn ≠ n.fqn ∨ m.time ≠ n.time →
      m.fqn = n.fqn ∨ m.time = n.time ∨ (¬ EndsInNumeral m.fqn ∧ ¬ EndsInNumeral n.fqn) →
      m.confirmKey ≠ n.confirmKey) := by
  refine ⟨confirmKey_eq_iff, fun hdiffer hcase hkey => ?_⟩
  rcases confirmKey_eq_iff.mp hkey with ⟨hname, htime⟩ | hruns | hruns
  · exact hdiffer.elim (absurd hname) (absurd htime)
  · rcases hcase with hname | htime | ⟨-, hn⟩
    · exact fqn_ne_of_runsInto hruns hname
    · exact time_ne_of_runsInto hruns htime
    · exact hn (endsInNumeral_of_runsInto hruns)
  · rcases hcase with hname | htime | ⟨hm, -⟩
    · exact fqn_ne_of_runsInto hruns hname.symm
    · exact time_ne_of_runsInto hruns htime.symm
    · exact hm (endsInNumeral_of_runsInto hruns)

open Wire (Batch)

/-- Two samples with one key: a name that ends in the first digit of the other's time. An agent that sends both is
confirmed the same key twice. -/
theorem confirmKey_of_digit :
    let sampled (name : String) (time : Int64) : Metric :=
      ⟨(Tokens.empty.create "h" "a" name .gauge []).1, time, .long 1⟩
    let sent (name : String) (time : Int64) : Wire.Incoming := ⟨.named ⟨"h", "a", [], name⟩, .gauge, time, .long 1⟩
    let b : Batch := ⟨.sendMetricDirect, some ⟨.v4 10 0 0 1, 9000, 0⟩, [sent "x" 123, sent "x1" 23], 0, 0⟩
    (sampled "x" 123).fqn ≠ (sampled "x1" 23).fqn ∧ (sampled "x" 123).time ≠ (sampled "x1" 23).time ∧
      (sampled "x" 123).confirmKey = (sampled "x1" 23).confirmKey ∧
      ((Ingest.create (.fresh .byName) 10).handle 0 b).1 =
        [.tokenAssign "h/a:x" 1, .confirm "h/a:x123", .tokenAssign "h/a:x1" 2, .confirm "h/a:x123"] := by
  decide +kernel

end Metric

end MetricRouter
