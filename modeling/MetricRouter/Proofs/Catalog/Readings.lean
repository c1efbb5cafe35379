import MetricRouter.Proofs.Catalog.Changes

/-!
# Readings of counters

What a reading is answered depends on the last reading of the same counter alone: on none of the other metrics, on
no spelling and on no other call. Differences that are answered in a row add up to the rise over all of them.

* `readingsOf`, `movement` — the readings of a counter since the last reset, and how far it moved to one;
* `get?_readings_after` — a catalog remembers the last reading of every counter;
* `movements`, `sum_movements` — the answers to the readings of a counter, and what differences add up to;
* `delta_after` — the main statement.
-/

namespace MetricRouter.Catalog

open Wire (FullName)

/-! ## What is read -/

/-- The value that a call reads of the counter with the full name `f`. -/
def Call.reading? (f : String) : Call → Option Int64
  | delta value n => if n.fqn = f then some value else none
  | _ => none

/-- The readings of a counter since the last reset, in order. -/
def readingsOf (calls : List Call) (f : String) : List Int64 :=
  (calls.rtakeWhile (fun k => decide (k ≠ .reset))).filterMap (Call.reading? f)

theorem readingsOf_reset (calls : List Call) (f : String) : readingsOf (calls ++ [.reset]) f = [] := by
  simp [readingsOf]

theorem readingsOf_concat {calls : List Call} {k : Call} (hk : k ≠ .reset) (f : String) :
    readingsOf (calls ++ [k]) f = readingsOf calls f ++ (k.reading? f).toList := by
  unfold readingsOf
  rw [List.rtakeWhile_concat_pos _ _ _ (by simpa using hk), List.filterMap_append]
  cases h : k.reading? f <;> simp [h]

/-- How far a counter moved to a reading: not at all at first, nor when it went back. -/
def movement (previous : Option Int64) (value : Int64) : Option Int64 :=
  match previous with
  | none => none
  | some p => if value < p then none else some (value - p)

section Reading

variable {c : Catalog} {k : Call} {f : String} {v : Int64}

/-- **A reading is answered by the last one**, and takes its place. -/
theorem delta_eq (c : Catalog) (v : Int64) (n : FullName) :
    c.delta v n.host n.agent n.name n.segments =
      (movement (c.readings.get? n.fqn) v, { c with readings := c.readings.insert n.fqn v }) := rfl

theorem readings_of_change {c' : Catalog} (hc : c.Filed) (h : Change c k c') (hreset : k ≠ .reset)
    (hdelta : ∀ v n, k ≠ .delta v n) : c'.readings = c.readings := by
  cases h with
  | kept => rfl
  | sighted n type => exact readings_sight hc n type
  | tokenized i => rfl
  | assigned n type => exact readings_sight hc n type
  | chosen t n type => exact readings_sight hc n type
  | read v n he => exact absurd he (hdelta v n)
  | forgotten he => exact absurd he hreset

theorem get?_readings_call (hc : c.Filed) (hk : k ≠ .reset) (f : String) :
    (c.call k).2.readings.get? f = (k.reading? f).or (c.readings.get? f) := by
  by_cases hdelta : ∃ v n, k = .delta v n
  · obtain ⟨v, n, rfl⟩ := hdelta
    show (c.readings.insert n.fqn v).get? f = _
    rw [Table.get?_insert]
    by_cases hf : n.fqn = f <;> simp [Call.reading?, hf]
  · have hno : ∀ v n, k ≠ .delta v n := fun v n e => hdelta ⟨v, n, e⟩
    have hreading : k.reading? f = none := by
      cases k with
      | delta v n => exact absurd rfl (hno v n)
      | _ => rfl
    rw [readings_of_change hc (change_call c k) hk hno, hreading, Option.none_or]

end Reading

/-- **A catalog remembers the last reading of every counter** since the last reset. -/
theorem get?_readings_after (s : KeyStrategy) (ts : Tokens) (calls : List Call) (f : String) :
    ((fresh s ts).after calls).readings.get? f = (readingsOf calls f).getLast? := by
  induction calls using List.reverseRecOn with
  | nil => rfl
  | append_singleton calls k ih =>
    have hc := filed_after (filed_fresh s ts) calls
    rw [after, Run.after_concat]
    by_cases hk : k = .reset
    · subst hk
      rw [readingsOf_reset]
      rfl
    · rw [get?_readings_call hc hk, ih, readingsOf_concat hk, List.getLast?_append]
      cases k.reading? f <;> rfl

/-! ## Movements -/

theorem movement_of_lt {p v : Int64} (h : v < p) : movement (some p) v = none := if_pos h

theorem movement_of_le {p v : Int64} (h : p ≤ v) (hfits : v.toInt - p.toInt < 2 ^ 63) :
    ∃ d, movement (some p) v = some d ∧ d.toInt = v.toInt - p.toInt := by
  have hle := Int64.le_iff_toInt_le.mp h
  refine ⟨v - p, if_neg (Int64.not_lt.mpr h), ?_⟩
  rw [Int64.toInt_sub]
  exact Int.bmod_eq_of_le (by omega) (by omega)

theorem exists_le_of_movement {previous : Option Int64} {v d : Int64} (h : movement previous v = some d) :
    ∃ p, previous = some p ∧ p ≤ v := by
  cases previous with
  | none => exact absurd h (by simp [movement])
  | some p =>
    by_cases hlt : v < p
    · rw [movement_of_lt hlt] at h
      exact absurd h (by simp)
    · exact ⟨p, rfl, Int64.not_lt.mp hlt⟩

/-- The movement in an answer. -/
def Answer.moved? : Answer → Option (Option Int64)
  | moved difference => some difference
  | _ => none

/-- What the readings of the counter with the full name `f` are answered, in order. -/
def movements (c : Catalog) (f : String) (calls : List Call) : List (Option Int64) :=
  ((calls.zip (c.answers calls)).filter (fun p => (p.1.reading? f).isSome)).filterMap (fun p => p.2.moved?)

/-- No reading of the counter rises by `2 ^ 63` or more over the one before. -/
def Gradual (readings : List Int64) : Prop := readings.IsChain fun p v => v.toInt - p.toInt < 2 ^ 63

section Movements

variable {c : Catalog} {f : String} {k : Call} {rest : List Call}

theorem movements_of_reading {v : Int64} (h : k.reading? f = some v) :
    c.movements f (k :: rest) = movement (c.readings.get? f) v :: (c.call k).2.movements f rest := by
  cases k with
  | delta w n =>
    obtain ⟨rfl, rfl⟩ : n.fqn = f ∧ w = v := by simpa [Call.reading?] using h
    unfold movements
    rw [answers, Run.answers, List.zip_cons_cons, List.filter_cons_of_pos (by simp [h])]
    rfl
  | _ => exact absurd h (by simp [Call.reading?])

theorem movements_of_other (h : k.reading? f = none) :
    c.movements f (k :: rest) = (c.call k).2.movements f rest := by
  unfold movements
  rw [answers, Run.answers, List.zip_cons_cons, List.filter_cons_of_neg (by simp [h])]

theorem length_movements (c : Catalog) (f : String) (calls : List Call) :
    (c.movements f calls).length = (calls.filterMap (Call.reading? f)).length := by
  induction calls generalizing c with
  | nil => rfl
  | cons k rest ih =>
    cases hk : k.reading? f with
    | none => rw [movements_of_other hk, List.filterMap_cons_none hk, ih]
    | some v => rw [movements_of_reading hk, List.filterMap_cons_some hk, List.length_cons, List.length_cons, ih]

theorem filterMap_reading?_of_none {calls : List Call} (hc : c.Filed) (hnone : c.readings.get? f = none)
    {ds : List Int64} (hds : c.movements f calls = ds.map some) : calls.filterMap (Call.reading? f) = [] := by
  induction calls generalizing c with
  | nil => rfl
  | cons k rest ih =>
    cases hk : k.reading? f with
    | some v =>
      rw [movements_of_reading hk, hnone] at hds
      cases ds with
      | nil => exact absurd hds (by simp)
      | cons d ds => exact absurd (List.cons.inj hds).1 (by simp [movement])
    | none =>
      rw [movements_of_other hk] at hds
      rw [List.filterMap_cons_none hk]
      refine ih (filed_of_change (change_call c k) hc) ?_ hds
      by_cases hreset : k = .reset
      · subst hreset
        rfl
      · rw [get?_readings_call hc hreset, hk, hnone]
        rfl

/-- **Differences that are answered in a row are not negative, and add up** to the last reading less the one that
they start from. -/
theorem sum_movements {calls : List Call} (hc : c.Filed) {b : Int64} (hb : c.readings.get? f = some b)
    {ds : List Int64} (hds : c.movements f calls = ds.map some)
    (hgradual : Gradual (b :: calls.filterMap (Call.reading? f))) :
    (∀ d ∈ ds, 0 ≤ d.toInt) ∧
      (ds.map Int64.toInt).sum = ((calls.filterMap (Call.reading? f)).getLastD b).toInt - b.toInt := by
  induction calls generalizing c b ds with
  | nil =>
    obtain rfl : ds = [] := List.map_eq_nil_iff.mp hds.symm
    simp
  | cons k rest ih =>
    have hc' := filed_of_change (change_call c k) hc
    cases hk : k.reading? f with
    | none =>
      rw [movements_of_other hk] at hds
      rw [List.filterMap_cons_none hk] at hgradual ⊢
      by_cases hreset : k = .reset
      · -- nothing is read after a reset, since the first reading would not be answered with a difference
        subst hreset
        have hnil := filterMap_reading?_of_none hc' rfl hds
        have hlength := congrArg List.length hds
        rw [length_movements, hnil, List.length_map] at hlength
        obtain rfl : ds = [] := List.length_eq_zero_iff.mp hlength.symm
        rw [hnil]
        simp
      · refine ih hc' ?_ hds hgradual
        rw [get?_readings_call hc hreset, hk, hb]
        rfl
    | some v =>
      rw [movements_of_reading hk, hb] at hds
      rw [List.filterMap_cons_some hk] at hgradual ⊢
      obtain ⟨hrise, hrest⟩ := List.isChain_cons_cons.mp hgradual
      cases ds with
      | nil => exact absurd hds (by simp)
      | cons d ds =>
        obtain ⟨hd, htail⟩ := List.cons.inj hds
        obtain ⟨p, hp, hle⟩ := exists_le_of_movement hd
        obtain rfl := Option.some.inj hp
        obtain ⟨d', hd', hvalue⟩ := movement_of_le hle hrise
        obtain rfl := Option.some.inj (hd'.symm.trans hd)
        have hread : (c.call k).2.readings.get? f = some v := by
          rw [get?_readings_call hc (by rintro rfl; exact absurd hk (by simp [Call.reading?])), hk]
          rfl
        obtain ⟨hpos, hsum⟩ := ih hc' hread htail hrest
        have hle' := Int64.le_iff_toInt_le.mp hle
        rw [List.forall_mem_cons, List.map_cons, List.sum_cons, List.getLastD_cons, hsum]
        exact ⟨⟨by omega, hpos⟩, by omega⟩

end Movements

/-- **A reading is answered by the last one of the same counter.** Two catalogs that were told the same readings of
a counter since the last reset answer its next reading alike, whatever their keys are, whatever else they were asked
and however the name is spelled. The first reading is not answered with a difference, and neither is one below the
last; else the difference is the rise over the last reading. Every reading is what the next differences start from:
those that are answered in a row after it are not negative, and add up to the last reading of the row less this
one. A reading changes nothing but what the catalog remembers of the counter: no identity, no token and not the
size. -/
theorem delta_after (s : KeyStrategy) (ts : Tokens) (calls : List Call) (v : Int64) (n : FullName) :
    let c := (fresh s ts).after calls
    let r := c.delta v n.host n.agent n.name n.segments
    (∀ s' ts' calls' (n' : FullName), n'.fqn = n.fqn → readingsOf calls' n.fqn = readingsOf calls n.fqn →
      (((fresh s' ts').after calls').delta v n'.host n'.agent n'.name n'.segments).1 = r.1) ∧
    (readingsOf calls n.fqn = [] → r.1 = none) ∧
    (∀ p, (readingsOf calls n.fqn).getLast? = some p → v < p → r.1 = none) ∧
    (∀ p, (readingsOf calls n.fqn).getLast? = some p → p ≤ v → v.toInt - p.toInt < 2 ^ 63 →
      ∃ d, r.1 = some d ∧ d.toInt = v.toInt - p.toInt) ∧
    (∀ (row : List Call) (ds : List Int64), r.2.movements n.fqn row = ds.map some →
      Gradual (v :: row.filterMap (Call.reading? n.fqn)) →
      (∀ d ∈ ds, 0 ≤ d.toInt) ∧
        (ds.map Int64.toInt).sum = ((row.filterMap (Call.reading? n.fqn)).getLastD v).toInt - v.toInt) ∧
    r.2 = { c with readings := r.2.readings } ∧ (∀ i, r.2.Holds i ↔ c.Holds i) ∧ r.2.token = c.token ∧
      r.2.size = c.size := by
  intro c r
  have hanswer (s' : KeyStrategy) (ts' : Tokens) (calls' : List Call) (n' : FullName) :
      (((fresh s' ts').after calls').delta v n'.host n'.agent n'.name n'.segments).1 =
        movement (readingsOf calls' n'.fqn).getLast? v := by
    rw [delta_eq, get?_readings_after]
  have hr : r.1 = movement (readingsOf calls n.fqn).getLast? v := hanswer s ts calls n
  have hc : c.Filed := filed_after (filed_fresh s ts) calls
  refine ⟨?_, ?_, ?_, ?_, ?_, rfl, fun i => Iff.rfl, rfl, rfl⟩
  · intro s' ts' calls' n' hname hsame
    rw [hr, hanswer, hname, hsame]
  · intro hnil
    rw [hr, hnil]
    rfl
  · intro p hp hlt
    rw [hr, hp]
    exact movement_of_lt hlt
  · intro p hp hle hfits
    rw [hr, hp]
    exact movement_of_le hle hfits
  · intro row ds hds hgradual
    have hread : r.2.readings.get? n.fqn = some v := by
      show (c.readings.insert n.fqn v).get? n.fqn = some v
      rw [Table.get?_insert, if_pos rfl]
    exact sum_movements (filed_of_change (change_call c (.delta v n)) hc) hread hds hgradual

end MetricRouter.Catalog
