import MetricRouter.Proofs.DelayQueue
import MetricRouter.Proofs.Run

/-!
# Which drain returns a slot

A slot is created by a call that finds none under its deadline, and it stays until a drain reaches its deadline or all
slots are dropped. Equal values may be filed again and again, so the slots of a run are told apart by the numbers of
the calls that created them: the values of a run are numbered, and the numbers are carried along.

* `Call`, `Answer`, `call` — what can be asked of a queue, and what is answered;
* `get?_call` — what a call does to the slot under a deadline;
* `map`, `call_map`, `numbered`, `map_snd_numbered` — values are only carried along, so numbers change nothing;
* `FiledBy`, `filedBy_concat`, `get?_tracked_iff` — which call created the slot that is held under a deadline;
* `deadlines`, `size_eq_ncard`, `nextDeadline_eq_some_iff` — what is held, as a set;
* `returned_by_first_reaching` — the main statement.
-/

namespace MetricRouter.DelayQueue

variable {ν μ : Type}

/-! ## Calls -/

/-- What can be asked of a queue. -/
inductive Call (ν : Type) where
  /-- The value at a deadline, filed now if there is none. -/
  | file (deadline : UInt64) (init : ν)
  /-- The slots whose deadline is reached are taken out. -/
  | drain (now : UInt64)
  /-- All slots are dropped. -/
  | clear

/-- What is answered. -/
inductive Answer (ν : Type) where
  /-- The value held, and whether it was filed now. -/
  | held (v : ν) (new : Bool)
  | drained (slots : List (UInt64 × ν))
  | cleared

/-- What is answered to a call, and the queue after it. -/
def call (q : DelayQueue ν) : Call ν → Answer ν × DelayQueue ν
  | .file d v =>
    let (q, held, new) := q.getOrInsert d v
    (.held held new, q)
  | .drain now =>
    let (slots, q) := q.drainExpired now
    (.drained slots, q)
  | .clear => (.cleared, q.clear)

/-- What is answered to calls that are made in order. -/
abbrev answers (q : DelayQueue ν) (calls : List (Call ν)) : List (Answer ν) := Run.answers call q calls

/-- The queue after calls that are made in order. -/
abbrev after (q : DelayQueue ν) (calls : List (Call ν)) : DelayQueue ν := Run.after call q calls

/-- Does the call take away what is held under the deadline? -/
def Call.takes (d : UInt64) : Call ν → Bool
  | file _ _ => false
  | drain now => d ≤ now
  | clear => true

/-- The value that the call files under the deadline if it finds none. -/
def Call.filed? (d : UInt64) : Call ν → Option ν
  | file d' v => if d' = d then some v else none
  | _ => none

theorem Call.filed?_eq_some_iff {k : Call ν} {d : UInt64} {v : ν} : k.filed? d = some v ↔ k = .file d v := by
  cases k with
  | file d' w =>
    by_cases hd : d' = d
    · simp [filed?, hd]
    · simp [filed?, hd]
  | drain now => simp [filed?]
  | clear => simp [filed?]

/-- **What a call does to the slot under a deadline**: it takes it away, or it keeps what is held and files its own
value where nothing is. -/
theorem get?_call (q : DelayQueue ν) (k : Call ν) (d : UInt64) :
    (q.call k).2.get? d = if k.takes d then none else (q.get? d).or (k.filed? d) := by
  cases k with
  | file d' v =>
    show (q.getOrInsert d' v).1.get? d = (q.get? d).or (if d' = d then some v else none)
    rw [get?_getOrInsert]
    by_cases hd : d' = d
    · subst hd
      cases h : q.get? d' <;> simp
    · simp [hd]
  | drain now =>
    show (q.drainExpired now).2.get? d = _
    rw [get?_drainExpired]
    by_cases hd : d ≤ now <;> simp [Call.takes, Call.filed?, hd]
  | clear => rfl

/-! ## Other values -/

section Map

variable (f : ν → μ)

theorem eq_of_slots {q r : DelayQueue ν} (h : q.slots = r.slots) : q = r := by
  cases q
  cases r
  cases h
  rfl

/-- The queue with its values changed. -/
def map (q : DelayQueue ν) : DelayQueue μ := ⟨q.slots.map (Prod.map id f), List.pairwise_map.mpr q.sorted⟩

theorem slots_map (q : DelayQueue ν) : (q.map f).slots = q.slots.map (Prod.map id f) := rfl

/-- The call with its value changed. -/
def Call.map : Call ν → Call μ
  | file d v => .file d (f v)
  | drain now => .drain now
  | clear => .clear

/-- The answer with its values changed. -/
def Answer.map : Answer ν → Answer μ
  | held v new => .held (f v) new
  | drained slots => .drained (slots.map (Prod.map id f))
  | cleared => .cleared

theorem lookup_map (l : List (UInt64 × ν)) (d : UInt64) :
    lookup (l.map (Prod.map id f)) d = (lookup l d).map f := by
  induction l with
  | nil => rfl
  | cons s rest ih =>
    obtain ⟨d', v⟩ := s
    by_cases hd : d' = d
    · simp [lookup, hd]
    · simpa [lookup, hd] using ih

theorem place_map (l : List (UInt64 × ν)) (d : UInt64) (v : ν) :
    place d (f v) (l.map (Prod.map id f)) = (place d v l).map (Prod.map id f) := by
  induction l with
  | nil => rfl
  | cons s rest ih =>
    obtain ⟨d', v'⟩ := s
    simp only [List.map_cons, Prod.map_apply, id_eq, place]
    split
    · rfl
    · split
      · rfl
      · rw [ih]
        rfl

variable (q : DelayQueue ν)

theorem get?_map (d : UInt64) : (q.map f).get? d = (q.get? d).map f := lookup_map f q.slots d

/-- **Values are only carried along.** -/
theorem call_map (k : Call ν) : (q.map f).call (k.map f) = ((q.call k).1.map f, (q.call k).2.map f) := by
  cases k with
  | file d v =>
    have hget := get?_map f q d
    simp only [call, Call.map, getOrInsert]
    cases hheld : q.get? d with
    | some held =>
      rw [hheld] at hget
      simp only [hget]
      rfl
    | none =>
      rw [hheld] at hget
      simp only [hget]
      exact Prod.ext rfl (eq_of_slots (place_map f q.slots d v))
  | drain now =>
    have hdrained : ((q.map f).drainExpired now).1 = (q.drainExpired now).1.map (Prod.map id f) := by
      rw [drainExpired_fst, drainExpired_fst, slots_map, List.filter_map]
      rfl
    have hleft : ((q.map f).drainExpired now).2 = (q.drainExpired now).2.map f := by
      apply eq_of_slots
      rw [slots_drainExpired, slots_map, slots_map, slots_drainExpired, List.filter_map]
      rfl
    simp only [call, Call.map, Answer.map, hdrained, hleft]
  | clear => rfl

theorem answers_map (calls : List (Call ν)) :
    (q.map f).answers (calls.map (Call.map f)) = (q.answers calls).map (Answer.map f) := by
  induction calls generalizing q with
  | nil => rfl
  | cons k rest ih =>
    simp only [List.map_cons, Run.answers, call_map]
    exact congrArg _ (ih (q.call k).2)

theorem after_map (calls : List (Call ν)) : (q.map f).after (calls.map (Call.map f)) = (q.after calls).map f := by
  induction calls generalizing q with
  | nil => rfl
  | cons k rest ih =>
    simp only [List.map_cons, Run.after, call_map]
    exact ih (q.call k).2

theorem takes_map (k : Call ν) (d : UInt64) : (k.map f).takes d = k.takes d := by cases k <;> rfl

theorem filed?_map (k : Call ν) (d : UInt64) : (k.map f).filed? d = (k.filed? d).map f := by
  cases k with
  | file d' v =>
    by_cases hd : d' = d
    · simp [Call.map, Call.filed?, hd]
    · simp [Call.map, Call.filed?, hd]
  | drain now => rfl
  | clear => rfl

end Map

/-! ## Numbered slots -/

/-- The calls with the values that they file numbered by the calls. -/
def numbered (calls : List (Call ν)) : List (Call (Nat × ν)) := calls.mapIdx fun n k => k.map (n, ·)

theorem numbered_concat (calls : List (Call ν)) (k : Call ν) :
    numbered (calls ++ [k]) = numbered calls ++ [k.map (calls.length, ·)] := List.mapIdx_concat

/-- **Numbers are only names**: without them the calls are what they were. -/
theorem map_snd_numbered (calls : List (Call ν)) : (numbered calls).map (Call.map Prod.snd) = calls := by
  induction calls using List.reverseRecOn with
  | nil => rfl
  | append_singleton calls k ih =>
    rw [numbered_concat, List.map_append, ih]
    cases k <;> rfl

/-- The queue of numbered values after calls on a queue without a slot. -/
abbrev tracked (calls : List (Call ν)) : DelayQueue (Nat × ν) := empty.after (numbered calls)

theorem map_snd_tracked (calls : List (Call ν)) : (tracked calls).map Prod.snd = empty.after calls := by
  have h := after_map Prod.snd empty (numbered calls)
  rw [map_snd_numbered] at h
  exact h.symm

theorem get?_tracked_eq_none_iff (calls : List (Call ν)) (d : UInt64) :
    (tracked calls).get? d = none ↔ (empty.after calls).get? d = none := by
  rw [← map_snd_tracked, get?_map, Option.map_eq_none_iff]

theorem get?_tracked_concat (calls : List (Call ν)) (k : Call ν) (d : UInt64) :
    (tracked (calls ++ [k])).get? d =
      if k.takes d then none else ((tracked calls).get? d).or ((k.filed? d).map (calls.length, ·)) := by
  rw [tracked, numbered_concat, after, Run.after_concat, get?_call, takes_map, filed?_map]

/-! ## Which call created a slot -/

section Filed

/-- **The slot under a deadline is the one that a call created**: the call found none there, and since then none has
taken it away. -/
def FiledBy (calls : List (Call ν)) (d : UInt64) (n : Nat) (v : ν) : Prop :=
  ∃ earlier later, calls = earlier ++ .file d v :: later ∧ n = earlier.length ∧
    (empty.after earlier).get? d = none ∧ ∀ k ∈ later, k.takes d = false

variable {calls : List (Call ν)} {d : UInt64} {n : Nat} {v : ν}

theorem filedBy_concat {k : Call ν} : FiledBy (calls ++ [k]) d n v ↔
    (k.takes d = false ∧ FiledBy calls d n v) ∨
      (k = .file d v ∧ n = calls.length ∧ (empty.after calls).get? d = none) := by
  constructor
  · rintro ⟨earlier, later, hsplit, hn, hfree, hkept⟩
    rcases List.eq_nil_or_concat later with rfl | ⟨later, last, rfl⟩
    · obtain ⟨rfl, hlast⟩ := List.append_inj' hsplit rfl
      exact Or.inr ⟨List.head_eq_of_cons_eq hlast, hn, hfree⟩
    · rw [List.concat_eq_append, ← List.cons_append, ← List.append_assoc] at hsplit
      obtain ⟨rfl, hlast⟩ := List.append_inj' hsplit rfl
      obtain rfl := List.head_eq_of_cons_eq hlast
      rw [List.concat_eq_append, List.forall_mem_append] at hkept
      exact Or.inl ⟨hkept.2 k (List.mem_singleton_self k), earlier, later, rfl, hn, hfree, hkept.1⟩
  · rintro (⟨htakes, earlier, later, rfl, hn, hfree, hkept⟩ | ⟨rfl, hn, hfree⟩)
    · refine ⟨earlier, later ++ [k], by simp, hn, hfree, ?_⟩
      intro l hl
      rcases List.mem_append.mp hl with hl | hl
      · exact hkept l hl
      · rw [List.mem_singleton.mp hl]
        exact htakes
    · exact ⟨calls, [], rfl, hn, hfree, by simp⟩

/-- **The slots that are held are those that were created and not taken away since.** -/
theorem get?_tracked_iff : (tracked calls).get? d = some (n, v) ↔ FiledBy calls d n v := by
  induction calls using List.reverseRecOn with
  | nil => simp [FiledBy, tracked, numbered, after, Run.after, empty, get?, lookup]
  | append_singleton calls k ih =>
    rw [get?_tracked_concat, filedBy_concat, ← ih, ← get?_tracked_eq_none_iff]
    by_cases htakes : k.takes d = true
    · have hfile : k ≠ .file d v := by
        rintro rfl
        exact absurd htakes (by simp [Call.takes])
      simp [htakes, hfile]
    · have hnew : (k.filed? d).map (calls.length, ·) = some (n, v) ↔ k = .file d v ∧ n = calls.length := by
        rw [Option.map_eq_some_iff, ← Call.filed?_eq_some_iff]
        constructor
        · rintro ⟨w, hw, hpair⟩
          obtain ⟨rfl, rfl⟩ := Prod.mk.inj hpair
          exact ⟨hw, rfl⟩
        · rintro ⟨hw, rfl⟩
          exact ⟨v, hw, rfl⟩
      rw [if_neg htakes, Option.or_eq_some_iff, hnew, and_rotate]
      simp [htakes]

theorem filedBy_of_created {earlier later : List (Call ν)} {w : ν}
    (hfree : (empty.after earlier).get? d = none) :
    FiledBy (earlier ++ .file d v :: later) d earlier.length w ↔ w = v ∧ ∀ k ∈ later, k.takes d = false := by
  constructor
  · rintro ⟨earlier', later', hsplit, hlength, -, hkept⟩
    obtain ⟨rfl, hrest⟩ := List.append_inj hsplit hlength
    obtain ⟨hcall, rfl⟩ := List.cons_eq_cons.mp hrest
    exact ⟨(Call.file.inj hcall).2.symm, hkept⟩
  · rintro ⟨rfl, hkept⟩
    exact ⟨earlier, later, rfl, rfl, hfree, hkept⟩

end Filed

/-! ## What is held -/

section Held

variable (q : DelayQueue ν) (d now : UInt64) (v : ν)

/-- The deadlines under which something is held. -/
def deadlines : Set UInt64 := {d | ∃ v, q.get? d = some v}

theorem mem_deadlines_iff : d ∈ q.deadlines ↔ ∃ s ∈ q.slots, s.1 = d := by
  constructor
  · rintro ⟨v, hv⟩
    exact ⟨(d, v), (get?_eq_some_iff q d v).mp hv, rfl⟩
  · rintro ⟨⟨d', v⟩, hs, rfl⟩
    exact ⟨v, (get?_eq_some_iff q d' v).mpr hs⟩

theorem size_eq_ncard : q.size = q.deadlines.ncard := by
  have hnodup : (q.slots.map Prod.fst).Nodup :=
    List.pairwise_map.mpr (q.sorted.imp fun h => UInt64.ne_of_lt h)
  have hset : q.deadlines = ((q.slots.map Prod.fst).toFinset : Set UInt64) := by
    ext d
    rw [mem_deadlines_iff]
    simp
  rw [hset, Set.ncard_coe_finset, List.toFinset_card_of_nodup hnodup, List.length_map]
  rfl

theorem isEmpty_iff : q.isEmpty = true ↔ q.deadlines = ∅ := by
  rw [isEmpty, List.isEmpty_iff, Set.eq_empty_iff_forall_notMem]
  simp only [mem_deadlines_iff]
  constructor
  · intro h
    simp [h]
  · intro h
    exact List.eq_nil_iff_forall_not_mem.mpr fun s hs => h s.1 ⟨s, hs, rfl⟩

theorem nextDeadline_eq_some_iff : q.nextDeadline = some d ↔ IsLeast q.deadlines d := by
  have hleast : ∀ first, q.nextDeadline = some first → IsLeast q.deadlines first := by
    intro first h
    constructor
    · obtain ⟨s, hs, hfirst⟩ := Option.map_eq_some_iff.mp h
      exact (q.mem_deadlines_iff first).mpr ⟨s, List.mem_of_head? hs, hfirst⟩
    · intro d hd
      obtain ⟨s, hs, rfl⟩ := (q.mem_deadlines_iff d).mp hd
      exact q.nextDeadline_le h s hs
  refine ⟨hleast d, fun h => ?_⟩
  cases hnext : q.nextDeadline with
  | none =>
    obtain ⟨s, hs, -⟩ := (q.mem_deadlines_iff d).mp h.1
    rw [q.nextDeadline_eq_none_iff.mp hnext] at hs
    exact absurd hs List.not_mem_nil
  | some first =>
    have hfirst := hleast first hnext
    rw [UInt64.le_antisymm (hfirst.2 h.1) (h.2 hfirst.1)]

theorem pairwise_drainExpired : (q.drainExpired now).1.Pairwise (fun a b => a.1 < b.1) := by
  rw [drainExpired_fst]
  exact q.sorted.filter _

theorem mem_drainExpired_iff : (d, v) ∈ (q.drainExpired now).1 ↔ d ≤ now ∧ q.get? d = some v := by
  rw [drainExpired_fst, List.mem_filter, get?_eq_some_iff, decide_eq_true_eq, and_comm]

theorem getOrInsert_new_iff : (q.getOrInsert d v).2.2 = true ↔ q.get? d = none := by
  unfold getOrInsert
  cases h : q.get? d <;> simp

end Held

/-- **Every slot is returned by the first drain that reaches its deadline, and by no other.** After any calls on a queue
that starts without a slot:

* filing never replaces what is held under a deadline, and files a value exactly when there is none;
* a drain returns exactly what is held under the deadlines that are reached, in strictly increasing order, and leaves
  exactly the rest;
* numbering the values changes nothing but the values, and a numbered slot that was created by a call is returned by
  the next drain exactly when that drain reaches its deadline while no call in between did, or dropped all slots; and
  whatever is returned was created by such a call;
* the number of slots, whether there is one, and the earliest deadline are those of the set of deadlines held. -/
theorem returned_by_first_reaching (calls : List (Call ν)) :
    let q := empty.after calls
    (∀ d v, ((q.getOrInsert d v).2.2 = true ↔ q.get? d = none) ∧ (q.getOrInsert d v).2.1 = (q.get? d).getD v ∧
      ∀ x, (q.getOrInsert d v).1.get? x = if d = x then some ((q.get? d).getD v) else q.get? x) ∧
    (∀ now, (q.drainExpired now).1.Pairwise (fun a b => a.1 < b.1) ∧
      (∀ d v, (d, v) ∈ (q.drainExpired now).1 ↔ d ≤ now ∧ q.get? d = some v) ∧
      ∀ d, (q.drainExpired now).2.get? d = if d ≤ now then none else q.get? d) ∧
    (empty.answers (numbered calls)).map (Answer.map Prod.snd) = empty.answers calls ∧
    (tracked calls).map Prod.snd = q ∧
    (∀ earlier d v later, calls = earlier ++ .file d v :: later → (empty.after earlier).get? d = none →
      ∀ now w, (d, (earlier.length, w)) ∈ ((tracked calls).drainExpired now).1 ↔
        w = v ∧ d ≤ now ∧ ∀ k ∈ later, k.takes d = false) ∧
    (∀ now d n v, (d, (n, v)) ∈ ((tracked calls).drainExpired now).1 → FiledBy calls d n v) ∧
    q.size = q.deadlines.ncard ∧ (q.isEmpty = true ↔ q.deadlines = ∅) ∧
    ∀ d, q.nextDeadline = some d ↔ IsLeast q.deadlines d := by
  intro q
  refine ⟨fun d v => ⟨q.getOrInsert_new_iff d v, q.getOrInsert_snd d v, fun x => q.get?_getOrInsert d x v⟩,
    fun now => ⟨q.pairwise_drainExpired now, fun d v => q.mem_drainExpired_iff d now v, fun d => q.get?_drainExpired d now⟩,
    ?_, map_snd_tracked calls, ?_, ?_, q.size_eq_ncard, q.isEmpty_iff, q.nextDeadline_eq_some_iff⟩
  · have h := answers_map Prod.snd empty (numbered calls)
    rw [map_snd_numbered] at h
    exact h.symm
  · rintro earlier d v later rfl hfree now w
    rw [mem_drainExpired_iff, get?_tracked_iff, filedBy_of_created hfree]
    exact and_left_comm
  · intro now d n v h
    exact get?_tracked_iff.mp ((mem_drainExpired_iff _ d now _).mp h).2

/-- The same value is filed twice under one deadline, with a drain in between. The last drain, at the last instant,
returns the second slot and not the first. -/
theorem returned_by_first_reaching_of_refiled :
    let calls : List (Call Nat) := [.file 5 7, .drain 5, .file 5 7, .file lastInstant 8, .drain 4]
    (empty.after ([] : List (Call Nat))).get? 5 = none ∧ (empty.after (calls.take 2)).get? 5 = none ∧
      ((tracked calls).drainExpired lastInstant).1 = [(5, (2, 7)), (lastInstant, (3, 8))] ∧
      ¬ (5, (0, 7)) ∈ ((tracked calls).drainExpired lastInstant).1 ∧
      (5, (2, 7)) ∈ ((tracked calls).drainExpired lastInstant).1 := by
  intro calls
  obtain ⟨-, -, -, -, hcreated, -⟩ := returned_by_first_reaching calls
  have hfirst : (empty.after ([] : List (Call Nat))).get? 5 = none := rfl
  have hsecond : (empty.after (calls.take 2)).get? 5 = none := by decide +kernel
  refine ⟨hfirst, hsecond, by decide +kernel, ?_, ?_⟩
  · intro h
    have hkept := ((hcreated [] 5 7 (calls.drop 1) rfl hfirst lastInstant 7).mp h).2.2
    exact absurd (hkept (.drain 5) List.mem_cons_self) (by decide)
  · refine (hcreated (calls.take 2) 5 7 (calls.drop 3) rfl hsecond lastInstant 7).mpr ⟨rfl, le_lastInstant 5, ?_⟩
    simp [calls, Call.takes]

end MetricRouter.DelayQueue
