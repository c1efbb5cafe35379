import MetricRouter.Proofs.Conflation.Calls
import MetricRouter.Proofs.Table

/-!
# Windows

What one filing does to the windows, and what every run of calls keeps.

* `Filing`, `filing_file` — the four ways in which a sample is filed;
* `held?_of_filing`, `entryCount_of_filing` — what a filing does to one entry, and to their number;
* `Taken`, `taken_foldl_file` — filings count every sample once;
* `Sound` — the invariant: entries stand under their own names, and they are counted and fit;
* `sound_of_filing`, `sound_enqueue` — filings keep it.
-/

namespace MetricRouter

theorem Metric.fqn_of_conflate {held m merged : Metric} (h : held.conflate m = .ok merged) :
    merged.fqn = held.fqn := by
  unfold conflate at h
  split at h
  · exact absurd h (by simp)
  · split at h
    · exact absurd h (by simp)
    · rw [← Except.ok.inj h]
      rfl

namespace Conflation

theorem fqn_absorb (held m : Metric) : (absorb held m).fqn = held.fqn := by
  unfold absorb
  split
  · rename_i merged h
    exact Metric.fqn_of_conflate h
  · rfl

/-! ## One filing -/

/-- The window of a deadline, as a filing finds it. -/
def window (c : Conflation) (deadline : UInt64) : Window := (c.windows.get? deadline).getD .empty

/-- The windows once the one of a deadline is open. -/
def opened (c : Conflation) (deadline : UInt64) : DelayQueue Window :=
  (c.windows.getOrInsert deadline .empty).1

theorem get?_window (c : Conflation) (d : UInt64) (f : String) : (c.window d).get? f = c.held? d f := by
  unfold window held?
  cases c.windows.get? d with
  | none => rfl
  | some w => rfl

theorem get?_opened (c : Conflation) (d x : UInt64) :
    (c.opened d).get? x = if d = x then some (c.window d) else c.windows.get? x := by
  unfold opened window DelayQueue.getOrInsert
  split
  · rename_i w hw
    split
    · rename_i hdx
      rw [← hdx, hw]
      rfl
    · rfl
  · rename_i hw
    rw [DelayQueue.get?_set, hw]
    rfl

theorem sum_opened (c : Conflation) (d : UInt64) : (c.opened d).sum Table.size = c.entryCount := by
  unfold opened entryCount DelayQueue.getOrInsert
  split
  · rfl
  · rename_i hw
    have h := DelayQueue.sum_set c.windows d Table.empty Table.size
    rw [hw] at h
    exact h

/-- The four ways in which a sample is filed under a deadline. -/
inductive Filing (c : Conflation) (d : UInt64) (m : Metric) : Conflation → Prop
  /-- An entry of its name absorbs it. -/
  | absorbed {held merged : Metric} (hentry : c.held? d m.fqn = some held)
      (hmerge : held.conflate m = .ok merged) :
      Filing c d m { c with
        windows := (c.opened d).set d ((c.window d).insert m.fqn merged)
        conflated := c.conflated + 1 }
  /-- The entry of its name cannot absorb it, and it is lost. -/
  | refused {held : Metric} {refusal : MergeRefusal} (hentry : c.held? d m.fqn = some held)
      (hmerge : held.conflate m = .error refusal) :
      Filing c d m { c with
        windows := c.opened d
        dropped := c.dropped + 1
        lost := c.lost ++ [⟨m.fqn, false, refusal⟩] }
  /-- It becomes an entry. -/
  | queued (hentry : c.held? d m.fqn = none) (hroom : c.pending < c.capacity) :
      Filing c d m { c with
        windows := (c.opened d).set d ((c.window d).insert m.fqn m)
        pending := c.pending + 1
        queued := c.queued + 1 }
  /-- There is no room for it, and it is lost. -/
  | crowded (hentry : c.held? d m.fqn = none) (hroom : ¬ c.pending < c.capacity) :
      Filing c d m { c with
        windows := c.opened d
        dropped := c.dropped + 1 }

theorem filing_file (c : Conflation) (d : UInt64) (m : Metric) : Filing c d m (c.file d m) := by
  have hwindow : (c.windows.getOrInsert d .empty).2.1 = c.window d := by
    unfold DelayQueue.getOrInsert window
    cases c.windows.get? d with
    | none => rfl
    | some w => rfl
  have hentry := get?_window c d m.fqn
  unfold file lose
  simp only [hwindow, hentry]
  split
  · rename_i held hheld
    split
    · rename_i merged hmerge
      exact .absorbed hheld hmerge
    · rename_i refusal hmerge
      exact .refused hheld hmerge
  · rename_i hnone
    split
    · rename_i hroom
      exact .queued hnone hroom
    · rename_i hroom
      exact .crowded hnone hroom

/-- What a filing makes of the entry of its name. -/
def takeIn (room : Bool) (m : Metric) : Option Metric → Option Metric
  | none => if room then some m else none
  | some held => some (absorb held m)

section Step

variable {c c' : Conflation} {d : UInt64} {m : Metric}

theorem held?_of_get? {w : Window}
    (h : ∀ x, c'.windows.get? x = if d = x then some w else c.windows.get? x) (x : UInt64) (f : String) :
    c'.held? x f = if d = x then w.get? f else c.held? x f := by
  unfold held?
  rw [h]
  split
  · rfl
  · rfl

theorem get?_set_opened (c : Conflation) (d x : UInt64) (w : Window) :
    ((c.opened d).set d w).get? x = if d = x then some w else c.windows.get? x := by
  rw [DelayQueue.get?_set, get?_opened]
  split
  · rfl
  · rfl

theorem window_of_filing (h : Filing c d m c') : ∃ w : Window,
    (∀ x, c'.windows.get? x = if d = x then some w else c.windows.get? x) ∧
    ∀ f, w.get? f =
      if m.fqn = f then takeIn (decide (c.pending < c.capacity)) m (c.held? d f) else c.held? d f := by
  have hplaced : ∀ {new}, new = takeIn (decide (c.pending < c.capacity)) m (c.held? d m.fqn) → ∀ f,
      (if m.fqn = f then new else c.held? d f) =
        if m.fqn = f then takeIn (decide (c.pending < c.capacity)) m (c.held? d f) else c.held? d f := by
    intro new hnew f
    split
    · rename_i hf
      rw [hnew, hf]
    · rfl
  have hkept : c.held? d m.fqn = takeIn (decide (c.pending < c.capacity)) m (c.held? d m.fqn) → ∀ f,
      c.held? d f =
        if m.fqn = f then takeIn (decide (c.pending < c.capacity)) m (c.held? d f) else c.held? d f := by
    intro hsame f
    split
    · rename_i hf
      rw [← hf]
      exact hsame
    · rfl
  cases h with
  | absorbed hentry hmerge =>
    refine ⟨_, fun x => get?_set_opened c d x _, fun f => ?_⟩
    rw [Table.get?_insert, get?_window]
    exact hplaced (by simp [hentry, takeIn, absorb, hmerge]) f
  | refused hentry hmerge =>
    refine ⟨_, get?_opened c d, fun f => ?_⟩
    rw [get?_window]
    exact hkept (by simp [hentry, takeIn, absorb, hmerge]) f
  | queued hentry hroom =>
    refine ⟨_, fun x => get?_set_opened c d x _, fun f => ?_⟩
    rw [Table.get?_insert, get?_window]
    exact hplaced (by simp [hentry, takeIn, hroom]) f
  | crowded hentry hroom =>
    refine ⟨_, get?_opened c d, fun f => ?_⟩
    rw [get?_window]
    exact hkept (by simp [hentry, takeIn, hroom]) f

/-- **What a filing does to the entries.** Only the one of its deadline and its name is concerned. -/
theorem held?_of_filing (h : Filing c d m c') (x : UInt64) (f : String) :
    c'.held? x f = if d = x ∧ m.fqn = f then takeIn (decide (c.pending < c.capacity)) m (c.held? d f)
      else c.held? x f := by
  obtain ⟨w, hwindows, hw⟩ := window_of_filing h
  rw [held?_of_get? hwindows, hw]
  by_cases hd : d = x
  · subst hd
    by_cases hf : m.fqn = f
    · simp [hf]
    · simp [hf]
  · simp [hd]

theorem size_insert_window (c : Conflation) (d : UInt64) (f : String) (m : Metric) :
    ((c.window d).insert f m).size =
      if (c.held? d f).isSome then (c.window d).size else (c.window d).size + 1 := by
  rw [Table.size_insert, get?_window]

theorem sum_set_opened (c : Conflation) (d : UInt64) (w : Window) :
    ((c.opened d).set d w).sum Table.size + (c.window d).size = c.entryCount + w.size := by
  have h := DelayQueue.sum_set (c.opened d) d w Table.size
  rw [get?_opened, if_pos rfl, sum_opened] at h
  exact h

theorem entryCount_of_filing (h : Filing c d m c') : c'.entryCount + c.queued = c.entryCount + c'.queued := by
  cases h with
  | @absorbed held merged hentry hmerge =>
    have hsum := sum_set_opened c d ((c.window d).insert m.fqn merged)
    rw [size_insert_window, hentry, Option.isSome_some, if_pos rfl] at hsum
    show ((c.opened d).set d ((c.window d).insert m.fqn merged)).sum Table.size + c.queued =
      c.entryCount + c.queued
    omega
  | refused hentry hmerge =>
    show (c.opened d).sum Table.size + c.queued = c.entryCount + c.queued
    rw [sum_opened]
  | queued hentry hroom =>
    have hsum := sum_set_opened c d ((c.window d).insert m.fqn m)
    rw [size_insert_window, hentry, Option.isSome_none, if_neg Bool.false_ne_true] at hsum
    show ((c.opened d).set d ((c.window d).insert m.fqn m)).sum Table.size + c.queued =
      c.entryCount + (c.queued + 1)
    omega
  | crowded hentry hroom =>
    show (c.opened d).sum Table.size + c.queued = c.entryCount + c.queued
    rw [sum_opened]

end Step

/-! ## Counting -/

/-- So many samples were filed: each is conflated, lost or pending, and it is queued if it is pending. -/
structure Taken (n : Nat) (c c' : Conflation) : Prop where
  period : c'.period = c.period
  capacity : c'.capacity = c.capacity
  forwarded : c'.forwarded = c.forwarded
  counted : c'.conflated + c'.dropped + c'.pending = c.conflated + c.dropped + c.pending + n
  queued : c'.pending + c.queued = c.pending + c'.queued

theorem Taken.trans {n n' : Nat} {a b c : Conflation} (h : Taken n a b) (h' : Taken n' b c) :
    Taken (n + n') a c where
  period := h'.period.trans h.period
  capacity := h'.capacity.trans h.capacity
  forwarded := h'.forwarded.trans h.forwarded
  counted := by
    have hfirst := h.counted
    have hthen := h'.counted
    omega
  queued := by
    have hfirst := h.queued
    have hthen := h'.queued
    omega

/-- **A filing counts its sample once.** -/
theorem taken_of_filing {c c' : Conflation} {d : UInt64} {m : Metric} (h : Filing c d m c') :
    Taken 1 c c' := by
  cases h with
  | absorbed hentry hmerge => exact ⟨rfl, rfl, rfl, by simp only; omega, rfl⟩
  | refused hentry hmerge => exact ⟨rfl, rfl, rfl, by simp only; omega, rfl⟩
  | queued hentry hroom => exact ⟨rfl, rfl, rfl, by simp only; omega, by simp only; omega⟩
  | crowded hentry hroom => exact ⟨rfl, rfl, rfl, by simp only; omega, rfl⟩

theorem taken_foldl_file (c : Conflation) (d : UInt64) (ms : List Metric) :
    Taken ms.length c (ms.foldl (fun c m => c.file d m) c) := by
  induction ms generalizing c with
  | nil => exact ⟨rfl, rfl, rfl, rfl, rfl⟩
  | cons m ms ih =>
    have h := (taken_of_filing (filing_file c d m)).trans (ih (c.file d m))
    rw [Nat.add_comm] at h
    exact h

/-! ## The invariant -/

/-- **The windows and their counter.** -/
structure Sound (c : Conflation) : Prop where
  /-- Entries stand under their own names. -/
  named : ∀ {d f m}, c.held? d f = some m → m.fqn = f
  /-- The entries are counted. -/
  pending : c.pending = c.entryCount
  /-- They fit. -/
  fits : c.pending ≤ c.capacity

theorem sound_create (period : UInt64) (capacity : Nat) : (create period capacity).Sound where
  named := fun h => by simp [create, held?, DelayQueue.get?, DelayQueue.empty, DelayQueue.lookup] at h
  pending := rfl
  fits := Nat.zero_le _

section Keep

variable {c c' : Conflation} {d : UInt64} {m : Metric}

theorem fqn_of_takeIn {room : Bool} {m' : Metric} {o : Option Metric} (ho : ∀ held ∈ o, held.fqn = m.fqn)
    (h : takeIn room m o = some m') : m'.fqn = m.fqn := by
  cases o with
  | none =>
    cases room with
    | false => exact absurd h (by simp [takeIn])
    | true => rw [← Option.some.inj h]
  | some held =>
    rw [← Option.some.inj h, fqn_absorb]
    exact ho held rfl

theorem sound_of_filing (h : c.Sound) (hfiling : Filing c d m c') : c'.Sound := by
  refine ⟨?_, ?_, ?_⟩
  · intro x f m' hentry
    rw [held?_of_filing hfiling] at hentry
    split at hentry
    · rename_i hxf
      obtain ⟨rfl, rfl⟩ := hxf
      exact fqn_of_takeIn (fun held hheld => h.named hheld) hentry
    · exact h.named hentry
  · have hentries := entryCount_of_filing hfiling
    have hqueued := (taken_of_filing hfiling).queued
    have hpending := h.pending
    omega
  · have hfits := h.fits
    cases hfiling with
    | absorbed | refused | crowded => exact hfits
    | queued hentry hroom => exact hroom

theorem sound_foldl_file (h : c.Sound) (d : UInt64) (ms : List Metric) :
    (ms.foldl (fun c m => c.file d m) c).Sound := by
  induction ms generalizing c with
  | nil => exact h
  | cons m ms ih => exact ih (sound_of_filing h (filing_file c d m))

theorem sound_enqueue (h : c.Sound) (now : UInt64) (ms : List Metric) : (c.enqueue now ms).2.Sound := by
  obtain ⟨hnamed, hpending, hfits⟩ := sound_foldl_file h (deadlineAfter now c.period) (ms.filter mayWait)
  exact ⟨hnamed, hpending, hfits⟩

end Keep

end Conflation

end MetricRouter
