/-!
# Values filed under deadlines

A `DelayQueue ν` holds one value per deadline, an absolute instant in milliseconds, in strictly
increasing order of the deadlines. Draining at an instant takes out exactly the values whose
deadline has been reached. Instants are milliseconds in 64 bits, and `deadlineAfter` stops at the last
one.
-/

namespace MetricRouter

/-- The instant a given time after another one, or the last instant there is if that comes first. -/
def deadlineAfter (now delay : UInt64) : UInt64 := UInt64.ofNat (min (UInt64.size - 1) (now.toNat + delay.toNat))

/-- The last instant there is. -/
def lastInstant : UInt64 := UInt64.ofNat (UInt64.size - 1)

/-- One value per deadline, the earliest deadline first. -/
structure DelayQueue (ν : Type) where
  slots : List (UInt64 × ν)
  sorted : slots.Pairwise (fun a b => a.1 < b.1)

namespace DelayQueue

variable {ν : Type}

/-- The queue without a slot. -/
def empty : DelayQueue ν := ⟨[], List.Pairwise.nil⟩

instance : Inhabited (DelayQueue ν) := ⟨empty⟩

/-- The value at a deadline of a list of slots. -/
def lookup : List (UInt64 × ν) → UInt64 → Option ν
  | [], _ => none
  | (d, v) :: rest, x => if d = x then some v else lookup rest x

/-- The value filed under a deadline. -/
def get? (q : DelayQueue ν) (deadline : UInt64) : Option ν := lookup q.slots deadline

/-- The slots with the value at `d` set, kept in order. -/
def place (d : UInt64) (v : ν) : List (UInt64 × ν) → List (UInt64 × ν)
  | [] => [(d, v)]
  | (d', v') :: rest =>
    if d < d' then (d, v) :: (d', v') :: rest
    else if d' = d then (d, v) :: rest
    else (d', v') :: place d v rest

theorem mem_place {d : UInt64} {v : ν} {l : List (UInt64 × ν)} {p : UInt64 × ν}
    (h : p ∈ place d v l) : p = (d, v) ∨ p ∈ l := by
  induction l with
  | nil => simpa [place] using h
  | cons s rest ih =>
    obtain ⟨d', v'⟩ := s
    simp only [place] at h
    split at h
    · simpa using h
    · split at h
      · rcases List.mem_cons.mp h with h | h
        · exact Or.inl h
        · exact Or.inr (List.mem_cons_of_mem _ h)
      · rcases List.mem_cons.mp h with h | h
        · exact Or.inr (h ▸ List.mem_cons_self)
        · exact (ih h).imp id (List.mem_cons_of_mem _)

theorem sorted_place {d : UInt64} {v : ν} {l : List (UInt64 × ν)}
    (h : l.Pairwise (fun a b => a.1 < b.1)) : (place d v l).Pairwise (fun a b => a.1 < b.1) := by
  induction l with
  | nil => simp [place]
  | cons s rest ih =>
    obtain ⟨d', v'⟩ := s
    rw [List.pairwise_cons] at h
    simp only [place]
    split
    · rename_i hlt
      refine List.Pairwise.cons (fun p hp => ?_) (List.Pairwise.cons h.1 h.2)
      rcases List.mem_cons.mp hp with rfl | hp
      · exact hlt
      · exact UInt64.lt_trans hlt (h.1 p hp)
    · rename_i hge
      split
      · rename_i heq
        exact List.Pairwise.cons (fun p hp => heq ▸ h.1 p hp) h.2
      · rename_i hne
        refine List.Pairwise.cons (fun p hp => ?_) (ih h.2)
        rcases mem_place hp with rfl | hp
        · exact UInt64.lt_of_le_of_ne (UInt64.not_lt.mp hge) hne
        · exact h.1 p hp

/-- The queue with the value at a deadline set. -/
def set (q : DelayQueue ν) (deadline : UInt64) (v : ν) : DelayQueue ν :=
  ⟨place deadline v q.slots, sorted_place q.sorted⟩

/-- The value at a deadline, filed now if there was none: the queue after it, the value held, and
whether it is the new one. A held value is never replaced. -/
def getOrInsert (q : DelayQueue ν) (deadline : UInt64) (init : ν) : DelayQueue ν × ν × Bool :=
  match q.get? deadline with
  | some v => (q, v, false)
  | none => (q.set deadline init, init, true)

/-- The earliest deadline held. -/
def nextDeadline (q : DelayQueue ν) : Option UInt64 := q.slots.head?.map Prod.fst

/-- The slots before a deadline, and the queue of the slots from it on. -/
def splitAt (q : DelayQueue ν) (bound : UInt64) : List (UInt64 × ν) × DelayQueue ν :=
  (q.slots.takeWhile (fun s => decide (s.1 < bound)),
    ⟨q.slots.dropWhile (fun s => decide (s.1 < bound)),
      q.sorted.sublist (List.dropWhile_sublist _)⟩)

/-- Takes out the slots whose deadline is at or before `now`, the earliest first. The queue is split
behind `now`; behind the last instant there is nothing to split off. -/
def drainExpired (q : DelayQueue ν) (now : UInt64) : List (UInt64 × ν) × DelayQueue ν :=
  match q.nextDeadline with
  | none => ([], q)
  | some first =>
    if now < first then ([], q)
    else if now = lastInstant then (q.slots, empty)
    else q.splitAt (now + 1)

/-- The number of slots. -/
def size (q : DelayQueue ν) : Nat := q.slots.length

/-- Is no slot held? -/
def isEmpty (q : DelayQueue ν) : Bool := q.slots.isEmpty

/-- The queue without its slots. -/
def clear (_ : DelayQueue ν) : DelayQueue ν := empty

end DelayQueue

end MetricRouter
