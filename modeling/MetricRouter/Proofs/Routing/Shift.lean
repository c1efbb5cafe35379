import MetricRouter.Proofs.Routing.Offers

/-!
# Batches in the hands of workers

A router that was started is handed batches, and its workers deliver them, each at its own pace, until it is shut
down. Where every single batch is can be told after any steps, whatever their order.

* `Ticket`, `Shift` — a batch with its place among all that were handed in, and a started pool with what became of
  these;
* `Event`, `Enabled`, `next`, `Reaches` — the steps, when each can be taken, and what they lead to;
* `queue_cases`, `take_eq`, `work_cases` — what a step does;
* `Balanced`, `balanced_next`, `balanced_of_reaches` — the invariant: every batch is in one place, and the counters
  agree.
-/

namespace MetricRouter

variable {σ : Type}

/-- A batch, with its place among all that were handed to the workers. -/
structure Ticket where
  number : Nat
  batch : List Metric
  deriving DecidableEq

/-- A pool that was started, and what became of the batches that were handed to it. -/
structure Shift (σ : Type) where
  pool : Pool σ
  /-- How many workers have left. -/
  gone : Nat
  /-- The batches that were taken in. -/
  accepted : List Ticket
  /-- The batches that were dropped. -/
  refused : List Ticket
  /-- The batches that wait for a worker, oldest first. -/
  queued : List Ticket
  /-- The batches of the workers. -/
  held : List Ticket
  /-- The batches that workers have ended. -/
  ended : List Ticket

namespace Shift

/-- A pool that is started now. -/
def start (p : Pool σ) : Shift σ :=
  { pool := p.run, gone := 0, accepted := [], refused := [], queued := [], held := [], ended := [] }

/-! ## Steps -/

/-- What can happen. -/
inductive Event where
  /-- A batch is handed in. -/
  | queue (batch : List Metric)
  /-- A free worker takes the oldest batch. -/
  | take
  /-- A worker goes on with its batch, up to its end or to a destination that keeps it waiting. -/
  | work (k : Nat)
  /-- The workers are told to stop. -/
  | stop
  /-- A free worker that was told to stop and finds no batch leaves. -/
  | leave
  deriving DecidableEq

/-- Is there a worker that has no batch and has not left? -/
def HasFree (s : Shift σ) : Prop := s.pool.busy.length + s.gone < s.pool.workers

/-- Can it happen? Nothing is handed in once the workers are told to stop. -/
def Enabled (s : Shift σ) : Event → Prop
  | .queue batch => s.pool.isRunning = true ∧ batch ≠ []
  | .take => s.pool.waiting ≠ [] ∧ s.HasFree
  | .work k => k < s.pool.busy.length
  | .stop => s.pool.isRunning = true
  | .leave => s.pool.isRunning = false ∧ s.pool.waiting = [] ∧ s.HasFree

instance (s : Shift σ) : Decidable s.HasFree := inferInstanceAs (Decidable (_ < _))

instance (s : Shift σ) : (e : Event) → Decidable (s.Enabled e)
  | .queue _ => inferInstanceAs (Decidable (_ ∧ _))
  | .take => inferInstanceAs (Decidable (_ ∧ _))
  | .work _ => inferInstanceAs (Decidable (_ < _))
  | .stop => inferInstanceAs (Decidable (_ = _))
  | .leave => inferInstanceAs (Decidable (_ ∧ _ ∧ _))

/-- The ticket of a batch that is handed in now. -/
def ticket (s : Shift σ) (batch : List Metric) : Ticket := ⟨s.accepted.length + s.refused.length, batch⟩

/-- A batch is handed in. -/
def queue (receive : Receive σ) (s : Shift σ) (batch : List Metric) : Shift σ :=
  match s.pool.queue receive batch with
  | (.ok true, p) =>
    { s with pool := p, accepted := s.accepted ++ [s.ticket batch], queued := s.queued ++ [s.ticket batch] }
  | (_, p) => { s with pool := p, refused := s.refused ++ [s.ticket batch] }

/-- A free worker takes the oldest batch. -/
def take (s : Shift σ) : Shift σ :=
  match s.pool.begin with
  | none => s
  | some p => { s with pool := p, queued := s.queued.tail, held := s.held ++ s.queued.head?.toList }

/-- A worker goes on with its batch. -/
def work (receive : Receive σ) (s : Shift σ) (k : Nat) : Shift σ :=
  match s.pool.busy[k]? with
  | none => s
  | some job =>
    match Pool.Job.advance receive s.pool.router job with
    | (some left, r) => { s with pool := { s.pool with router := r, busy := s.pool.busy.set k left } }
    | (none, r) =>
      { s with
        pool := { s.pool with router := r, busy := s.pool.busy.eraseIdx k }
        held := s.held.eraseIdx k
        ended := s.ended ++ s.held[k]?.toList }

/-- The shift after something happened. -/
def next (receive : Receive σ) (s : Shift σ) : Event → Shift σ
  | .queue batch => s.queue receive batch
  | .take => s.take
  | .work k => s.work receive k
  | .stop => { s with pool := { s.pool with isRunning := false } }
  | .leave => { s with gone := s.gone + 1 }

/-- **What steps lead to**, in any order in which they can be taken. -/
inductive Reaches (receive : Receive σ) (first : Shift σ) : Shift σ → Prop
  | refl : Reaches receive first first
  | step {s : Shift σ} (e : Event) (h : Reaches receive first s) (he : s.Enabled e) :
    Reaches receive first (s.next receive e)

/-- Can these happen one after another? -/
def Possible (receive : Receive σ) : Shift σ → List Event → Prop
  | _, [] => True
  | s, e :: rest => s.Enabled e ∧ Possible receive (s.next receive e) rest

instance (receive : Receive σ) : (s : Shift σ) → (events : List Event) → Decidable (s.Possible receive events)
  | _, [] => inferInstanceAs (Decidable True)
  | s, e :: rest =>
    have : Decidable ((s.next receive e).Possible receive rest) := instDecidablePossible receive _ rest
    inferInstanceAs (Decidable (_ ∧ _))

theorem Reaches.trans {receive : Receive σ} {first s last : Shift σ} (h : Reaches receive first s)
    (h' : Reaches receive s last) : Reaches receive first last := by
  induction h' with
  | refl => exact h
  | step e _ he ih => exact .step e ih he

theorem reaches_of_possible {receive : Receive σ} {s : Shift σ} {events : List Event} (h : s.Possible receive events) :
    Reaches receive s (events.foldl (next receive) s) := by
  induction events generalizing s with
  | nil => exact .refl
  | cons e rest ih =>
    obtain ⟨he, hrest⟩ := h
    have hfirst : Reaches receive s (s.next receive e) := .step e .refl he
    exact hfirst.trans (ih hrest)

/-! ## Where every batch is -/

/-- **Every batch that was handed in is in one place, and the counters agree.** -/
structure Balanced (workers queueSize : Nat) (s : Shift σ) : Prop where
  workers : s.pool.workers = max workers 1
  capacity : s.pool.capacity = max queueSize 1
  room : s.pool.waiting.length ≤ s.pool.capacity
  queued : s.pool.waiting = s.queued.map Ticket.batch
  held : s.pool.busy.length = s.held.length
  accepted : s.accepted.Perm (s.ended ++ s.held ++ s.queued)
  numbers : ((s.accepted ++ s.refused).map Ticket.number).Perm (List.range (s.accepted.length + s.refused.length))
  settled : s.pool.router.counters.batches + s.pool.router.counters.failures = s.ended.length
  dropped : s.pool.router.counters.dropped = (s.refused.map fun t => t.batch.length).sum
  staff : s.pool.busy.length + s.gone ≤ s.pool.workers
  left : s.gone ≠ 0 → s.pool.isRunning = false ∧ s.pool.waiting = []

section Balanced

variable {workers queueSize : Nat} {s : Shift σ}

theorem balanced_start {router : Router σ} (h : router.counters = {}) (workers queueSize : Nat) :
    (start (.create router workers queueSize)).Balanced workers queueSize where
  workers := rfl
  capacity := rfl
  room := Nat.zero_le _
  queued := rfl
  held := rfl
  accepted := List.Perm.refl _
  numbers := List.Perm.refl _
  settled := by simp [start, Pool.create, Pool.run, h]
  dropped := by simp [start, Pool.create, Pool.run, h]
  staff := Nat.zero_le _
  left := fun h => absurd rfl h

theorem queue_eq (receive : Receive σ) {p : Pool σ} (hrunning : p.isRunning = true)
    (hroom : p.waiting.length ≤ p.capacity) {batch : List Metric} (hbatch : batch ≠ []) :
    p.queue receive batch =
      if p.waiting.length = p.capacity then
        (.ok false, { p with router := { p.router with counters :=
          { p.router.counters with dropped := p.router.counters.dropped + batch.length } } })
      else (.ok true, { p with waiting := p.waiting ++ [batch] }) := by
  have hfull : ¬ p.waiting.length < p.capacity ↔ p.waiting.length = p.capacity := by omega
  rw [Pool.queue, if_neg (by simpa using hbatch), if_pos hrunning]
  by_cases h : p.waiting.length < p.capacity
  · rw [if_pos h, if_neg (mt hfull.mpr (not_not_intro h))]
  · rw [if_neg h, if_pos (hfull.mp h)]

theorem Balanced.nodup_numbers (h : s.Balanced workers queueSize) :
    ((s.accepted ++ s.refused).map Ticket.number).Nodup :=
  h.numbers.nodup_iff.mpr List.nodup_range

theorem Balanced.nodup (h : s.Balanced workers queueSize) :
    ((s.ended ++ s.held ++ s.queued).map Ticket.number).Nodup := by
  have hall := h.nodup_numbers
  rw [List.map_append] at hall
  exact (h.accepted.map Ticket.number).nodup_iff.mp hall.of_append_left

theorem Balanced.nodup_taken (h : s.Balanced workers queueSize) : ((s.ended ++ s.held).map Ticket.number).Nodup := by
  have hall := h.nodup
  rw [List.map_append] at hall
  exact hall.of_append_left

theorem Balanced.ne_of_held (h : s.Balanced workers queueSize) {j k : Nat} {u t : Ticket} (hu : s.held[j]? = some u)
    (ht : s.held[k]? = some t) (hjk : j ≠ k) : t.number ≠ u.number := by
  have hnodup := h.nodup_taken
  rw [List.map_append] at hnodup
  intro hsame
  obtain ⟨hj, rfl⟩ := List.getElem?_eq_some_iff.mp hu
  have hsame' : (s.held.map Ticket.number)[j]? = (s.held.map Ticket.number)[k]? := by
    rw [List.getElem?_map, List.getElem?_map, hu, ht, Option.map_some, Option.map_some, hsame]
  exact hjk ((List.getElem?_inj (by simpa using hj) hnodup.of_append_right).mp hsame')

theorem Balanced.ne_of_ended (h : s.Balanced workers queueSize) {k : Nat} {u t : Ticket} (hu : u ∈ s.ended)
    (ht : s.held[k]? = some t) : t.number ≠ u.number := by
  have hnodup := h.nodup_taken
  rw [List.map_append] at hnodup
  have hdisjoint := (List.nodup_append.mp hnodup).2.2
  have ht' : t ∈ s.held := List.mem_of_getElem? ht
  exact (hdisjoint _ (List.mem_map_of_mem hu) _ (List.mem_map_of_mem ht')).symm

theorem perm_of_ended {held : List Ticket} {k : Nat} {t : Ticket} (ht : held[k]? = some t) (ended : List Ticket) :
    (ended ++ [t] ++ held.eraseIdx k).Perm (ended ++ held) := by
  obtain ⟨hk, rfl⟩ := List.getElem?_eq_some_iff.mp ht
  rw [List.append_assoc]
  exact (List.getElem_cons_eraseIdx_perm hk).append_left ended

theorem Balanced.numbered (h : s.Balanced workers queueSize) (batch : List Metric) {tickets : List Ticket}
    (hperm : tickets.Perm (s.ticket batch :: (s.accepted ++ s.refused))) :
    (tickets.map Ticket.number).Perm (List.range (s.accepted.length + s.refused.length + 1)) := by
  rw [List.range_succ]
  have hnumbers := (h.numbers.cons (s.ticket batch).number).trans (List.perm_append_singleton _ _).symm
  exact (hperm.map Ticket.number).trans hnumbers

/-- **What becomes of a batch that is handed in.** -/
theorem queue_cases (receive : Receive σ) (h : s.Balanced workers queueSize) {batch : List Metric}
    (hrunning : s.pool.isRunning = true) (hbatch : batch ≠ []) :
    (s.queue receive batch = { s with
      pool := { s.pool with router := { s.pool.router with counters :=
        { s.pool.router.counters with dropped := s.pool.router.counters.dropped + batch.length } } }
      refused := s.refused ++ [s.ticket batch] }) ∨
    (s.pool.waiting.length < s.pool.capacity ∧ s.queue receive batch = { s with
      pool := { s.pool with waiting := s.pool.waiting ++ [batch] }
      accepted := s.accepted ++ [s.ticket batch]
      queued := s.queued ++ [s.ticket batch] }) := by
  have hanswer := queue_eq receive hrunning h.room hbatch
  rw [queue]
  by_cases hfull : s.pool.waiting.length = s.pool.capacity
  · rw [if_pos hfull] at hanswer
    rw [hanswer]
    exact Or.inl rfl
  · rw [if_neg hfull] at hanswer
    rw [hanswer]
    exact Or.inr ⟨Nat.lt_of_le_of_ne h.room hfull, rfl⟩

theorem balanced_queue (receive : Receive σ) (h : s.Balanced workers queueSize) {batch : List Metric}
    (hrunning : s.pool.isRunning = true) (hbatch : batch ≠ []) :
    (s.queue receive batch).Balanced workers queueSize := by
  have hleft : s.gone ≠ 0 → False := fun hgone => by
    have hstopped := (h.left hgone).1
    rw [hrunning] at hstopped
    exact absurd hstopped (by simp)
  obtain hrefused | ⟨hroom, haccepted⟩ := queue_cases receive h hrunning hbatch
  · rw [hrefused]
    refine { h with numbers := ?_, dropped := ?_, left := fun hgone => (hleft hgone).elim }
    · have hperm : (s.accepted ++ (s.refused ++ [s.ticket batch])).Perm
          (s.ticket batch :: (s.accepted ++ s.refused)) := by
        rw [← List.append_assoc]
        exact List.perm_append_singleton _ _
      have hnumbers := h.numbered batch hperm
      simpa [Nat.add_assoc] using hnumbers
    · simp [h.dropped, ticket]
  · rw [haccepted]
    refine { h with room := ?_, queued := ?_, accepted := ?_, numbers := ?_, left := fun hgone => (hleft hgone).elim }
    · simpa using hroom
    · simp [h.queued, ticket]
    · simpa using h.accepted.append_right [s.ticket batch]
    · have hperm : (s.accepted ++ [s.ticket batch] ++ s.refused).Perm
          (s.ticket batch :: (s.accepted ++ s.refused)) := by
        rw [List.append_assoc]
        exact List.perm_middle
      have hnumbers := h.numbered batch hperm
      simpa [Nat.add_right_comm] using hnumbers

/-- **What a worker takes**: the oldest batch. -/
theorem take_eq (h : s.Balanced workers queueSize) (hwaiting : s.pool.waiting ≠ []) (hfree : s.HasFree) :
    ∃ t later, s.queued = t :: later ∧ s.take =
      { s with
        pool := { s.pool with waiting := later.map Ticket.batch, busy := s.pool.busy ++ [.ready t.batch] }
        queued := later
        held := s.held ++ [t] } := by
  have hqueued := h.queued
  cases hs : s.queued with
  | nil =>
    rw [hs] at hqueued
    exact absurd hqueued hwaiting
  | cons t later =>
    rw [hs, List.map_cons] at hqueued
    refine ⟨t, later, rfl, ?_⟩
    have hbusy : s.pool.busy.length < s.pool.workers := Nat.lt_of_le_of_lt (Nat.le_add_right _ s.gone) hfree
    rw [take, Pool.begin, hqueued]
    simp only [if_pos hbusy, hs]
    rfl

theorem balanced_take (h : s.Balanced workers queueSize) (hwaiting : s.pool.waiting ≠ []) (hfree : s.HasFree) :
    s.take.Balanced workers queueSize := by
  obtain ⟨t, later, hqueued, htake⟩ := take_eq h hwaiting hfree
  have hroom := h.room
  rw [h.queued, hqueued] at hroom
  have haccepted := h.accepted
  rw [hqueued] at haccepted
  rw [htake]
  refine { h with room := ?_, queued := rfl, held := ?_, accepted := ?_, staff := ?_, left := ?_ }
  · simp at hroom ⊢
    omega
  · simp [h.held]
  · simpa using haccepted
  · simp only [HasFree] at hfree
    simp only [List.length_append, List.length_singleton]
    omega
  · intro hgone
    exact absurd (h.left hgone).2 hwaiting

/-- **What becomes of a batch that a worker goes on with.** -/
theorem work_cases (receive : Receive σ) (h : s.Balanced workers queueSize) {k : Nat} (hk : k < s.pool.busy.length) :
    ∃ t job, s.held[k]? = some t ∧ s.pool.busy[k]? = some job ∧
      let r := (Pool.Job.advance receive s.pool.router job).2
      ((∃ left, (Pool.Job.advance receive s.pool.router job).1 = some left ∧ s.work receive k =
          { s with pool := { s.pool with router := r, busy := s.pool.busy.set k left } }) ∨
        ((Pool.Job.advance receive s.pool.router job).1 = none ∧ s.work receive k =
          { s with
            pool := { s.pool with router := r, busy := s.pool.busy.eraseIdx k }
            held := s.held.eraseIdx k
            ended := s.ended ++ [t] })) := by
  have hheld : k < s.held.length := h.held ▸ hk
  refine ⟨s.held[k], s.pool.busy[k], List.getElem?_eq_getElem hheld, List.getElem?_eq_getElem hk, ?_⟩
  rw [work, List.getElem?_eq_getElem hk, List.getElem?_eq_getElem hheld]
  simp only
  cases hadvance : Pool.Job.advance receive s.pool.router s.pool.busy[k] with
  | mk left r =>
    cases left with
    | some left => exact Or.inl ⟨left, rfl, rfl⟩
    | none => exact Or.inr ⟨rfl, rfl⟩

theorem balanced_work (receive : Receive σ) (h : s.Balanced workers queueSize) {k : Nat}
    (hk : k < s.pool.busy.length) : (s.work receive k).Balanced workers queueSize := by
  obtain ⟨t, job, ht, -, hwork⟩ := work_cases receive h hk
  have hadvanced := Pool.advanced_advance receive s.pool.router job
  obtain ⟨left, hleft, hwork⟩ | ⟨hnone, hwork⟩ := hwork
  · have hsettled := hadvanced.settled
    rw [hleft] at hsettled
    rw [hwork]
    refine { h with held := ?_, settled := ?_, dropped := ?_, staff := ?_ }
    · simp [h.held]
    · exact hsettled.trans h.settled
    · exact hadvanced.dropped.trans h.dropped
    · simpa using h.staff
  · have hsettled := hadvanced.settled
    rw [hnone] at hsettled
    have hheld : k < s.held.length := h.held ▸ hk
    have hstaff := h.staff
    rw [hwork]
    refine { h with held := ?_, accepted := ?_, settled := ?_, dropped := ?_, staff := ?_ }
    · simp only [List.length_eraseIdx, h.held]
    · have hmoved := perm_of_ended ht s.ended
      exact h.accepted.trans (hmoved.symm.append_right s.queued)
    · simpa [h.settled] using hsettled
    · exact hadvanced.dropped.trans h.dropped
    · simp only [List.length_eraseIdx]
      split <;> omega

/-- **Every step keeps the balance.** -/
theorem balanced_next (receive : Receive σ) (h : s.Balanced workers queueSize) (e : Event) (he : s.Enabled e) :
    (s.next receive e).Balanced workers queueSize := by
  cases e with
  | queue batch =>
    obtain ⟨hrunning, hbatch⟩ := he
    exact balanced_queue receive h hrunning hbatch
  | take =>
    obtain ⟨hwaiting, hfree⟩ := he
    exact balanced_take h hwaiting hfree
  | work k => exact balanced_work receive h he
  | stop => exact { h with left := fun hgone => ⟨rfl, (h.left hgone).2⟩ }
  | leave =>
    obtain ⟨hstopped, hwaiting, hfree⟩ := he
    exact { h with staff := Nat.succ_le_of_lt hfree, left := fun _ => ⟨hstopped, hwaiting⟩ }

theorem accepted_subset_next (receive : Receive σ) (s : Shift σ) (e : Event) :
    s.accepted ⊆ (s.next receive e).accepted := by
  cases e with
  | queue batch =>
    show s.accepted ⊆ (s.queue receive batch).accepted
    unfold queue
    split
    · exact List.subset_append_left _ _
    · exact List.Subset.refl _
  | take =>
    show s.accepted ⊆ s.take.accepted
    unfold take
    split
    · exact List.Subset.refl _
    · exact List.Subset.refl _
  | work k =>
    show s.accepted ⊆ (s.work receive k).accepted
    unfold work
    split
    · exact List.Subset.refl _
    · split
      · exact List.Subset.refl _
      · exact List.Subset.refl _
  | stop => exact List.Subset.refl _
  | leave => exact List.Subset.refl _

/-- **Whatever the steps lead to is balanced.** -/
theorem balanced_of_reaches {receive : Receive σ} {first : Shift σ} (hfirst : first.Balanced workers queueSize)
    (h : Reaches receive first s) : s.Balanced workers queueSize := by
  induction h with
  | refl => exact hfirst
  | step e _ he ih => exact balanced_next receive ih e he

/-- **The batches that were taken in, counted**: those gone through, those broken off, those that wait and those of the
workers. -/
theorem Balanced.length_accepted (h : s.Balanced workers queueSize) :
    s.accepted.length = s.pool.router.counters.batches + s.pool.router.counters.failures + s.pool.waiting.length +
      s.pool.busy.length := by
  have hlength := h.accepted.length_eq
  have hsettled := h.settled
  have hheld := h.held
  have hqueued := congrArg List.length h.queued
  rw [List.length_map] at hqueued
  rw [List.length_append, List.length_append] at hlength
  omega

/-- **Once all workers have left, nothing is left behind.** -/
theorem Balanced.all_ended (h : s.Balanced workers queueSize) (hgone : s.gone = max workers 1) :
    s.pool.waiting = [] ∧ s.pool.busy = [] ∧ s.accepted.Perm s.ended := by
  have hstaff := h.staff
  rw [h.workers, hgone] at hstaff
  have hbusy : s.pool.busy = [] := List.eq_nil_of_length_eq_zero (by omega)
  have hwaiting := (h.left (by omega)).2
  have hheld : s.held = [] := by
    have hlength := h.held
    rw [hbusy] at hlength
    exact List.eq_nil_of_length_eq_zero hlength.symm
  have hqueued : s.queued = [] := by
    have hbatches := h.queued
    rw [hwaiting] at hbatches
    exact List.map_eq_nil_iff.mp hbatches.symm
  have haccepted := h.accepted
  rw [hheld, hqueued, List.append_nil, List.append_nil] at haccepted
  exact ⟨hwaiting, hbusy, haccepted⟩

end Balanced

end Shift

end MetricRouter
