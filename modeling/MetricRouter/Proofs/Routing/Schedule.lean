import MetricRouter.Proofs.Routing.Shift

/-!
# One order of the steps

The pool lets its workers go on in turn, and takes a batch for a free one after each turn. This is one order of the
steps among all that can be taken, also in a shutdown.

* `reaches_advance`, `reaches_settle` — a turn of all workers, and all that they can do by themselves;
* `Pool.settle_idle` — where every destination makes up its mind, they do all that is to be done;
* `reaches_shutdown` — the shutdown of the pool, up to the last worker that leaves.
-/

namespace MetricRouter

variable {σ : Type}

namespace Shift

variable (receive : Receive σ) {s : Shift σ}

/-! ## Turns of the workers -/

theorem work_pool {before after : List Job} {job : Job} (h : s.pool.busy = before ++ job :: after) :
    (s.work receive before.length).gone = s.gone ∧ (s.work receive before.length).pool =
      { s.pool with
        router := (Pool.Job.advance receive s.pool.router job).2
        busy := before ++ ((Pool.Job.advance receive s.pool.router job).1.toList ++ after) } := by
  have hjob : s.pool.busy[before.length]? = some job := by
    rw [h, List.getElem?_append_right (Nat.le_refl _), Nat.sub_self]
    rfl
  rw [work, hjob]
  simp only
  cases Pool.Job.advance receive s.pool.router job with
  | mk left r =>
    cases left with
    | some left => simp [h]
    | none => simp [h, List.eraseIdx_append_of_length_le]

theorem reaches_advanceAll {jobs before : List Job} (h : s.pool.busy = before ++ jobs) :
    ∃ s', Reaches receive s s' ∧ s'.gone = s.gone ∧ s'.pool =
      { s.pool with
        router := (Pool.advanceAll receive s.pool.router jobs).2
        busy := before ++ (Pool.advanceAll receive s.pool.router jobs).1 } := by
  induction jobs generalizing s before with
  | nil => exact ⟨s, .refl, rfl, by rw [Pool.advanceAll, ← h]⟩
  | cons job after ih =>
    obtain ⟨hgone, hpool⟩ := work_pool receive h
    have henabled : s.Enabled (.work before.length) := by
      show before.length < s.pool.busy.length
      rw [h]
      simp
    have hbusy : (s.next receive (.work before.length)).pool.busy =
        (before ++ (Pool.Job.advance receive s.pool.router job).1.toList) ++ after := by
      show (s.work receive before.length).pool.busy = _
      rw [hpool, List.append_assoc]
    obtain ⟨s', hreaches, hgone', hpool'⟩ := ih hbusy
    have hfirst : Reaches receive s (s.next receive (.work before.length)) := .step _ .refl henabled
    refine ⟨s', hfirst.trans hreaches, hgone'.trans hgone, ?_⟩
    have hnext : (s.next receive (.work before.length)).pool = (s.work receive before.length).pool := rfl
    rw [hpool', hnext, hpool, Pool.advanceAll]
    simp [List.append_assoc]

/-- **A turn of all workers.** -/
theorem reaches_advance (s : Shift σ) :
    ∃ s', Reaches receive s s' ∧ s'.gone = s.gone ∧ s'.pool = s.pool.advance receive := by
  have hbusy : s.pool.busy = [] ++ s.pool.busy := rfl
  exact reaches_advanceAll receive hbusy

theorem take_of_begin {p : Pool σ} (h : s.pool.begin = some p) (hgone : s.gone = 0) :
    s.Enabled .take ∧ s.take.gone = 0 ∧ s.take.pool = p := by
  refine ⟨?_, ?_, ?_⟩
  · show s.pool.waiting ≠ [] ∧ s.pool.busy.length + s.gone < s.pool.workers
    rw [Pool.begin] at h
    cases hwaiting : s.pool.waiting with
    | nil =>
      rw [hwaiting] at h
      exact absurd h (by simp)
    | cons batch rest =>
      rw [hwaiting] at h
      simp only [Option.ite_none_right_eq_some] at h
      exact ⟨by simp, by omega⟩
  · rw [take, h]
    exact hgone
  · rw [take, h]

theorem reaches_rounds (n : Nat) (hgone : s.gone = 0) :
    ∃ s', Reaches receive s s' ∧ s'.gone = 0 ∧ s'.pool = s.pool.rounds receive n := by
  induction n generalizing s with
  | zero =>
    obtain ⟨s', hreaches, hgone', hpool⟩ := reaches_advance receive s
    exact ⟨s', hreaches, hgone'.trans hgone, hpool⟩
  | succ n ih =>
    obtain ⟨s', hreaches, hgone', hpool⟩ := reaches_advance receive s
    rw [hgone] at hgone'
    rw [Pool.rounds]
    simp only [← hpool]
    cases hbegin : s'.pool.begin with
    | none => exact ⟨s', hreaches, hgone', rfl⟩
    | some p =>
      obtain ⟨henabled, hgoneTake, hpoolTake⟩ := take_of_begin hbegin hgone'
      obtain ⟨last, hreaches', hgone'', hpool'⟩ := ih hgoneTake
      have hfirst : Reaches receive s s'.take := .step .take hreaches henabled
      exact ⟨last, hfirst.trans hreaches', hgone'', by rw [hpool', hpoolTake]⟩

/-- **All steps that the workers can take by themselves.** -/
theorem reaches_settle (hgone : s.gone = 0) :
    ∃ s', Reaches receive s s' ∧ s'.gone = 0 ∧ s'.pool = s.pool.settle receive :=
  reaches_rounds receive s.pool.waiting.length hgone

/-! ## Leaving -/

theorem reaches_leave (hstopped : s.pool.isRunning = false) (hwaiting : s.pool.waiting = [])
    (hbusy : s.pool.busy = []) {n : Nat} (hn : s.gone + n ≤ s.pool.workers) :
    ∃ s', Reaches receive s s' ∧ s'.gone = s.gone + n ∧ s'.pool = s.pool := by
  induction n with
  | zero => exact ⟨s, .refl, rfl, rfl⟩
  | succ n ih =>
    obtain ⟨s', hreaches, hgone, hpool⟩ := ih (by omega)
    have henabled : s'.Enabled .leave := by
      show s'.pool.isRunning = false ∧ s'.pool.waiting = [] ∧ s'.pool.busy.length + s'.gone < s'.pool.workers
      rw [hpool, hgone, hbusy]
      exact ⟨hstopped, hwaiting, by simp only [List.length_nil]; omega⟩
    exact ⟨s'.next receive .leave, .step .leave hreaches henabled, congrArg (· + 1) hgone, hpool⟩

end Shift

/-! ## Workers that nobody keeps waiting -/

namespace Pool

variable {receive : Receive σ}

theorem resume_ne_waiting (hdecides : Decides receive) (memoKey : String → Nat) (left next : Stalled) (s : Sweep σ) :
    (left.resume receive memoKey s).1 ≠ .waiting next := by
  rw [Stalled.resume]
  split
  · simp
  · rename_i hoffer
    have hanswer := congrArg Prod.fst hoffer
    rw [(offer_eq receive left.metric left.destination _).1] at hanswer
    exact absurd hanswer (hdecides left.destination left.metric s.world)
  · rename_i next' hfailed hwaiting hoffer
    split
    · simp
    · rename_i d rest last houtcome
      have hnot := offerAll_ne_waiting hdecides memoKey left.metric left.rest true next' d rest
      rw [houtcome] at hnot
      exact absurd rfl hnot
    · exact sweep_ne_waiting hdecides memoKey left.bindings left.later _ next

theorem advance_eq_none (hdecides : Decides receive) (r : Router σ) (job : Job) :
    (Job.advance receive r job).1 = none := by
  have hnot (next : Stalled) : (sweepOf receive r job).1 ≠ .waiting next := by
    cases job with
    | ready batch => exact sweep_ne_waiting hdecides r.memoKey r.bindings batch r.start next
    | stalled left => exact resume_ne_waiting hdecides r.memoKey left next r.start
  rw [advance_eq]
  cases houtcome : (sweepOf receive r job).1 with
  | done delivered => rfl
  | failed reason => rfl
  | waiting next => exact absurd houtcome (hnot next)

theorem busy_advance (hdecides : Decides receive) (p : Pool σ) : (p.advance receive).busy = [] := by
  have hall (jobs : List Job) (r : Router σ) : (advanceAll receive r jobs).1 = [] := by
    induction jobs generalizing r with
    | nil => rfl
    | cons job rest ih => simp [advanceAll, advance_eq_none hdecides r job, ih]
  exact hall p.busy p.router

/-- As many turns as batches wait are enough. -/
theorem rounds_idle (hdecides : Decides receive) {p : Pool σ} (hworkers : 0 < p.workers) {n : Nat}
    (hn : p.waiting.length ≤ n) :
    (p.rounds receive n).waiting = [] ∧ (p.rounds receive n).busy = [] ∧ (p.rounds receive n).workers = p.workers := by
  induction n generalizing p with
  | zero => exact ⟨List.eq_nil_of_length_eq_zero (Nat.le_zero.mp hn), busy_advance hdecides p, rfl⟩
  | succ n ih =>
    have hbusy := busy_advance hdecides p
    have hwaiting : (p.advance receive).waiting = p.waiting := rfl
    rw [rounds]
    cases hs : p.waiting with
    | nil =>
      have hbegin : (p.advance receive).begin = none := by rw [begin, hwaiting, hs]
      rw [hbegin]
      exact ⟨hwaiting.trans hs, hbusy, rfl⟩
    | cons batch rest =>
      have hbegin : (p.advance receive).begin =
          some { p.advance receive with waiting := rest, busy := (p.advance receive).busy ++ [.ready batch] } := by
        rw [begin, hwaiting, hs]
        exact if_pos (by rw [hbusy]; exact hworkers)
      rw [hbegin]
      refine ih hworkers ?_
      rw [hs, List.length_cons] at hn
      exact Nat.le_of_succ_le_succ hn

/-- **Where every destination makes up its mind**, the workers do all that is to be done. -/
theorem settle_idle (hdecides : Decides receive) {p : Pool σ} (hworkers : 0 < p.workers) :
    (p.settle receive).waiting = [] ∧ (p.settle receive).busy = [] ∧ (p.settle receive).workers = p.workers :=
  rounds_idle hdecides hworkers (Nat.le_refl _)

/-- It makes no difference to the workers when they are told to stop. -/
theorem settle_stopped (receive : Receive σ) (p : Pool σ) :
    Pool.settle receive { p with isRunning := false } = p.shutdown receive := by
  have hrounds (n : Nat) (p : Pool σ) :
      Pool.rounds receive n { p with isRunning := false } = { p.rounds receive n with isRunning := false } := by
    induction n generalizing p with
    | zero => rfl
    | succ n ih =>
      have hadvance : advance receive { p with isRunning := false } = { p.advance receive with isRunning := false } :=
        rfl
      have hbegin (q : Pool σ) : begin { q with isRunning := false } = q.begin.map ({ · with isRunning := false }) := by
        unfold begin
        cases q.waiting with
        | nil => rfl
        | cons batch rest =>
          simp only
          split <;> rfl
      rw [rounds, rounds, hadvance]
      simp only [hbegin]
      cases (p.advance receive).begin with
      | none => rfl
      | some q => exact ih q
  exact hrounds p.waiting.length p

end Pool

namespace Shift

variable {receive : Receive σ} {s : Shift σ}

/-- **The shutdown of the pool is one order of the steps**, up to the last worker that leaves, if no destination keeps
a worker waiting. -/
theorem reaches_shutdown (hdecides : Decides receive) (hrunning : s.pool.isRunning = true) (hgone : s.gone = 0)
    (hworkers : 0 < s.pool.workers) :
    ∃ s', Reaches receive s s' ∧ s'.gone = s.pool.workers ∧ s'.pool = s.pool.shutdown receive := by
  have hstop : Reaches receive s (s.next receive .stop) := .step .stop .refl hrunning
  obtain ⟨s', hreaches, hgone', hpool⟩ := reaches_settle receive (s := s.next receive .stop) hgone
  obtain ⟨hwaiting, hbusy, hstaff⟩ := Pool.settle_idle hdecides (p := (s.next receive .stop).pool) hworkers
  rw [← hpool] at hwaiting hbusy hstaff
  have hshutdown : s'.pool = s.pool.shutdown receive := hpool.trans (Pool.settle_stopped receive s.pool)
  have hstopped : s'.pool.isRunning = false := congrArg Pool.isRunning hshutdown
  have hroom : s'.gone + s.pool.workers ≤ s'.pool.workers := by
    rw [hgone', hstaff, Nat.zero_add]
    exact Nat.le_refl s.pool.workers
  obtain ⟨last, hreaches', hlast, hsame⟩ := reaches_leave receive hstopped hwaiting hbusy hroom
  refine ⟨last, (hstop.trans hreaches).trans hreaches', ?_, hsame.trans hshutdown⟩
  rw [hlast, hgone', Nat.zero_add]

end Shift

end MetricRouter
