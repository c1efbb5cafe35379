import MetricRouter.Proofs.Routing.Delays
import MetricRouter.Proofs.Routing.Schedule

/-!
# One worker

A router with one worker comes to the same as a router that was not started and delivers every batch at once: the worker
takes the batches in the order in which they were handed in, and ends each one before it takes the next.

* `turn`, `NeverFull` — the steps, with batches that are handed in, empty ones as well, as long as the queue has room;
* `Router.inline`, `Router.foldl_inline` — batches that are delivered at once;
* `Pool.queue_deciding` — a pool that was not started;
* `Shift.drained`, `drained_turn`, `drained_foldl` — what the router comes to once everything that is under way has been
  delivered: only a batch that is handed in changes it;
* `inline_of_one_worker` — the main statement.
-/

namespace MetricRouter

variable {σ τ : Type}

/-! ## At once -/

/-- A batch that is delivered at once; there is nothing to deliver of an empty one. -/
def Router.inline (accept : Destination → Metric → τ → Bool × τ) (q : Router τ) (batch : List Metric) : Router τ :=
  if batch.isEmpty then q else (q.dispatch (deciding accept) batch).2

/-- The router after so many offers more, so many more samples that nobody matched, and so many more batches. -/
def Router.through (accept : Destination → Metric → τ → Bool × τ) (q : Router τ) (ms : Pattern.Matchers)
    (offers : List (Destination × Metric)) (lone batches : Nat) : Router τ :=
  { q with
    matchers := ms
    world := Run.after (asking accept) q.world offers
    counters := { q.counters with
      routed := q.counters.routed + (Run.answers (asking accept) q.world offers).count true
      rejected := q.counters.rejected + (Run.answers (asking accept) q.world offers).count false
      unmatched := q.counters.unmatched + lone
      batches := q.counters.batches + batches } }

section Inline

variable (accept : Destination → Metric → τ → Bool × τ)

theorem dispatch_through (q : Router τ) (batch : List Metric) {last : Pattern.Matchers}
    (hlast : (rememberingAll q.memoKey q.bindings batch q.matchers).Later last) :
    let offers := offersOf (answersOf q.memoKey last) q.bindings batch
    q.dispatch (deciding accept) batch = (.done ((Run.answers (asking accept) q.world offers).count true),
      q.through accept (rememberingAll q.memoKey q.bindings batch q.matchers) offers
        (batch.countP fun m => !q.bindings.any fun b => answersOf q.memoKey last b m.fqn) 1) := by
  have hsweep := sweep_deciding accept (s := q.start) hlast
  intro offers
  rw [Router.dispatch]
  simp only [Router.start] at hsweep ⊢
  rw [hsweep]
  simp [Router.conclude, Router.through, Sweep.through, offers]

theorem Router.through_through (q : Router τ) (ms ms' : Pattern.Matchers) (offers more : List (Destination × Metric))
    (lone lone' batches batches' : Nat) :
    (q.through accept ms offers lone batches).through accept ms' more lone' batches' =
      q.through accept ms' (offers ++ more) (lone + lone') (batches + batches') := by
  simp only [Router.through, Run.after_append, Run.answers_append, List.count_append, Nat.add_assoc]

/-- **Batches that are delivered at once** are offered one after another, sample by sample. -/
theorem Router.foldl_inline (batches : List (List Metric)) (q : Router τ) {last : Pattern.Matchers}
    (hlast : (rememberingAll q.memoKey q.bindings batches.flatten q.matchers).Later last) :
    batches.foldl (inline accept) q = q.through accept
      (rememberingAll q.memoKey q.bindings batches.flatten q.matchers)
      (offersOf (answersOf q.memoKey last) q.bindings batches.flatten)
      (batches.flatten.countP fun m => !q.bindings.any fun b => answersOf q.memoKey last b m.fqn)
      (batches.countP fun batch => !batch.isEmpty) := by
  induction batches generalizing q with
  | nil => rfl
  | cons batch rest ih =>
    have hmemos : rememberingAll q.memoKey q.bindings (batch ++ rest.flatten) q.matchers =
        rememberingAll q.memoKey q.bindings rest.flatten (rememberingAll q.memoKey q.bindings batch q.matchers) :=
      List.foldl_append
    rw [List.flatten_cons, hmemos] at hlast
    rw [List.foldl_cons, List.flatten_cons, hmemos]
    cases hempty : batch.isEmpty with
    | true =>
      rw [List.isEmpty_iff] at hempty
      subst hempty
      exact ih q hlast
    | false =>
      have hdispatch := dispatch_through accept q batch
        ((later_rememberingAll q.memoKey q.bindings rest.flatten _).trans hlast)
      rw [inline, hempty, if_neg (by simp), hdispatch, ih _ hlast, through_through, List.countP_append,
        List.countP_cons_of_pos (by simp [hempty]), Nat.add_comm 1]
      simp only [Router.through, offersOf, List.flatMap_append]

theorem Pool.finish_ready (q : Router τ) (batch : List Metric) :
    finish accept q (.ready batch) = (q.dispatch (deciding accept) batch).2 := by
  simp only [finish, Job.advance, dispatch_through accept q batch (.refl _)]

/-- **A pool that was not started** delivers a batch at once. -/
theorem Pool.queue_deciding {p : Pool τ} (hstopped : p.isRunning = false) (batch : List Metric) :
    p.queue (deciding accept) batch = (.ok true, { p with router := p.router.inline accept batch }) := by
  rw [queue, Router.inline]
  cases hempty : batch.isEmpty with
  | true => rfl
  | false =>
    have hdispatch := dispatch_through accept p.router batch (.refl _)
    simp only [Bool.false_eq_true, if_false, hstopped, route, hdispatch]

/-- **Batches that are handed to a pool that was not started.** -/
theorem Pool.after_queue_deciding (batches : List (List Metric)) {p : Pool τ} (hstopped : p.isRunning = false) :
    Run.after (queue (deciding accept)) p batches =
        { p with router := batches.foldl (Router.inline accept) p.router } ∧
      ∀ answer ∈ Run.answers (queue (deciding accept)) p batches, answer = .ok true := by
  induction batches generalizing p with
  | nil => exact ⟨rfl, fun _ h => absurd h List.not_mem_nil⟩
  | cons batch rest ih =>
    rw [Run.after, Run.answers, queue_deciding accept hstopped]
    obtain ⟨hafter, hanswers⟩ := ih (p := { p with router := p.router.inline accept batch }) hstopped
    exact ⟨hafter, List.forall_mem_cons.mpr ⟨rfl, hanswers⟩⟩

end Inline

/-! ## What destinations remember -/

section Logs

variable {accept : Destination → Metric → τ → Bool × τ}

theorem log_after {log : τ → List (Destination × Metric)} (hlog : Records (deciding accept) log)
    (offers : List (Destination × Metric)) (w : τ) : log (Run.after (asking accept) w offers) = log w ++ offers := by
  induction offers generalizing w with
  | nil => exact (List.append_nil _).symm
  | cons o rest ih =>
    have hone : log (accept o.1 o.2 w).2 = log w ++ [o] := by
      have hrecords := hlog o.1 o.2 w
      rwa [if_neg (by rw [deciding]; split <;> simp)] at hrecords
    rw [Run.after, ih, asking, hone, List.append_assoc]
    rfl

/-- Destinations that remember what they were asked, besides what they do. -/
def remembered (accept : Destination → Metric → τ → Bool × τ) (d : Destination) (m : Metric)
    (w : τ × List (Destination × Metric)) : Bool × (τ × List (Destination × Metric)) :=
  ((accept d m w.1).1, (accept d m w.1).2, w.2 ++ [(d, m)])

theorem records_remembered : Records (deciding (remembered accept)) Prod.snd := by
  intro d m w
  rw [if_neg (by rw [deciding]; split <;> simp)]
  rfl

theorem delays_remembered {receive : Receive σ} {view : σ → τ} (h : Delays receive accept view)
    {log : σ → List (Destination × Metric)} (hlog : Records receive log) :
    Delays receive (remembered accept) fun w => (view w, log w) := by
  intro d m w
  have hrecords := hlog d m w
  obtain ⟨hwaits, hsame⟩ | hdecided := h d m w
  · rw [if_pos hwaits, List.append_nil] at hrecords
    exact Or.inl ⟨hwaits, Prod.ext hsame hrecords⟩
  · obtain ⟨hanswer, hview⟩ := Prod.mk.inj hdecided
    rw [if_neg (by rw [hanswer]; split <;> simp)] at hrecords
    exact Or.inr (Prod.ext hanswer (Prod.ext hview hrecords))

end Logs

/-! ## The steps, as long as the queue has room -/

namespace Shift

/-- The batch that is handed in. -/
def Event.batch? : Event → Option (List Metric)
  | .queue batch => some batch
  | _ => none

/-- The shift after something happened; an empty batch is passed over. -/
def turn (receive : Receive σ) (s : Shift σ) : Event → Shift σ
  | .queue batch => if batch.isEmpty then s else s.queue receive batch
  | e => s.next receive e

/-- Can it happen? A batch is handed in only while the workers are running, and is not dropped. -/
def Admits (receive : Receive σ) (s : Shift σ) : Event → Prop
  | .queue batch => s.pool.isRunning = true ∧ (s.pool.queue receive batch).1 = .ok true
  | e => s.Enabled e

/-- **Can these happen one after another, and is the queue never full** when a batch is handed in? -/
def NeverFull (receive : Receive σ) : Shift σ → List Event → Prop
  | _, [] => True
  | s, e :: rest => s.Admits receive e ∧ NeverFull receive (s.turn receive e) rest

theorem turn_queue_pool (receive : Receive σ) (s : Shift σ) (batch : List Metric) :
    (s.turn receive (.queue batch)).pool = (s.pool.queue receive batch).2 := by
  rw [turn]
  split
  · rename_i hempty
    rw [Pool.queue, if_pos hempty]
  · unfold queue
    split
    · rename_i h
      rw [h]
    · rename_i h
      rw [h]

instance decidableAdmits (receive : Receive σ) (s : Shift σ) : (e : Event) → Decidable (s.Admits receive e)
  | .queue _ => inferInstanceAs (Decidable (_ ∧ _))
  | .take => inferInstanceAs (Decidable (s.Enabled .take))
  | .work k => inferInstanceAs (Decidable (s.Enabled (.work k)))
  | .stop => inferInstanceAs (Decidable (s.Enabled .stop))
  | .leave => inferInstanceAs (Decidable (s.Enabled .leave))

instance decidableNeverFull (receive : Receive σ) :
    (s : Shift σ) → (events : List Event) → Decidable (s.NeverFull receive events)
  | _, [] => inferInstanceAs (Decidable True)
  | s, e :: rest =>
    have := decidableNeverFull receive (s.turn receive e) rest
    inferInstanceAs (Decidable (_ ∧ _))

/-! ## Everything under way delivered -/

/-- **What the router comes to** once the worker has gone through its batch, and through all that wait. -/
def drained (accept : Destination → Metric → τ → Bool × τ) (view : σ → τ) (s : Shift σ) : Router τ :=
  s.pool.waiting.foldl (fun q batch => (q.dispatch (deciding accept) batch).2)
    (s.pool.busy.foldl (Pool.finish accept) (s.pool.router.viewed view))

/-- **There is one worker**, and it leaves nothing behind. -/
structure Alone (s : Shift σ) : Prop where
  workers : s.pool.workers = 1
  staff : s.pool.busy.length + s.gone ≤ 1
  left : s.gone ≠ 0 → s.pool.isRunning = false ∧ s.pool.waiting = []

section Alone

variable {receive : Receive σ} {accept : Destination → Metric → τ → Bool × τ} {view : σ → τ} {s : Shift σ}

theorem alone_start (r : Router σ) (queueSize : Nat) : (start (.create r 1 queueSize)).Alone where
  workers := rfl
  staff := Nat.zero_le _
  left := fun h => absurd rfl h

theorem drained_queue (h : s.Alone) {batch : List Metric} (hadmits : s.Admits receive (.queue batch)) :
    (s.turn receive (.queue batch)).Alone ∧
      (s.turn receive (.queue batch)).drained accept view = (s.drained accept view).inline accept batch := by
  obtain ⟨hrunning, htaken⟩ := hadmits
  have hgone : s.gone = 0 := by
    by_contra hgone
    have hstopped := (h.left hgone).1
    rw [hrunning] at hstopped
    exact absurd hstopped (by simp)
  rw [turn, Router.inline]
  cases hempty : batch.isEmpty with
  | true => exact ⟨h, rfl⟩
  | false =>
    have hroom : s.pool.waiting.length < s.pool.capacity := by
      by_contra hfull
      rw [Pool.queue, hempty, if_neg (by simp), if_pos hrunning, if_neg hfull] at htaken
      exact absurd htaken (by simp)
    have hqueue : s.pool.queue receive batch = (.ok true, { s.pool with waiting := s.pool.waiting ++ [batch] }) := by
      rw [Pool.queue, hempty, if_neg (by simp), if_pos hrunning, if_pos hroom]
    simp only [Bool.false_eq_true, if_false, queue, hqueue]
    refine ⟨⟨h.workers, h.staff, fun hleft => absurd hgone hleft⟩, ?_⟩
    simp only [drained, List.foldl_append, List.foldl_cons, List.foldl_nil]

theorem drained_take (h : s.Alone) (hwaiting : s.pool.waiting ≠ []) (hfree : s.HasFree) :
    s.take.Alone ∧ s.take.drained accept view = s.drained accept view := by
  have hidle : s.pool.busy.length = 0 ∧ s.gone = 0 := by
    rw [HasFree, h.workers] at hfree
    omega
  have hbusy : s.pool.busy = [] := List.eq_nil_of_length_eq_zero hidle.1
  obtain ⟨batch, rest, hs⟩ := List.exists_cons_of_ne_nil hwaiting
  have hbegin : s.pool.begin = some { s.pool with waiting := rest, busy := s.pool.busy ++ [.ready batch] } := by
    rw [Pool.begin, hs]
    exact if_pos (by rw [hbusy, h.workers]; exact Nat.one_pos)
  rw [take, hbegin]
  refine ⟨⟨h.workers, ?_, fun hleft => absurd hidle.2 hleft⟩, ?_⟩
  · simp [hbusy, hidle.2]
  · simp only [drained, hbusy, hs, List.nil_append, List.foldl_cons, List.foldl_nil, Pool.finish_ready]

theorem drained_work (hdelays : Delays receive accept view) (h : s.Alone) {k : Nat} (hk : k < s.pool.busy.length) :
    (s.work receive k).Alone ∧ (s.work receive k).drained accept view = s.drained accept view := by
  have hstaff := h.staff
  have hone : s.pool.busy.length = 1 ∧ s.gone = 0 ∧ k = 0 := by omega
  obtain ⟨hlength, hgone, rfl⟩ := hone
  obtain ⟨job, hbusy⟩ := List.length_eq_one_iff.mp hlength
  have hsplit : s.pool.busy = [] ++ job :: [] := hbusy
  obtain ⟨hgone', hpool⟩ := work_pool receive hsplit
  rw [List.length_nil] at hgone' hpool
  simp only [List.nil_append, List.append_nil] at hpool
  refine ⟨⟨?_, ?_, fun hleft => absurd (hgone'.trans hgone) hleft⟩, ?_⟩
  · rw [hpool]
    exact h.workers
  · rw [hpool, hgone', hgone]
    cases (Pool.Job.advance receive s.pool.router job).1 <;> simp
  · rw [drained, drained, hpool, hbusy, List.foldl_cons, List.foldl_nil]
    obtain ⟨hended, hfinish⟩ | ⟨left, hleft, hfinish⟩ := Pool.finish_of_advance hdelays s.pool.router job
    · rw [hfinish, hended]
      rfl
    · rw [hfinish, hleft]
      rfl

/-- **What is under way comes to the same whatever happens, but for a batch that is handed in**, which comes last. -/
theorem drained_turn (hdelays : Delays receive accept view) (h : s.Alone) (e : Event) (he : s.Admits receive e) :
    (s.turn receive e).Alone ∧ (s.turn receive e).drained accept view =
      e.batch?.toList.foldl (Router.inline accept) (s.drained accept view) := by
  cases e with
  | queue batch => exact drained_queue h he
  | take =>
    obtain ⟨hwaiting, hfree⟩ := he
    exact drained_take h hwaiting hfree
  | work k => exact drained_work hdelays h he
  | stop => exact ⟨⟨h.workers, h.staff, fun hleft => ⟨rfl, (h.left hleft).2⟩⟩, rfl⟩
  | leave =>
    obtain ⟨hstopped, hwaiting, hfree⟩ := he
    rw [HasFree, h.workers] at hfree
    exact ⟨⟨h.workers, by show s.pool.busy.length + (s.gone + 1) ≤ 1; omega, fun _ => ⟨hstopped, hwaiting⟩⟩, rfl⟩

/-- **Whatever the order of the steps**, what is under way comes to the batches that were handed in, delivered at
once. -/
theorem drained_foldl (hdelays : Delays receive accept view) (h : s.Alone) {events : List Event}
    (hevents : s.NeverFull receive events) :
    (events.foldl (turn receive) s).Alone ∧ (events.foldl (turn receive) s).drained accept view =
      (events.filterMap Event.batch?).foldl (Router.inline accept) (s.drained accept view) := by
  induction events generalizing s with
  | nil => exact ⟨h, rfl⟩
  | cons e rest ih =>
    obtain ⟨he, hrest⟩ := hevents
    obtain ⟨halone, hturn⟩ := drained_turn hdelays h e he
    obtain ⟨halone', hdrained⟩ := ih halone hrest
    refine ⟨halone', ?_⟩
    rw [List.foldl_cons, hdrained, hturn, ← List.foldl_append]
    cases hbatch : e.batch? with
    | none => rw [List.filterMap_cons_none hbatch]; rfl
    | some batch => rw [List.filterMap_cons_some hbatch]; rfl

theorem drained_of_left (h : s.Alone) (hleft : s.gone = 1) : s.drained accept view = s.pool.router.viewed view := by
  have hstaff := h.staff
  have hbusy : s.pool.busy = [] := List.eq_nil_of_length_eq_zero (by omega)
  have hwaiting := (h.left (by omega)).2
  rw [drained, hbusy, hwaiting]
  rfl

end Alone

/-- **A router with one worker comes to the same as a router that was not started.** Destinations accept or refuse
offers, as they like after all that was offered before, and may keep each offer waiting as long as they like. Batches
are handed in, empty ones as well, while the one worker takes its steps, in any order; the queue is never full, and the
worker is told to stop and leaves in the end. Then the router is the same as if the batches had been delivered at once:
its counters, its memos, and what the destinations have made up their minds about. Both make the same offers, in the
same order: every sample of the batches in turn is offered to the destinations whose patterns match. -/
theorem inline_of_one_worker (receive : Receive σ) (accept : Destination → Metric → τ → Bool × τ) (view : σ → τ)
    (hdelays : Delays receive accept view) (r : Router σ) (queueSize : Nat) (events : List Event)
    (hevents : (start (.create r 1 queueSize)).NeverFull receive events)
    (hleft : (events.foldl (turn receive) (start (.create r 1 queueSize))).gone = 1) :
    let s := events.foldl (turn receive) (start (.create r 1 queueSize))
    let batches := events.filterMap Event.batch?
    let first := Pool.create (r.viewed view) 1 queueSize
    let p := Run.after (Pool.queue (deciding accept)) first batches
    let ms := rememberingAll r.memoKey r.bindings batches.flatten r.matchers
    let offers := offersOf (answersOf r.memoKey ms) r.bindings batches.flatten
    s.pool.router.viewed view = p.router ∧ s.pool.router.counters = p.router.counters ∧
    (∀ answer ∈ Run.answers (Pool.queue (deciding accept)) first batches, answer = .ok true) ∧
    (∀ log, Records receive log → log s.pool.router.world = log r.world ++ offers) ∧
    (∀ log, Records (deciding accept) log → log p.router.world = log (view r.world) ++ offers) := by
  intro s batches first p ms offers
  obtain ⟨hafter, hanswers⟩ := Pool.after_queue_deciding accept batches (p := first) rfl
  -- what the worker has done, seen in any way in which delays do not show
  have hworker {υ : Type} {accept : Destination → Metric → υ → Bool × υ} {view : σ → υ}
      (hdelays : Delays receive accept view) :
      s.pool.router.viewed view = batches.foldl (Router.inline accept) (r.viewed view) := by
    obtain ⟨halone, hdrained⟩ := drained_foldl hdelays (alone_start r queueSize) hevents
    rw [drained_of_left halone hleft] at hdrained
    exact hdrained
  have hoffers {υ : Type} (accept : Destination → Metric → υ → Bool × υ) (view : σ → υ) :
      (batches.foldl (Router.inline accept) (r.viewed view)).world =
        Run.after (asking accept) (view r.world) offers :=
    congrArg Router.world (Router.foldl_inline accept batches (r.viewed view) (.refl _))
  have hsame : s.pool.router.viewed view = p.router :=
    (hworker hdelays).trans (congrArg Pool.router hafter).symm
  refine ⟨hsame, congrArg Router.counters hsame, hanswers, fun log hlog => ?_, fun log hlog => ?_⟩
  · have hworld := congrArg Router.world (hworker (delays_remembered hdelays hlog))
    rw [hoffers (remembered accept)] at hworld
    have hsnd := congrArg Prod.snd hworld
    rwa [log_after records_remembered] at hsnd
  · have hworld : p.router.world = Run.after (asking accept) (view r.world) offers :=
      (congrArg (fun p => p.router.world) hafter).trans (hoffers accept view)
    rw [hworld, log_after hlog]

/-- Every offer is kept waiting once, one is refused, one batch is empty, and one is left when the worker is told to
stop. -/
theorem inline_of_one_worker_of_gate :
    let store : Destination := ⟨0, "store"⟩
    let web : Destination := ⟨1, "web"⟩
    let accept : Destination → Metric → List (Destination × Metric) → Bool × List (Destination × Metric) :=
      fun d m w => (w.length != 1, w ++ [(d, m)])
    let receive : Receive (Bool × List (Destination × Metric)) := fun d m w =>
      if w.1 then ((deciding accept d m w.2).1, false, (deciding accept d m w.2).2) else (.waiting, true, w.2)
    let r := (Router.keyed Text.code (false, [])).edited [.register store ["h/.*"], .register web [".*:x"]]
    let m (fqn : String) : Metric := ⟨⟨0, "h", "a", [], "x", .gauge, fqn⟩, 0, .long 1⟩
    let events : List Event := [.queue [m "h/a:x", m "g/a:x"], .take, .work 0, .queue [], .work 0,
      .queue [m "g/b:z", m "h/b:y"], .work 0, .work 0, .stop, .take, .work 0, .work 0, .leave]
    let s := events.foldl (turn receive) (start (.create r 1 1))
    let p := Run.after (Pool.queue (deciding accept)) (.create (r.viewed Prod.snd) 1 1) (events.filterMap Event.batch?)
    Delays receive accept Prod.snd ∧ (start (.create r 1 1)).NeverFull receive events ∧ s.gone = 1 ∧
      s.pool.router.viewed Prod.snd = p.router ∧
      p.router.counters = { routed := 3, rejected := 1, unmatched := 1, batches := 2 } := by
  intro store web accept receive r m events s p
  have hdelays : Delays receive accept Prod.snd := by
    rintro d m ⟨asked, log⟩
    cases asked with
    | true => exact Or.inr rfl
    | false => exact Or.inl ⟨rfl, rfl⟩
  have hevents : (start (.create r 1 1)).NeverFull receive events := by decide +kernel
  have hleft : s.gone = 1 := by decide +kernel
  obtain ⟨hsame, -, -, -, -⟩ := inline_of_one_worker receive accept Prod.snd hdelays r 1 events hevents hleft
  exact ⟨hdelays, hevents, hleft, hsame, by decide +kernel⟩

end Shift

end MetricRouter
