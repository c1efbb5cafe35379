import MetricRouter.Proofs.Routing.Matching

/-!
# Delays

Destinations may keep offers waiting before they make up their minds. What they answer in the end, and all that is
counted, is what it would have been without delays.

* `Delays` — destinations that answer as others do, or keep the offer waiting;
* `resume_eq`, `resume_deciding` — what is left of a batch, offered without delays;
* `Sweep.viewed`, `Router.viewed` — a dispatch and a router with what the destinations have made up their minds about;
* `offer_viewed`, `offerAll_viewed`, `sweep_viewed`, `resume_viewed` — one offer, one sample, a batch, and what is left
  of one: it comes to the same whether what is left is offered without delays now or later;
* `Pool.finish`, `Pool.finish_of_advance` — the same of a worker that goes on with its batch.
-/

namespace MetricRouter

variable {σ τ : Type}

/-- **Destinations that answer as others do, or keep the offer waiting**: `view` tells what they have made up their
minds about so far. -/
def Delays (receive : Receive σ) (accept : Destination → Metric → τ → Bool × τ) (view : σ → τ) : Prop :=
  ∀ d m w, ((receive d m w).1 = .waiting ∧ view (receive d m w).2 = view w) ∨
    ((receive d m w).1, view (receive d m w).2) = deciding accept d m (view w)

/-! ## Without delays -/

section Deciding

variable (accept : Destination → Metric → τ → Bool × τ) (memoKey : String → Nat)

theorem offerAll_matched (m : Metric) (bs : List Binding) (s : Sweep τ) :
    offerAll (deciding accept) memoKey m bs true s =
      (.done true, (offerAll (deciding accept) memoKey m bs true s).2) := by
  rw [offerAll_deciding accept (.refl _), Bool.true_or]

theorem resume_eq (left : Stalled) (s : Sweep τ) : left.resume (deciding accept) memoKey s =
    sweep (deciding accept) memoKey left.bindings left.later
      (offerAll (deciding accept) memoKey left.metric left.rest true
        (Sweep.through accept { s with delivered := left.delivered } s.matchers
          [(left.destination, left.metric)] 0)).2 := by
  let first := Sweep.through accept { s with delivered := left.delivered } s.matchers
    [(left.destination, left.metric)] 0
  have hmatched := offerAll_matched accept memoKey left.metric left.rest first
  rw [Stalled.resume, offer_deciding]
  simp only
  cases (accept left.destination left.metric s.world).1 with
  | true =>
    rw [if_pos rfl]
    simp only
    rw [hmatched]
  | false =>
    rw [if_neg (by simp)]
    simp only
    rw [hmatched]

/-- **What is left of a batch** is offered from the standing offer on, and is gone through to the end. -/
theorem resume_deciding (left : Stalled) {s : Sweep τ} {last : Pattern.Matchers}
    (hlast : (rememberingAll memoKey left.bindings left.later
      (remembering memoKey left.rest left.metric.fqn s.matchers)).Later last) :
    let picks := answersOf memoKey last
    let done := Sweep.through accept { s with delivered := left.delivered }
      (rememberingAll memoKey left.bindings left.later (remembering memoKey left.rest left.metric.fqn s.matchers))
      (left.ahead picks) (left.later.countP (fun m => !left.bindings.any (fun b => picks b m.fqn)))
    left.resume (deciding accept) memoKey s = (.done done.delivered, done) := by
  intro picks done
  let first := Sweep.through accept { s with delivered := left.delivered } s.matchers
    [(left.destination, left.metric)] 0
  have hsample : (remembering memoKey left.rest left.metric.fqn first.matchers).Later last :=
    (later_rememberingAll memoKey left.bindings left.later _).trans hlast
  have hdone : done = (first.through accept (remembering memoKey left.rest left.metric.fqn first.matchers)
      (offersAlong picks left.rest left.metric) 0).through accept
        (rememberingAll memoKey left.bindings left.later (remembering memoKey left.rest left.metric.fqn s.matchers))
        (offersOf picks left.bindings left.later)
        (left.later.countP (fun m => !left.bindings.any (fun b => picks b m.fqn))) := by
    simp only [first, done, through_through, Nat.zero_add]
    rfl
  rw [resume_eq, offerAll_deciding accept hsample, sweep_deciding accept hlast, hdone]
  rfl

end Deciding

/-! ## What destinations have made up their minds about -/

/-- A dispatch with what the destinations have made up their minds about. -/
def Sweep.viewed (view : σ → τ) (s : Sweep σ) : Sweep τ :=
  { matchers := s.matchers, world := view s.world, delivered := s.delivered, rejected := s.rejected,
    unmatched := s.unmatched }

/-- A router with what the destinations have made up their minds about. -/
def Router.viewed (view : σ → τ) (r : Router σ) : Router τ :=
  { memoKey := r.memoKey, matchers := r.matchers, bindings := r.bindings, registrations := r.registrations,
    counters := r.counters, world := view r.world }

section Viewed

variable {receive : Receive σ} {accept : Destination → Metric → τ → Bool × τ} {view : σ → τ}

/-- **One offer** is kept waiting, or answered as without delays. -/
theorem offer_viewed (h : Delays receive accept view) (m : Metric) (d : Destination) (s : Sweep σ) :
    ((Sweep.offer receive m d s).1 = .waiting ∧ (Sweep.offer receive m d s).2.viewed view = s.viewed view) ∨
    (((Sweep.offer receive m d s).1 = .accepted ∨ (Sweep.offer receive m d s).1 = .refused) ∧
      (Sweep.offer receive m d s).2.viewed view = (s.viewed view).through accept s.matchers [(d, m)] 0) := by
  have hanswer := h d m s.world
  unfold Sweep.offer
  generalize receive d m s.world = result at hanswer ⊢
  obtain ⟨answer, w⟩ := result
  obtain ⟨rfl, hsame⟩ | hdecided := hanswer
  · exact Or.inl ⟨rfl, congrArg (fun w => { s.viewed view with world := w }) hsame⟩
  · obtain ⟨hkind, hworld⟩ := Prod.mk.inj hdecided
    refine Or.inr ?_
    cases haccept : (accept d m (view s.world)).1 with
    | true =>
      rw [haccept, if_pos rfl] at hkind
      subst hkind
      exact ⟨Or.inl rfl, by simp [Sweep.viewed, Sweep.through, Run.after, Run.answers, asking, haccept, hworld]⟩
    | false =>
      rw [haccept, if_neg (by simp)] at hkind
      subst hkind
      exact ⟨Or.inr rfl, by simp [Sweep.viewed, Sweep.through, Run.after, Run.answers, asking, haccept, hworld]⟩

variable (memoKey : String → Nat)

/-- **One sample** is gone through as without delays, or up to an offer that is kept waiting; offered without delays,
what is left then comes to the same. -/
theorem offerAll_viewed (h : Delays receive accept view) (m : Metric) (bs : List Binding) (matched : Bool)
    (s : Sweep σ) :
    let result := offerAll receive memoKey m bs matched s
    let next := result.2.viewed view
    (∃ yes, result.1 = .done yes ∧
      offerAll (deciding accept) memoKey m bs matched (s.viewed view) = (.done yes, next)) ∨
    (∃ d rest, result.1 = .waiting d rest ∧
      offerAll (deciding accept) memoKey m bs matched (s.viewed view) =
        offerAll (deciding accept) memoKey m rest true (next.through accept next.matchers [(d, m)] 0)) := by
  induction bs generalizing matched s with
  | nil => exact Or.inl ⟨matched, rfl, rfl⟩
  | cons b rest ih =>
    rw [offerAll]
    cases hasked : b.patterns.answer memoKey s.matchers m.fqn with
    | mk yes ms =>
      have hcons := offerAll_cons_deciding accept (s := s.viewed view) hasked rest matched
      rw [hcons]
      cases yes with
      | false =>
        rw [Bool.or_false]
        exact ih matched { s with matchers := ms }
      | true =>
        rw [Bool.or_true]
        simp only
        have hoffer := offer_viewed h m b.destination { s with matchers := ms }
        generalize Sweep.offer receive m b.destination { s with matchers := ms } = offered at hoffer ⊢
        obtain ⟨answer, next⟩ := offered
        obtain ⟨rfl, hsame⟩ | ⟨rfl | rfl, hsame⟩ := hoffer
        · refine Or.inr ⟨b.destination, rest, rfl, ?_⟩
          rw [hsame]
          rfl
        · have hrest := ih true next
          rw [hsame] at hrest
          exact hrest
        · have hrest := ih true next
          rw [hsame] at hrest
          exact hrest

theorem sweep_cons_of_done {bs : List Binding} {m : Metric} {s next : Sweep τ} {yes : Bool}
    (h : offerAll (deciding accept) memoKey m bs false s = (.done yes, next)) (later : List Metric) :
    sweep (deciding accept) memoKey bs (m :: later) s = sweep (deciding accept) memoKey bs later
      (if yes then next else { next with unmatched := next.unmatched + 1 }) := by
  rw [sweep, h]
  cases yes with
  | true => rfl
  | false => rfl

/-- **A batch** is gone through as without delays, or up to an offer that is kept waiting. -/
theorem sweep_viewed (h : Delays receive accept view) (bs : List Binding) (batch : List Metric) (s : Sweep σ) :
    let result := sweep receive memoKey bs batch s
    let next := result.2.viewed view
    (∃ n, result.1 = .done n ∧ sweep (deciding accept) memoKey bs batch (s.viewed view) = (.done n, next)) ∨
    (∃ left, result.1 = .waiting left ∧
      sweep (deciding accept) memoKey bs batch (s.viewed view) = left.resume (deciding accept) memoKey next) := by
  induction batch generalizing s with
  | nil => exact Or.inl ⟨s.delivered, rfl, rfl⟩
  | cons m later ih =>
    have hsample := offerAll_viewed memoKey h m bs false s
    rw [sweep]
    generalize offerAll receive memoKey m bs false s = result at hsample ⊢
    obtain ⟨outcome, next⟩ := result
    obtain ⟨yes, rfl, hdone⟩ | ⟨d, rest, rfl, hwaits⟩ := hsample
    · rw [sweep_cons_of_done memoKey hdone]
      cases yes with
      | true => exact ih next
      | false => exact ih { next with unmatched := next.unmatched + 1 }
    · refine Or.inr ⟨⟨bs, m, d, rest, later, next.delivered⟩, rfl, ?_⟩
      rw [sweep_cons_of_done memoKey (hwaits.trans (offerAll_matched accept memoKey m rest _)), resume_eq]
      rfl

/-- **What is left of a batch** is gone through as without delays, or up to an offer that is kept waiting. -/
theorem resume_viewed (h : Delays receive accept view) (left : Stalled) (s : Sweep σ) :
    let result := left.resume receive memoKey s
    let next := result.2.viewed view
    (∃ n, result.1 = .done n ∧ left.resume (deciding accept) memoKey (s.viewed view) = (.done n, next)) ∨
    (∃ left', result.1 = .waiting left' ∧
      left.resume (deciding accept) memoKey (s.viewed view) = left'.resume (deciding accept) memoKey next) := by
  have hoffer := offer_viewed h left.metric left.destination { s with delivered := left.delivered }
  rw [resume_eq, Stalled.resume]
  generalize Sweep.offer receive left.metric left.destination { s with delivered := left.delivered } = offered
    at hoffer ⊢
  obtain ⟨answer, next⟩ := offered
  obtain ⟨rfl, hsame⟩ | ⟨hmade, hsame⟩ := hoffer
  · refine Or.inr ⟨left, rfl, ?_⟩
    rw [resume_eq]
    simp only [hsame]
    rfl
  · have hnext : Sweep.through accept { s.viewed view with delivered := left.delivered } (s.viewed view).matchers
        [(left.destination, left.metric)] 0 = next.viewed view := hsame.symm
    have hsample := offerAll_viewed memoKey h left.metric left.rest true next
    rw [hnext]
    -- the answer is counted, and what comes after it does not depend on it
    rcases hmade with rfl | rfl
    all_goals
      simp only
      generalize offerAll receive memoKey left.metric left.rest true next = result at hsample ⊢
      obtain ⟨outcome, last⟩ := result
      obtain ⟨yes, rfl, hdone⟩ | ⟨d, rest, rfl, hwaits⟩ := hsample
      · rw [hdone]
        exact sweep_viewed memoKey h left.bindings left.later last
      · refine Or.inr ⟨_, rfl, ?_⟩
        rw [hwaits, resume_eq]
        rfl

/-! ## A worker -/

namespace Pool

/-- The router once a worker has gone through its batch without delays. -/
def finish (accept : Destination → Metric → τ → Bool × τ) (q : Router τ) (job : Job) : Router τ :=
  (Job.advance (deciding accept) q job).2

theorem finish_stalled (accept : Destination → Metric → τ → Bool × τ) (q : Router τ) (left : Stalled)
    (s : Sweep τ) :
    finish accept (q.conclude (.waiting left) s) (.stalled left) =
      (afterOutcome q (left.resume (deciding accept) q.memoKey s).1
        (left.resume (deciding accept) q.memoKey s).2).2 := by
  have hnow := resume_deciding accept q.memoKey left (s := s) (.refl _)
  have hlater := resume_deciding accept q.memoKey left
    (s := (q.conclude (.waiting left) s).start) (.refl _)
  have hsweep : sweepOf (deciding accept) (q.conclude (.waiting left) s) (.stalled left) =
      left.resume (deciding accept) q.memoKey (q.conclude (.waiting left) s).start := rfl
  rw [finish, advance_eq, hsweep, hnow, hlater]
  simp [afterOutcome, Router.conclude, Router.start, Sweep.through, Nat.add_assoc]

theorem sweepOf_viewed (h : Delays receive accept view) (r : Router σ) (job : Job) :
    let result := sweepOf receive r job
    let next := result.2.viewed view
    (∃ n, result.1 = .done n ∧ sweepOf (deciding accept) (r.viewed view) job = (.done n, next)) ∨
    (∃ left, result.1 = .waiting left ∧
      sweepOf (deciding accept) (r.viewed view) job = left.resume (deciding accept) r.memoKey next) := by
  cases job with
  | ready batch => exact sweep_viewed r.memoKey h r.bindings batch r.start
  | stalled left => exact resume_viewed r.memoKey h left r.start

/-- **A worker that goes on with its batch**: once it has gone through without delays, the router is the same whether
this happens now or later. -/
theorem finish_of_advance (h : Delays receive accept view) (r : Router σ) (job : Job) :
    let result := Job.advance receive r job
    (result.1 = none ∧ finish accept (r.viewed view) job = result.2.viewed view) ∨
    (∃ left, result.1 = some left ∧
      finish accept (r.viewed view) job = finish accept (result.2.viewed view) left) := by
  have hsweep := sweepOf_viewed h r job
  rw [advance_eq]
  have hfinish : finish accept (r.viewed view) job = (afterOutcome (r.viewed view)
      (sweepOf (deciding accept) (r.viewed view) job).1 (sweepOf (deciding accept) (r.viewed view) job).2).2 := by
    rw [finish, advance_eq]
  rw [hfinish]
  generalize sweepOf receive r job = result at hsweep ⊢
  obtain ⟨outcome, next⟩ := result
  obtain ⟨n, rfl, hdone⟩ | ⟨left, rfl, hwaits⟩ := hsweep
  · refine Or.inl ⟨rfl, ?_⟩
    rw [hdone]
    rfl
  · refine Or.inr ⟨.stalled left, rfl, ?_⟩
    rw [hwaits]
    exact (finish_stalled accept (r.viewed view) left (next.viewed view)).symm

end Pool

end Viewed

end MetricRouter
