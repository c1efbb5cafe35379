import MetricRouter.Proofs.Pattern.Settled
import MetricRouter.Proofs.Routing.Offers
import MetricRouter.Proofs.Run
import MetricRouter.Text.Code

/-!
# Where a batch goes

Which patterns match does not depend on what destinations answer, and a group repeats its answers. So a dispatch is
a run of offers that can be read off the memos as it leaves them, and its counters are counts of the answers.

* `deciding`, `asking` — destinations that accept or refuse every offer, and one offer as a step of a run;
* `remembering`, `rememberingAll` — the memos once every group was asked about a sample, and about a batch;
* `answersOf`, `answersOf_of_later` — what groups answer, which is final;
* `Sweep.through`, `through_through` — a dispatch after so many offers more;
* `offerAll_deciding`, `sweep_deciding` — one sample, and a batch;
* `map_snd_filter_offersOf` — what is offered to a destination that is bound once;
* `dispatch_deciding` — the main statement.
-/

namespace MetricRouter

open Pattern (Matchers Group)

variable {σ : Type}

/-- Destinations that accept or refuse every offer, as they like after all that was offered before. -/
def deciding (accept : Destination → Metric → σ → Bool × σ) : Receive σ := fun d m w =>
  (if (accept d m w).1 then .accepted else .refused, (accept d m w).2)

/-- One offer, as a step of a run. -/
def asking (accept : Destination → Metric → σ → Bool × σ) (w : σ) (o : Destination × Metric) : Bool × σ :=
  accept o.1 o.2 w

/-! ## Memos on the way -/

section Memos

variable (memoKey : String → Nat) (bs : List Binding)

/-- The memos once the groups of all bindings were asked about a name, in order. -/
def remembering (fqn : String) (ms : Matchers) : Matchers :=
  bs.foldl (fun ms b => (b.patterns.answer memoKey ms fqn).2) ms

/-- The memos once the groups of all bindings were asked about the samples of a batch, in order. -/
def rememberingAll (batch : List Metric) (ms : Matchers) : Matchers :=
  batch.foldl (fun ms m => remembering memoKey bs m.fqn ms) ms

/-- What the group of a binding answers for a name. -/
def answersOf (ms : Matchers) (b : Binding) (fqn : String) : Bool := (b.patterns.answer memoKey ms fqn).1

theorem later_remembering (fqn : String) (ms : Matchers) : ms.Later (remembering memoKey bs fqn ms) :=
  List.foldlRecOn (motive := ms.Later) bs _ (.refl ms) fun _ h _ _ => h.trans (Group.later_answer rfl)

theorem later_rememberingAll (batch : List Metric) (ms : Matchers) :
    ms.Later (rememberingAll memoKey bs batch ms) :=
  List.foldlRecOn (motive := ms.Later) batch _ (.refl ms) fun _ h m _ =>
    h.trans (later_remembering memoKey bs m.fqn _)

/-- **What a group has answered it answers in every later state.** -/
theorem answersOf_of_later {b : Binding} {fqn : String} {ms ms' last : Matchers} {yes : Bool}
    (h : b.patterns.answer memoKey ms fqn = (yes, ms')) (hlater : ms'.Later last) :
    answersOf memoKey last b fqn = yes :=
  Group.answer_of_later h hlater

variable {p : Forecast memoKey} {fqn : String} {ms : Matchers}

theorem holds_remembering (hfqn : fqn ∈ p.names) (h : p.Holds ms) : p.Holds (remembering memoKey bs fqn ms) :=
  List.foldlRecOn (motive := p.Holds) bs _ h fun ms h b _ => p.keeps b ms fqn h hfqn

theorem holds_rememberingAll {batch : List Metric} (hbatch : ∀ m ∈ batch, m.fqn ∈ p.names) (h : p.Holds ms) :
    p.Holds (rememberingAll memoKey bs batch ms) :=
  List.foldlRecOn (motive := p.Holds) batch _ h fun _ h m hm => holds_remembering memoKey bs (hbatch m hm) h

theorem answersOf_eq_picks (hexact : p.Exact) (h : p.Holds ms) (hfqn : fqn ∈ p.names) (b : Binding) :
    answersOf memoKey ms b fqn = p.picks b fqn :=
  Bool.eq_iff_iff.mpr ⟨p.picks_of_answer b ms fqn h hfqn, p.answer_of_picks hexact b ms fqn h hfqn⟩

end Memos

/-! ## Dispatches as runs of offers -/

section Runs

variable (accept : Destination → Metric → σ → Bool × σ)

/-- The dispatch after so many offers more, and so many more samples that nobody matched. -/
def Sweep.through (s : Sweep σ) (ms : Matchers) (offers : List (Destination × Metric)) (lone : Nat) : Sweep σ where
  matchers := ms
  world := Run.after (asking accept) s.world offers
  delivered := s.delivered + (Run.answers (asking accept) s.world offers).count true
  rejected := s.rejected + (Run.answers (asking accept) s.world offers).count false
  unmatched := s.unmatched + lone

theorem through_through (s : Sweep σ) (ms ms' : Matchers) (offers more : List (Destination × Metric))
    (lone lone' : Nat) : (s.through accept ms offers lone).through accept ms' more lone' =
      s.through accept ms' (offers ++ more) (lone + lone') := by
  simp only [Sweep.through, Run.after_append, Run.answers_append, List.count_append, Nat.add_assoc]

theorem offer_deciding (m : Metric) (d : Destination) (s : Sweep σ) :
    Sweep.offer (deciding accept) m d s =
      (if (accept d m s.world).1 then .accepted else .refused, s.through accept s.matchers [(d, m)] 0) := by
  unfold Sweep.offer deciding
  cases h : (accept d m s.world).1 <;> simp [h, Sweep.through, Run.after, Run.answers, asking]

/-- One binding: its destination is asked if its patterns match, and then the sample goes on, whatever it answers. -/
theorem offerAll_cons_deciding {memoKey : String → Nat} {m : Metric} {b : Binding} {s : Sweep σ} {yes : Bool}
    {ms : Matchers} (h : b.patterns.answer memoKey s.matchers m.fqn = (yes, ms)) (rest : List Binding)
    (matched : Bool) : offerAll (deciding accept) memoKey m (b :: rest) matched s =
      offerAll (deciding accept) memoKey m rest (matched || yes)
        (s.through accept ms (if yes then [(b.destination, m)] else []) 0) := by
  rw [offerAll, h]
  cases yes with
  | false => simp [Sweep.through, Run.after, Run.answers]
  | true =>
    have hoffer := offer_deciding accept m b.destination { s with matchers := ms }
    cases hanswer : (accept b.destination m s.world).1 <;>
      simp only [hanswer, if_true, Bool.false_eq_true, if_false] at hoffer <;>
      simp [hoffer, Sweep.through]

variable {memoKey : String → Nat} {bs : List Binding}

/-- **One sample** is offered to the destinations whose groups match it, which any later state of the memos tells. -/
theorem offerAll_deciding {m : Metric} {s : Sweep σ} {last : Matchers}
    (hlast : (remembering memoKey bs m.fqn s.matchers).Later last) (matched : Bool) :
    offerAll (deciding accept) memoKey m bs matched s =
      (.done (matched || bs.any (fun b => answersOf memoKey last b m.fqn)),
        s.through accept (remembering memoKey bs m.fqn s.matchers)
          (offersAlong (answersOf memoKey last) bs m) 0) := by
  induction bs generalizing matched s with
  | nil => simp [offerAll, remembering, offersAlong, Sweep.through, Run.after, Run.answers]
  | cons b rest ih =>
    cases hasked : b.patterns.answer memoKey s.matchers m.fqn with
    | mk yes ms =>
      have hrest : remembering memoKey (b :: rest) m.fqn s.matchers = remembering memoKey rest m.fqn ms := by
        rw [remembering, List.foldl_cons, hasked]
        rfl
      rw [hrest] at hlast ⊢
      have hyes : answersOf memoKey last b m.fqn = yes :=
        answersOf_of_later memoKey hasked ((later_remembering memoKey rest m.fqn ms).trans hlast)
      rw [offerAll_cons_deciding accept hasked, ih (s := s.through accept ms _ 0) hlast, through_through,
        List.any_cons, hyes, Bool.or_assoc]
      cases yes with
      | true =>
        rw [offersAlong_of_picked (answersOf memoKey last) hyes]
        rfl
      | false =>
        rw [offersAlong_of_not_picked (answersOf memoKey last) (Bool.eq_false_iff.mp hyes)]
        rfl

/-- **A batch** is offered sample by sample, and is gone through to the end. -/
theorem sweep_deciding {batch : List Metric} {s : Sweep σ} {last : Matchers}
    (hlast : (rememberingAll memoKey bs batch s.matchers).Later last) :
    let done := s.through accept (rememberingAll memoKey bs batch s.matchers)
      (offersOf (answersOf memoKey last) bs batch)
      (batch.countP (fun m => !bs.any (fun b => answersOf memoKey last b m.fqn)))
    sweep (deciding accept) memoKey bs batch s = (.done done.delivered, done) := by
  induction batch generalizing s with
  | nil => rfl
  | cons m later ih =>
    intro done
    let picks := answersOf memoKey last
    let ms := remembering memoKey bs m.fqn s.matchers
    let lone (m : Metric) : Bool := !bs.any (fun b => picks b m.fqn)
    let next := s.through accept ms (offersAlong picks bs m) (if lone m then 1 else 0)
    have hsample : ms.Later last := (later_rememberingAll memoKey bs later ms).trans hlast
    have hstep : sweep (deciding accept) memoKey bs (m :: later) s = sweep (deciding accept) memoKey bs later next := by
      rw [sweep, offerAll_deciding accept hsample]
      cases hany : bs.any (fun b => picks b m.fqn) <;> simp [picks, hany, next, lone, ms, Sweep.through]
    have hdone : done = next.through accept (rememberingAll memoKey bs later ms) (offersOf picks bs later)
        (later.countP lone) := by
      rw [through_through, Nat.add_comm, ← List.countP_cons]
      rfl
    rw [hstep, ih (s := next) hlast, hdone]
    rfl

end Runs

/-! ## What a destination is offered -/

/-- **What is offered to a destination** that is bound once: the samples that its patterns pick, in the order of the
batch, and once each. -/
theorem map_snd_filter_offersOf (picks : Binding → String → Bool) {bs : List Binding}
    (hnodup : (bs.map Binding.destination).Nodup) {b : Binding} (hb : b ∈ bs) (batch : List Metric) :
    ((offersOf picks bs batch).filter (fun o => decide (o.1 = b.destination))).map Prod.snd =
      batch.filter (fun m => picks b m.fqn) := by
  have hown : bs.filter (fun x => decide (x.destination = b.destination)) = [b] := by
    obtain ⟨before, after, rfl⟩ := List.append_of_mem hb
    rw [List.map_append, List.map_cons, List.nodup_append, List.nodup_cons] at hnodup
    obtain ⟨-, ⟨hafter, -⟩, hbefore⟩ := hnodup
    have hnone : ∀ x ∈ before ++ after, ¬ decide (x.destination = b.destination) = true := by
      intro x hx
      rw [decide_eq_true_iff]
      rcases List.mem_append.mp hx with hx | hx
      · exact hbefore _ (List.mem_map_of_mem hx) _ List.mem_cons_self
      · exact fun heq => hafter (heq ▸ List.mem_map_of_mem hx)
    obtain ⟨hleft, hright⟩ := List.append_eq_nil_iff.mp (List.filter_append .. ▸ List.filter_eq_nil_iff.mpr hnone)
    rw [List.filter_append, List.filter_cons_of_pos (by simp), hleft, hright]
    rfl
  have hsample : ∀ m, ((offersAlong picks bs m).filter (fun o => decide (o.1 = b.destination))).map Prod.snd =
      [m].filter (fun m => picks b m.fqn) := by
    intro m
    unfold offersAlong
    rw [List.filter_map, List.map_map]
    show ((bs.filter _).filter (fun x => decide (x.destination = b.destination))).map (fun _ => m) = _
    rw [List.filter_comm, hown]
    cases hb : picks b m.fqn <;> simp [hb]
  induction batch with
  | nil => rfl
  | cons m later ih =>
    rw [offersOf, List.flatMap_cons, List.filter_append, List.map_append, hsample]
    exact (congrArg _ ih).trans (List.filter_append ..).symm

theorem length_offersOf (picks : Binding → String → Bool) (bs : List Binding) (batch : List Metric) :
    (offersOf picks bs batch).length = (batch.map (fun m => bs.countP (fun b => picks b m.fqn))).sum := by
  simp only [offersOf, List.length_flatMap, offersAlong, List.length_map, List.countP_eq_length_filter]

namespace Router

/-- **What a dispatch does**, whichever offers the destinations accept. Every sample is offered, in the order of the
batch and of the bindings, to the destinations whose groups match its name. What matches is what the groups answer,
which the memos tell after the dispatch as well and which does not depend on the destinations; where the keys of the
memos tell names apart, it is what the patterns say. Accepted offers are returned and routed, refused ones rejected,
and samples that match no binding unmatched; all offers together are as many as there are pairs of a sample and a
binding that matches it. A destination that is bound once is offered exactly the samples that match. -/
theorem dispatch_deciding (accept : Destination → Metric → σ → Bool × σ) (r : Router σ) (batch : List Metric) :
    let ms := rememberingAll r.memoKey r.bindings batch r.matchers
    let picks := answersOf r.memoKey ms
    let offers := offersOf picks r.bindings batch
    let answers := Run.answers (asking accept) r.world offers
    let accepted := answers.count true
    let refused := answers.count false
    r.dispatch (deciding accept) batch = (.done accepted, { r with
      matchers := ms
      world := Run.after (asking accept) r.world offers
      counters := { r.counters with
        routed := r.counters.routed + accepted
        rejected := r.counters.rejected + refused
        unmatched := r.counters.unmatched + batch.countP (fun m => !r.bindings.any (fun b => picks b m.fqn))
        batches := r.counters.batches + 1 } }) ∧
    accepted + refused = (batch.map (fun m => r.bindings.countP (fun b => picks b m.fqn))).sum ∧
    ((r.bindings.map Binding.destination).Nodup → ∀ b ∈ r.bindings,
      (offers.filter (fun o => decide (o.1 = b.destination))).map Prod.snd = batch.filter (fun m => picks b m.fqn)) ∧
    (r.Kept (Metric.names batch) → ∀ b, ∀ m ∈ batch,
      picks b m.fqn = b.patterns.accepts r.matchers m.fqn) := by
  intro ms picks offers answers accepted refused
  refine ⟨?_, ?_, fun hnodup b hb => map_snd_filter_offersOf picks hnodup hb batch, fun hkept b m hm => ?_⟩
  · have hsweep : sweep (deciding accept) r.memoKey r.bindings batch r.start = _ := sweep_deciding accept (.refl ms)
    rw [dispatch, hsweep]
    simp [conclude, Sweep.through, start, accepted, refused, answers, offers, picks, ms]
  · rw [← length_offersOf, List.count_true_add_count_false, Run.length_answers]
  · let p := Forecast.precise hkept.keys r.matchers
    have hbatch : ∀ m ∈ batch, m.fqn ∈ p.names := fun m hm => ⟨m, hm, rfl⟩
    have hholds : p.Holds ms := holds_rememberingAll r.memoKey r.bindings hbatch ⟨hkept.memos, fun _ => rfl⟩
    exact answersOf_eq_picks r.memoKey trivial hholds (hbatch m hm) b

/-- Two destinations whose patterns overlap, a name that comes twice, one that nobody matches, and a refusal in
between. -/
theorem dispatch_deciding_of_overlap :
    let store : Destination := ⟨0, "store"⟩
    let web : Destination := ⟨1, "web"⟩
    let accept : Destination → Metric → List Metric → Bool × List Metric := fun _ m w => (w.length != 1, w ++ [m])
    let r : Router (List Metric) := (keyed Text.code []).edited [.register store ["h/.*"], .register web [".*:x"]]
    let m (fqn : String) : Metric := ⟨⟨0, "h", "a", [], "x", .gauge, fqn⟩, 0, .long 1⟩
    let batch := [m "h/a:x", m "g/a:x", m "h/a:y", m "g/b:z", m "h/a:x"]
    let offers := offersOf (answersOf r.memoKey (rememberingAll r.memoKey r.bindings batch r.matchers)) r.bindings batch
    let result := r.dispatch (deciding accept) batch
    (r.bindings.map Binding.destination).Nodup ∧ r.Kept (Metric.names batch) ∧
      (∀ b ∈ r.bindings, (offers.filter (fun o => decide (o.1 = b.destination))).map Prod.snd =
        batch.filter (fun m => b.patterns.accepts r.matchers m.fqn)) ∧
      offers.length = 6 ∧ result.2.counters = { routed := 5, rejected := 1, unmatched := 1, batches := 1 } := by
  intro store web accept r m batch offers result
  have hnodup : (r.bindings.map Binding.destination).Nodup := by decide +kernel
  have hkeys : Set.InjOn Text.code (Metric.names batch) := fun s _ t _ h => Text.code_inj h
  have hkept : r.Kept (Metric.names batch) := kept_edited (kept_keyed hkeys []) _
  obtain ⟨-, -, hoffered, hpicks⟩ := dispatch_deciding accept r batch
  have hown : ∀ b ∈ r.bindings, (offers.filter (fun o => decide (o.1 = b.destination))).map Prod.snd =
      batch.filter (fun m => b.patterns.accepts r.matchers m.fqn) := fun b hb =>
    (hoffered hnodup b hb).trans (List.filter_congr fun m hm => hpicks hkept b m hm)
  exact ⟨hnodup, hkept, hown, by decide +kernel, by decide +kernel⟩

end Router

end MetricRouter
