import MetricRouter.Proofs.Routing.Delivery

/-!
# What a batch offers

A batch is offered sample by sample, along the bindings, however the destinations answer. Whichever patterns match,
no offer is made twice or out of turn; where it is known which ones match, none is left out either.

* `Records`, `recording` — the destinations remember what they were asked;
* `offersOf`, `Job.ahead` — the offers of a batch to the bindings that are picked, and those that are still ahead of a
  worker;
* `Forecast` — what is known of the answers of patterns: nothing (`Forecast.vague`), or what their expressions say
  (`Forecast.precise`);
* `Offers` — what was offered on the way from one state of the destinations to another;
* `offers_offerAll`, `offers_sweep`, `offers_resume`, `Pool.offers_advance` — one sample, a batch, what is left of one,
  and a worker that goes on with its batch.
-/

namespace MetricRouter

open Pattern (Matchers Group)

variable {σ : Type}

/-- **The destinations remember what they were asked**: `log` has every offer that was answered. -/
def Records (receive : Receive σ) (log : σ → List (Destination × Metric)) : Prop :=
  ∀ d m w, log (receive d m w).2 = log w ++ if (receive d m w).1 = .waiting then [] else [(d, m)]

/-- Destinations that answer as `receive` says, and remember what they were asked. -/
def recording (receive : Receive σ) : Receive (σ × List (Destination × Metric)) := fun d m w =>
  ((receive d m w.1).1, (receive d m w.1).2, w.2 ++ if (receive d m w.1).1 = .waiting then [] else [(d, m)])

theorem records_recording (receive : Receive σ) : Records (recording receive) Prod.snd := fun _ _ _ => rfl

/-! ## Plans -/

section Plans

variable (picks : Binding → String → Bool)

/-- The offers of one sample along some bindings, to those that are picked. -/
def offersAlong (bs : List Binding) (m : Metric) : List (Destination × Metric) :=
  (bs.filter fun b => picks b m.fqn).map fun b => (b.destination, m)

/-- The offers of a batch, in order. -/
def offersOf (bs : List Binding) (batch : List Metric) : List (Destination × Metric) :=
  batch.flatMap (offersAlong picks bs)

/-- The offers that are still ahead of a dispatch that waits, the standing one first. -/
def Stalled.ahead (left : Stalled) : List (Destination × Metric) :=
  (left.destination, left.metric) ::
    (offersAlong picks left.rest left.metric ++ offersOf picks left.bindings left.later)

/-- The offers that are still ahead of a worker. -/
def Job.ahead (bs : List Binding) : Job → List (Destination × Metric)
  | .ready batch => offersOf picks bs batch
  | .stalled left => left.ahead picks

/-- The samples that a worker has still to offer. -/
def Job.samples : Job → List Metric
  | .ready batch => batch
  | .stalled left => left.metric :: left.later

theorem offersAlong_of_picked {b : Binding} {m : Metric} (h : picks b m.fqn = true) (rest : List Binding) :
    offersAlong picks (b :: rest) m = (b.destination, m) :: offersAlong picks rest m := by
  simp [offersAlong, h]

theorem offersAlong_of_not_picked {b : Binding} {m : Metric} (h : ¬ picks b m.fqn = true) (rest : List Binding) :
    offersAlong picks (b :: rest) m = offersAlong picks rest m := by
  simp [offersAlong, h]

end Plans

/-! ## Forecasts -/

/-- **What is known of the answers of patterns** that are asked about some names only. -/
structure Forecast (memoKey : String → Nat) where
  names : Set String
  /-- The memos for which it holds. -/
  Holds : Matchers → Prop
  /-- The bindings whose patterns may match a name. -/
  picks : Binding → String → Bool
  /-- Do they match whenever they may? -/
  Exact : Prop
  keeps : ∀ (b : Binding) (ms : Matchers) (f : String), Holds ms → f ∈ names →
    Holds (b.patterns.answer memoKey ms f).2
  picks_of_answer : ∀ (b : Binding) (ms : Matchers) (f : String), Holds ms → f ∈ names →
    (b.patterns.answer memoKey ms f).1 = true → picks b f = true
  answer_of_picks : Exact → ∀ (b : Binding) (ms : Matchers) (f : String), Holds ms → f ∈ names →
    picks b f = true → (b.patterns.answer memoKey ms f).1 = true

namespace Forecast

/-- Nothing is known. -/
def vague (memoKey : String → Nat) : Forecast memoKey where
  names := Set.univ
  Holds := fun _ => True
  picks := fun _ _ => true
  Exact := False
  keeps := fun _ _ _ _ _ => trivial
  picks_of_answer := fun _ _ _ _ _ _ => rfl
  answer_of_picks := fun h => h.elim

/-- The patterns answer what their expressions say, as long as the keys tell the names apart. -/
def precise {memoKey : String → Nat} {names : Set String} (hkeys : Set.InjOn memoKey names) (ms : Matchers) :
    Forecast memoKey where
  names := names
  Holds := fun ms' => ms'.Truthful memoKey names ∧ ∀ text, ms'.regex? text = ms.regex? text
  picks := fun b f => b.patterns.accepts ms f
  Exact := True
  keeps := by
    rintro b ms' f ⟨htruthful, hregex⟩ hf
    obtain ⟨-, htruthful', hregex'⟩ := b.patterns.answer_eq hkeys htruthful hf
    exact ⟨htruthful', fun text => (hregex' text).trans (hregex text)⟩
  picks_of_answer := by
    rintro b ms' f ⟨htruthful, hregex⟩ hf hanswer
    rw [← Group.accepts_congr hregex, ← (b.patterns.answer_eq hkeys htruthful hf).1]
    exact hanswer
  answer_of_picks := by
    rintro - b ms' f ⟨htruthful, hregex⟩ hf hpicks
    rw [(b.patterns.answer_eq hkeys htruthful hf).1, Group.accepts_congr hregex]
    exact hpicks

variable {memoKey : String → Nat} (p : Forecast memoKey)

/-- The offers of a sample that are left when they came out so. -/
def Leaves (m : Metric) : Offered → List (Destination × Metric) → Prop
  | .done _, left => left = []
  | .failed _, _ => True
  | .waiting d rest, left => left = (d, m) :: offersAlong p.picks rest m

/-- The offers of a batch that are left when its dispatch came out so. -/
def LeavesOf : Outcome → List (Destination × Metric) → Prop
  | .done _, left => left = []
  | .failed _, _ => True
  | .waiting stalled, left => left = stalled.ahead p.picks ∧ ∀ m ∈ stalled.metric :: stalled.later, m.fqn ∈ p.names

end Forecast

/-! ## Offers in turn -/

/-- **What was offered in turn**: of the offers that were ahead some were made, and all that are left come later.
Where the forecast is exact, none is left out. -/
def Offers (log : σ → List (Destination × Metric)) (exact : Prop) (w w' : σ)
    (ahead left : List (Destination × Metric)) : Prop :=
  ∃ made, log w' = log w ++ made ∧ (made ++ left).Sublist ahead ∧ (exact → made ++ left = ahead)

namespace Offers

variable {log : σ → List (Destination × Metric)} {exact : Prop} {w w' w'' : σ}
  {ahead left later : List (Destination × Metric)}

theorem of_eq {made : List (Destination × Metric)} (hlog : log w' = log w ++ made) (h : made ++ left = ahead) :
    Offers log exact w w' ahead left :=
  ⟨made, hlog, h ▸ List.Sublist.refl _, fun _ => h⟩

theorem refl (w : σ) (ahead : List (Destination × Metric)) : Offers log exact w w ahead ahead :=
  of_eq (List.append_nil _).symm rfl

theorem trans (h : Offers log exact w w' ahead left) (h' : Offers log exact w' w'' left later) :
    Offers log exact w w'' ahead later := by
  obtain ⟨made, hlog, hsub, heq⟩ := h
  obtain ⟨made', hlog', hsub', heq'⟩ := h'
  refine ⟨made ++ made', by rw [hlog', hlog, List.append_assoc], ?_, fun hexact => ?_⟩
  · rw [List.append_assoc]
    exact (hsub'.append_left made).trans hsub
  · rw [List.append_assoc, heq' hexact, heq hexact]

theorem append_right (h : Offers log exact w w' ahead left) (later : List (Destination × Metric)) :
    Offers log exact w w' (ahead ++ later) (left ++ later) := by
  obtain ⟨made, hlog, hsub, heq⟩ := h
  refine ⟨made, hlog, ?_, fun hexact => ?_⟩
  · rw [← List.append_assoc]
    exact hsub.append_right later
  · rw [← List.append_assoc, heq hexact]

/-- An offer may be passed over where the forecast is not exact. -/
theorem skip (h : Offers log exact w w' ahead left) (hvague : ¬ exact) (x : Destination × Metric) :
    Offers log exact w w' (x :: ahead) left := by
  obtain ⟨made, hlog, hsub, -⟩ := h
  exact ⟨made, hlog, hsub.cons x, fun hexact => absurd hexact hvague⟩

end Offers

/-! ## One sample -/

section Dispatch

variable {receive : Receive σ} {log : σ → List (Destination × Metric)} {memoKey : String → Nat} {p : Forecast memoKey}

theorem offers_offer (hlog : Records receive log) (exact : Prop) (m : Metric) (d : Destination) (s : Sweep σ)
    (later : List (Destination × Metric)) :
    Offers log exact s.world (Sweep.offer receive m d s).2.world ((d, m) :: later)
      (if (Sweep.offer receive m d s).1 = .waiting then (d, m) :: later else later) := by
  obtain ⟨hanswer, hworld, -⟩ := offer_eq receive m d s
  rw [hanswer, hworld]
  refine .of_eq (hlog d m s.world) ?_
  split
  · rfl
  · rfl

/-- **One sample** is offered in turn along the bindings. -/
theorem offers_offerAll (hlog : Records receive log) {m : Metric} (hm : m.fqn ∈ p.names) (bs : List Binding)
    (matched : Bool) {s : Sweep σ} (hs : p.Holds s.matchers) :
    p.Holds (offerAll receive memoKey m bs matched s).2.matchers ∧
      ∃ left, Offers log p.Exact s.world (offerAll receive memoKey m bs matched s).2.world
          (offersAlong p.picks bs m) left ∧
        p.Leaves m (offerAll receive memoKey m bs matched s).1 left := by
  induction bs generalizing matched s with
  | nil => exact ⟨hs, [], .refl _ _, rfl⟩
  | cons b rest ih =>
    have hkeeps := p.keeps b s.matchers m.fqn hs hm
    have hpicks := p.picks_of_answer b s.matchers m.fqn hs hm
    have hexact := fun hexact => p.answer_of_picks hexact b s.matchers m.fqn hs hm
    rw [offerAll]
    split
    · rename_i ms hasked
      rw [hasked] at hkeeps hexact
      obtain ⟨hholds, left, hoffers, hleaves⟩ := ih matched (s := { s with matchers := ms }) hkeeps
      refine ⟨hholds, left, ?_, hleaves⟩
      by_cases hb : p.picks b m.fqn = true
      · have hvague : ¬ p.Exact := fun h => absurd (hexact h hb) (by simp)
        rw [offersAlong_of_picked p.picks hb]
        exact hoffers.skip hvague _
      · rw [offersAlong_of_not_picked p.picks hb]
        exact hoffers
    · rename_i ms hasked
      rw [hasked] at hkeeps hpicks
      have hoffer := offers_offer hlog p.Exact m b.destination { s with matchers := ms } (offersAlong p.picks rest m)
      have hsame := (offer_eq receive m b.destination { s with matchers := ms }).2.2
      rw [offersAlong_of_picked p.picks (hpicks rfl)]
      split
      · rename_i reason next hanswer
        rw [hanswer] at hoffer hsame
        rw [if_neg (by simp)] at hoffer
        exact ⟨hsame ▸ hkeeps, _, hoffer, trivial⟩
      · rename_i next hanswer
        rw [hanswer] at hoffer hsame
        rw [if_pos rfl] at hoffer
        exact ⟨hsame ▸ hkeeps, _, hoffer, rfl⟩
      · rename_i answer next hfailed hwaiting hanswer
        rw [hanswer] at hoffer hsame
        rw [if_neg hwaiting] at hoffer
        obtain ⟨hholds, left, hoffers, hleaves⟩ := ih true (s := next) (hsame ▸ hkeeps)
        exact ⟨hholds, left, hoffer.trans hoffers, hleaves⟩

/-! ## A batch -/

/-- **A batch** is offered in turn, sample by sample. -/
theorem offers_sweep (hlog : Records receive log) (bs : List Binding) {batch : List Metric}
    (hbatch : ∀ m ∈ batch, m.fqn ∈ p.names) {s : Sweep σ} (hs : p.Holds s.matchers) :
    p.Holds (sweep receive memoKey bs batch s).2.matchers ∧
      ∃ left, Offers log p.Exact s.world (sweep receive memoKey bs batch s).2.world (offersOf p.picks bs batch) left ∧
        p.LeavesOf (sweep receive memoKey bs batch s).1 left := by
  induction batch generalizing s with
  | nil => exact ⟨hs, [], .refl _ _, rfl⟩
  | cons m later ih =>
    obtain ⟨hm, hlater⟩ := List.forall_mem_cons.mp hbatch
    obtain ⟨hholds, left, hsample, hleaves⟩ := offers_offerAll hlog hm bs false hs
    have hoffers := hsample.append_right (offersOf p.picks bs later)
    rw [sweep]
    split
    · rename_i reason next houtcome
      rw [houtcome] at hholds hoffers
      exact ⟨hholds, _, hoffers, trivial⟩
    · rename_i d rest next houtcome
      rw [houtcome] at hholds hoffers hleaves
      refine ⟨hholds, _, hoffers, ?_, hbatch⟩
      rw [hleaves]
      rfl
    · rename_i next houtcome
      rw [houtcome] at hholds hoffers hleaves
      obtain ⟨hholds', left', hrest, hleaves'⟩ := ih hlater (s := next) hholds
      rw [hleaves] at hoffers
      exact ⟨hholds', left', hoffers.trans hrest, hleaves'⟩
    · rename_i next houtcome
      rw [houtcome] at hholds hoffers hleaves
      obtain ⟨hholds', left', hrest, hleaves'⟩ :=
        ih hlater (s := { next with unmatched := next.unmatched + 1 }) hholds
      rw [hleaves] at hoffers
      exact ⟨hholds', left', hoffers.trans hrest, hleaves'⟩

/-- **What is left of a batch** is offered in turn, from the standing offer on. -/
theorem offers_resume (hlog : Records receive log) {left : Stalled}
    (hsamples : ∀ m ∈ left.metric :: left.later, m.fqn ∈ p.names) {s : Sweep σ} (hs : p.Holds s.matchers) :
    p.Holds (left.resume receive memoKey s).2.matchers ∧
      ∃ after, Offers log p.Exact s.world (left.resume receive memoKey s).2.world (left.ahead p.picks) after ∧
        p.LeavesOf (left.resume receive memoKey s).1 after := by
  obtain ⟨hm, hlater⟩ := List.forall_mem_cons.mp hsamples
  have hoffer := offers_offer hlog p.Exact left.metric left.destination { s with delivered := left.delivered }
    (offersAlong p.picks left.rest left.metric ++ offersOf p.picks left.bindings left.later)
  have hsame := (offer_eq receive left.metric left.destination { s with delivered := left.delivered }).2.2
  rw [Stalled.resume]
  split
  · rename_i reason next hanswer
    rw [hanswer] at hoffer hsame
    exact ⟨hsame ▸ hs, _, hoffer, trivial⟩
  · rename_i next hanswer
    rw [hanswer] at hoffer hsame
    rw [if_pos rfl] at hoffer
    exact ⟨hsame ▸ hs, _, hoffer, rfl, hsamples⟩
  · rename_i answer next hfailed hwaiting hanswer
    rw [hanswer] at hoffer hsame
    rw [if_neg hwaiting] at hoffer
    have hnext : p.Holds next.matchers := hsame ▸ hs
    obtain ⟨hholds, after, hsample, hleaves⟩ := offers_offerAll hlog hm left.rest true hnext
    have hoffers := hoffer.trans (hsample.append_right (offersOf p.picks left.bindings left.later))
    split
    · rename_i reason last houtcome
      rw [houtcome] at hholds hoffers
      exact ⟨hholds, _, hoffers, trivial⟩
    · rename_i d rest last houtcome
      rw [houtcome] at hholds hoffers hleaves
      refine ⟨hholds, _, hoffers, ?_, hsamples⟩
      rw [hleaves]
      rfl
    · rename_i matched last houtcome
      rw [houtcome] at hholds hoffers hleaves
      obtain ⟨hholds', after', hrest, hleaves'⟩ := offers_sweep hlog left.bindings hlater hholds
      rw [hleaves] at hoffers
      exact ⟨hholds', after', hoffers.trans hrest, hleaves'⟩

end Dispatch

/-! ## A worker -/

namespace Pool

variable {receive : Receive σ}

/-- **What a worker changes besides the offers that it makes**: it counts a batch that it ends, once. -/
structure Advanced (r : Router σ) (left : Option Job) (r' : Router σ) : Prop where
  settled : r'.counters.batches + r'.counters.failures =
    r.counters.batches + r.counters.failures + if left.isSome then 0 else 1
  failures : r.counters.failures ≤ r'.counters.failures
  dropped : r'.counters.dropped = r.counters.dropped
  bindings : r'.bindings = r.bindings
  memoKey : r'.memoKey = r.memoKey

/-- A worker whose dispatch came so far. -/
def afterOutcome (r : Router σ) (outcome : Outcome) (s : Sweep σ) : Option Job × Router σ :=
  match outcome with
  | .done _ => (none, r.conclude outcome s)
  | .waiting left => (some (.stalled left), r.conclude outcome s)
  | .failed _ => (none, { r.conclude outcome s with
      counters := { (r.conclude outcome s).counters with failures := (r.conclude outcome s).counters.failures + 1 } })

theorem advanced_afterOutcome (r : Router σ) (outcome : Outcome) (s : Sweep σ) :
    Advanced r (afterOutcome r outcome s).1 (afterOutcome r outcome s).2 := by
  cases outcome with
  | done delivered => exact ⟨Nat.add_right_comm _ _ _, Nat.le_refl _, rfl, rfl, rfl⟩
  | waiting left => exact ⟨rfl, Nat.le_refl _, rfl, rfl, rfl⟩
  | failed reason => exact ⟨(Nat.add_assoc _ _ _).symm, Nat.le_succ _, rfl, rfl, rfl⟩

/-- The dispatch of a worker that goes on with its batch. -/
def sweepOf (receive : Receive σ) (r : Router σ) : Job → Outcome × Sweep σ
  | .ready batch => sweep receive r.memoKey r.bindings batch r.start
  | .stalled left => left.resume receive r.memoKey r.start

theorem advance_eq (receive : Receive σ) (r : Router σ) (job : Job) :
    Job.advance receive r job = afterOutcome r (sweepOf receive r job).1 (sweepOf receive r job).2 := by
  cases job with
  | ready batch => rfl
  | stalled left => rfl

theorem advanced_advance (receive : Receive σ) (r : Router σ) (job : Job) :
    Advanced r (Job.advance receive r job).1 (Job.advance receive r job).2 := by
  rw [advance_eq]
  exact advanced_afterOutcome r _ _

/-- **A worker that goes on with its batch** makes offers in turn, from those that are ahead of it on. It ends the batch
when none is left, or when it is broken off. -/
theorem offers_advance {log : σ → List (Destination × Metric)} (hlog : Records receive log) {memoKey : String → Nat}
    {p : Forecast memoKey} {r : Router σ} (hkey : r.memoKey = memoKey) (hr : p.Holds r.matchers) {job : Job}
    (hsamples : ∀ m ∈ job.samples, m.fqn ∈ p.names) :
    p.Holds (Job.advance receive r job).2.matchers ∧
      ∃ after, Offers log p.Exact r.world (Job.advance receive r job).2.world (job.ahead p.picks r.bindings) after ∧
        (∀ next, (Job.advance receive r job).1 = some next →
          after = next.ahead p.picks r.bindings ∧ ∀ m ∈ next.samples, m.fqn ∈ p.names) ∧
        ((Job.advance receive r job).1 = none →
          after = [] ∨ (Job.advance receive r job).2.counters.failures = r.counters.failures + 1) := by
  subst hkey
  have hoffers : p.Holds (sweepOf receive r job).2.matchers ∧
      ∃ after, Offers log p.Exact r.world (sweepOf receive r job).2.world (job.ahead p.picks r.bindings) after ∧
        p.LeavesOf (sweepOf receive r job).1 after := by
    cases job with
    | ready batch => exact offers_sweep hlog r.bindings hsamples (s := r.start) hr
    | stalled left => exact offers_resume hlog hsamples (s := r.start) hr
  rw [advance_eq]
  generalize sweepOf receive r job = result at hoffers ⊢
  obtain ⟨outcome, s⟩ := result
  obtain ⟨hholds, after, hmade, hleaves⟩ := hoffers
  cases outcome with
  | done delivered =>
    exact ⟨hholds, after, hmade, fun _ h => absurd h (by simp [afterOutcome]), fun _ => Or.inl hleaves⟩
  | failed reason =>
    exact ⟨hholds, after, hmade, fun _ h => absurd h (by simp [afterOutcome]), fun _ => Or.inr rfl⟩
  | waiting left =>
    refine ⟨hholds, after, hmade, fun next h => ?_, fun h => absurd h (by simp [afterOutcome])⟩
    rw [← Option.some.inj h]
    exact hleaves

end Pool

end MetricRouter
