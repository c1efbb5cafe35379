import MetricRouter.Proofs.Metric.Sample
import MetricRouter.Proofs.Routing.Registration
import MetricRouter.Routing.Pool

/-!
# What reaches a destination

* `Keeps`, `Decides` — a destination accepts everything, and no destination keeps an offer waiting;
* `offerAll_log`, `sweep_log` — what a destination gets of one sample, and of a batch;
* `Pool.queue_log` — a router that is not running delivers to a destination that it serves exactly the samples of
  the name, in order.
-/

namespace MetricRouter

open Pattern (Matchers Group)

variable {σ : Type}

/-- **The destination accepts everything**, and `log` tells what it accepted. -/
structure Keeps (receive : Receive σ) (d : Destination) (log : σ → List Metric) : Prop where
  accepts : ∀ m w, (receive d m w).1 = .accepted
  records : ∀ e m w, log (receive e m w).2 =
    log w ++ if e = d ∧ (receive e m w).1 = .accepted then [m] else []

/-- Every destination makes up its mind about every offer. -/
def Decides (receive : Receive σ) : Prop := ∀ d m w, (receive d m w).1 ≠ .waiting

theorem Keeps.log_eq {receive : Receive σ} {d : Destination} {log : σ → List Metric} (h : Keeps receive d log)
    (e : Destination) (m : Metric) (w : σ) :
    log (receive e m w).2 = log w ++ if e = d then [m] else [] := by
  rw [h.records]
  by_cases he : e = d
  · subst he
    rw [if_pos ⟨rfl, h.accepts m w⟩, if_pos rfl]
  · rw [if_neg fun hboth => he hboth.1, if_neg he]

/-! ## One sample -/

section Offers

variable {receive : Receive σ} {memoKey : String → Nat} {asked : Set String} {d : Destination}
  {log : σ → List Metric}

/-- How often a destination is offered a sample of a name. -/
def copies (ms : Matchers) (d : Destination) (f : String) (bs : List Binding) : Nat :=
  bs.countP (fun b => decide (b.destination = d) && b.patterns.accepts ms f)

theorem offer_eq (receive : Receive σ) (m : Metric) (e : Destination) (s : Sweep σ) :
    (Sweep.offer receive m e s).1 = (receive e m s.world).1 ∧
      (Sweep.offer receive m e s).2.world = (receive e m s.world).2 ∧
      (Sweep.offer receive m e s).2.matchers = s.matchers := by
  unfold Sweep.offer
  split
  · rename_i h
    rw [h]
    exact ⟨rfl, rfl, rfl⟩
  · rename_i h
    rw [h]
    exact ⟨rfl, rfl, rfl⟩
  · rename_i h
    rw [h]
    exact ⟨rfl, rfl, rfl⟩

/-- What holds of a dispatch on its way: the memos are right, and the expressions are those of the start. -/
structure Sweep.Steady (memoKey : String → Nat) (asked : Set String) (ms : Matchers) (s : Sweep σ) : Prop where
  memos : s.matchers.Truthful memoKey asked
  regexes : ∀ text, s.matchers.regex? text = ms.regex? text

/-- **What a destination gets of one sample**: a copy for each of its bindings whose patterns match. -/
theorem offerAll_log (hkeys : Set.InjOn memoKey asked) (hkeeps : Keeps receive d log) {ms : Matchers}
    {m : Metric} (hm : m.fqn ∈ asked) {bs : List Binding} {matched matched' : Bool} {s s' : Sweep σ}
    (hs : s.Steady memoKey asked ms) (h : offerAll receive memoKey m bs matched s = (.done matched', s')) :
    s'.Steady memoKey asked ms ∧ log s'.world = log s.world ++ List.replicate (copies ms d m.fqn bs) m := by
  induction bs generalizing matched s with
  | nil =>
    obtain ⟨-, rfl⟩ := Prod.mk.inj h
    exact ⟨hs, (List.append_nil _).symm⟩
  | cons b rest ih =>
    obtain ⟨hanswer, hmemos, hregexes⟩ := b.patterns.answer_eq hkeys hs.memos hm
    rw [Group.accepts_congr hs.regexes] at hanswer
    rw [offerAll] at h
    cases hasked : b.patterns.answer memoKey s.matchers m.fqn with
    | mk accepted ms' =>
      rw [hasked] at hanswer hmemos hregexes h
      have hsteady : ({ s with matchers := ms' } : Sweep σ).Steady memoKey asked ms :=
        ⟨hmemos, fun text => (hregexes text).trans (hs.regexes text)⟩
      cases accepted with
      | false =>
        have hcopies : copies ms d m.fqn (b :: rest) = copies ms d m.fqn rest := by
          rw [copies, List.countP_cons_of_neg (by simp [← hanswer])]
          rfl
        rw [hcopies]
        exact ih (s := { s with matchers := ms' }) hsteady h
      | true =>
        have hcopies : copies ms d m.fqn (b :: rest) =
            copies ms d m.fqn rest + if b.destination = d then 1 else 0 := by
          rw [copies, List.countP_cons, ← hanswer, Bool.and_true]
          simp [copies]
        obtain ⟨-, hworld, hsame⟩ := offer_eq receive m b.destination { s with matchers := ms' }
        cases hoffer : Sweep.offer receive m b.destination { s with matchers := ms' } with
        | mk answer offered =>
          simp only [hoffer] at hworld hsame h
          have hoffered : offered.Steady memoKey asked ms :=
            ⟨hsame ▸ hsteady.memos, hsame ▸ hsteady.regexes⟩
          have hlog := hkeeps.log_eq b.destination m s.world
          have hrest (h : offerAll receive memoKey m rest true offered = (.done matched', s')) :
              s'.Steady memoKey asked ms ∧
                log s'.world = log s.world ++ List.replicate (copies ms d m.fqn (b :: rest)) m := by
            obtain ⟨hsteady', hlog'⟩ := ih hoffered h
            refine ⟨hsteady', ?_⟩
            rw [hlog', hworld, hlog, hcopies, List.append_assoc, Nat.add_comm, List.replicate_add]
            split <;> rfl
          cases answer with
          | accepted => exact hrest h
          | refused => exact hrest h
          | failed reason => exact absurd (congrArg Prod.fst h) (by simp)
          | waiting => exact absurd (congrArg Prod.fst h) (by simp)

/-! ## A batch -/

/-- **What a destination gets of a batch** that is gone through to the end. -/
theorem sweep_log (hkeys : Set.InjOn memoKey asked) (hkeeps : Keeps receive d log) {ms : Matchers}
    {bs : List Binding} {batch : List Metric} (hbatch : ∀ m ∈ batch, m.fqn ∈ asked) {s s' : Sweep σ}
    {delivered : Nat} (hs : s.Steady memoKey asked ms)
    (h : sweep receive memoKey bs batch s = (.done delivered, s')) :
    s'.Steady memoKey asked ms ∧
      log s'.world = log s.world ++ batch.flatMap (fun m => List.replicate (copies ms d m.fqn bs) m) := by
  induction batch generalizing s with
  | nil =>
    obtain ⟨-, rfl⟩ := Prod.mk.inj h
    exact ⟨hs, (List.append_nil _).symm⟩
  | cons m later ih =>
    obtain ⟨hm, hlater⟩ := List.forall_mem_cons.mp hbatch
    rw [sweep] at h
    cases hoffers : offerAll receive memoKey m bs false s with
    | mk offered next =>
      rw [hoffers] at h
      cases offered with
      | failed reason => exact absurd (congrArg Prod.fst h) (by simp)
      | waiting e rest => exact absurd (congrArg Prod.fst h) (by simp)
      | done matched =>
        obtain ⟨hnext, hlog⟩ := offerAll_log hkeys hkeeps hm hs hoffers
        rw [List.flatMap_cons, ← List.append_assoc, ← hlog]
        cases matched with
        | true => exact ih hlater hnext h
        | false => exact ih (s := { next with unmatched := next.unmatched + 1 }) hlater ⟨hnext.memos, hnext.regexes⟩ h

theorem offerAll_ne_waiting (hdecides : Decides receive) (memoKey : String → Nat) (m : Metric) (bs : List Binding) (matched : Bool)
    (s : Sweep σ) (e : Destination) (rest : List Binding) :
    (offerAll receive memoKey m bs matched s).1 ≠ .waiting e rest := by
  induction bs generalizing matched s with
  | nil => simp [offerAll]
  | cons b bs ih =>
    rw [offerAll]
    split
    · exact ih _ _
    · split
      · simp
      · rename_i hoffer
        have hanswer := congrArg Prod.fst hoffer
        rw [(offer_eq receive m b.destination _).1] at hanswer
        exact absurd hanswer (hdecides b.destination m s.world)
      · exact ih _ _

theorem sweep_ne_waiting (hdecides : Decides receive) (memoKey : String → Nat) (bs : List Binding) (batch : List Metric) (s : Sweep σ)
    (left : Stalled) : (sweep receive memoKey bs batch s).1 ≠ .waiting left := by
  induction batch generalizing s with
  | nil => simp [sweep]
  | cons m later ih =>
    rw [sweep]
    split
    · simp
    · rename_i e rest next hoffers
      have hnot := offerAll_ne_waiting hdecides memoKey m bs false s e rest
      rw [hoffers] at hnot
      exact absurd rfl hnot
    · exact ih _
    · exact ih _

end Offers

/-! ## A router that is not running -/

/-- **A router that is not running and serves a destination** with the samples of a name, as long as it is asked
about some names only. -/
structure Pool.Ready (asked : Set String) (p : Pool σ) (d : Destination) (f : String) : Prop where
  stopped : p.isRunning = false
  kept : p.router.Kept asked
  serves : p.router.Serves d f

theorem copies_of_serves {r : Router σ} {d : Destination} {f : String} (h : r.Serves d f) :
    copies r.matchers d f r.bindings = 1 := by
  rw [← h.once]
  refine List.countP_congr fun b hb => ?_
  by_cases hd : b.destination = d
  · simp [hd, h.accepts b hb hd]
  · simp [hd]

theorem Metric.ofName_flatMap_replicate {f : String} {count : Metric → Nat} (batch : List Metric)
    (h : ∀ m, m.fqn = f → count m = 1) :
    ofName f (batch.flatMap fun m => List.replicate (count m) m) = ofName f batch := by
  rw [ofName, List.filter_flatMap]
  induction batch with
  | nil => rfl
  | cons m batch ih =>
    rw [List.flatMap_cons, ih]
    by_cases hm : m.fqn = f
    · simp [hm, h m hm]
    · simp [hm]

namespace Pool

variable {receive : Receive σ} {asked : Set String} {d : Destination} {log : σ → List Metric} {f : String}
  {p : Pool σ}

/-- **A router that is not running delivers at once**: if no destination breaks down, the one that it serves has
got exactly the samples of the name, in order. -/
theorem queue_log (hready : p.Ready asked d f) (hkeeps : Keeps receive d log) (hdecides : Decides receive)
    {batch : List Metric} (hbatch : ∀ m ∈ batch, m.fqn ∈ asked) (hok : (p.queue receive batch).1.isOk = true) :
    (p.queue receive batch).2.Ready asked d f ∧
      Metric.ofName f (log (p.queue receive batch).2.router.world) =
        Metric.ofName f (log p.router.world) ++ Metric.ofName f batch := by
  unfold queue at hok ⊢
  cases hempty : batch.isEmpty with
  | true =>
    rw [List.isEmpty_iff.mp hempty]
    exact ⟨hready, (List.append_nil _).symm⟩
  | false =>
    simp only [hempty, hready.stopped, Bool.false_eq_true, if_false, route, Router.dispatch] at hok ⊢
    have hwaits := sweep_ne_waiting hdecides p.router.memoKey p.router.bindings batch p.router.start
    cases hsweep : sweep receive p.router.memoKey p.router.bindings batch p.router.start with
    | mk outcome s =>
      rw [hsweep] at hok hwaits
      cases outcome with
      | failed reason => exact absurd hok (by simp [Except.isOk, Except.toBool])
      | waiting left => exact absurd rfl (hwaits left)
      | done delivered =>
        have hsteady : p.router.start.Steady p.router.memoKey asked p.router.matchers :=
          ⟨hready.kept.memos, fun _ => rfl⟩
        obtain ⟨hs, hlog⟩ := sweep_log hready.kept.keys hkeeps hbatch hsteady hsweep
        refine ⟨⟨rfl, ⟨hready.kept.names, hready.kept.keys, hs.memos⟩, hready.serves.once, fun b hb hd => ?_⟩, ?_⟩
        · exact (Group.accepts_congr hs.regexes b.patterns f).trans (hready.serves.accepts b hb hd)
        · have hworld : log s.world = log p.router.world ++ _ := hlog
          show Metric.ofName f (log s.world) = _
          rw [hworld, Metric.ofName_append, Metric.ofName_flatMap_replicate batch]
          rintro m rfl
          exact copies_of_serves hready.serves

end Pool

end MetricRouter
