import MetricRouter.Proofs.Routing.Shift
import MetricRouter.Text.Code

/-!
# Every batch is dispatched once

What destinations are asked is put down to batches: an offer to the batch whose turn it was.

* `Entries`, `made` — offers that are put down to batches, and those of one batch;
* `Attributed`, `Told` — all offers come from batches that a worker took, and from each of them in turn; the invariant
  has this as far as a forecast goes;
* `told_next`, `told_of_reaches` — steps keep the invariant;
* `dispatched_once` — the main statement.
-/

namespace MetricRouter.Shift

variable {σ : Type}

/-! ## What the destinations were asked -/

/-- Offers, each put down to a batch by its number. -/
abbrev Entries := List (Nat × (Destination × Metric))

/-- The offers that are put down to the batch of a number. -/
def made (number : Nat) (offers : Entries) : List (Destination × Metric) :=
  (offers.filter (fun o => o.1 = number)).map Prod.snd

/-- **All that the destinations were asked comes from batches that a worker took**: `offers` puts every offer down to
the number of one. The offers of a batch are those of its dispatch to the bindings that are picked, each made once and
in order, those that a worker has still ahead included. -/
structure Attributed (log : σ → List (Destination × Metric)) (world : σ) (picks : Binding → String → Bool)
    (bs : List Binding) (s : Shift σ) (offers : Entries) : Prop where
  log : log s.pool.router.world = log world ++ offers.map Prod.snd
  taken : ∀ o ∈ offers, o.1 ∈ (s.ended ++ s.held).map Ticket.number
  ended : ∀ t ∈ s.ended, (made t.number offers).Sublist (offersOf picks bs t.batch)
  held : ∀ (k : Nat) (t : Ticket) (job : Job), s.held[k]? = some t → s.pool.busy[k]? = some job →
    (made t.number offers ++ job.ahead picks bs).Sublist (offersOf picks bs t.batch)

/-- The names of the samples that were taken in. -/
def takenNames (s : Shift σ) : Set String := {f | ∃ t ∈ s.accepted, ∃ m ∈ t.batch, m.fqn = f}

/-- **The offers can be put down to batches, as far as a forecast goes.** Where this is exact, no offer of a batch is
left out, unless the batch is broken off. -/
structure Told (log : σ → List (Destination × Metric)) (first : Router σ) (p : Forecast first.memoKey) (s : Shift σ)
    (offers : Entries) : Prop
    extends Attributed log first.world p.picks first.bindings s offers where
  bindings : s.pool.router.bindings = first.bindings
  memoKey : s.pool.router.memoKey = first.memoKey
  holds : p.Holds s.pool.router.matchers
  samples : ∀ job ∈ s.pool.busy, ∀ m ∈ job.samples, m.fqn ∈ p.names
  heldInFull : p.Exact → ∀ (k : Nat) (t : Ticket) (job : Job), s.held[k]? = some t → s.pool.busy[k]? = some job →
    made t.number offers ++ job.ahead p.picks first.bindings = offersOf p.picks first.bindings t.batch
  short : p.Exact →
    s.ended.countP (fun t => made t.number offers ≠ offersOf p.picks first.bindings t.batch) ≤
      s.pool.router.counters.failures

section Told

variable {log : σ → List (Destination × Metric)} {first : Router σ} {p : Forecast first.memoKey}
  {workers queueSize : Nat} {s : Shift σ} {offers : Entries}

theorem made_append_of_ne {number n : Nat} (h : n ≠ number) (offers : Entries)
    (new : List (Destination × Metric)) : made number (offers ++ new.map (n, ·)) = made number offers := by
  have hnone : (new.map (n, ·)).filter (fun o => o.1 = number) = [] := by
    refine List.filter_eq_nil_iff.mpr fun o ho => ?_
    obtain ⟨x, -, rfl⟩ := List.mem_map.mp ho
    simpa using h
  rw [made, List.filter_append, hnone, List.append_nil]
  rfl

theorem made_append (number : Nat) (offers : Entries) (new : List (Destination × Metric)) :
    made number (offers ++ new.map (number, ·)) = made number offers ++ new := by
  have hall : (new.map (number, ·)).filter (fun o => o.1 = number) = new.map (number, ·) := by
    refine List.filter_eq_self.mpr fun o ho => ?_
    obtain ⟨x, -, rfl⟩ := List.mem_map.mp ho
    simp
  rw [made, List.filter_append, hall, List.map_append, List.map_map]
  simp [made]

theorem made_eq_nil {number : Nat} (h : ∀ o ∈ offers, o.1 ≠ number) : made number offers = [] := by
  have hnone : offers.filter (fun o => o.1 = number) = [] := by
    refine List.filter_eq_nil_iff.mpr fun o ho => ?_
    simpa using h o ho
  rw [made, hnone]
  rfl

theorem told_start {router : Router σ} {p : Forecast router.memoKey} (hp : p.Holds router.matchers)
    (log : σ → List (Destination × Metric)) (workers queueSize : Nat) :
    (start (.create router workers queueSize)).Told log router p [] where
  log := (List.append_nil _).symm
  bindings := rfl
  memoKey := rfl
  holds := hp
  samples := fun _ h => absurd h List.not_mem_nil
  taken := fun _ h => absurd h List.not_mem_nil
  ended := fun _ h => absurd h List.not_mem_nil
  held := fun _ _ _ h => absurd h (by simp [start])
  heldInFull := fun _ _ _ _ h => absurd h (by simp [start])
  short := fun _ => Nat.zero_le _

theorem told_queue (receive : Receive σ) (hbalanced : s.Balanced workers queueSize) (h : s.Told log first p offers)
    {batch : List Metric} (hrunning : s.pool.isRunning = true) (hbatch : batch ≠ []) :
    (s.queue receive batch).Told log first p offers := by
  obtain hrefused | ⟨-, haccepted⟩ := queue_cases receive hbalanced hrunning hbatch
  · rw [hrefused]
    exact { h with }
  · rw [haccepted]
    exact { h with }

theorem told_take (hbalanced : s.Balanced workers queueSize) (h : s.Told log first p offers)
    (hnames : s.takenNames ⊆ p.names) (hwaiting : s.pool.waiting ≠ []) (hfree : s.HasFree) :
    s.take.Told log first p offers := by
  obtain ⟨t, later, hqueued, htake⟩ := take_eq hbalanced hwaiting hfree
  have hnodup := hbalanced.nodup
  rw [hqueued, List.map_append, List.map_cons] at hnodup
  have hnew : ∀ o ∈ offers, o.1 ≠ t.number := fun o ho hsame =>
    (List.nodup_append.mp hnodup).2.2 _ (h.taken o ho) _ List.mem_cons_self hsame
  have haccepted : t ∈ s.accepted := by
    refine hbalanced.accepted.mem_iff.mpr ?_
    rw [hqueued]
    simp
  have hheld : ∀ (k : Nat) (u : Ticket) (job : Job), (s.held ++ [t])[k]? = some u →
      (s.pool.busy ++ [Job.ready t.batch])[k]? = some job →
      s.held[k]? = some u ∧ s.pool.busy[k]? = some job ∨ u = t ∧ job = Job.ready t.batch := by
    intro k u job hu hjob
    rcases Nat.lt_or_ge k s.held.length with hk | hk
    · rw [List.getElem?_append_left hk] at hu
      rw [List.getElem?_append_left (hbalanced.held ▸ hk)] at hjob
      exact Or.inl ⟨hu, hjob⟩
    · rw [List.getElem?_append_right hk] at hu
      rw [List.getElem?_append_right (hbalanced.held ▸ hk), hbalanced.held] at hjob
      obtain ⟨-, rfl⟩ := List.getElem?_eq_some_iff.mp hu
      obtain ⟨-, rfl⟩ := List.getElem?_eq_some_iff.mp hjob
      exact Or.inr ⟨List.getElem_singleton _, List.getElem_singleton _⟩
  rw [htake]
  refine { h with taken := ?_, held := ?_, samples := ?_, heldInFull := ?_ }
  · intro o ho
    have htaken := h.taken o ho
    rw [← List.append_assoc, List.map_append]
    exact List.mem_append_left _ htaken
  · intro k u job hu hjob
    obtain ⟨hu, hjob⟩ | ⟨rfl, rfl⟩ := hheld k u job hu hjob
    · exact h.held k u job hu hjob
    · rw [made_eq_nil hnew]
      exact List.Sublist.refl _
  · intro job hjob m hm
    rcases List.mem_append.mp hjob with hjob | hjob
    · exact h.samples job hjob m hm
    · rw [List.mem_singleton.mp hjob] at hm
      exact hnames ⟨t, haccepted, m, hm, rfl⟩
  · intro he k u job hu hjob
    obtain ⟨hu, hjob⟩ | ⟨rfl, rfl⟩ := hheld k u job hu hjob
    · exact h.heldInFull he k u job hu hjob
    · rw [made_eq_nil hnew]
      rfl

theorem made_of_others (hbalanced : s.Balanced workers queueSize) {k : Nat} {t : Ticket} (ht : s.held[k]? = some t)
    (offers : Entries) (new : List (Destination × Metric)) :
    (∀ u ∈ s.ended, made u.number (offers ++ new.map (t.number, ·)) = made u.number offers) ∧
      ∀ j u, j ≠ k → s.held[j]? = some u → made u.number (offers ++ new.map (t.number, ·)) = made u.number offers := by
  constructor
  · intro u hu
    exact made_append_of_ne (hbalanced.ne_of_ended hu ht) offers new
  · intro j u hj hu
    exact made_append_of_ne (hbalanced.ne_of_held hu ht hj) offers new

/-- **The offers after a worker went on with its batch**, with what is left ahead of it. -/
structure Went (log : σ → List (Destination × Metric)) (first : Router σ) (p : Forecast first.memoKey) (s : Shift σ)
    (k : Nat) (t : Ticket) (after : List (Destination × Metric)) (r : Router σ)
    (offers : Entries) : Prop where
  log : log r.world = log first.world ++ offers.map Prod.snd
  bindings : r.bindings = first.bindings
  memoKey : r.memoKey = first.memoKey
  holds : p.Holds r.matchers
  failures : s.pool.router.counters.failures ≤ r.counters.failures
  taken : ∀ o ∈ offers, o.1 ∈ (s.ended ++ s.held).map Ticket.number
  ended : ∀ u ∈ s.ended, (made u.number offers).Sublist (offersOf p.picks first.bindings u.batch)
  others : ∀ (j : Nat) (u : Ticket) (job : Job), j ≠ k → s.held[j]? = some u → s.pool.busy[j]? = some job →
    (made u.number offers ++ job.ahead p.picks first.bindings).Sublist (offersOf p.picks first.bindings u.batch)
  othersInFull : p.Exact → ∀ (j : Nat) (u : Ticket) (job : Job), j ≠ k → s.held[j]? = some u →
    s.pool.busy[j]? = some job →
    made u.number offers ++ job.ahead p.picks first.bindings = offersOf p.picks first.bindings u.batch
  own : (made t.number offers ++ after).Sublist (offersOf p.picks first.bindings t.batch)
  ownInFull : p.Exact → made t.number offers ++ after = offersOf p.picks first.bindings t.batch
  short : p.Exact → s.ended.countP (fun u => made u.number offers ≠ offersOf p.picks first.bindings u.batch) ≤
    s.pool.router.counters.failures

theorem went_advance {receive : Receive σ} (hlog : Records receive log) (hbalanced : s.Balanced workers queueSize)
    (h : s.Told log first p offers) {k : Nat} {t : Ticket} {job : Job} (ht : s.held[k]? = some t)
    (hjob : s.pool.busy[k]? = some job) :
    ∃ after new, Went log first p s k t after (Pool.Job.advance receive s.pool.router job).2 (offers ++ new) ∧
      (∀ next, (Pool.Job.advance receive s.pool.router job).1 = some next →
        after = next.ahead p.picks first.bindings ∧ ∀ m ∈ next.samples, m.fqn ∈ p.names) ∧
      ((Pool.Job.advance receive s.pool.router job).1 = none → after = [] ∨
        (Pool.Job.advance receive s.pool.router job).2.counters.failures =
          s.pool.router.counters.failures + 1) := by
  have hsamples := h.samples job (List.mem_of_getElem? hjob)
  obtain ⟨hholds, after, ⟨new, hnew, hturn, hexact⟩, hgoes, hends⟩ :=
    Pool.offers_advance hlog h.memoKey h.holds hsamples
  have hadvanced := Pool.advanced_advance receive s.pool.router job
  rw [h.bindings] at hturn hexact hgoes
  obtain ⟨hmadeEnded, hmadeHeld⟩ := made_of_others hbalanced ht offers new
  refine ⟨after, new.map (t.number, ·), ?_, hgoes, hends⟩
  refine { bindings := hadvanced.bindings.trans h.bindings, memoKey := hadvanced.memoKey.trans h.memoKey,
           holds := hholds, failures := hadvanced.failures, log := ?_, taken := ?_, ended := ?_, others := ?_,
           othersInFull := ?_, own := ?_, ownInFull := ?_, short := ?_ }
  · rw [hnew, h.log, List.append_assoc, List.map_append, List.map_map]
    simp
  · intro o ho
    rcases List.mem_append.mp ho with ho | ho
    · exact h.taken o ho
    · obtain ⟨x, -, rfl⟩ := List.mem_map.mp ho
      exact List.mem_map_of_mem (List.mem_append_right _ (List.mem_of_getElem? ht))
  · intro u hu
    rw [hmadeEnded u hu]
    exact h.ended u hu
  · intro j u other hj hu hother
    rw [hmadeHeld j u hj hu]
    exact h.held j u other hu hother
  · intro he j u other hj hu hother
    rw [hmadeHeld j u hj hu]
    exact h.heldInFull he j u other hu hother
  · rw [made_append, List.append_assoc]
    exact (hturn.append_left _).trans (h.held k t job ht hjob)
  · intro he
    rw [made_append, List.append_assoc, hexact he, h.heldInFull he k t job ht hjob]
  · intro he
    refine Nat.le_trans (Nat.le_of_eq (List.countP_congr fun u hu => ?_)) (h.short he)
    rw [hmadeEnded u hu]

theorem told_wait (h : s.Told log first p offers) {k : Nat} (hk : k < s.pool.busy.length) {t : Ticket}
    (ht : s.held[k]? = some t) {left : Job} {r : Router σ} {offers' : Entries}
    (hwent : Went log first p s k t (left.ahead p.picks first.bindings) r offers')
    (hsamples : ∀ m ∈ left.samples, m.fqn ∈ p.names) :
    Told log first p { s with pool := { s.pool with router := r, busy := s.pool.busy.set k left } } offers' := by
  have hplace : ∀ (j : Nat) (u : Ticket) (other : Job), s.held[j]? = some u →
      (s.pool.busy.set k left)[j]? = some other → j ≠ k ∧ s.pool.busy[j]? = some other ∨ u = t ∧ other = left := by
    intro j u other hu hother
    by_cases hj : j = k
    · subst hj
      rw [ht] at hu
      rw [List.getElem?_set_self hk] at hother
      exact Or.inr ⟨(Option.some.inj hu).symm, (Option.some.inj hother).symm⟩
    · rw [List.getElem?_set_ne (Ne.symm hj)] at hother
      exact Or.inl ⟨hj, hother⟩
  refine { hwent with held := ?_, samples := ?_, heldInFull := ?_, short := ?_ }
  · intro j u other hu hother
    obtain ⟨hj, hother⟩ | ⟨rfl, rfl⟩ := hplace j u other hu hother
    · exact hwent.others j u other hj hu hother
    · exact hwent.own
  · intro other hother
    rcases List.mem_or_eq_of_mem_set hother with hother | rfl
    · exact h.samples other hother
    · exact hsamples
  · intro he j u other hu hother
    obtain ⟨hj, hother⟩ | ⟨rfl, rfl⟩ := hplace j u other hu hother
    · exact hwent.othersInFull he j u other hj hu hother
    · exact hwent.ownInFull he
  · intro he
    exact (hwent.short he).trans hwent.failures

/-- Two lists without their elements at one place have the others in common. -/
theorem exists_of_eraseIdx {α β : Type} {l : List α} {l' : List β} {j k : Nat} {a : α} {b : β}
    (ha : (l.eraseIdx k)[j]? = some a) (hb : (l'.eraseIdx k)[j]? = some b) :
    ∃ i, i ≠ k ∧ l[i]? = some a ∧ l'[i]? = some b := by
  rw [List.getElem?_eraseIdx] at ha hb
  by_cases hj : j < k
  · rw [if_pos hj] at ha hb
    exact ⟨j, Nat.ne_of_lt hj, ha, hb⟩
  · rw [if_neg hj] at ha hb
    exact ⟨j + 1, by omega, ha, hb⟩

theorem told_end (h : s.Told log first p offers) {k : Nat} {t : Ticket} (ht : s.held[k]? = some t)
    {after : List (Destination × Metric)} {r : Router σ} {offers' : Entries}
    (hwent : Went log first p s k t after r offers')
    (hends : after = [] ∨ r.counters.failures = s.pool.router.counters.failures + 1) :
    Told log first p
      { s with
        pool := { s.pool with router := r, busy := s.pool.busy.eraseIdx k }
        held := s.held.eraseIdx k
        ended := s.ended ++ [t] } offers' := by
  refine { hwent with taken := ?_, ended := ?_, held := ?_, samples := ?_, heldInFull := ?_, short := ?_ }
  · intro o ho
    exact ((perm_of_ended ht s.ended).map Ticket.number).mem_iff.mpr (hwent.taken o ho)
  · intro u hu
    rcases List.mem_append.mp hu with hu | hu
    · exact hwent.ended u hu
    · rw [List.mem_singleton.mp hu]
      exact (List.sublist_append_left _ _).trans hwent.own
  · intro j u other hu hother
    obtain ⟨i, hi, hu, hother⟩ := exists_of_eraseIdx hu hother
    exact hwent.others i u other hi hu hother
  · intro other hother
    exact h.samples other (List.mem_of_mem_eraseIdx hother)
  · intro he j u other hu hother
    obtain ⟨i, hi, hu, hother⟩ := exists_of_eraseIdx hu hother
    exact hwent.othersInFull he i u other hi hu hother
  · intro he
    have hbefore := hwent.short he
    rw [List.countP_append, List.countP_singleton]
    obtain rfl | hbroken := hends
    · have hfull := hwent.ownInFull he
      rw [List.append_nil] at hfull
      rw [if_neg (by simpa using hfull)]
      exact hbefore.trans hwent.failures
    · show _ ≤ r.counters.failures
      rw [hbroken]
      split <;> omega

theorem told_work {receive : Receive σ} (hlog : Records receive log) (hbalanced : s.Balanced workers queueSize)
    (h : s.Told log first p offers) {k : Nat} (hk : k < s.pool.busy.length) :
    ∃ new, (s.work receive k).Told log first p (offers ++ new) := by
  obtain ⟨t, job, ht, hjob, hwork⟩ := work_cases receive hbalanced hk
  obtain ⟨after, new, hwent, hgoes, hends⟩ := went_advance hlog hbalanced h ht hjob
  refine ⟨new, ?_⟩
  obtain ⟨left, hleft, hwork⟩ | ⟨hnone, hwork⟩ := hwork
  · obtain ⟨rfl, hsamples⟩ := hgoes left hleft
    rw [hwork]
    exact told_wait h hk ht hwent hsamples
  · rw [hwork]
    exact told_end h ht hwent (hends hnone)

/-- **Every step keeps the invariant**, with the offers that it makes. -/
theorem told_next {receive : Receive σ} (hlog : Records receive log) (hbalanced : s.Balanced workers queueSize)
    (h : s.Told log first p offers) (hnames : s.takenNames ⊆ p.names) (e : Event) (he : s.Enabled e) :
    ∃ new, (s.next receive e).Told log first p (offers ++ new) := by
  have hquiet (s' : Shift σ) (h' : s'.Told log first p offers) : ∃ new, s'.Told log first p (offers ++ new) :=
    ⟨[], (List.append_nil offers).symm ▸ h'⟩
  cases e with
  | queue batch =>
    obtain ⟨hrunning, hbatch⟩ := he
    exact hquiet _ (told_queue receive hbalanced h hrunning hbatch)
  | take =>
    obtain ⟨hwaiting, hfree⟩ := he
    exact hquiet _ (told_take hbalanced h hnames hwaiting hfree)
  | work k => exact told_work hlog hbalanced h he
  | stop => exact hquiet _ { h with }
  | leave => exact hquiet _ { h with }

theorem takenNames_subset_next (receive : Receive σ) (s : Shift σ) (e : Event) :
    s.takenNames ⊆ (s.next receive e).takenNames := by
  rintro f ⟨t, ht, hf⟩
  exact ⟨t, accepted_subset_next receive s e ht, hf⟩

/-- **Whatever the steps lead to**, the offers can be put down to batches. -/
theorem told_of_reaches {receive : Receive σ} (hlog : Records receive log) {router : Router σ}
    (hrouter : router.counters = {}) {p : Forecast router.memoKey} (hp : p.Holds router.matchers)
    (h : Reaches receive (start (.create router workers queueSize)) s) (hnames : s.takenNames ⊆ p.names) :
    ∃ offers, s.Told log router p offers := by
  induction h with
  | refl => exact ⟨[], told_start hp log workers queueSize⟩
  | @step s e h he ih =>
    have hnames' := (takenNames_subset_next receive s e).trans hnames
    have hbalanced := balanced_of_reaches (balanced_start hrouter workers queueSize) h
    obtain ⟨offers, htold⟩ := ih hnames'
    obtain ⟨new, hnext⟩ := told_next hlog hbalanced htold hnames' e he
    exact ⟨offers ++ new, hnext⟩

end Told

/-! ## The main statement -/

theorem Attributed.made_refused {log : σ → List (Destination × Metric)} {world : σ} {picks : Binding → String → Bool}
    {bs : List Binding} {workers queueSize : Nat} {s : Shift σ} {offers : Entries}
    (h : s.Attributed log world picks bs offers) (hbalanced : s.Balanced workers queueSize) :
    ∀ t ∈ s.refused, made t.number offers = [] := by
  intro t ht
  refine made_eq_nil fun o ho hsame => ?_
  have hall := hbalanced.nodup_numbers
  rw [List.map_append] at hall
  have htaken : o.1 ∈ s.accepted.map Ticket.number := by
    refine (hbalanced.accepted.map Ticket.number).mem_iff.mpr ?_
    rw [List.map_append]
    exact List.mem_append_left _ (h.taken o ho)
  exact (List.nodup_append.mp hall).2.2 _ htaken _ (List.mem_map_of_mem ht) hsame

theorem Told.batches_le {log : σ → List (Destination × Metric)} {first : Router σ} {p : Forecast first.memoKey}
    {workers queueSize : Nat} {s : Shift σ} {offers : Entries}
    (h : s.Told log first p offers) (hbalanced : s.Balanced workers queueSize) (hexact : p.Exact) :
    s.pool.router.counters.batches ≤
      s.ended.countP (fun t => made t.number offers = offersOf p.picks first.bindings t.batch) := by
  have hshort := h.short hexact
  have hsettled := hbalanced.settled
  have hsplit := List.length_eq_countP_add_countP
    (fun t : Ticket => decide (made t.number offers = offersOf p.picks first.bindings t.batch)) (l := s.ended)
  simp only [decide_eq_true_eq] at hsplit
  simp only [ne_eq] at hshort
  omega

/-- **Every batch that a started router takes in is dispatched once, and no other.** However the steps of producers,
workers and the shutdown follow each other, and however destinations answer, at every point:

* no more batches wait than the queue has room for;
* a batch is turned down exactly when the queue is full, all that this changes is the number of samples dropped, and
  that number is the sum over all batches that were turned down;
* every batch that was taken in is in one place: it waits, a worker has it, or it was ended. Those that were ended are
  counted as gone through or as broken off;
* what destinations were asked, if they remember it, can be put down to the batches that workers took, to each no more
  than one dispatch offers, and to no batch that was turned down. As long as the keys of memos tell apart the names of
  the samples, the offers go to bindings whose patterns match, and the batches counted as gone through made all of
  these;
* once all workers have left, every batch that was taken in was ended. -/
theorem dispatched_once {receive : Receive σ} (key : String → Nat) (world : σ) (edits : List Router.Edit)
    (workers queueSize : Nat) {s : Shift σ}
    (h : Reaches receive (start (.create ((Router.keyed key world).edited edits) workers queueSize)) s) :
    let r := (Router.keyed key world).edited edits
    let c := s.pool.router.counters
    s.pool.waiting.length ≤ max queueSize 1 ∧
    (∀ batch, batch ≠ [] → s.pool.isRunning = true →
      s.pool.queue receive batch =
        if s.pool.waiting.length = max queueSize 1 then
          (.ok false, { s.pool with
            router := { s.pool.router with counters := { c with dropped := c.dropped + batch.length } } })
        else (.ok true, { s.pool with waiting := s.pool.waiting ++ [batch] })) ∧
    c.dropped = (s.refused.map fun t => t.batch.length).sum ∧
    ((s.accepted ++ s.refused).map Ticket.number).Nodup ∧
    s.accepted.Perm (s.ended ++ s.held ++ s.queued) ∧
    s.pool.waiting = s.queued.map Ticket.batch ∧ s.pool.busy.length = s.held.length ∧
    s.accepted.length = c.batches + c.failures + s.pool.waiting.length + s.pool.busy.length ∧
    (∀ log, Records receive log → ∃ offers, s.Attributed log world (fun _ _ => true) r.bindings offers ∧
      ∀ t ∈ s.refused, made t.number offers = []) ∧
    (∀ log, Records receive log → Set.InjOn key s.takenNames →
      let picks := fun (b : Binding) f => b.patterns.accepts r.matchers f
      ∃ offers, s.Attributed log world picks r.bindings offers ∧ (∀ t ∈ s.refused, made t.number offers = []) ∧
        c.batches ≤ s.ended.countP (fun t => made t.number offers = offersOf picks r.bindings t.batch)) ∧
    (s.gone = max workers 1 → s.pool.waiting = [] ∧ s.pool.busy = [] ∧ s.accepted.Perm s.ended) := by
  intro r c
  have hcounters : r.counters = {} := Router.counters_edited (Router.keyed key world) edits
  have hworld : r.world = world := Router.world_edited (Router.keyed key world) edits
  have hbalanced := balanced_of_reaches (balanced_start hcounters workers queueSize) h
  have hroom := hbalanced.room
  rw [hbalanced.capacity] at hroom
  refine ⟨hroom, ?_, hbalanced.dropped, hbalanced.nodup_numbers, hbalanced.accepted, hbalanced.queued,
    hbalanced.held, hbalanced.length_accepted, ?_, ?_, hbalanced.all_ended⟩
  · intro batch hbatch hrunning
    rw [← hbalanced.capacity]
    exact queue_eq receive hrunning hbalanced.room hbatch
  · intro log hlog
    obtain ⟨offers, htold⟩ := told_of_reaches hlog hcounters (p := .vague r.memoKey) trivial h (Set.subset_univ _)
    have hattributed := htold.toAttributed
    rw [hworld] at hattributed
    exact ⟨offers, hattributed, hattributed.made_refused hbalanced⟩
  · intro log hlog hkeys picks
    have hkept := Router.kept_edited (Router.kept_keyed hkeys world) edits
    have hholds : (Forecast.precise hkept.keys r.matchers).Holds r.matchers := ⟨hkept.memos, fun _ => rfl⟩
    obtain ⟨offers, htold⟩ := told_of_reaches hlog hcounters hholds h (Set.Subset.refl _)
    have hattributed := htold.toAttributed
    rw [hworld] at hattributed
    exact ⟨offers, hattributed, hattributed.made_refused hbalanced, htold.batches_le hbalanced trivial⟩

/-- Two workers and room for one batch: a batch is dropped, a destination keeps one waiting and another breaks down,
and the workers are told to stop before they have taken everything. -/
theorem dispatched_once_of_shutdown :
    let store : Destination := ⟨0, "store"⟩
    let broken : Destination := ⟨1, "broken"⟩
    let receive : Receive (Bool × List (Destination × Metric)) := recording fun d _ asked =>
      if d = broken then (.failed "down", asked) else if asked then (.accepted, asked) else (.waiting, true)
    let edits : List Router.Edit := [.register store ["h/.*"], .register broken [".*:bad"]]
    let r := (Router.keyed Text.code (false, [])).edited edits
    let picks := fun (b : Binding) f => b.patterns.accepts r.matchers f
    let m (name : String) : Metric := ⟨⟨0, "h", "a", [], name, .gauge, "h/a:" ++ name⟩, 0, .long 1⟩
    let events : List Event := [.queue [m "x"], .queue [m "x", m "y"], .take, .queue [m "bad"], .take, .work 0,
      .queue [m "z"], .work 1, .stop, .take, .work 1, .leave, .work 0, .leave]
    let s := events.foldl (next receive) (start (.create r 2 1))
    (start (.create r 2 1)).Possible receive events ∧ Set.InjOn Text.code s.takenNames ∧ s.gone = max 2 1 ∧
      s.accepted.length = 3 ∧
      s.pool.router.counters = { routed := 2, dropped := 2, batches := 2, failures := 1 } ∧ s.accepted.Perm s.ended ∧
      ∃ offers, s.Attributed Prod.snd (false, []) picks r.bindings offers ∧
        (∀ t ∈ s.refused, made t.number offers = []) ∧
        2 ≤ s.ended.countP (fun t => made t.number offers = offersOf picks r.bindings t.batch) := by
  intro store broken receive edits r picks m events s
  have hpossible : (start (.create r 2 1)).Possible receive events := by decide +kernel
  have hlog : Records receive Prod.snd := records_recording _
  have hkeys : Set.InjOn Text.code s.takenNames := fun _ _ _ _ h => Text.code_inj h
  have hgone : s.gone = max 2 1 := by decide +kernel
  have hcounters : s.pool.router.counters = { routed := 2, dropped := 2, batches := 2, failures := 1 } := by
    decide +kernel
  have haccepted : s.accepted.length = 3 := by decide +kernel
  have hrun : Reaches receive (start (.create r 2 1)) s := reaches_of_possible hpossible
  obtain ⟨-, -, -, -, -, -, -, -, -, hexact, hstopped⟩ := dispatched_once Text.code (false, []) edits 2 1 hrun
  obtain ⟨offers, hattributed, hrefused, hfull⟩ := hexact Prod.snd hlog hkeys
  rw [hcounters] at hfull
  exact ⟨hpossible, hkeys, hgone, haccepted, hcounters, (hstopped hgone).2.2, offers, hattributed, hrefused, hfull⟩

end MetricRouter.Shift
