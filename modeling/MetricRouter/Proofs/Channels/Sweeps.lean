import MetricRouter.Channels
import MetricRouter.Proofs.DelayQueue
import MetricRouter.Proofs.Table

/-!
# Sweeps for idle channels

A sweep looks at the agents whose time may be up, and files again those whose channels were used meanwhile. It finds
every idle channel as long as every agent with a channel is listed under some instant that is not after the one at
which its channel is due.

* `isIdle`, `Watched` — the channels to be given up at an instant, and the invariant;
* `schedule_eq` — what it means to file an agent under an instant;
* `Reviewed`, `reviewed_foldl` — what becomes of a pool when agents are looked at one after another;
* `evictIdle_eq`, `get?_evictIdle`, `size_evictIdle`, `watched_evictIdle` — a sweep gives up exactly the idle channels,
  changes nothing else, and keeps the invariant.
-/

namespace MetricRouter.ChannelPool

open Net (Endpoint)

/-- Was the channel not used for the idle time at an instant? -/
def isIdle (p : ChannelPool) (now : UInt64) (c : Pooled) : Bool := decide (p.dueAfter c.lastUsed ≤ now)

/-- **Every agent with a channel is looked at in time**: it is listed under an instant that is not after the one at
which its channel is due. -/
def Watched (p : ChannelPool) : Prop :=
  ∀ r c, p.channels.get? r = some c → ∃ d, d ≤ p.dueAfter c.lastUsed ∧ p.expiry.Lists d r

theorem schedule_eq (p : ChannelPool) (remote : Endpoint) (deadline : UInt64) :
    ∃ q, p.schedule remote deadline = { p with expiry := q } ∧
      ∀ d r, q.Lists d r ↔ p.expiry.Lists d r ∨ (d = deadline ∧ r = remote) := by
  have hheld : ∀ r, r ∈ (p.expiry.getOrInsert deadline []).2.1 ↔ p.expiry.Lists deadline r :=
    fun r => DelayQueue.mem_getOrInsert_iff
  have hlists : ∀ d r, (p.expiry.getOrInsert deadline []).1.Lists d r ↔ p.expiry.Lists d r :=
    fun d r => DelayQueue.lists_getOrInsert_iff
  unfold schedule
  generalize p.expiry.getOrInsert deadline [] = filed at hheld hlists
  obtain ⟨q, remotes, new⟩ := filed
  simp only at hheld hlists
  simp only
  split
  · rename_i hlisted
    refine ⟨q, rfl, fun d r => ?_⟩
    rw [List.contains_iff_mem, hheld] at hlisted
    rw [hlists]
    refine ⟨Or.inl, ?_⟩
    rintro (h | ⟨rfl, rfl⟩)
    · exact h
    · exact hlisted
  · refine ⟨_, rfl, fun d r => ?_⟩
    rw [DelayQueue.lists_set_iff]
    by_cases hd : deadline = d
    · subst hd
      rw [if_pos rfl, List.mem_append, hheld, List.mem_singleton]
      simp
    · rw [if_neg hd, hlists]
      simp [Ne.symm hd]

/-! ## Looking at agents -/

section Review

variable (p : ChannelPool) (now : UInt64) (n : Nat) (remote : Endpoint)

theorem review_of_none (h : p.channels.get? remote = none) : review now (n, p) remote = (n, p) := by
  simp only [review, h]

theorem review_of_idle {c : Pooled} (h : p.channels.get? remote = some c) (hc : p.isIdle now c = true) :
    review now (n, p) remote = (n + 1, { p with channels := p.channels.erase remote }) := by
  simp only [review, h, if_pos (of_decide_eq_true hc)]

theorem review_of_used {c : Pooled} (h : p.channels.get? remote = some c) (hc : p.isIdle now c = false) :
    review now (n, p) remote = (n, p.schedule remote (p.dueAfter c.lastUsed)) := by
  simp only [review, h, if_neg (of_decide_eq_false hc)]

theorem review_eq : ∃ channels expiry,
    (review now (n, p) remote).2 = { p with channels := channels, expiry := expiry } := by
  cases h : p.channels.get? remote with
  | none => exact ⟨p.channels, p.expiry, by rw [review_of_none p now n remote h]⟩
  | some c =>
    cases hc : p.isIdle now c with
    | true => exact ⟨_, p.expiry, by rw [review_of_idle p now n remote h hc]⟩
    | false =>
      obtain ⟨q, hq, -⟩ := p.schedule_eq remote (p.dueAfter c.lastUsed)
      exact ⟨p.channels, q, by rw [review_of_used p now n remote h hc, hq]⟩

end Review

/-- **What becomes of a pool when agents are looked at**: `n` is the number of channels given up before, and `n'` the
number after it. -/
structure Reviewed (now : UInt64) (remotes : List Endpoint) (n : Nat) (p : ChannelPool) (n' : Nat)
    (p' : ChannelPool) : Prop where
  idleTime : p'.idleTime = p.idleTime
  channels : ∀ r, p'.channels.get? r =
    if r ∈ remotes then (p.channels.get? r).filter (fun c => !p.isIdle now c) else p.channels.get? r
  size : n' + p'.size = n + p.size
  listed : ∀ d r, p.expiry.Lists d r → p'.expiry.Lists d r
  again : ∀ r ∈ remotes, ∀ c, p'.channels.get? r = some c → p'.expiry.Lists (p.dueAfter c.lastUsed) r

theorem reviewed_review (now : UInt64) (n : Nat) (p : ChannelPool) (remote : Endpoint) :
    Reviewed now [remote] n p (review now (n, p) remote).1 (review now (n, p) remote).2 := by
  cases h : p.channels.get? remote with
  | none =>
    rw [review_of_none p now n remote h]
    refine ⟨rfl, fun r => ?_, rfl, fun _ _ h => h, fun r hr c hc => ?_⟩
    · by_cases hr : r = remote
      · simp [hr, h]
      · simp [hr]
    · rw [List.mem_singleton.mp hr, h] at hc
      exact absurd hc (by simp)
  | some c =>
    cases hc : p.isIdle now c with
    | true =>
      rw [review_of_idle p now n remote h hc]
      refine ⟨rfl, fun r => ?_, ?_, fun _ _ h => h, fun r hr c' hc' => ?_⟩
      · by_cases hr : r = remote
        · simp [hr, h, Option.filter, hc]
        · simp [hr, Ne.symm hr]
      · have hsize := Table.size_erase h
        simp only [size]
        omega
      · rw [List.mem_singleton.mp hr] at hc'
        exact absurd hc' (by simp)
    | false =>
      rw [review_of_used p now n remote h hc]
      obtain ⟨q, hq, hlists⟩ := p.schedule_eq remote (p.dueAfter c.lastUsed)
      rw [hq]
      refine ⟨rfl, fun r => ?_, rfl, fun d r hlisted => (hlists d r).mpr (Or.inl hlisted), fun r hr c' hc' => ?_⟩
      · by_cases hr : r = remote
        · simp [hr, h, Option.filter, hc]
        · simp [hr]
      · rw [List.mem_singleton.mp hr] at hc' ⊢
        have hsame : c = c' := Option.some.inj (h.symm.trans hc')
        exact (hlists _ _).mpr (Or.inr ⟨by rw [hsame], rfl⟩)

theorem Reviewed.trans {now : UInt64} {rs rs' : List Endpoint} {n n' n'' : Nat} {p p' p'' : ChannelPool}
    (h : Reviewed now rs n p n' p') (h' : Reviewed now rs' n' p' n'' p'') :
    Reviewed now (rs ++ rs') n p n'' p'' := by
  have hdue : ∀ t, p'.dueAfter t = p.dueAfter t := fun t => by rw [dueAfter, h.idleTime]; rfl
  have hidle : ∀ c, p'.isIdle now c = p.isIdle now c := fun c => by rw [isIdle, hdue]; rfl
  refine ⟨h'.idleTime.trans h.idleTime, fun r => ?_, h'.size.trans h.size,
    fun d r hl => h'.listed d r (h.listed d r hl), fun r hr c hc => ?_⟩
  · rw [h'.channels, h.channels]
    simp only [hidle, List.mem_append]
    by_cases hr : r ∈ rs <;> by_cases hr' : r ∈ rs' <;> simp [hr, hr', Option.filter_filter]
  · by_cases hr' : r ∈ rs'
    · rw [← hdue]
      exact h'.again r hr' c hc
    · rw [h'.channels, if_neg hr'] at hc
      exact h'.listed _ r (h.again r ((List.mem_append.mp hr).resolve_right hr') c hc)

/-- **What becomes of a pool when agents are looked at one after another.** -/
theorem reviewed_foldl (now : UInt64) (remotes : List Endpoint) (n : Nat) (p : ChannelPool) :
    Reviewed now remotes n p (remotes.foldl (review now) (n, p)).1 (remotes.foldl (review now) (n, p)).2 := by
  induction remotes generalizing n p with
  | nil => exact ⟨rfl, fun _ => by simp, rfl, fun _ _ h => h, fun _ hr => absurd hr List.not_mem_nil⟩
  | cons remote rest ih => exact (reviewed_review now n p remote).trans (ih _ _)

/-! ## Sweeps -/

section Sweep

variable {p : ChannelPool} (now : UInt64)

theorem reviewed_evictIdle (p : ChannelPool) (now : UInt64) :
    Reviewed now ((p.expiry.drainExpired now).1.flatMap Prod.snd) 0
      { p with expiry := (p.expiry.drainExpired now).2 } (p.evictIdle now).1 (p.evictIdle now).2 :=
  reviewed_foldl now _ 0 _

/-- **A sweep changes nothing but the channels that are held and the instants at which to look at them.** -/
theorem evictIdle_eq (p : ChannelPool) : ∃ channels expiry,
    (p.evictIdle now).2 = { p with channels := channels, expiry := expiry } := by
  unfold evictIdle
  refine List.foldlRecOn (motive := fun acc : Nat × ChannelPool =>
    ∃ channels expiry, acc.2 = { p with channels := channels, expiry := expiry }) _ _ ⟨_, _, rfl⟩ ?_
  rintro ⟨n, q⟩ ⟨channels, expiry, rfl⟩ r -
  obtain ⟨channels', expiry', hreview⟩ := review_eq { p with channels := channels, expiry := expiry } now n r
  exact ⟨channels', expiry', hreview⟩

/-- **A sweep gives up exactly the idle channels.** -/
theorem get?_evictIdle (h : p.Watched) (r : Endpoint) :
    (p.evictIdle now).2.channels.get? r = (p.channels.get? r).filter (fun c => !p.isIdle now c) := by
  rw [(reviewed_evictIdle p now).channels]
  split
  · rfl
  · rename_i hr
    cases hc : p.channels.get? r with
    | none => rfl
    | some c =>
      -- an agent that is not looked at is listed later, so its channel is not due
      obtain ⟨d, hd, hlisted⟩ := h r c hc
      have hlater : p.isIdle now c = false := by
        refine decide_eq_false fun hdue => hr ?_
        exact DelayQueue.mem_flatMap_drainExpired_iff.mpr ⟨d, UInt64.le_trans hd hdue, hlisted⟩
      simp [Option.filter, hlater]

theorem size_evictIdle (p : ChannelPool) : (p.evictIdle now).1 + (p.evictIdle now).2.size = p.size :=
  (reviewed_evictIdle p now).size.trans (Nat.zero_add _)

/-- **A sweep keeps the invariant**: an agent that was looked at and kept is filed again, and the others are still
listed. -/
theorem watched_evictIdle (h : p.Watched) : (p.evictIdle now).2.Watched := by
  have hreviewed := reviewed_evictIdle p now
  intro r c hc
  have hdue : (p.evictIdle now).2.dueAfter c.lastUsed = p.dueAfter c.lastUsed := by
    rw [dueAfter, hreviewed.idleTime]
    rfl
  rw [hdue]
  by_cases hr : r ∈ (p.expiry.drainExpired now).1.flatMap Prod.snd
  · exact ⟨_, UInt64.le_refl _, hreviewed.again r hr c hc⟩
  · rw [hreviewed.channels, if_neg hr] at hc
    obtain ⟨d, hd, hlisted⟩ := h r c hc
    have hlater : now < d := UInt64.not_le.mp fun hle =>
      hr (DelayQueue.mem_flatMap_drainExpired_iff.mpr ⟨d, hle, hlisted⟩)
    exact ⟨d, hd, hreviewed.listed d r (DelayQueue.lists_drainExpired_iff.mpr ⟨hlater, hlisted⟩)⟩

end Sweep

end MetricRouter.ChannelPool
