import MetricRouter.Proofs.Ingest.Batching

/-!
# Resets that expire

A reset that is on its way stands in a table under its agent, and in a queue under the instant at which it expires. It
leaves the table when it is confirmed, when it expires, or when its agent is told again; it leaves the queue when its
instant is reached, and only then. So the queue may list an agent under instants of resets that are long confirmed, but
it lists every reset that is still in the table. The clock may step back in between.

* `lists_fileReset_iff`, `get?_foldl_expireReset` — the queue when an agent is listed, the table when agents expire;
* `Tracked` — the invariant: what is in the table is listed under its instant;
* `get?_expireResets` — the resets that are forgotten are exactly those whose time is up;
* `tracked_told`, `tracked_next`, `tracked_arrive`, `tracked_call`, `tracked_after` — the invariant is kept;
* `quiet_handle` — a batch leaves nothing listed under an instant that is reached;
* `pendingResets_after` — the main statement.
-/

namespace MetricRouter.Ingest

open Net (Endpoint)
open Wire (Incoming Batch Reply)

/-! ## The queue and the table -/

theorem lists_fileReset_iff (q : DelayQueue (List Endpoint)) (deadline d : UInt64) (remote r : Endpoint) :
    (fileReset q deadline remote).Lists d r ↔ q.Lists d r ∨ (d = deadline ∧ r = remote) := by
  show ((q.getOrInsert deadline []).1.set deadline ((q.getOrInsert deadline []).2.1 ++ [remote])).Lists d r ↔ _
  rw [DelayQueue.lists_set_iff]
  by_cases hd : deadline = d
  · subst hd
    rw [if_pos rfl, List.mem_append, DelayQueue.mem_getOrInsert_iff, List.mem_singleton]
    simp
  · rw [if_neg hd, DelayQueue.lists_getOrInsert_iff]
    simp [Ne.symm hd]

section Table

variable (now : UInt64) (pending : Table Endpoint UInt64) (r : Endpoint)

theorem get?_expireReset (remote : Endpoint) : (expireReset now pending remote).get? r =
    if remote = r then (pending.get? r).filter (fun u => now < u) else pending.get? r := by
  unfold expireReset
  by_cases hr : remote = r
  · subst hr
    rw [if_pos rfl]
    cases h : pending.get? remote with
    | none => simp [h]
    | some u =>
      by_cases hu : u ≤ now
      · simp [hu, Option.filter]
      · simp [h, hu, Option.filter, UInt64.not_le.mp hu]
  · rw [if_neg hr]
    split
    · rw [Table.get?_erase, if_neg hr]
    · rfl

theorem get?_foldl_expireReset (remotes : List Endpoint) : (remotes.foldl (expireReset now) pending).get? r =
    if r ∈ remotes then (pending.get? r).filter (fun u => now < u) else pending.get? r := by
  induction remotes generalizing pending with
  | nil => simp
  | cons remote rest ih =>
    rw [List.foldl_cons, ih, get?_expireReset]
    by_cases hr : remote = r
    · subst hr
      cases pending.get? remote <;> simp
    · simp [hr, Ne.symm hr]

end Table

/-! ## What is in the table is listed -/

/-- **Every reset on its way is listed under the instant at which it expires.** -/
structure Tracked (timeout : UInt64) (i : Ingest) : Prop where
  waits : i.resetTimeout = timeout
  listed : ∀ r u, i.pendingResets.get? r = some u → i.resetExpiry.Lists u r

section Tracked

variable {timeout now : UInt64} {i : Ingest}

theorem tracked_create (c : Catalog) (timeout : UInt64) : Tracked timeout (create c timeout) where
  waits := rfl
  listed := fun r u h => absurd h (by simp [create])

/-- **The resets that are forgotten are exactly those whose time is up**: the queue lists them all. -/
theorem get?_expireResets (h : Tracked timeout i) (now : UInt64) (r : Endpoint) :
    (i.expireResets now).pendingResets.get? r = (i.pendingResets.get? r).filter (fun u => now < u) := by
  show (((i.resetExpiry.drainExpired now).1.flatMap Prod.snd).foldl (expireReset now) i.pendingResets).get? r = _
  rw [get?_foldl_expireReset]
  split
  · rfl
  · rename_i hr
    cases hu : i.pendingResets.get? r with
    | none => rfl
    | some u =>
      have hlater : now < u := UInt64.not_le.mp fun hle =>
        hr (DelayQueue.mem_flatMap_drainExpired_iff.mpr ⟨u, hle, h.listed r u hu⟩)
      simp [Option.filter, hlater]

theorem tracked_expireResets (h : Tracked timeout i) (now : UInt64) : Tracked timeout (i.expireResets now) where
  waits := h.waits
  listed := by
    intro r u hu
    rw [get?_expireResets h, Option.filter_eq_some_iff] at hu
    exact DelayQueue.lists_drainExpired_iff.mpr ⟨of_decide_eq_true hu.2, h.listed r u hu.1⟩

theorem tracked_told (h : Tracked timeout i) (remote : Endpoint) (now : UInt64) :
    Tracked timeout (i.told remote now) where
  waits := h.waits
  listed := by
    intro r u hu
    have hinsert : (i.pendingResets.insert remote (deadlineAfter now i.resetTimeout)).get? r = some u := hu
    refine (lists_fileReset_iff _ _ u remote r).mpr ?_
    obtain ⟨rfl, rfl⟩ | ⟨-, hbefore⟩ := Table.get?_insert_eq_some_iff.mp hinsert
    · exact Or.inr ⟨rfl, rfl⟩
    · exact Or.inl (h.listed r u hbefore)

theorem tracked_confirmed (h : Tracked timeout i) (remote : Option Endpoint) :
    Tracked timeout (i.confirmed remote) := by
  cases remote with
  | none => exact ⟨h.waits, h.listed⟩
  | some remote =>
    refine ⟨h.waits, ?_⟩
    intro r u hu
    have herase : (i.pendingResets.erase remote).get? r = some u := hu
    exact h.listed r u (Table.get?_erase_eq_some_iff.mp herase).2

/-- **A turn keeps the invariant.** -/
theorem tracked_next {u : Turn} (h : Tracked timeout u.ingest) : Tracked timeout u.next := by
  have hidentified : Tracked timeout u.identified.2.2 := by
    have hcases := identified_identify u.ingest u.remote u.now u.metric
    unfold Turn.identified
    generalize u.ingest.identify u.remote u.now u.metric = x at hcases
    cases hcases with
    | known | stray | named => exact ⟨h.waits, h.listed⟩
    | reset t r => exact tracked_told (i := u.ingest.dropped) ⟨h.waits, h.listed⟩ r u.now
  rcases u.next_cases with hnext | hnext
  · rw [hnext]
    exact hidentified
  · rw [hnext]
    exact ⟨hidentified.waits, hidentified.listed⟩

theorem tracked_afterTurns (h : Tracked timeout i) (remote : Option Endpoint) (confirm : Bool) (now : UInt64)
    (ms : List Incoming) : Tracked timeout (i.afterTurns remote confirm now ms) := by
  induction ms generalizing i with
  | nil => exact h
  | cons m rest ih => exact ih (tracked_next (u := ⟨i, remote, confirm, now, m⟩) h)

theorem tracked_arrive (h : Tracked timeout i) (now : UInt64) (b : Batch) : Tracked timeout (i.arrive now b) :=
  ⟨(tracked_expireResets h now).waits, (tracked_expireResets h now).listed⟩

/-- **Whatever happens keeps the invariant.** -/
theorem tracked_call (h : Tracked timeout i) (k : Call) : Tracked timeout (i.call k).2 := by
  cases k with
  | catalog k => exact ⟨h.waits, h.listed⟩
  | handle now b =>
    have harrive := tracked_arrive h now b
    by_cases hb : b.opcode = .resetConfirm
    · rw [call, handle_of_confirm i now b hb]
      exact tracked_confirmed harrive b.remote
    · rw [call, handle_of_metrics i now b hb]
      have hturns := tracked_afterTurns harrive b.remote b.opcode.wantsConfirm now b.metrics
      exact ⟨hturns.waits, hturns.listed⟩

theorem tracked_after (h : Tracked timeout i) (calls : List Call) : Tracked timeout (i.after calls) := by
  have hstep : ∀ k ∈ calls, ∀ j : Ingest, Tracked timeout j → Tracked timeout (j.call k).2 :=
    fun k _ _ hj => tracked_call hj k
  exact Run.after_of_step hstep h

theorem Tracked.lt_of_quiet (h : Tracked timeout i) (hquiet : i.Quiet now) {r : Endpoint} {u : UInt64}
    (hu : i.pendingResets.get? r = some u) : now < u := by
  obtain ⟨remotes, hslot, -⟩ := h.listed r u hu
  exact hquiet.later _ ((DelayQueue.get?_eq_some_iff _ u remotes).mp hslot)

end Tracked

/-- **A batch leaves nothing listed under an instant that is reached**, if a reset takes any time at all. -/
theorem quiet_handle {i : Ingest} {now : UInt64} (hwaits : 0 < i.resetTimeout) (hnow : now < lastInstant)
    (b : Batch) : (i.call (.handle now b)).2.Quiet now := by
  have harrive : (i.arrive now b).Quiet now := ⟨hwaits, (quiet_expireResets hwaits).later⟩
  by_cases hb : b.opcode = .resetConfirm
  · rw [call, handle_of_confirm i now b hb]
    cases b.remote with
    | none => exact ⟨harrive.waits, harrive.later⟩
    | some remote => exact ⟨harrive.waits, harrive.later⟩
  · rw [call, handle_of_metrics i now b hb]
    have hturns := quiet_takeAll harrive hnow b.remote b.opcode.wantsConfirm b.metrics
    exact ⟨hturns.waits, hturns.later⟩

/-- **No reset outlasts its time.** After any batches at any instants, in any order, and any other calls on the catalog:

* every reset on its way is listed in the queue, in the slot of the instant at which it expires;
* a batch forgets at its arrival exactly the resets whose time is up, whatever the timeout is;
* so after a batch that is taken in before the last instant there is, with a timeout of a millisecond at least, every
  reset on its way expires later. -/
theorem pendingResets_after (c : Catalog) (timeout : UInt64) (calls : List Call) :
    let i := (create c timeout).after calls
    (∀ r u, i.pendingResets.get? r = some u → ∃ remotes, i.resetExpiry.get? u = some remotes ∧ r ∈ remotes) ∧
    (∀ now b r, (i.arrive now b).pendingResets.get? r = (i.pendingResets.get? r).filter (fun u => now < u)) ∧
    (0 < timeout → ∀ now b, now < lastInstant →
      ∀ r u, (i.call (.handle now b)).2.pendingResets.get? r = some u → now < u) := by
  intro i
  have htracked : Tracked timeout i := tracked_after (tracked_create c timeout) calls
  refine ⟨htracked.listed, fun now b r => get?_expireResets htracked now r, ?_⟩
  intro hwaits now b hnow r u hu
  have hquiet : (i.call (.handle now b)).2.Quiet now := quiet_handle (htracked.waits ▸ hwaits) hnow b
  exact (tracked_call htracked (.handle now b)).lt_of_quiet hquiet hu

/-- The clock steps back after a reset, which is confirmed and told again, so its agent is listed twice. -/
theorem pendingResets_after_step_back :
    let r : Endpoint := ⟨.v4 10 0 0 1, 9000, 0⟩
    let other : Endpoint := ⟨.v4 10 0 0 2, 9000, 0⟩
    let stray (remote : Endpoint) : Batch := ⟨.sendMetric, some remote, [⟨.token 7, .gauge, 0, .long 1⟩], 0, 0⟩
    let calls : List Call :=
      [.handle 100 (stray r), .handle 50 ⟨.resetConfirm, some r, [], 0, 0⟩, .handle 52 (stray r)]
    let i := (create (.fresh .byName) 10).after calls
    (0 : UInt64) < 10 ∧ (62 : UInt64) < lastInstant ∧
      i.pendingResets.get? r = some 62 ∧ i.resetExpiry.get? 62 = some [r] ∧ i.resetExpiry.get? 110 = some [r] ∧
      (i.call (.handle 62 (stray other))).2.pendingResets.entries = [(other, 72)] ∧
      ∀ r u, (i.call (.handle 62 (stray other))).2.pendingResets.get? r = some u → 62 < u := by
  intro r other stray calls i
  have hwaits : (0 : UInt64) < 10 := by decide
  have hnow : (62 : UInt64) < lastInstant := by decide
  have htable : i.pendingResets.get? r = some 62 := by decide +kernel
  have hslots : i.resetExpiry.get? 62 = some [r] ∧ i.resetExpiry.get? 110 = some [r] := by decide +kernel
  have hafter : (i.call (.handle 62 (stray other))).2.pendingResets.entries = [(other, 72)] := by decide +kernel
  have hlater := (pendingResets_after (.fresh .byName) 10 calls).2.2 hwaits 62 (stray other) hnow
  refine ⟨hwaits, hnow, htable, hslots.1, hslots.2, hafter, ?_⟩
  -- the last part is compared with `i` written out: unfolding it step by step does not end in time
  simp only [i]
  exact hlater

end MetricRouter.Ingest
