import MetricRouter.Proofs.Channels.Renewal

/-!
# What a look-up gives

A look-up sweeps first, then keeps the channel that it finds or opens another one. So it never gives a channel that is
closed or was idle, whatever happened to the pool before. A channel over which a write has failed is given up; whoever
inserts it again gets it again, unless the failure has closed it.

* `Transmit.Faithful`, `NextOpen` — writes that close a channel when they fail, and a channel that is open when it is
  opened;
* `failures`, `isClosed_of_failed`, `without_of_failed` — the channels over which writes failed: they are closed if
  writes are faithful, and are not held any more;
* `Recent`, `Usable` — channels that were used within the idle time, and those that a look-up keeps;
* `given_iff_usable`, `opened_of_not_usable`, `get?_send_of_failed` — what a look-up gives and opens, and what is left
  after a write that fails;
* `get_after` — the main statement.
-/

namespace MetricRouter

open Net (Endpoint)

namespace Transmit

variable {τ : Type}

/-- **A channel is closed once a write over it has failed.** -/
def Faithful (transmit : Transmit τ) : Prop :=
  ∀ c frame t, (transmit c frame t).1.failure.isSome → (transmit c frame t).1.closes = true

theorem faithful_overSocket (put : Endpoint → List UInt8 → τ → Option String × τ) : (overSocket put).Faithful := by
  intro c frame t hfailed
  unfold overSocket at hfailed ⊢
  generalize put c.remote frame t = sent at hfailed ⊢
  obtain ⟨_ | reason, t⟩ := sent
  · exact absurd hfailed (by simp)
  · rfl

end Transmit

namespace ChannelPool

/-! ## Open channels -/

section Opening

variable {p : ChannelPool} {remote : Endpoint} {now : UInt64} {c : Channel}

/-- **A channel that the pool opens next for an agent is open.** -/
def NextOpen (p : ChannelPool) (remote : Endpoint) : Prop := p.connects = true → p.isClosed ⟨p.next, remote⟩ = false

instance (p : ChannelPool) (remote : Endpoint) : Decidable (p.NextOpen remote) :=
  inferInstanceAs (Decidable (_ → _))

theorem isClosed_get (hopens : p.NextOpen remote) (hc : (p.get remote now).1 = some c) :
    (p.get remote now).2.isClosed c = false := by
  obtain ⟨d, expiry, -, hopen, hget⟩ | ⟨-, ⟨hconnects, expiry, hget⟩ | ⟨-, expiry, hget⟩⟩ := get_cases p remote now
  · rw [hget] at hc ⊢
    obtain rfl := Option.some.inj hc
    exact hopen
  · rw [hget] at hc ⊢
    obtain rfl := Option.some.inj hc
    exact hopens hconnects
  · rw [hget] at hc
    exact absurd hc (by simp)

end Opening

/-! ## Failures -/

section Failures

variable {τ : Type} (transmit : Transmit τ)

/-- The channel over which a call fails to write. -/
def failed? (s : ChannelPool × τ) : Call → Option Channel
  | .send remote frame now =>
    if (s.1.send transmit remote frame now s.2).1.isOk then none else (s.1.get remote now).1
  | _ => none

/-- The channels over which calls fail to write, in order. -/
def failures : ChannelPool × τ → List Call → List Channel
  | _, [] => []
  | s, k :: rest => (failed? transmit s k).toList ++ failures (call transmit s k).2 rest

variable {transmit} {s : ChannelPool × τ} {c : Channel}

/-- **A call that fails to write** over a channel was given it, and settles that the write has failed. -/
theorem failed_cases {k : Call} (h : failed? transmit s k = some c) : ∃ remote frame now q,
    k = .send remote frame now ∧ s.1.get remote now = (some c, q) ∧
      (q.outcome transmit c frame s.2).1.failure.isSome ∧
      (call transmit s k).2.1 = q.settled c (q.outcome transmit c frame s.2).1 := by
  cases k with
  | send remote frame now =>
    simp only [failed?, send_eq, call] at h ⊢
    rcases hget : s.1.get remote now with ⟨_ | d, q⟩
    · simp [hget] at h
    · simp only [hget, Written.isOk_answer] at h ⊢
      split at h
      · exact absurd h (by simp)
      · rename_i hfailed
        obtain rfl := Option.some.inj h
        rw [Bool.not_eq_true, Option.isNone_eq_false_iff] at hfailed
        exact ⟨remote, frame, now, q, rfl, hget, hfailed, rfl⟩
  | get | insert | evict | evictIdle | close => simp [failed?] at h

/-- **A write that fails closes the channel**, if writes are faithful. -/
theorem isClosed_of_failed (hfaithful : transmit.Faithful) {k : Call} (h : failed? transmit s k = some c) :
    (call transmit s k).2.1.isClosed c = true := by
  obtain ⟨remote, frame, now, q, rfl, -, hfailed, hsettled⟩ := failed_cases h
  rw [hsettled]
  cases hclosed : q.isClosed c with
  | true => exact (renewed_settled q c _).closed c hclosed
  | false =>
    refine isClosed_settled q ?_
    simp only [outcome, hclosed, Bool.false_eq_true, if_false] at hfailed ⊢
    exact hfaithful c frame s.2 hfailed

/-- **The channels over which writes failed are closed**, if writes are faithful. -/
theorem isClosed_of_mem_failures (hfaithful : transmit.Faithful) (calls : List Call)
    (h : c ∈ failures transmit s calls) : (after transmit s calls).1.isClosed c = true := by
  induction calls generalizing s with
  | nil => exact absurd h List.not_mem_nil
  | cons k rest ih =>
    rcases List.mem_append.mp h with h | h
    · have hclosed := isClosed_of_failed hfaithful (Option.mem_toList.mp h)
      exact (renewed_after transmit (call transmit s k).2 rest).closed c hclosed
    · exact ih h

/-- **A write that fails leaves the pool without the channel.** -/
theorem without_of_failed (howned : s.1.Owned) {k : Call} (h : failed? transmit s k = some c) :
    (call transmit s k).2.1.Without c := by
  obtain ⟨remote, frame, now, q, rfl, hget, hfailed, hsettled⟩ := failed_cases h
  have hq : q.Owned := by
    have hlooked := (renewed_get s.1 remote now).owned howned
    rwa [hget] at hlooked
  obtain ⟨used, hheld, -⟩ := get?_get (congrArg Prod.fst hget)
  rw [hget] at hheld
  have hremote : c.remote = remote := hq.own remote _ hheld
  obtain ⟨closed, hgiven⟩ := settled_of_failed (hremote.symm ▸ hheld) hfailed
  rw [hsettled, hgiven]
  refine ⟨hq.earlier remote _ hheld, fun r d hd hsame => ?_⟩
  obtain ⟨hne, hbefore⟩ := Table.get?_erase_eq_some_iff.mp hd
  exact hne ((congrArg Channel.remote hsame).symm.trans (hq.own r d hbefore))

end Failures

/-! ## Which channels a look-up keeps -/

/-- Was the channel last used within the idle time? Instants are counted up to the last one there is. -/
def Recent (idleTime : UInt64) (us : List Use) (now : UInt64) (c : Channel) : Prop :=
  ∃ last, lastUse c us = some last ∧ now.toNat < min (last.toNat + idleTime.toNat) (2 ^ 64 - 1)

/-- Is the channel the one that is held for the agent, open and used within the idle time? -/
def Usable (p : ChannelPool) (us : List Use) (remote : Endpoint) (now : UInt64) (c : Channel) : Prop :=
  (∃ used, p.channels.get? remote = some ⟨c, used⟩) ∧ p.isClosed c = false ∧ Recent p.idleTime us now c

section Keeping

variable {p : ChannelPool} {idleTime : UInt64} {us : List Use}

theorem recent_iff (h : p.Traced idleTime us) {r : Endpoint} {c : Pooled} (hc : p.channels.get? r = some c)
    (now : UInt64) : Recent p.idleTime us now c.channel ↔ p.isIdle now c = false := by
  have hlast := h.last r c hc
  rw [isIdle, decide_eq_false_iff_not, UInt64.le_iff_toNat_le, dueAfter, toNat_deadlineAfter, Nat.not_le]
  constructor
  · rintro ⟨last, hlast', hnow⟩
    obtain rfl := Option.some.inj (hlast.symm.trans hlast')
    exact hnow
  · intro hnow
    exact ⟨c.lastUsed, hlast, hnow⟩

/-- **A sweep leaves the channels that were used within the idle time.** -/
theorem get?_evictIdle_iff (h : p.Traced idleTime us) (now : UInt64) (r : Endpoint) (c : Pooled) :
    (p.evictIdle now).2.channels.get? r = some c ↔
      p.channels.get? r = some c ∧ Recent p.idleTime us now c.channel := by
  rw [get?_evictIdle now h.watched, Option.filter_eq_some_iff]
  refine and_congr_right fun hc => ?_
  rw [recent_iff h hc, Bool.not_eq_true']

theorem usable_iff (h : p.Traced idleTime us) (remote : Endpoint) (now : UInt64) (c : Channel) :
    Usable p us remote now c ↔
      ∃ used, (p.evictIdle now).2.channels.get? remote = some ⟨c, used⟩ ∧ p.isClosed c = false := by
  constructor
  · rintro ⟨⟨used, hused⟩, hopen, hrecent⟩
    exact ⟨used, (get?_evictIdle_iff h now remote _).mpr ⟨hused, hrecent⟩, hopen⟩
  · rintro ⟨used, hused, hopen⟩
    obtain ⟨hheld, hrecent⟩ := (get?_evictIdle_iff h now remote _).mp hused
    exact ⟨⟨used, hheld⟩, hopen, hrecent⟩

/-- **A look-up gives the usable channel and opens none, or there is no usable channel**, and then another one is
opened if the pool can open channels. -/
theorem get_usable (h : p.Traced idleTime us) (remote : Endpoint) (now : UInt64) :
    (∃ c, Usable p us remote now c ∧ (∀ d, Usable p us remote now d → d = c) ∧ (p.get remote now).1 = some c ∧
      (p.get remote now).2.opened = p.opened) ∨
    ((∀ c, ¬ Usable p us remote now c) ∧
      ((p.connects = true ∧ (p.get remote now).1 = some ⟨p.next, remote⟩ ∧
        (p.get remote now).2.opened = p.opened + 1) ∨
      (p.connects = false ∧ (p.get remote now).1 = none ∧ (p.get remote now).2.opened = p.opened))) := by
  obtain ⟨c, expiry, hc, hopen, hget⟩ | ⟨hnone, hcases⟩ := get_cases p remote now
  · refine Or.inl ⟨c.channel, (usable_iff h remote now _).mpr ⟨c.lastUsed, hc, hopen⟩, ?_, ?_, ?_⟩
    · intro d hd
      obtain ⟨used, hused, -⟩ := (usable_iff h remote now d).mp hd
      exact congrArg Pooled.channel (Option.some.inj (hused.symm.trans hc))
    · rw [hget]
    · rw [hget]
  · refine Or.inr ⟨?_, ?_⟩
    · intro c hc
      obtain ⟨used, hused, hopen⟩ := (usable_iff h remote now c).mp hc
      have hclosed := hnone _ hused
      rw [hopen] at hclosed
      exact absurd hclosed (by simp)
    · obtain ⟨hconnects, expiry, hget⟩ | ⟨hconnects, expiry, hget⟩ := hcases
      · exact Or.inl ⟨hconnects, by rw [hget], by rw [hget]⟩
      · exact Or.inr ⟨hconnects, by rw [hget], by rw [hget]⟩

/-- **A channel is given without another one being opened exactly if it is usable.** -/
theorem given_iff_usable (h : p.Traced idleTime us) (remote : Endpoint) (now : UInt64) (c : Channel) :
    (p.get remote now).1 = some c ∧ (p.get remote now).2.opened = p.opened ↔ Usable p us remote now c := by
  obtain ⟨d, hd, honly, hgiven, hopened⟩ | ⟨hnone, ⟨-, -, hopened⟩ | ⟨-, hgiven, -⟩⟩ := get_usable h remote now
  · constructor
    · rintro ⟨hc, -⟩
      exact Option.some.inj (hgiven.symm.trans hc) ▸ hd
    · intro hc
      exact ⟨honly c hc ▸ hgiven, hopened⟩
  · refine iff_of_false ?_ (hnone c)
    rintro ⟨-, hsame⟩
    exact absurd (hopened.symm.trans hsame) (Nat.succ_ne_self _)
  · refine iff_of_false ?_ (hnone c)
    rintro ⟨hc, -⟩
    exact absurd (hgiven.symm.trans hc) (by simp)

theorem opened_of_not_usable (h : p.Traced idleTime us) {remote : Endpoint} {now : UInt64}
    (hnone : ∀ c, ¬ Usable p us remote now c) :
    (p.connects = true → (p.get remote now).1 = some ⟨p.next, remote⟩ ∧
      (p.get remote now).2.opened = p.opened + 1 ∧ ∀ u ∈ us, u.channel ≠ ⟨p.next, remote⟩) ∧
    (p.connects = false → (p.get remote now).1 = none ∧ (p.get remote now).2.opened = p.opened) := by
  obtain ⟨d, hd, -⟩ | ⟨-, ⟨hconnects, hgiven, hopened⟩ | ⟨hconnects, hgiven, hopened⟩⟩ := get_usable h remote now
  · exact absurd hd (hnone d)
  · refine ⟨fun _ => ⟨hgiven, hopened, ?_⟩, fun hcannot => absurd (hconnects.symm.trans hcannot) (by simp)⟩
    intro u hu heq
    exact absurd (heq ▸ h.earlier u hu) (Nat.lt_irrefl _)
  · exact ⟨fun hcan => absurd (hconnects.symm.trans hcan) (by simp), fun _ => ⟨hgiven, hopened⟩⟩

/-- **A write that fails gives up the channel of its agent, and no other.** -/
theorem get?_send_of_failed {τ : Type} (transmit : Transmit τ) (howned : p.Owned) {remote : Endpoint} {now : UInt64}
    (hgiven : (p.get remote now).1.isSome) {frame : List UInt8} {t : τ}
    (hfails : (p.send transmit remote frame now t).1.isOk = false) :
    (p.send transmit remote frame now t).2.1.opened = (p.get remote now).2.opened ∧
    ∀ r, (p.send transmit remote frame now t).2.1.channels.get? r =
      if r = remote then none else (p.get remote now).2.channels.get? r := by
  have hlooked := (renewed_get p remote now).owned howned
  obtain ⟨c, hc⟩ := Option.isSome_iff_exists.mp hgiven
  obtain ⟨used, hheld, -⟩ := get?_get hc
  have hremote : c.remote = remote := hlooked.own remote _ hheld
  obtain ⟨q, hget⟩ : ∃ q, p.get remote now = (some c, q) := ⟨_, Prod.ext hc rfl⟩
  rw [send_eq] at hfails ⊢
  simp only [hget, Written.isOk_answer, Option.isNone_eq_false_iff] at hfails hheld ⊢
  obtain ⟨closed, hsettled⟩ := settled_of_failed (hremote.symm ▸ hheld) hfails
  rw [hsettled]
  refine ⟨rfl, fun r => ?_⟩
  simp only [Table.get?_erase, hremote, eq_comm]

end Keeping

/-- **A look-up gives an open channel, the one that is held if it is usable.** Whatever happened to a pool, at instants
that need not be in order, and however writes came out: a channel is usable for an agent if it is the one that is held
for it, is open, and the idle time since it was last opened, inserted or given by a look-up ends after now, counted up
to the last instant there is.

* The channel that a look-up gives is open, if a channel that the pool opens is open at first. It is held for the agent
  from then on, as the only one, and was used no earlier than now.
* No write over it has failed, if a channel is closed once a write over it has failed. In any case, if a write over it
  failed, it was inserted again since then.
* It is given without another one being opened exactly if it is usable. If none is usable, a pool that can open
  channels opens exactly one, which is new, and gives this; one that cannot gives none.
* A pool that cannot open channels opened none, and gives only those that were inserted.
* Each other agent keeps its channel exactly if this was used within the idle time.
* A write that fails leaves no channel for its agent, and to the others does what a look-up does. -/
theorem get_after {τ : Type} (transmit : Transmit τ) (connects : Bool) (idleTime : UInt64) (network : τ)
    (calls : List Call) (remote : Endpoint) (now : UInt64)
    (hopens : (after transmit (create connects idleTime, network) calls).1.NextOpen remote) :
    let s : ChannelPool × τ := (create connects idleTime, network)
    let us := uses transmit s calls
    let p := (after transmit s calls).1
    let t := (after transmit s calls).2
    let given := (p.get remote now).1
    let p' := (p.get remote now).2
    p.idleTime = max idleTime 1 ∧
    (∀ c, given = some c → p'.isClosed c = false ∧ (transmit.Faithful → c ∉ failures transmit s calls) ∧
      (∀ earlier k later, calls = earlier ++ k :: later → failed? transmit (after transmit s earlier) k = some c →
        c ∈ insertions later) ∧
      ∃ used, p'.channels.get? remote = some ⟨c, used⟩ ∧ now ≤ used) ∧
    (∀ r d, p'.channels.get? r = some d → d.channel.remote = r) ∧
    (∀ c, given = some c ∧ p'.opened = p.opened ↔ Usable p us remote now c) ∧
    ((∀ c, ¬ Usable p us remote now c) →
      (connects = true → given = some ⟨p.next, remote⟩ ∧ p'.opened = p.opened + 1 ∧
        ∀ u ∈ us, u.channel ≠ ⟨p.next, remote⟩) ∧
      (connects = false → given = none ∧ p'.opened = p.opened)) ∧
    (connects = false → p'.opened = 0 ∧ ∀ c, given = some c → c ∈ insertions calls) ∧
    (∀ r, r ≠ remote → ∀ d, p'.channels.get? r = some d ↔
      p.channels.get? r = some d ∧ Recent p.idleTime us now d.channel) ∧
    (∀ frame, given.isSome → (p.send transmit remote frame now t).1.isOk = false →
      let q := (p.send transmit remote frame now t).2.1
      q.channels.get? remote = none ∧ q.opened = p'.opened ∧
      ∀ r, r ≠ remote → ∀ d, q.channels.get? r = some d ↔
        p.channels.get? r = some d ∧ Recent p.idleTime us now d.channel) := by
  intro s us p t given p'
  have hfresh : s.1.Traced (max idleTime 1) [] := traced_create connects idleTime
  have htraced : p.Traced (max idleTime 1) us := traced_after transmit hfresh calls
  have hrenewed : s.1.Renewed p (insertions calls) := renewed_after transmit s calls
  have hlooked : p.Renewed p' [] := renewed_get p remote now
  have howned : p.Owned := hrenewed.owned (owned_create connects idleTime)
  have hmeans : p.connects = connects := hrenewed.means
  have hothers : ∀ r, r ≠ remote → ∀ d, p'.channels.get? r = some d ↔
      p.channels.get? r = some d ∧ Recent p.idleTime us now d.channel := by
    intro r hr d
    rw [get?_get_of_ne hr now]
    exact get?_evictIdle_iff htraced now r d
  refine ⟨htraced.waits, ?_, (hlooked.owned howned).own, given_iff_usable htraced remote now, ?_, ?_, hothers, ?_⟩
  · intro c hc
    have hopen : p'.isClosed c = false := isClosed_get hopens hc
    obtain ⟨used, hheld, hnow⟩ := get?_get hc
    refine ⟨hopen, fun hfaithful hfailed => ?_, fun earlier k later hcalls hfailed => ?_, used, hheld, hnow⟩
    · have hclosed := hlooked.closed c (isClosed_of_mem_failures hfaithful calls hfailed)
      rw [hopen] at hclosed
      exact absurd hclosed (by simp)
    · -- a channel that was given up and is not inserted again is not held
      by_contra hnever
      have hbefore := (renewed_after transmit s earlier).owned (owned_create connects idleTime)
      have hafter := renewed_after transmit (call transmit (after transmit s earlier) k).2 later
      have hp : (after transmit (call transmit (after transmit s earlier) k).2 later).1 = p := by
        simp only [p, hcalls]
        exact (congrArg Prod.fst (Run.after_append s earlier (k :: later))).symm
      rw [hp] at hafter
      have hwithout := hlooked.without List.not_mem_nil (hafter.without hnever (without_of_failed hbefore hfailed))
      exact hwithout.gone remote _ hheld rfl
  · intro hnone
    rw [← hmeans]
    exact opened_of_not_usable htraced hnone
  · intro hcannot
    have hnew := hrenewed.trans hlooked
    rw [List.append_nil] at hnew
    refine ⟨hnew.opened hcannot, fun c hc => ?_⟩
    obtain ⟨used, hheld, -⟩ := get?_get hc
    rcases hnew.held remote _ hheld with ⟨e, he, -⟩ | ⟨-, -, ⟨hcan, -⟩ | hinserted⟩
    · exact absurd he (by simp [s, create])
    · exact absurd (hcan.symm.trans hcannot) (by simp)
    · exact hinserted
  · intro frame hgiven hfails
    obtain ⟨hopened, hsent⟩ := get?_send_of_failed transmit howned hgiven hfails
    refine ⟨by rw [hsent, if_pos rfl], hopened, fun r hr d => ?_⟩
    rw [hsent, if_neg hr]
    exact hothers r hr d

/-- A write fails over a channel that stays open, one of the other channels closes, and one is inserted twice, the
second time at an earlier instant. -/
theorem get_after_of_failed_writes :
    let agent (n : Nat) : Endpoint := ⟨.v4 10 0 0 n, 9000, 0⟩
    let transmit : Transmit Nat := fun _ _ t =>
      (⟨if t = 0 then none else some (.network "unreachable"), false⟩, t + 1)
    let calls : List Call := [.send (agent 1) [1] 10, .insert ⟨1, agent 2⟩ 1000, .insert ⟨1, agent 2⟩ 20,
      .get (agent 3) 25, .close ⟨2, agent 3⟩, .send (agent 1) [2] 30]
    let s := (create true 1000, 0)
    let p := (after transmit s calls).1
    let p' := (p.get (agent 1) 40).2
    let q := (p.send transmit (agent 1) [3] 40 (after transmit s calls).2).2.1
    p.NextOpen (agent 1) ∧ failures transmit s calls = [⟨0, agent 1⟩] ∧
      (p.get (agent 1) 40).1 = some ⟨3, agent 1⟩ ∧ p'.isClosed ⟨3, agent 1⟩ = false ∧
      p'.channels.get? (agent 2) = some ⟨⟨1, agent 2⟩, 20⟩ ∧
      q.channels.get? (agent 1) = none ∧ q.channels.get? (agent 2) = some ⟨⟨1, agent 2⟩, 20⟩ := by
  intro agent transmit calls
  have hopens : (after transmit (create true 1000, 0) calls).1.NextOpen (agent 1) := by decide +kernel
  have hfailed : failures transmit (create true 1000, 0) calls = [⟨0, agent 1⟩] := by decide +kernel
  have hgiven : ((after transmit (create true 1000, 0) calls).1.get (agent 1) 40).1 = some ⟨3, agent 1⟩ := by
    decide +kernel
  have hheld : (after transmit (create true 1000, 0) calls).1.channels.get? (agent 2) =
      some ⟨⟨1, agent 2⟩, 20⟩ := by decide +kernel
  have hrecent : Recent (after transmit (create true 1000, 0) calls).1.idleTime
      (uses transmit (create true 1000, 0) calls) 40 ⟨1, agent 2⟩ :=
    ⟨20, by decide +kernel, by decide +kernel⟩
  have hne : agent 2 ≠ agent 1 := by decide
  obtain ⟨-, hsound, -, -, -, -, hothers, hsent⟩ := get_after transmit true 1000 0 calls (agent 1) 40 hopens
  obtain ⟨hopen, -, -, -⟩ := hsound ⟨3, agent 1⟩ hgiven
  obtain ⟨hnone, -, hothers'⟩ := hsent [3] (Option.isSome_of_eq_some hgiven) (by decide +kernel)
  exact ⟨hopens, hfailed, hgiven, hopen, (hothers (agent 2) hne _).mpr ⟨hheld, hrecent⟩, hnone,
    (hothers' (agent 2) hne _).mpr ⟨hheld, hrecent⟩⟩

end ChannelPool

end MetricRouter
