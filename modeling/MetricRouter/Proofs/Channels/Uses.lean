import MetricRouter.Proofs.Channels.Sweeps
import MetricRouter.Proofs.Run

/-!
# When channels were last used

A pool keeps of each channel the latest instant at which it was used, and by this its sweeps go. A channel that is
inserted counts as used at this instant, whenever it was used before; from then on its last use only becomes later.
That the pool knows the last uses, whatever has happened to it, is shown along its calls.

* `Use`, `lastUse` — the uses of channels, and the latest one of a channel since it was last inserted;
* `Call`, `call`, `after`, `uses` — what can happen to a pool, with the network that frames are written to;
* `Traced`, `traced_call`, `traced_after` — the invariant: what the pool keeps of its channels agrees with their uses;
* `evictIdle_after` — the main statement;
* `evictIdle_despite_look_up` — look-ups that do not count.
-/

namespace MetricRouter.ChannelPool

open Net (Endpoint)

/-! ## Uses -/

/-- A channel is opened, inserted or given by a look-up at an instant. -/
structure Use where
  channel : Channel
  instant : UInt64
  /-- Is it inserted? -/
  inserted : Bool
  deriving DecidableEq

/-- The instants at which a channel was used since it was last inserted. -/
def instants (c : Channel) (us : List Use) : List UInt64 :=
  us.foldl (fun ts u =>
    if u.channel = c then (if u.inserted then [u.instant] else ts ++ [u.instant]) else ts) []

/-- The latest instant at which a channel was used since it was last inserted. -/
def lastUse (c : Channel) (us : List Use) : Option UInt64 := (instants c us).max?

theorem instants_concat (c : Channel) (us : List Use) (u : Use) : instants c (us ++ [u]) =
    if u.channel = c then (if u.inserted then [u.instant] else instants c us ++ [u.instant]) else instants c us := by
  rw [instants, List.foldl_concat]
  rfl

theorem lastUse_concat_of_ne {c d : Channel} (h : d ≠ c) (us : List Use) (t : UInt64) (inserted : Bool) :
    lastUse c (us ++ [⟨d, t, inserted⟩]) = lastUse c us := by
  rw [lastUse, instants_concat, if_neg h, lastUse]

theorem lastUse_concat_of_inserted (c : Channel) (us : List Use) (t : UInt64) :
    lastUse c (us ++ [⟨c, t, true⟩]) = some t := by
  simp [lastUse, instants_concat]

theorem lastUse_concat {c : Channel} {us : List Use} {last : UInt64} (h : lastUse c us = some last) (t : UInt64) :
    lastUse c (us ++ [⟨c, t, false⟩]) = some (max last t) := by
  have hconcat : instants c (us ++ [⟨c, t, false⟩]) = instants c us ++ [t] := by simp [instants_concat]
  rw [lastUse] at h ⊢
  rw [hconcat]
  cases hs : instants c us with
  | nil => rw [hs] at h; exact absurd h (by simp)
  | cons s rest =>
    rw [hs, List.max?_cons'] at h
    rw [List.cons_append, List.max?_cons', List.foldl_append, Option.some.inj h]
    rfl

theorem exists_use_of_instants {c : Channel} {us : List Use} (h : instants c us ≠ []) : ∃ u ∈ us, u.channel = c := by
  induction us using List.reverseRecOn with
  | nil => exact absurd rfl h
  | append_singleton us u ih =>
    by_cases hu : u.channel = c
    · exact ⟨u, List.mem_append_right _ (List.mem_singleton_self _), hu⟩
    · rw [instants_concat, if_neg hu] at h
      obtain ⟨v, hv, hc⟩ := ih h
      exact ⟨v, List.mem_append_left _ hv, hc⟩

theorem exists_use {c : Channel} {us : List Use} {last : UInt64} (h : lastUse c us = some last) :
    ∃ u ∈ us, u.channel = c :=
  exists_use_of_instants fun hnil => by simp [lastUse, hnil] at h

theorem lastUse_concat_of_new {c : Channel} {us : List Use} (h : ∀ u ∈ us, u.channel ≠ c) (t : UInt64) :
    lastUse c (us ++ [⟨c, t, false⟩]) = some t := by
  have hnone : instants c us = [] := by
    by_contra hsome
    obtain ⟨u, hu, hc⟩ := exists_use_of_instants hsome
    exact h u hu hc
  simp [lastUse, instants_concat, hnone]

/-! ## Calls -/

/-- What can happen to a pool. -/
inductive Call where
  /-- The channel of an agent is looked up, and opened if need be. -/
  | get (remote : Endpoint) (now : UInt64)
  /-- A channel of the caller's is inserted. -/
  | insert (c : Channel) (now : UInt64)
  /-- The channel of an agent is given up. -/
  | evict (remote : Endpoint)
  /-- The channels that were not used for the idle time are given up. -/
  | evictIdle (now : UInt64)
  /-- A frame is written to an agent. -/
  | send (remote : Endpoint) (frame : List UInt8) (now : UInt64)
  /-- A channel closes without the pool. -/
  | close (c : Channel)

section Calls

variable {τ : Type} (transmit : Transmit τ)

/-- The use that a call makes of a channel, and the pool and the network after it. -/
def call (s : ChannelPool × τ) : Call → Option Use × (ChannelPool × τ)
  | .get remote now =>
    ((s.1.get remote now).1.map (⟨·, now, false⟩), ((s.1.get remote now).2, s.2))
  | .insert c now => (some ⟨c, now, true⟩, (s.1.insert c now, s.2))
  | .evict remote => (none, ((s.1.evict remote).2, s.2))
  | .evictIdle now => (none, ((s.1.evictIdle now).2, s.2))
  | .send remote frame now =>
    ((s.1.get remote now).1.map (⟨·, now, false⟩), (s.1.send transmit remote frame now s.2).2)
  | .close c => (none, (s.1.close c, s.2))

/-- The pool and the network after calls that are made in order. -/
abbrev after (s : ChannelPool × τ) (calls : List Call) : ChannelPool × τ := Run.after (call transmit) s calls

/-- The uses that calls make of channels, in order. -/
abbrev uses (s : ChannelPool × τ) (calls : List Call) : List Use :=
  (Run.answers (call transmit) s calls).reduceOption

end Calls

/-! ## What the pool keeps -/

/-- **What the pool keeps of its channels agrees with their uses**, its idle time is the one that it was given, and its
next channel will be a new one. -/
structure Traced (p : ChannelPool) (idleTime : UInt64) (us : List Use) : Prop where
  waits : p.idleTime = idleTime
  watched : p.Watched
  own : ∀ r c, p.channels.get? r = some c → c.channel.remote = r
  last : ∀ r c, p.channels.get? r = some c → lastUse c.channel us = some c.lastUsed
  earlier : ∀ u ∈ us, u.channel.serial < p.next

theorem le_max (s t : UInt64) : s ≤ max s t ∧ t ≤ max s t := by
  show s ≤ (if s ≤ t then t else s) ∧ t ≤ (if s ≤ t then t else s)
  split
  · rename_i hle
    exact ⟨hle, UInt64.le_refl t⟩
  · rename_i hlt
    exact ⟨UInt64.le_refl s, UInt64.le_of_lt (UInt64.not_le.mp hlt)⟩

section Traced

variable {p p' : ChannelPool} {idleTime : UInt64} {us : List Use}

theorem traced_create (connects : Bool) (idleTime : UInt64) :
    (create connects idleTime).Traced (max idleTime 1) [] where
  waits := rfl
  watched := fun _ _ h => absurd h (by simp [create])
  own := fun _ _ h => absurd h (by simp [create])
  last := fun _ _ h => absurd h (by simp [create])
  earlier := fun _ h => absurd h List.not_mem_nil

theorem Traced.of_fewer (h : p.Traced idleTime us) (hwaits : p'.idleTime = p.idleTime) (hwatched : p'.Watched)
    (hnext : p.next ≤ p'.next) (hfewer : ∀ r c, p'.channels.get? r = some c → p.channels.get? r = some c) :
    p'.Traced idleTime us where
  waits := hwaits.trans h.waits
  watched := hwatched
  own := fun r c hc => h.own r c (hfewer r c hc)
  last := fun r c hc => h.last r c (hfewer r c hc)
  earlier := fun u hu => (h.earlier u hu).trans_le hnext

theorem traced_close (h : p.Traced idleTime us) (c : Channel) : (p.close c).Traced idleTime us :=
  h.of_fewer rfl h.watched (Nat.le_refl _) fun _ _ hc => hc

theorem traced_erase (h : p.Traced idleTime us) (remote : Endpoint) :
    Traced { p with channels := p.channels.erase remote } idleTime us := by
  have hfewer : ∀ r c, (p.channels.erase remote).get? r = some c → p.channels.get? r = some c :=
    fun _ _ hc => (Table.get?_erase_eq_some_iff.mp hc).2
  exact h.of_fewer rfl (fun r c hc => h.watched r c (hfewer r c hc)) (Nat.le_refl _) hfewer

theorem traced_evictIdle (h : p.Traced idleTime us) (now : UInt64) : (p.evictIdle now).2.Traced idleTime us := by
  have hwatched := watched_evictIdle now h.watched
  have hleft := get?_evictIdle now h.watched
  obtain ⟨channels, expiry, hswept⟩ := evictIdle_eq now p
  rw [hswept] at hwatched hleft ⊢
  refine h.of_fewer rfl hwatched (Nat.le_refl _) fun r c hc => ?_
  rw [hleft] at hc
  exact (Option.filter_eq_some_iff.mp hc).1

/-- **A channel that is put in and used** replaces the one of its agent, and leaves the others alone. -/
theorem Traced.of_put (h : p.Traced idleTime us) {c : Pooled} {u : Use} (hwaits : p'.idleTime = p.idleTime)
    (hwatched : p'.Watched) (hnext : p.next ≤ p'.next) (hput : p'.channels = p.channels.insert c.channel.remote c)
    (huse : u.channel = c.channel) (hlast : lastUse c.channel (us ++ [u]) = some c.lastUsed)
    (hserial : c.channel.serial < p'.next) : p'.Traced idleTime (us ++ [u]) := by
  have hheld : ∀ r d, p'.channels.get? r = some d →
      (c.channel.remote = r ∧ c = d) ∨ (u.channel ≠ d.channel ∧ p.channels.get? r = some d) := by
    intro r d hd
    rw [hput, Table.get?_insert_eq_some_iff] at hd
    refine hd.imp_right fun ⟨hr, hbefore⟩ => ⟨fun heq => hr ?_, hbefore⟩
    exact (congrArg Channel.remote (huse.symm.trans heq)).trans (h.own r d hbefore)
  refine ⟨hwaits.trans h.waits, hwatched, fun r d hd => ?_, fun r d hd => ?_, fun v hv => ?_⟩
  · obtain ⟨hr, rfl⟩ | ⟨-, hbefore⟩ := hheld r d hd
    · exact hr
    · exact h.own r d hbefore
  · obtain ⟨-, rfl⟩ | ⟨hne, hbefore⟩ := hheld r d hd
    · exact hlast
    · exact (lastUse_concat_of_ne hne us u.instant u.inserted).trans (h.last r d hbefore)
  · rcases List.mem_append.mp hv with hv | hv
    · exact (h.earlier v hv).trans_le hnext
    · rw [List.mem_singleton.mp hv, huse]
      exact hserial

theorem traced_hold (h : p.Traced idleTime us) {c : Channel} {now : UInt64} {inserted : Bool} (hserial : c.serial < p.next)
    (hlast : lastUse c (us ++ [⟨c, now, inserted⟩]) = some now) :
    (p.hold c now).Traced idleTime (us ++ [⟨c, now, inserted⟩]) := by
  obtain ⟨q, hq, hlists⟩ :=
    schedule_eq { p with channels := p.channels.insert c.remote ⟨c, now⟩ } c.remote (p.dueAfter now)
  have hheld : p.hold c now = _ := hq
  rw [hheld]
  refine Traced.of_put h (c := ⟨c, now⟩) rfl (fun r d hd => ?_) (Nat.le_refl _) rfl rfl hlast hserial
  obtain ⟨rfl, rfl⟩ | ⟨-, hbefore⟩ := Table.get?_insert_eq_some_iff.mp hd
  · exact ⟨_, UInt64.le_refl _, (hlists _ _).mpr (Or.inr ⟨rfl, rfl⟩)⟩
  · obtain ⟨t, ht, hlisted⟩ := h.watched r d hbefore
    exact ⟨t, ht, (hlists t r).mpr (Or.inl hlisted)⟩

/-- **A channel that is opened** is used for the first time. -/
theorem traced_open (h : p.Traced idleTime us) (remote : Endpoint) (now : UInt64) :
    ((p.openFor remote).2.hold (p.openFor remote).1 now).Traced idleTime
      (us ++ [⟨(p.openFor remote).1, now, false⟩]) := by
  have hopened : (p.openFor remote).2.Traced idleTime us :=
    h.of_fewer rfl h.watched (Nat.le_succ _) fun _ _ hc => hc
  have hnew : ∀ u ∈ us, u.channel ≠ (p.openFor remote).1 := fun u hu heq =>
    absurd (heq ▸ h.earlier u hu) (Nat.lt_irrefl _)
  exact traced_hold hopened (Nat.lt_succ_self _) (lastUse_concat_of_new hnew now)

/-- **A channel that is inserted** is used now, whenever it was used before. -/
theorem traced_insert (h : p.Traced idleTime us) (c : Channel) (now : UInt64) :
    (p.insert c now).Traced idleTime (us ++ [⟨c, now, true⟩]) := by
  have hraised : Traced { p with next := max p.next (c.serial + 1) } idleTime us :=
    h.of_fewer rfl h.watched (Nat.le_max_left _ _) fun _ _ hc => hc
  exact traced_hold hraised (Nat.le_max_right _ _) (lastUse_concat_of_inserted c us now)

theorem traced_touch (h : p.Traced idleTime us) {remote : Endpoint} {c : Pooled} (hc : p.channels.get? remote = some c)
    (now : UInt64) :
    Traced { p with channels := p.channels.insert remote { c with lastUsed := max c.lastUsed now } } idleTime
      (us ++ [⟨c.channel, now, false⟩]) := by
  have hlater : c.lastUsed ≤ max c.lastUsed now := (le_max _ _).1
  have hremote : c.channel.remote = remote := h.own remote c hc
  obtain ⟨v, hv, hchannel⟩ := exists_use (h.last remote c hc)
  refine Traced.of_put h (c := { c with lastUsed := max c.lastUsed now }) rfl (fun r d hd => ?_) (Nat.le_refl _)
    (by rw [hremote]) rfl (lastUse_concat (h.last remote c hc) now) (hchannel ▸ h.earlier v hv)
  obtain ⟨rfl, rfl⟩ | ⟨-, hbefore⟩ := Table.get?_insert_eq_some_iff.mp hd
  · obtain ⟨t, ht, hlisted⟩ := h.watched remote c hc
    exact ⟨t, UInt64.le_trans ht (deadlineAfter_le_deadlineAfter hlater p.idleTime), hlisted⟩
  · exact h.watched r d hbefore

/-- **A look-up keeps the agreement**: the channel that it gives was looked up or opened. -/
theorem traced_get (h : p.Traced idleTime us) (remote : Endpoint) (now : UInt64) :
    (p.get remote now).2.Traced idleTime (us ++ ((p.get remote now).1.map (⟨·, now, false⟩)).toList) := by
  have hswept := traced_evictIdle h now
  unfold get
  simp only
  split
  · rename_i c hc
    exact traced_touch hswept (Option.filter_eq_some_iff.mp hc).1 now
  · split
    · exact traced_open hswept remote now
    · rw [Option.map_none, Option.toList_none, List.append_nil]
      exact hswept

theorem traced_release (h : p.Traced idleTime us) (c : Channel) : (p.release c).Traced idleTime us := by
  unfold release
  split
  · exact traced_erase h c.remote
  · exact h

variable {τ : Type} (transmit : Transmit τ)

theorem traced_write (h : p.Traced idleTime us) (c : Channel) (frame : List UInt8) (t : τ) :
    (p.write transmit c frame t).2.1.Traced idleTime us := by
  have hclosed : (if (transmit c frame t).1.closes then p.close c else p).Traced idleTime us := by
    split
    · exact traced_close h c
    · exact h
  unfold write
  simp only
  split
  · exact h
  · split
    · exact hclosed
    · exact hclosed

theorem traced_send (h : p.Traced idleTime us) (remote : Endpoint) (frame : List UInt8) (now : UInt64) (t : τ) :
    (p.send transmit remote frame now t).2.1.Traced idleTime
      (us ++ ((p.get remote now).1.map (⟨·, now, false⟩)).toList) := by
  have hget := traced_get h remote now
  unfold send
  split
  · rename_i hnone
    rwa [hnone] at hget ⊢
  · rename_i c q hsome
    rw [hsome] at hget ⊢
    have hwritten := traced_write transmit hget c frame t
    simp only
    split
    · exact traced_release hwritten c
    · simp only
      split
      · exact traced_release hwritten c
      · exact hwritten

/-- **Every call keeps the agreement.** -/
theorem traced_call {s : ChannelPool × τ} (h : s.1.Traced idleTime us) (k : Call) :
    (call transmit s k).2.1.Traced idleTime (us ++ (call transmit s k).1.toList) := by
  cases k with
  | get remote now => exact traced_get h remote now
  | insert c now => exact traced_insert h c now
  | send remote frame now => exact traced_send transmit h remote frame now s.2
  | evict remote =>
    rw [call, Option.toList_none, List.append_nil]
    exact traced_erase h remote
  | evictIdle now =>
    rw [call, Option.toList_none, List.append_nil]
    exact traced_evictIdle h now
  | close c =>
    rw [call, Option.toList_none, List.append_nil]
    exact traced_close h c

/-- **What a pool keeps of its channels agrees with their uses, whatever happened.** -/
theorem traced_after {s : ChannelPool × τ} (h : s.1.Traced idleTime us) (calls : List Call) :
    (after transmit s calls).1.Traced idleTime (us ++ uses transmit s calls) := by
  induction calls generalizing s us with
  | nil =>
    rw [uses, Run.answers, List.reduceOption_nil, List.append_nil]
    exact h
  | cons k rest ih =>
    have hrest := ih (traced_call transmit h k)
    rw [List.append_assoc] at hrest
    have huses : uses transmit s (k :: rest) =
        (call transmit s k).1.toList ++ uses transmit (call transmit s k).2 rest := by
      rw [uses, Run.answers]
      cases (call transmit s k).1 <;> rfl
    rw [huses]
    exact hrest

end Traced

/-- **A sweep gives up exactly the channels that were not used for the idle time.** Whatever happened to a pool, at
instants that need not be in order, and however writes came out: of every channel that it holds the uses tell when it
was last opened, inserted or given by a look-up, since it was last inserted. A sweep at any instant gives up those for
which the idle time has passed since then, counted up to the last instant there is. It tells how many they are, leaves
all others in place, and opens none. -/
theorem evictIdle_after {τ : Type} (transmit : Transmit τ) (connects : Bool) (idleTime : UInt64) (network : τ)
    (calls : List Call) (now : UInt64) :
    let s : ChannelPool × τ := (create connects idleTime, network)
    let p := (after transmit s calls).1
    let p' := (p.evictIdle now).2
    (∀ r c, p.channels.get? r = some c → ∃ last, lastUse c.channel (uses transmit s calls) = some last ∧
      p'.channels.get? r =
        if min (last.toNat + (max idleTime 1).toNat) (2 ^ 64 - 1) ≤ now.toNat then none else some c) ∧
    (∀ r, p.channels.get? r = none → p'.channels.get? r = none) ∧
    (p.evictIdle now).1 + p'.size = p.size := by
  intro s p p'
  have htraced := traced_after transmit (s := s) (traced_create connects idleTime) calls
  rw [List.nil_append] at htraced
  have hswept := get?_evictIdle now htraced.watched
  refine ⟨fun r c hc => ⟨c.lastUsed, htraced.last r c hc, ?_⟩, fun r hr => ?_, size_evictIdle now p⟩
  · have hidle : p.isIdle now c = true ↔
        min (c.lastUsed.toNat + (max idleTime 1).toNat) (2 ^ 64 - 1) ≤ now.toNat := by
      rw [isIdle, decide_eq_true_iff, dueAfter, htraced.waits, ← toNat_deadlineAfter, UInt64.le_iff_toNat_le]
    have hc' : p'.channels.get? r = (some c).filter (fun c => !p.isIdle now c) := hc ▸ hswept r
    rw [hc', Option.filter_some]
    by_cases hdue : p.isIdle now c = true
    · rw [if_pos (hidle.mp hdue), if_neg (by simp [hdue])]
    · rw [if_neg (mt hidle.mpr hdue), if_pos (by simp [hdue])]
  · rw [hswept, hr]
    rfl

/-- Two channels are given up although they were looked up within the idle time. One was inserted again, at an earlier
instant than that of the look-up, and from then on the pool goes by the insertion. The other one was closed when it was
looked up, and so was not given. -/
theorem evictIdle_despite_look_up :
    let agent : Endpoint := ⟨.v4 10 0 0 1, 9000, 0⟩
    let c : Channel := ⟨0, agent⟩
    let transmit : Transmit Unit := fun _ _ t => (⟨none, false⟩, t)
    let s : ChannelPool × Unit := (create false 100, ())
    let again : List Call := [.insert c 950, .get agent 1000, .insert c 20]
    let closed : List Call := [.insert c 950, .close c, .get agent 1000]
    let p := (after transmit s again).1
    let q := (after transmit s closed).1
    (uses transmit s again = [⟨c, 950, true⟩, ⟨c, 1000, false⟩, ⟨c, 20, true⟩] ∧
      p.channels.get? agent = some ⟨c, 20⟩ ∧ (p.evictIdle 120).1 = 1 ∧
      (p.evictIdle 120).2.channels.get? agent = none ∧ ¬ min (1000 + 100) (2 ^ 64 - 1) ≤ 120) ∧
    (uses transmit s closed = [⟨c, 950, true⟩] ∧
      q.channels.get? agent = some ⟨c, 950⟩ ∧ (q.evictIdle 1060).1 = 1 ∧
      (q.evictIdle 1060).2.channels.get? agent = none ∧ ¬ min (1000 + 100) (2 ^ 64 - 1) ≤ 1060) := by
  decide +kernel

end MetricRouter.ChannelPool
