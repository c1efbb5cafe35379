import MetricRouter.Proofs.Channels.Uses

/-!
# How the channels of a pool are renewed

Whatever happens to a pool, it goes on holding channels that it held before, or it takes in others: those that it opens,
which are new to everybody, and those that it is given. Channels that are closed stay closed.

* `hold_eq`, `insert_eq`, `get_cases` — what becomes of a pool when a channel is inserted or looked up;
* `outcome`, `settled`, `send_eq` — a write in two steps: how it comes out, and what the pool makes of it;
* `Renewed`, `renewed_get`, `renewed_insert`, `renewed_settled` — what each step takes in;
* `renewed_call`, `renewed_after` — what calls take in;
* `Owned`, `Without` — channels are held for their agents, and one that is not held comes back only if it is inserted.
-/

namespace MetricRouter

open Net (Endpoint)

/-- The answer to who sends a frame. -/
def Written.answer (w : Written) : Except Failure Unit :=
  match w.failure with
  | none => .ok ()
  | some f => .error f

theorem Written.isOk_answer (w : Written) : w.answer.isOk = w.failure.isNone := by
  unfold answer
  cases w.failure <;> rfl

namespace ChannelPool

/-! ## One look-up -/

section Lookup

variable (p : ChannelPool) (remote : Endpoint) (now : UInt64)

theorem hold_eq (c : Channel) : ∃ expiry,
    p.hold c now = { p with channels := p.channels.insert c.remote ⟨c, now⟩, expiry := expiry } := by
  obtain ⟨expiry, hexpiry, -⟩ :=
    schedule_eq { p with channels := p.channels.insert c.remote ⟨c, now⟩ } c.remote (p.dueAfter now)
  exact ⟨expiry, hexpiry⟩

theorem insert_eq (c : Channel) : ∃ expiry, p.insert c now =
    { p with channels := p.channels.insert c.remote ⟨c, now⟩, expiry := expiry, next := max p.next (c.serial + 1) } :=
  hold_eq { p with next := max p.next (c.serial + 1) } now c

/-- **A look-up comes out in one of three ways**: the channel that a sweep leaves is kept if it is open; else another
one is opened and held, if the pool can open channels; else there is none. -/
theorem get_cases :
    let left := (p.evictIdle now).2.channels
    (∃ c expiry, left.get? remote = some c ∧ p.isClosed c.channel = false ∧ p.get remote now = (some c.channel,
      { p with channels := left.insert remote { c with lastUsed := max c.lastUsed now }, expiry := expiry })) ∨
    ((∀ c, left.get? remote = some c → p.isClosed c.channel = true) ∧
      ((p.connects = true ∧ ∃ expiry, p.get remote now = (some ⟨p.next, remote⟩,
        { p with channels := left.insert remote ⟨⟨p.next, remote⟩, now⟩, expiry := expiry,
                 opened := p.opened + 1, next := p.next + 1 })) ∨
      (p.connects = false ∧ ∃ expiry, p.get remote now = (none, { p with channels := left, expiry := expiry })))) := by
  obtain ⟨channels, expiry, hswept⟩ := evictIdle_eq now p
  rw [get, hswept]
  simp only
  split
  · rename_i c hfound
    obtain ⟨hc, hopen⟩ := Option.filter_eq_some_iff.mp hfound
    exact Or.inl ⟨c, expiry, hc, by simpa [isClosed] using hopen, rfl⟩
  · rename_i hfound
    refine Or.inr ⟨?_, ?_⟩
    · intro c hc
      rw [hc] at hfound
      simpa [Option.filter, isClosed] using hfound
    · split
      · rename_i hconnects
        obtain ⟨expiry', hheld⟩ := hold_eq
          { p with channels := channels, expiry := expiry, opened := p.opened + 1, next := p.next + 1 } now
          ⟨p.next, remote⟩
        refine Or.inl ⟨hconnects, expiry', ?_⟩
        simp only [openFor, hheld]
      · rename_i hconnects
        exact Or.inr ⟨by simpa using hconnects, expiry, rfl⟩

end Lookup

section Held

variable {p : ChannelPool} {remote r : Endpoint} {now : UInt64} {c : Channel} {d : Pooled}

theorem get?_of_evictIdle (p : ChannelPool) (now : UInt64) (h : (p.evictIdle now).2.channels.get? r = some d) :
    p.channels.get? r = some d := by
  rw [(reviewed_evictIdle p now).channels] at h
  split at h
  · exact (Option.filter_eq_some_iff.mp h).1
  · exact h

theorem get?_get (hc : (p.get remote now).1 = some c) :
    ∃ used, (p.get remote now).2.channels.get? remote = some ⟨c, used⟩ ∧ now ≤ used := by
  obtain ⟨d, expiry, -, hopen, hget⟩ | ⟨-, ⟨-, expiry, hget⟩ | ⟨-, expiry, hget⟩⟩ := get_cases p remote now
  · rw [hget] at hc ⊢
    obtain rfl := Option.some.inj hc
    exact ⟨max d.lastUsed now, by simp, (le_max _ _).2⟩
  · rw [hget] at hc ⊢
    obtain rfl := Option.some.inj hc
    exact ⟨now, by simp, UInt64.le_refl now⟩
  · rw [hget] at hc
    exact absurd hc (by simp)

/-- **A look-up does to the other agents what a sweep does.** -/
theorem get?_get_of_ne (hr : r ≠ remote) (now : UInt64) :
    (p.get remote now).2.channels.get? r = (p.evictIdle now).2.channels.get? r := by
  obtain ⟨c, expiry, -, -, hget⟩ | ⟨-, ⟨-, expiry, hget⟩ | ⟨-, expiry, hget⟩⟩ := get_cases p remote now
  · simp [hget, Ne.symm hr]
  · simp [hget, Ne.symm hr]
  · rw [hget]

theorem isSome_get (hmeans : p.connects = true) (remote : Endpoint) (now : UInt64) :
    (p.get remote now).1.isSome := by
  obtain ⟨d, expiry, -, -, hget⟩ | ⟨-, ⟨-, expiry, hget⟩ | ⟨hcannot, -⟩⟩ := get_cases p remote now
  · rw [hget]
    rfl
  · rw [hget]
    rfl
  · exact absurd (hmeans.symm.trans hcannot) (by simp)

end Held

/-! ## Writes in two steps -/

section Writes

variable {τ : Type} (transmit : Transmit τ) (p : ChannelPool) (c : Channel)

/-- How a write over a channel comes out, and the network after it. -/
def outcome (frame : List UInt8) (t : τ) : Written × τ :=
  if p.isClosed c then (⟨some (.channelClosed c.remote.display), false⟩, t) else transmit c frame t

/-- The pool once a write over a channel has come out: one that is closed, or whose write failed, is given up. -/
def settled (w : Written) : ChannelPool :=
  let q := if w.closes then p.close c else p
  if w.failure.isSome || q.isClosed c then q.release c else q

/-- **A frame is sent in two steps**: a channel is looked up, and when the write over it has come out, this is
settled. -/
theorem send_eq (remote : Endpoint) (frame : List UInt8) (now : UInt64) (t : τ) :
    p.send transmit remote frame now t =
      match p.get remote now with
      | (none, p) => (.error (.channelClosed remote.display), p, t)
      | (some c, p) => ((p.outcome transmit c frame t).1.answer, p.settled c (p.outcome transmit c frame t).1,
          (p.outcome transmit c frame t).2) := by
  unfold send
  generalize p.get remote now = r
  obtain ⟨found, q⟩ := r
  cases found with
  | none => rfl
  | some c =>
    simp only
    unfold write outcome
    by_cases hclosed : q.isClosed c = true
    · simp [hclosed, settled, Written.answer]
    · simp only [hclosed, Bool.false_eq_true, if_false]
      generalize transmit c frame t = sent
      obtain ⟨⟨failure, closes⟩, t⟩ := sent
      cases failure <;> simp [settled, Written.answer]

theorem release_cases :
    p.release c = { p with channels := p.channels.erase c.remote } ∨
      (p.release c = p ∧ ∀ d, p.channels.get? c.remote = some d → d.channel ≠ c) := by
  unfold release
  split
  · exact Or.inl rfl
  · rename_i hother
    refine Or.inr ⟨rfl, fun d hd => ?_⟩
    rw [hd] at hother
    simpa using hother

theorem ne_of_release {d : Pooled} (hd : (p.release c).channels.get? c.remote = some d) : d.channel ≠ c := by
  rcases release_cases p c with h | ⟨h, hother⟩
  · rw [h] at hd
    simp at hd
  · exact hother d (h ▸ hd)

/-- **A write that failed gives up the channel**, if it is still the one of its agent. -/
theorem settled_of_failed {p : ChannelPool} {c : Channel} {w : Written} {used : UInt64}
    (hheld : p.channels.get? c.remote = some ⟨c, used⟩) (hw : w.failure.isSome) : ∃ closed,
      p.settled c w = { p with channels := p.channels.erase c.remote, closed := closed } := by
  unfold settled
  rw [hw]
  cases w.closes with
  | true => exact ⟨c :: p.closed, by simp [close, release, hheld]⟩
  | false => exact ⟨p.closed, by simp [release, hheld]⟩

end Writes

/-! ## What is taken in -/

/-- **Another pool holds channels that were held before, new ones, or some that were inserted.** Only a pool that can
open channels opened any, and no channel was opened again that was closed. -/
structure Renewed (p p' : ChannelPool) (inserted : List Channel) : Prop where
  means : p'.connects = p.connects
  next : p.next ≤ p'.next
  opened : p.connects = false → p'.opened = p.opened
  closed : ∀ c, p.isClosed c = true → p'.isClosed c = true
  held : ∀ r d, p'.channels.get? r = some d → (∃ e, p.channels.get? r = some e ∧ e.channel = d.channel) ∨
    (d.channel.remote = r ∧ d.channel.serial < p'.next ∧
      (p.connects = true ∧ p.next ≤ d.channel.serial ∨ d.channel ∈ inserted))

section Renewed

variable {p p' p'' : ChannelPool} {inserted inserted' : List Channel}

theorem Renewed.trans (h : p.Renewed p' inserted) (h' : p'.Renewed p'' inserted') :
    p.Renewed p'' (inserted ++ inserted') where
  means := h'.means.trans h.means
  next := h.next.trans h'.next
  opened := fun hcannot => (h'.opened (h.means.trans hcannot)).trans (h.opened hcannot)
  closed := fun c hc => h'.closed c (h.closed c hc)
  held := fun r d hd => by
    rcases h'.held r d hd with ⟨e, he, hsame⟩ | ⟨hown, hlt, hnew⟩
    · rcases h.held r e he with ⟨f, hf, hsame'⟩ | ⟨hown, hlt, hnew⟩
      · exact Or.inl ⟨f, hf, hsame'.trans hsame⟩
      · rw [hsame] at hown hlt hnew
        exact Or.inr ⟨hown, hlt.trans_le h'.next, hnew.imp_right (List.mem_append_left _)⟩
    · refine Or.inr ⟨hown, hlt, hnew.imp (fun hnew => ?_) (List.mem_append_right _)⟩
      exact ⟨h.means.symm.trans hnew.1, h.next.trans hnew.2⟩

theorem renewed_of_fewer (hmeans : p'.connects = p.connects) (hopened : p'.opened = p.opened) (hnext : p.next = p'.next)
    (hclosed : ∀ c, p.isClosed c = true → p'.isClosed c = true)
    (hfewer : ∀ r d, p'.channels.get? r = some d → ∃ e, p.channels.get? r = some e ∧ e.channel = d.channel) :
    p.Renewed p' [] where
  means := hmeans
  next := Nat.le_of_eq hnext
  opened := fun _ => hopened
  closed := hclosed
  held := fun r d hd => Or.inl (hfewer r d hd)

theorem renewed_refl (p : ChannelPool) : p.Renewed p [] :=
  renewed_of_fewer rfl rfl rfl (fun _ hc => hc) fun _ d hd => ⟨d, hd, rfl⟩

theorem renewed_close (p : ChannelPool) (c : Channel) : p.Renewed (p.close c) [] :=
  renewed_of_fewer rfl rfl rfl (fun _ hd => by simpa [isClosed, close] using Or.inr (by simpa [isClosed] using hd))
    fun _ d hd => ⟨d, hd, rfl⟩

theorem renewed_erase (p : ChannelPool) (remote : Endpoint) :
    p.Renewed { p with channels := p.channels.erase remote } [] :=
  renewed_of_fewer rfl rfl rfl (fun _ hc => hc) fun _ d hd => ⟨d, (Table.get?_erase_eq_some_iff.mp hd).2, rfl⟩

theorem renewed_release (p : ChannelPool) (c : Channel) : p.Renewed (p.release c) [] := by
  rcases release_cases p c with h | ⟨h, -⟩ <;> rw [h]
  · exact renewed_erase p c.remote
  · exact renewed_refl p

theorem renewed_evictIdle (p : ChannelPool) (now : UInt64) : p.Renewed (p.evictIdle now).2 [] := by
  have hfewer : ∀ r d, (p.evictIdle now).2.channels.get? r = some d → p.channels.get? r = some d :=
    fun _ _ hd => get?_of_evictIdle p now hd
  obtain ⟨channels, expiry, hswept⟩ := evictIdle_eq now p
  rw [hswept] at hfewer ⊢
  exact renewed_of_fewer rfl rfl rfl (fun _ hc => hc) fun r d hd => ⟨d, hfewer r d hd, rfl⟩

/-- **A look-up takes in a new channel**, or none. -/
theorem renewed_get (p : ChannelPool) (remote : Endpoint) (now : UInt64) : p.Renewed (p.get remote now).2 [] := by
  have hswept : ∀ r d, (p.evictIdle now).2.channels.get? r = some d → p.channels.get? r = some d :=
    fun _ _ hd => get?_of_evictIdle p now hd
  obtain ⟨c, expiry, hc, -, hget⟩ | ⟨-, ⟨hconnects, expiry, hget⟩ | ⟨-, expiry, hget⟩⟩ := get_cases p remote now
  · rw [hget]
    refine renewed_of_fewer rfl rfl rfl (fun _ hc => hc) fun r d hd => ?_
    obtain ⟨rfl, rfl⟩ | ⟨-, hleft⟩ := Table.get?_insert_eq_some_iff.mp hd
    · exact ⟨c, hswept remote c hc, rfl⟩
    · exact ⟨d, hswept r d hleft, rfl⟩
  · rw [hget]
    refine ⟨rfl, Nat.le_succ _, fun hcannot => absurd (hconnects.symm.trans hcannot) (by simp), fun _ hc => hc,
      fun r d hd => ?_⟩
    obtain ⟨rfl, rfl⟩ | ⟨-, hleft⟩ := Table.get?_insert_eq_some_iff.mp hd
    · exact Or.inr ⟨rfl, Nat.lt_succ_self _, Or.inl ⟨hconnects, Nat.le_refl _⟩⟩
    · exact Or.inl ⟨d, hswept r d hleft, rfl⟩
  · rw [hget]
    exact renewed_of_fewer rfl rfl rfl (fun _ hc => hc) fun r d hd => ⟨d, hswept r d hd, rfl⟩

/-- **A channel that is inserted is taken in**, whether it is new or not. -/
theorem renewed_insert (p : ChannelPool) (c : Channel) (now : UInt64) : p.Renewed (p.insert c now) [c] := by
  obtain ⟨expiry, hinsert⟩ := insert_eq p now c
  rw [hinsert]
  refine ⟨rfl, Nat.le_max_left _ _, fun _ => rfl, fun _ hc => hc, fun r d hd => ?_⟩
  obtain ⟨rfl, rfl⟩ | ⟨-, hbefore⟩ := Table.get?_insert_eq_some_iff.mp hd
  · exact Or.inr ⟨rfl, Nat.le_max_right _ _, Or.inr (List.mem_singleton_self c)⟩
  · exact Or.inl ⟨d, hbefore, rfl⟩

/-- **To settle a write takes in nothing.** -/
theorem renewed_settled (p : ChannelPool) (c : Channel) (w : Written) : p.Renewed (p.settled c w) [] := by
  have hclosed : p.Renewed (if w.closes then p.close c else p) [] := by
    split
    · exact renewed_close p c
    · exact renewed_refl p
  unfold settled
  generalize (if w.closes then p.close c else p) = q at hclosed
  simp only
  split
  · exact hclosed.trans (renewed_release q c)
  · exact hclosed

theorem isClosed_settled (p : ChannelPool) {c : Channel} {w : Written} (hw : w.closes = true) :
    (p.settled c w).isClosed c = true := by
  have hclosed : (p.close c).isClosed c = true := by simp [isClosed, close]
  unfold settled
  simp only [hw, hclosed, Bool.or_true, if_true]
  exact (renewed_release (p.close c) c).closed c hclosed

variable {τ : Type} (transmit : Transmit τ)

theorem renewed_send (p : ChannelPool) (remote : Endpoint) (frame : List UInt8) (now : UInt64) (t : τ) :
    p.Renewed (p.send transmit remote frame now t).2.1 [] := by
  have hget := renewed_get p remote now
  rw [send_eq]
  generalize p.get remote now = found at hget
  obtain ⟨_ | c, q⟩ := found
  · exact hget
  · exact hget.trans (renewed_settled q c _)

/-- The channel that a call inserts. -/
def Call.inserted? : Call → Option Channel
  | .insert c _ => some c
  | _ => none

/-- The channels that calls insert, in order. -/
def insertions (calls : List Call) : List Channel := calls.filterMap Call.inserted?

/-- **What a call takes in** is new, or inserted by it. -/
theorem renewed_call (s : ChannelPool × τ) (k : Call) :
    s.1.Renewed (call transmit s k).2.1 k.inserted?.toList := by
  cases k with
  | get remote now => exact renewed_get s.1 remote now
  | insert c now => exact renewed_insert s.1 c now
  | evict remote => exact renewed_erase s.1 remote
  | evictIdle now => exact renewed_evictIdle s.1 now
  | send remote frame now => exact renewed_send transmit s.1 remote frame now s.2
  | close c => exact renewed_close s.1 c

/-- **What calls take in** is new, or inserted by them. -/
theorem renewed_after (s : ChannelPool × τ) (calls : List Call) :
    s.1.Renewed (after transmit s calls).1 (insertions calls) := by
  induction calls generalizing s with
  | nil => exact renewed_refl s.1
  | cons k rest ih =>
    have hinsertions : insertions (k :: rest) = k.inserted?.toList ++ insertions rest := by
      rw [insertions, List.filterMap_cons]
      cases k.inserted? <;> rfl
    rw [hinsertions]
    exact (renewed_call transmit s k).trans (ih (call transmit s k).2)

end Renewed

/-! ## What is held, and what is not -/

/-- What a pool holds belongs to its agent, and later channels will be others. -/
structure Owned (p : ChannelPool) : Prop where
  own : ∀ r d, p.channels.get? r = some d → d.channel.remote = r
  earlier : ∀ r d, p.channels.get? r = some d → d.channel.serial < p.next

/-- A channel that was seen before is not held. -/
structure Without (p : ChannelPool) (c : Channel) : Prop where
  earlier : c.serial < p.next
  gone : ∀ r d, p.channels.get? r = some d → d.channel ≠ c

section Held

variable {p p' : ChannelPool} {inserted : List Channel} {c : Channel}

theorem owned_create (connects : Bool) (idleTime : UInt64) : (create connects idleTime).Owned where
  own := fun _ _ h => absurd h (by simp [create])
  earlier := fun _ _ h => absurd h (by simp [create])

theorem Renewed.owned (h : p.Renewed p' inserted) (howned : p.Owned) : p'.Owned where
  own := fun r d hd => by
    rcases h.held r d hd with ⟨e, he, hsame⟩ | ⟨hown, -, -⟩
    · exact hsame ▸ howned.own r e he
    · exact hown
  earlier := fun r d hd => by
    rcases h.held r d hd with ⟨e, he, hsame⟩ | ⟨-, hlt, -⟩
    · exact hsame ▸ (howned.earlier r e he).trans_le h.next
    · exact hlt

/-- **A channel that is not held comes back only if it is inserted.** -/
theorem Renewed.without (h : p.Renewed p' inserted) (hc : c ∉ inserted) (hwithout : p.Without c) : p'.Without c where
  earlier := hwithout.earlier.trans_le h.next
  gone := fun r d hd hsame => by
    rcases h.held r d hd with ⟨e, he, hsame'⟩ | ⟨-, -, ⟨-, hnew⟩ | hinserted⟩
    · exact hwithout.gone r e he (hsame'.trans hsame)
    · exact absurd hwithout.earlier (Nat.not_lt.mpr (hsame ▸ hnew))
    · exact hc (hsame ▸ hinserted)

end Held

end ChannelPool

end MetricRouter
