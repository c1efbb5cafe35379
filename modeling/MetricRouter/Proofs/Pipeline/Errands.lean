import MetricRouter.Proofs.Channels.Succession
import MetricRouter.Proofs.Ingest.Counts
import MetricRouter.Proofs.Pipeline.Replies

/-!
# Replies on their way

The replies to a batch are sent by an errand of their own, one after another, while other batches come in and other
errands go on: to send one, a channel is looked up, and later the write over it comes out somehow. Channels are shared,
and close or are inserted in between.

* `Attempt`, `Errand`, `Mail` — an attempt to send a reply, the replies to a batch, and all of these with an ingest and
  its channels;
* `Event`, `Mail.call`, `Mail.answers`, `Mail.Done` — what can happen, what it is answered, and whether all errands are
  over;
* `replied_handle` — a batch counts nothing of what becomes of replies;
* `Errand.Sound`, `Mail.Kept`, `kept_call`, `kept_after` — the invariant: the counters tell what became of the attempts,
  and every errand has tried its replies in order;
* `Errand.Ascending`, `Mail.InsertsNew`, `ascending_after` — as long as the channels that are inserted are new, every
  errand writes over each channel after the earlier ones;
* `exists_done` — every errand can go on to its end, however writes come out;
* `exists_answered` — to answer a batch in one go is an errand without anything in between;
* `attempts_after` — the main statement.
-/

namespace MetricRouter

open Net (Endpoint)
open Wire (Incoming Batch Opcode Reply)
open ChannelPool (Spent Owned Behind Renewed)

/-- An attempt to send a reply: the channel, if there was one, and how the write over it came out. -/
structure Attempt where
  reply : Reply
  written : Option (Channel × Written)

namespace Attempt

/-- Has the write succeeded? -/
def sent (a : Attempt) : Bool := a.written.any (fun x => x.2.failure.isNone)

/-- The channel that was written over. -/
def spent (a : Attempt) : List Spent := a.written.toList.map (fun x => ⟨x.1, x.2.failure.isSome⟩)

end Attempt

/-- The replies to a batch, which are sent one after another. -/
structure Errand where
  remote : Endpoint
  replies : List Reply
  /-- The attempts that are over, in order. -/
  attempts : List Attempt
  /-- The reply that is being written, with its channel. -/
  writing : Option (Reply × Channel)
  /-- The replies that are to be tried still. -/
  waiting : List Reply

namespace Errand

/-- No reply was tried yet. -/
def start (remote : Endpoint) (replies : List Reply) : Errand := ⟨remote, replies, [], none, replies⟩

/-- Is every reply tried? -/
def isDone (t : Errand) : Bool := t.writing.isNone && t.waiting.isEmpty

/-- The channels that were written over, in order. -/
def spent (t : Errand) : List Spent :=
  t.attempts.flatMap Attempt.spent ++ t.writing.toList.map (fun w => ⟨w.2, false⟩)

end Errand

/-- An ingest and its channels, with the replies on their way. -/
structure Mail where
  ingest : Ingest
  channels : ChannelPool
  errands : List Errand

/-- What a batch was answered. -/
structure Answered where
  /-- Was there a runtime to send replies on? -/
  runtime : Bool
  remote : Option Endpoint
  replies : List Reply

namespace Answered

/-- The replies that are sent to an agent. -/
def errand? (a : Answered) : Option (Endpoint × List Reply) :=
  match a.remote with
  | none => none
  | some remote => if a.runtime && !a.replies.isEmpty then some (remote, a.replies) else none

/-- The replies that nobody sends. -/
def unsent (a : Answered) : List Reply := if a.runtime then [] else a.replies

end Answered

/-- How many replies of the kind of this one were sent. -/
def IngestCounters.sent (c : IngestCounters) : Reply → Nat
  | .tokenAssign _ _ => c.tokensSent
  | .confirm _ => c.confirmsSent
  | .reset => c.resetsSent

/-- What was counted of replies. -/
def IngestCounters.replied (c : IngestCounters) : (Reply → Nat) × Nat := (c.sent, c.replyFailures)

namespace Mail

/-! ## What can happen -/

/-- What can happen. -/
inductive Event where
  /-- A batch arrives, and there is a runtime to send replies on or not. -/
  | batch (runtime : Bool) (now : UInt64) (b : Batch)
  /-- An errand looks a channel up for its next reply. -/
  | begin (k : Nat) (now : UInt64)
  /-- The write of an errand comes out. -/
  | finish (k : Nat) (w : Written)
  /-- A channel is inserted. -/
  | insert (c : Channel) (now : UInt64)
  /-- A channel closes. -/
  | close (c : Channel)

/-- Takes in a batch. Its replies are sent by an errand of their own; without a runtime they are all counted as
failures. -/
def take (s : Mail) (runtime : Bool) (now : UInt64) (b : Batch) : Answered × Mail :=
  let (replies, _, ingest) := s.ingest.handle now b
  let answer : Answered := ⟨runtime, b.remote, replies⟩
  match b.remote with
  | none => (answer, { s with ingest := ingest })
  | some remote =>
    if replies.isEmpty then (answer, { s with ingest := ingest })
    else if runtime then
      (answer, { s with ingest := ingest, errands := s.errands ++ [.start remote replies] })
    else (answer, { s with ingest := ingest.countUnsent replies.length })

/-- Counts an attempt. -/
def counted (i : Ingest) (a : Attempt) : Ingest := if a.sent then i.countSent a.reply else i.countUnsent 1

/-- Looks a channel up for the next reply of an errand that is not writing. If there is none, the attempt is over. -/
def begin (s : Mail) (k : Nat) (now : UInt64) : Mail :=
  match s.errands[k]? with
  | some ⟨remote, replies, attempts, none, r :: waiting⟩ =>
    match s.channels.get remote now with
    | (some c, p) => ⟨s.ingest, p, s.errands.set k ⟨remote, replies, attempts, some (r, c), waiting⟩⟩
    | (none, p) =>
      ⟨counted s.ingest ⟨r, none⟩, p, s.errands.set k ⟨remote, replies, attempts ++ [⟨r, none⟩], none, waiting⟩⟩
  | _ => s

/-- Ends the write of an errand that is writing. -/
def finish (s : Mail) (k : Nat) (w : Written) : Mail :=
  match s.errands[k]? with
  | some ⟨remote, replies, attempts, some (r, c), waiting⟩ =>
    ⟨counted s.ingest ⟨r, some (c, w)⟩, s.channels.settled c w,
      s.errands.set k ⟨remote, replies, attempts ++ [⟨r, some (c, w)⟩], none, waiting⟩⟩
  | _ => s

/-- What a batch is answered, and the mail after an event. -/
def call (s : Mail) : Event → Option Answered × Mail
  | .batch runtime now b => (some (s.take runtime now b).1, (s.take runtime now b).2)
  | .begin k now => (none, s.begin k now)
  | .finish k w => (none, s.finish k w)
  | .insert c now => (none, { s with channels := s.channels.insert c now })
  | .close c => (none, { s with channels := s.channels.close c })

/-- The mail after events, in order. -/
abbrev after (s : Mail) (events : List Event) : Mail := Run.after call s events

/-- What batches are answered, in order. -/
abbrev answers (s : Mail) (events : List Event) : List Answered := (Run.answers call s events).reduceOption

/-- **All errands are over.** -/
def Done (s : Mail) : Prop := ∀ t ∈ s.errands, t.isDone = true

instance (s : Mail) : Decidable s.Done := inferInstanceAs (Decidable (∀ t ∈ _, _ = _))

/-- The attempts of all errands. -/
def attempts (s : Mail) : List Attempt := s.errands.flatMap Errand.attempts

/-! ## What batches count of replies -/

section Counters

variable (i : Ingest) (now : UInt64)

theorem replied_next (u : Ingest.Turn) : u.next.counters.replied = u.ingest.counters.replied := by
  have hidentified := Ingest.identified_identify u.ingest u.remote u.now u.metric
  have hnext : u.next.counters.replied = u.identified.2.2.counters.replied := by
    rcases u.next_cases with h | h
    · rw [h]
    · rw [h]
      rfl
  rw [hnext, Ingest.Turn.identified]
  generalize u.ingest.identify u.remote u.now u.metric = x at hidentified
  cases hidentified with
  | known | stray | reset | named => rfl

theorem replied_afterTurns (remote : Option Endpoint) (confirm : Bool) (ms : List Incoming) :
    (i.afterTurns remote confirm now ms).counters.replied = i.counters.replied := by
  induction ms generalizing i with
  | nil => rfl
  | cons m rest ih =>
    let u : Ingest.Turn := ⟨i, remote, confirm, now, m⟩
    exact (ih u.next).trans (replied_next u)

/-- **A batch counts nothing of what becomes of replies.** -/
theorem replied_handle (b : Batch) : (i.handle now b).2.2.counters.replied = i.counters.replied := by
  by_cases hb : b.opcode = .resetConfirm
  · rw [Ingest.handle_of_confirm i now b hb]
    simp only [Ingest.counters_confirmed]
    rfl
  · rw [Ingest.handle_of_metrics i now b hb]
    exact replied_afterTurns (i.arrive now b) now b.remote b.opcode.wantsConfirm b.metrics

theorem replies_local {b : Batch} (h : b.remote = none) : (i.handle now b).1 = [] := by
  by_cases hb : b.opcode = .resetConfirm
  · rw [Ingest.handle_of_confirm i now b hb]
  · rw [Ingest.handle_eq_takeAll i now hb, Ingest.taken, h]
    exact (Ingest.takeAll_local _ _ _ b.metrics).1

/-- **An attempt is counted once**: as sent, with the replies of its kind, or as a failure. -/
theorem counters_counted (a : Attempt) :
    (∀ r, (counted i a).counters.sent r = i.counters.sent r +
      [a].countP (fun a => a.sent && decide (a.reply.opcode = r.opcode))) ∧
    (counted i a).counters.replyFailures = i.counters.replyFailures + [a].countP (fun a => !a.sent) := by
  unfold counted
  cases hsent : a.sent with
  | true =>
    refine ⟨fun r => ?_, by cases a.reply <;> simp [hsent, Ingest.countSent, Ingest.count]⟩
    cases hr : a.reply <;> cases r <;>
      simp [hsent, hr, Ingest.countSent, Ingest.count, IngestCounters.sent, Reply.opcode]
  | false =>
    refine ⟨fun r => ?_, by simp [hsent, Ingest.countUnsent, Ingest.count]⟩
    cases r <;> simp [hsent, Ingest.countUnsent, Ingest.count, IngestCounters.sent]

end Counters

/-! ## What every event keeps -/

end Mail

/-- **An errand has tried its replies in order**, each once. The channels that it wrote over are those of its agent. A
pool that can open channels has given it one for every attempt. -/
structure Errand.Sound (t : Errand) (p : ChannelPool) : Prop where
  order : t.attempts.map Attempt.reply ++ (t.writing.toList.map Prod.fst ++ t.waiting) = t.replies
  own : ∀ x ∈ t.spent, x.channel.remote = t.remote
  reached : p.connects = true → ∀ a ∈ t.attempts, a.written.isSome

/-- **An errand has written over each channel after the earlier ones**, and the pool does not go back behind them. -/
structure Errand.Ascending (t : Errand) (p : ChannelPool) : Prop where
  succeed : t.spent.Pairwise (fun x y => x.Precedes y.channel)
  behind : ∀ x ∈ t.spent, p.Behind x

namespace Errand

variable {remote : Endpoint} {replies waiting : List Reply} {attempts : List Attempt} {p p' : ChannelPool} {r : Reply}
  {c : Channel} {t : Errand} {inserted : List Channel}

/-! ### What an errand wrote over -/

theorem spent_begun (attempts : List Attempt) (r : Reply) (c : Channel) (waiting : List Reply) :
    spent ⟨remote, replies, attempts, some (r, c), waiting⟩ =
      spent ⟨remote, replies, attempts, none, r :: waiting⟩ ++ [⟨c, false⟩] := by
  simp [spent]

theorem spent_unreached (attempts : List Attempt) (r : Reply) (waiting : List Reply) :
    spent ⟨remote, replies, attempts ++ [⟨r, none⟩], none, waiting⟩ =
      spent ⟨remote, replies, attempts, none, r :: waiting⟩ := by
  simp [spent, Attempt.spent]

theorem spent_writing (attempts : List Attempt) (r : Reply) (c : Channel) (waiting : List Reply) :
    spent ⟨remote, replies, attempts, some (r, c), waiting⟩ = attempts.flatMap Attempt.spent ++ [⟨c, false⟩] := by
  simp [spent]

theorem spent_finished (attempts : List Attempt) (r : Reply) (c : Channel) (w : Written) (waiting : List Reply) :
    spent ⟨remote, replies, attempts ++ [⟨r, some (c, w)⟩], none, waiting⟩ =
      attempts.flatMap Attempt.spent ++ [⟨c, w.failure.isSome⟩] := by
  simp [spent, Attempt.spent]

/-! ### Replies in order -/

theorem Sound.start (remote : Endpoint) (replies : List Reply) (p : ChannelPool) :
    (Errand.start remote replies).Sound p where
  order := rfl
  own := fun _ h => absurd h List.not_mem_nil
  reached := fun _ _ h => absurd h List.not_mem_nil

theorem Sound.renewed (h : t.Sound p) (hrenewed : p.Renewed p' inserted) : t.Sound p' where
  order := h.order
  own := h.own
  reached := fun hmeans => h.reached (hrenewed.means.symm.trans hmeans)

/-- **An errand is given a channel of its agent for its next reply.** -/
theorem Sound.begun (h : Errand.Sound ⟨remote, replies, attempts, none, r :: waiting⟩ p) (howned : p.Owned)
    (now : UInt64) (hc : (p.get remote now).1 = some c) :
    Errand.Sound ⟨remote, replies, attempts, some (r, c), waiting⟩ (p.get remote now).2 := by
  refine ⟨h.order, ?_, (h.renewed (ChannelPool.renewed_get p remote now)).reached⟩
  rw [spent_begun]
  exact List.forall_mem_append.mpr ⟨h.own, List.forall_mem_singleton.mpr (ChannelPool.remote_of_get howned hc)⟩

theorem Sound.unreached (h : Errand.Sound ⟨remote, replies, attempts, none, r :: waiting⟩ p) (now : UInt64)
    (hc : (p.get remote now).1 = none) :
    Errand.Sound ⟨remote, replies, attempts ++ [⟨r, none⟩], none, waiting⟩ (p.get remote now).2 := by
  refine ⟨by simpa using h.order, by rw [spent_unreached]; exact h.own, fun hmeans => ?_⟩
  have hsome := ChannelPool.isSome_get ((ChannelPool.renewed_get p remote now).means.symm.trans hmeans) remote now
  rw [hc] at hsome
  exact absurd hsome (by simp)

theorem Sound.finished (h : Errand.Sound ⟨remote, replies, attempts, some (r, c), waiting⟩ p) (w : Written) :
    Errand.Sound ⟨remote, replies, attempts ++ [⟨r, some (c, w)⟩], none, waiting⟩ (p.settled c w) := by
  refine ⟨by simpa using h.order, ?_, fun hmeans a ha => ?_⟩
  · have hown := h.own
    rw [spent_writing] at hown
    obtain ⟨hothers, hthis⟩ := List.forall_mem_append.mp hown
    have hremote : c.remote = remote := hthis ⟨c, false⟩ (List.mem_singleton_self _)
    rw [spent_finished]
    exact List.forall_mem_append.mpr ⟨hothers, List.forall_mem_singleton.mpr hremote⟩
  · rcases List.mem_append.mp ha with ha | ha
    · exact (h.renewed (ChannelPool.renewed_settled p c w)).reached hmeans a ha
    · rw [List.mem_singleton.mp ha]
      rfl

/-! ### Channels in order -/

theorem Ascending.start (remote : Endpoint) (replies : List Reply) (p : ChannelPool) :
    (Errand.start remote replies).Ascending p where
  succeed := List.Pairwise.nil
  behind := fun _ h => absurd h List.not_mem_nil

theorem Ascending.renewed (h : t.Ascending p) (hrenewed : p.Renewed p' inserted)
    (hnew : ∀ c ∈ inserted, p.next ≤ c.serial) : t.Ascending p' where
  succeed := h.succeed
  behind := fun x hx => hrenewed.behind hnew (h.behind x hx)

/-- **The channel for the next reply comes after all that the errand wrote over before.** -/
theorem Ascending.begun (h : Errand.Ascending ⟨remote, replies, attempts, none, r :: waiting⟩ p)
    (hsound : Errand.Sound ⟨remote, replies, attempts, none, r :: waiting⟩ p) (howned : p.Owned) (now : UInt64)
    (hc : (p.get remote now).1 = some c) :
    Errand.Ascending ⟨remote, replies, attempts, some (r, c), waiting⟩ (p.get remote now).2 := by
  obtain ⟨hbehind, hlater⟩ := ChannelPool.given_get howned hc
  have hkept := h.renewed (ChannelPool.renewed_get p remote now) (List.forall_mem_nil _)
  refine ⟨?_, ?_⟩ <;> rw [spent_begun]
  · refine List.pairwise_append.mpr ⟨h.succeed, List.pairwise_singleton _ _, fun x hx y hy => ?_⟩
    rw [List.mem_singleton.mp hy]
    exact hlater x (h.behind x hx) (hsound.own x hx)
  · exact List.forall_mem_append.mpr ⟨hkept.behind, List.forall_mem_singleton.mpr hbehind⟩

theorem Ascending.unreached (h : Errand.Ascending ⟨remote, replies, attempts, none, r :: waiting⟩ p) (now : UInt64) :
    Errand.Ascending ⟨remote, replies, attempts ++ [⟨r, none⟩], none, waiting⟩ (p.get remote now).2 := by
  have hkept := h.renewed (ChannelPool.renewed_get p remote now) (List.forall_mem_nil _)
  refine ⟨?_, ?_⟩ <;> rw [spent_unreached]
  · exact h.succeed
  · exact hkept.behind

/-- **A write comes out**, and if it failed, the pool does not go back to its channel. -/
theorem Ascending.finished (h : Errand.Ascending ⟨remote, replies, attempts, some (r, c), waiting⟩ p)
    (howned : p.Owned) (w : Written) :
    Errand.Ascending ⟨remote, replies, attempts ++ [⟨r, some (c, w)⟩], none, waiting⟩ (p.settled c w) := by
  have hkept := h.renewed (ChannelPool.renewed_settled p c w) (List.forall_mem_nil _)
  have hsucceed := h.succeed
  have hbehind := hkept.behind
  rw [spent_writing] at hsucceed hbehind
  obtain ⟨hfirst, -, hlast⟩ := List.pairwise_append.mp hsucceed
  have hc : p.Behind ⟨c, false⟩ := h.behind _ (spent_writing attempts r c waiting ▸
    List.mem_append_right _ (List.mem_singleton_self _))
  refine ⟨?_, ?_⟩ <;> rw [spent_finished]
  · refine List.pairwise_append.mpr ⟨hfirst, List.pairwise_singleton _ _, fun x hx y hy => ?_⟩
    rw [List.mem_singleton.mp hy]
    exact hlast x hx ⟨c, false⟩ (List.mem_singleton_self _)
  · exact List.forall_mem_append.mpr ⟨(List.forall_mem_append.mp hbehind).1,
      List.forall_mem_singleton.mpr (ChannelPool.behind_settled howned hc w)⟩

end Errand

namespace Mail

/-- **The counters tell what became of the attempts**, the errands are those of the batches that were answered, and they
are sound. -/
structure Kept (s : Mail) (connects : Bool) (answered : List Answered) : Prop where
  means : s.channels.connects = connects
  owned : s.channels.Owned
  sound : ∀ t ∈ s.errands, t.Sound s.channels
  errands : s.errands.map (fun t => (t.remote, t.replies)) = answered.filterMap Answered.errand?
  addressed : ∀ a ∈ answered, a.remote = none → a.replies = []
  sent : ∀ r, s.ingest.counters.sent r =
    s.attempts.countP (fun a => a.sent && decide (a.reply.opcode = r.opcode))
  failed : s.ingest.counters.replyFailures =
    s.attempts.countP (fun a => !a.sent) + (answered.flatMap Answered.unsent).length

section Kept

variable {s : Mail} {connects : Bool} {answered : List Answered} {inserted : List Channel}

/-- The mail before anything happens. -/
def start (catalog : Catalog) (resetTimeout : UInt64) (connects : Bool) (idleTime : UInt64) : Mail :=
  ⟨.create catalog resetTimeout, .create connects idleTime, []⟩

theorem kept_start (catalog : Catalog) (resetTimeout : UInt64) (connects : Bool) (idleTime : UInt64) :
    (start catalog resetTimeout connects idleTime).Kept connects [] where
  means := rfl
  owned := ChannelPool.owned_create connects idleTime
  sound := fun _ h => absurd h List.not_mem_nil
  errands := rfl
  addressed := fun _ h => absurd h List.not_mem_nil
  sent := fun r => by cases r <;> rfl
  failed := rfl

theorem Kept.renewed (h : s.Kept connects answered) {p : ChannelPool} (hrenewed : s.channels.Renewed p inserted) :
    Kept { s with channels := p } connects answered :=
  ⟨hrenewed.means.trans h.means, hrenewed.owned h.owned, fun t ht => (h.sound t ht).renewed hrenewed, h.errands,
    h.addressed, h.sent, h.failed⟩

/-- One errand among the others, and what it is exchanged for. -/
theorem exists_split {k : Nat} {t : Errand} (h : s.errands[k]? = some t) :
    ∃ before later, s.errands = before ++ t :: later ∧ ∀ t', s.errands.set k t' = before ++ t' :: later := by
  obtain ⟨hk, rfl⟩ := List.getElem?_eq_some_iff.mp h
  refine ⟨s.errands.take k, s.errands.drop (k + 1), ?_, fun t' => ?_⟩
  · rw [List.getElem_cons_drop, List.take_append_drop]
  · rw [List.set_eq_take_append_cons_drop, if_pos hk]

/-- **One errand goes on**: the pool is renewed, and what it tried is counted. -/
theorem Kept.exchange (h : s.Kept connects answered) {k : Nat} {t t' : Errand} (ht : s.errands[k]? = some t)
    {i : Ingest} {p : ChannelPool} (hrenewed : s.channels.Renewed p inserted) (hsound : t'.Sound p)
    (hsame : (t'.remote, t'.replies) = (t.remote, t.replies)) {tried : List Attempt}
    (htried : t'.attempts = t.attempts ++ tried)
    (hsent : ∀ r, i.counters.sent r = s.ingest.counters.sent r +
      tried.countP (fun a => a.sent && decide (a.reply.opcode = r.opcode)))
    (hfailed : i.counters.replyFailures = s.ingest.counters.replyFailures + tried.countP (fun a => !a.sent)) :
    Kept ⟨i, p, s.errands.set k t'⟩ connects answered := by
  obtain ⟨before, later, herrands, hset⟩ := exists_split ht
  have hkept := h.sound
  have hjobs := h.errands
  have hcount : ∀ f : Attempt → Bool, ((before ++ t' :: later).flatMap Errand.attempts).countP f =
      s.attempts.countP f + tried.countP f := fun f => by
    rw [Mail.attempts, herrands]
    simp only [List.flatMap_append, List.flatMap_cons, List.countP_append, htried]
    omega
  rw [herrands] at hkept hjobs
  rw [hset]
  refine ⟨hrenewed.means.trans h.means, hrenewed.owned h.owned, fun u hu => ?_, ?_, h.addressed, fun r => ?_, ?_⟩
  · rcases List.mem_append.mp hu with hu | hu
    · exact (hkept u (List.mem_append_left _ hu)).renewed hrenewed
    · rcases List.mem_cons.mp hu with rfl | hu
      · exact hsound
      · exact (hkept u (List.mem_append_right _ (List.mem_cons_of_mem _ hu))).renewed hrenewed
  · rw [← hjobs, List.map_append, List.map_append, List.map_cons, List.map_cons, hsame]
  · rw [Mail.attempts, hcount, hsent r, h.sent r]
  · rw [Mail.attempts, hcount, hfailed, h.failed, Nat.add_right_comm]

theorem kept_begin (h : s.Kept connects answered) (k : Nat) (now : UInt64) :
    (s.begin k now).Kept connects answered := by
  unfold begin
  split
  · rename_i remote replies attempts r waiting ht
    have hsound := h.sound _ (List.mem_of_getElem? ht)
    have hrenewed := ChannelPool.renewed_get s.channels remote now
    have hbegun := fun c => hsound.begun h.owned now (c := c)
    have hunreached := hsound.unreached now
    generalize s.channels.get remote now = found at hrenewed hbegun hunreached
    obtain ⟨channel, p⟩ := found
    cases channel with
    | some c =>
      have htried : attempts = attempts ++ [] := (List.append_nil _).symm
      exact h.exchange ht hrenewed (hbegun c rfl) rfl htried (fun _ => rfl) rfl
    | none =>
      obtain ⟨hsent, hfailed⟩ := counters_counted s.ingest ⟨r, none⟩
      exact h.exchange ht hrenewed (hunreached rfl) rfl rfl hsent hfailed
  · exact h

theorem kept_finish (h : s.Kept connects answered) (k : Nat) (w : Written) : (s.finish k w).Kept connects answered := by
  unfold finish
  split
  · rename_i remote replies attempts r c waiting ht
    have hsound := h.sound _ (List.mem_of_getElem? ht)
    obtain ⟨hsent, hfailed⟩ := counters_counted s.ingest ⟨r, some (c, w)⟩
    exact h.exchange ht (ChannelPool.renewed_settled s.channels c w) (hsound.finished w) rfl rfl hsent hfailed
  · exact h

theorem sent_handle (i : Ingest) (now : UInt64) (b : Batch) :
    (∀ r, (i.handle now b).2.2.counters.sent r = i.counters.sent r) ∧
      (i.handle now b).2.2.counters.replyFailures = i.counters.replyFailures := by
  have h := replied_handle i now b
  exact ⟨fun r => congrFun (congrArg Prod.fst h) r, congrArg Prod.snd h⟩

/-- **A batch is taken in in one of three ways**: it has no replies, an errand sends them, or they are failures. -/
theorem take_cases (s : Mail) (runtime : Bool) (now : UInt64) (b : Batch) :
    let replies := (s.ingest.handle now b).1
    let i := (s.ingest.handle now b).2.2
    (s.take runtime now b).1 = ⟨runtime, b.remote, replies⟩ ∧
    ((replies = [] ∧ (s.take runtime now b).2 = { s with ingest := i }) ∨
      (∃ remote, b.remote = some remote ∧ replies.isEmpty = false ∧
        ((runtime = true ∧ (s.take runtime now b).2 =
            { s with ingest := i, errands := s.errands ++ [.start remote replies] }) ∨
          (runtime = false ∧ (s.take runtime now b).2 = { s with ingest := i.countUnsent replies.length })))) := by
  have hlocal := fun hremote => replies_local s.ingest now (b := b) hremote
  unfold take
  generalize s.ingest.handle now b = r at hlocal
  obtain ⟨replies, samples, i⟩ := r
  cases hremote : b.remote with
  | none => exact ⟨rfl, Or.inl ⟨hlocal hremote, rfl⟩⟩
  | some remote =>
    cases hempty : replies.isEmpty with
    | true => simp [List.isEmpty_iff.mp hempty]
    | false => cases runtime <;> simp [hempty]

/-- **A batch adds an errand, or its replies are failures.** -/
theorem kept_take (h : s.Kept connects answered) (runtime : Bool) (now : UInt64) (b : Batch) :
    (s.take runtime now b).2.Kept connects (answered ++ [(s.take runtime now b).1]) := by
  obtain ⟨hsent, hfailed⟩ := sent_handle s.ingest now b
  obtain ⟨hanswer, hcases⟩ := take_cases s runtime now b
  have haddressed : ∀ a ∈ answered ++ [(s.take runtime now b).1], a.remote = none → a.replies = [] := by
    rw [hanswer]
    exact List.forall_mem_append.mpr ⟨h.addressed, List.forall_mem_singleton.mpr (replies_local s.ingest now)⟩
  rw [hanswer] at haddressed ⊢
  generalize (s.ingest.handle now b).1 = replies at hcases haddressed ⊢
  generalize (s.ingest.handle now b).2.2 = i at hsent hfailed hcases
  rcases hcases with ⟨rfl, htaken⟩ | ⟨remote, hremote, hsome, ⟨rfl, htaken⟩ | ⟨rfl, htaken⟩⟩
  · rw [htaken]
    refine ⟨h.means, h.owned, h.sound, ?_, haddressed, fun r => (hsent r).trans (h.sent r), ?_⟩
    · have hnone : Answered.errand? ⟨runtime, b.remote, []⟩ = none := by cases b.remote <;> simp [Answered.errand?]
      simpa [hnone] using h.errands
    · simpa [attempts, Answered.unsent] using hfailed.trans h.failed
  · have hthis : Answered.errand? ⟨true, b.remote, replies⟩ = some (remote, replies) := by
      simp [Answered.errand?, hremote, hsome]
    rw [htaken]
    refine ⟨h.means, h.owned, ?_, ?_, haddressed, fun r => ?_, ?_⟩
    · exact List.forall_mem_append.mpr ⟨h.sound, List.forall_mem_singleton.mpr (.start remote replies _)⟩
    · simpa [hthis, Errand.start] using h.errands
    · simpa [attempts, Errand.start] using (hsent r).trans (h.sent r)
    · simpa [attempts, Errand.start, Answered.unsent] using hfailed.trans h.failed
  · have hnone : Answered.errand? ⟨false, b.remote, replies⟩ = none := by simp [Answered.errand?, hremote]
    rw [htaken]
    refine ⟨h.means, h.owned, h.sound, ?_, haddressed, fun r => ?_, ?_⟩
    · simpa [hnone] using h.errands
    · have hcount : (i.countUnsent replies.length).counters.sent r = i.counters.sent r := by cases r <;> rfl
      exact hcount.trans ((hsent r).trans (h.sent r))
    · have hcount : (i.countUnsent replies.length).counters.replyFailures =
          i.counters.replyFailures + replies.length := rfl
      rw [hcount, hfailed, h.failed]
      simp [attempts, Answered.unsent, Nat.add_assoc]

/-- **Every event keeps it so.** -/
theorem kept_call (h : s.Kept connects answered) (e : Event) :
    (s.call e).2.Kept connects (answered ++ (s.call e).1.toList) := by
  cases e with
  | batch runtime now b => exact kept_take h runtime now b
  | begin k now =>
    rw [call, Option.toList_none, List.append_nil]
    exact kept_begin h k now
  | finish k w =>
    rw [call, Option.toList_none, List.append_nil]
    exact kept_finish h k w
  | insert c now =>
    rw [call, Option.toList_none, List.append_nil]
    exact h.renewed (ChannelPool.renewed_insert s.channels c now)
  | close c =>
    rw [call, Option.toList_none, List.append_nil]
    exact h.renewed (ChannelPool.renewed_close s.channels c)

/-- **The counters tell what became of the attempts, whatever happened.** -/
theorem kept_after (h : s.Kept connects answered) (events : List Event) :
    (s.after events).Kept connects (answered ++ s.answers events) := by
  induction events generalizing s answered with
  | nil =>
    rw [answers, Run.answers, List.reduceOption_nil, List.append_nil]
    exact h
  | cons e rest ih =>
    have hrest := ih (kept_call h e)
    rw [List.append_assoc] at hrest
    have hanswers : s.answers (e :: rest) = (s.call e).1.toList ++ (s.call e).2.answers rest := by
      rw [answers, Run.answers]
      cases (s.call e).1 <;> rfl
    rw [hanswers]
    exact hrest

end Kept

/-! ## Channels that are new -/

/-- The channel that an event inserts. -/
def Event.inserted? : Event → Option Channel
  | .insert c _ => some c
  | _ => none

/-- **The channels that are inserted are new.** -/
def InsertsNew : Mail → List Event → Prop
  | _, [] => True
  | s, e :: rest => (∀ c ∈ e.inserted?, s.channels.next ≤ c.serial) ∧ InsertsNew (s.call e).2 rest

instance decidableInsertsNew : (s : Mail) → (events : List Event) → Decidable (s.InsertsNew events)
  | _, [] => inferInstanceAs (Decidable True)
  | s, e :: rest =>
    have := decidableInsertsNew (s.call e).2 rest
    inferInstanceAs (Decidable (_ ∧ _))

/-- **Every errand has written over each channel after the earlier ones.** -/
def Ascending (s : Mail) : Prop := ∀ t ∈ s.errands, t.Ascending s.channels

section Ascending

variable {s : Mail} {connects : Bool} {answered : List Answered} {inserted : List Channel}

theorem Ascending.renewed (h : s.Ascending) {p : ChannelPool} (hrenewed : s.channels.Renewed p inserted)
    (hnew : ∀ c ∈ inserted, s.channels.next ≤ c.serial) : ∀ t ∈ s.errands, t.Ascending p :=
  fun t ht => (h t ht).renewed hrenewed hnew

theorem Ascending.exchange (h : s.Ascending) {k : Nat} {t : Errand} {i : Ingest} {p : ChannelPool}
    (hrenewed : s.channels.Renewed p []) (ht : t.Ascending p) : Ascending ⟨i, p, s.errands.set k t⟩ := by
  intro u hu
  rcases List.mem_or_eq_of_mem_set hu with hu | rfl
  · exact h.renewed hrenewed (List.forall_mem_nil _) u hu
  · exact ht

theorem ascending_begin (hkept : s.Kept connects answered) (h : s.Ascending) (k : Nat) (now : UInt64) :
    (s.begin k now).Ascending := by
  unfold begin
  split
  · rename_i remote replies attempts r waiting ht
    have hthis := h _ (List.mem_of_getElem? ht)
    have hrenewed := ChannelPool.renewed_get s.channels remote now
    have hbegun := fun c => hthis.begun (hkept.sound _ (List.mem_of_getElem? ht)) hkept.owned now (c := c)
    have hunreached := hthis.unreached now
    generalize s.channels.get remote now = found at hrenewed hbegun hunreached
    obtain ⟨_ | c, p⟩ := found
    · exact h.exchange hrenewed hunreached
    · exact h.exchange hrenewed (hbegun c rfl)
  · exact h

theorem ascending_finish (hkept : s.Kept connects answered) (h : s.Ascending) (k : Nat) (w : Written) :
    (s.finish k w).Ascending := by
  unfold finish
  split
  · rename_i remote replies attempts r c waiting ht
    exact h.exchange (ChannelPool.renewed_settled s.channels c w)
      ((h _ (List.mem_of_getElem? ht)).finished hkept.owned w)
  · exact h

/-- **Every event keeps it so**, if a channel that it inserts is new. -/
theorem ascending_call (hkept : s.Kept connects answered) (h : s.Ascending) (e : Event)
    (hnew : ∀ c ∈ e.inserted?, s.channels.next ≤ c.serial) : (s.call e).2.Ascending := by
  cases e with
  | batch runtime now b =>
    obtain ⟨-, hcases⟩ := take_cases s runtime now b
    rw [call]
    rcases hcases with ⟨-, htaken⟩ | ⟨remote, -, -, ⟨-, htaken⟩ | ⟨-, htaken⟩⟩ <;> rw [htaken]
    · exact h
    · exact List.forall_mem_append.mpr ⟨h, List.forall_mem_singleton.mpr (.start remote _ _)⟩
    · exact h
  | begin k now => exact ascending_begin hkept h k now
  | finish k w => exact ascending_finish hkept h k w
  | insert c now =>
    exact h.renewed (ChannelPool.renewed_insert s.channels c now) (List.forall_mem_singleton.mpr (hnew c rfl))
  | close c => exact h.renewed (ChannelPool.renewed_close s.channels c) (List.forall_mem_nil _)

/-- **Errands go on so, whatever happens**, if the channels that are inserted are new. -/
theorem ascending_after (hkept : s.Kept connects answered) (h : s.Ascending) (events : List Event)
    (hnew : s.InsertsNew events) : (s.after events).Ascending := by
  induction events generalizing s answered with
  | nil => exact h
  | cons e rest ih => exact ih (kept_call hkept e) (ascending_call hkept h e hnew.1) hnew.2

end Ascending

/-! ## Errands come to their end -/

/-- Does an errand go on by it, with writes that come out so? -/
def Event.Sends (w : Written) : Event → Prop
  | .begin _ _ => True
  | .finish _ w' => w' = w
  | _ => False

/-- How many events an errand needs at most to come to its end. -/
def work (t : Errand) : Nat := 2 * t.waiting.length + t.writing.toList.length

section Progress

variable {s : Mail}

theorem sum_work_set {k : Nat} {t t' : Errand} (ht : s.errands[k]? = some t) (hless : work t' < work t) :
    ((s.errands.set k t').map work).sum < (s.errands.map work).sum := by
  obtain ⟨before, later, herrands, hset⟩ := exists_split ht
  rw [hset, herrands]
  simp only [List.map_append, List.map_cons, List.sum_append, List.sum_cons]
  omega

/-- **An errand that is not over can go on**, whatever became of its attempts. -/
theorem exists_sends (h : ¬ s.Done) (w : Written) :
    ∃ e : Event, e.Sends w ∧ ((s.call e).2.errands.map work).sum < (s.errands.map work).sum := by
  simp only [Done, not_forall, Bool.not_eq_true] at h
  obtain ⟨t, ht, hopen⟩ := h
  obtain ⟨k, hk⟩ := List.mem_iff_getElem?.mp ht
  obtain ⟨remote, replies, attempts, writing, waiting⟩ := t
  cases writing with
  | some written =>
    obtain ⟨r, c⟩ := written
    refine ⟨.finish k w, rfl, ?_⟩
    rw [call, finish, hk]
    exact sum_work_set hk (by simp [work])
  | none =>
    cases waiting with
    | nil => simp [Errand.isDone] at hopen
    | cons r waiting =>
      refine ⟨.begin k 0, trivial, ?_⟩
      rw [call, begin, hk]
      simp only
      split
      · exact sum_work_set hk (by simp [work]; omega)
      · exact sum_work_set hk (by simp [work])

/-- **All errands can come to their end**, even if every write fails. -/
theorem exists_done (s : Mail) (w : Written) :
    ∃ more : List Event, (∀ e ∈ more, e.Sends w) ∧ (s.after more).Done := by
  induction hwork : (s.errands.map work).sum using Nat.strong_induction_on generalizing s with
  | _ n ih =>
    by_cases hdone : s.Done
    · exact ⟨[], fun _ h => absurd h List.not_mem_nil, hdone⟩
    · obtain ⟨e, he, hless⟩ := exists_sends hdone w
      obtain ⟨more, hmore, hend⟩ := ih _ (hwork ▸ hless) (s.call e).2 rfl
      exact ⟨e :: more, List.forall_mem_cons.mpr ⟨he, hmore⟩, hend⟩

end Progress

/-! ## Replies in one go -/

section OneGo

variable {σ τ : Type} (transmit : Transmit τ) (p : Pipeline σ τ) (remote : Endpoint) (clock : UInt64)
  (replies : List Reply) (errands : List Errand)

theorem sendReply_of_given (r : Reply) {c : Channel} {q : ChannelPool}
    (hget : p.channels.get remote clock = (some c, q)) :
    let w := (q.outcome transmit c r.encode p.network).1
    (p.sendReply transmit remote clock r).ingest = counted p.ingest ⟨r, some (c, w)⟩ ∧
      (p.sendReply transmit remote clock r).channels = q.settled c w := by
  intro w
  rw [Pipeline.sendReply, ChannelPool.send_eq, hget]
  simp only
  have hsent : Attempt.sent ⟨r, some (c, w)⟩ = w.failure.isNone := rfl
  rw [counted, hsent, show (q.outcome transmit c r.encode p.network).1 = w from rfl, Written.answer]
  cases w.failure <;> exact ⟨rfl, rfl⟩

theorem exists_sendReply (attempts : List Attempt) (r : Reply) (waiting : List Reply) :
    ∃ events a, after ⟨p.ingest, p.channels, errands ++ [⟨remote, replies, attempts, none, r :: waiting⟩]⟩ events =
      ⟨(p.sendReply transmit remote clock r).ingest, (p.sendReply transmit remote clock r).channels,
        errands ++ [⟨remote, replies, attempts ++ [a], none, waiting⟩]⟩ := by
  have hset : ∀ t t', (errands ++ [t]).set errands.length t' = errands ++ [t'] := fun t t' => by simp
  rcases hget : p.channels.get remote clock with ⟨found, q⟩
  cases found with
  | none =>
    refine ⟨[.begin errands.length clock], ⟨r, none⟩, ?_⟩
    simp only [after, Run.after, call, begin, List.getElem?_concat_length, hget, hset]
    simp [Pipeline.sendReply, ChannelPool.send_eq, hget, counted, Attempt.sent]
  | some c =>
    let w := (q.outcome transmit c r.encode p.network).1
    obtain ⟨hingest, hchannels⟩ := sendReply_of_given transmit p remote clock r hget
    refine ⟨[.begin errands.length clock, .finish errands.length w], ⟨r, some (c, w)⟩, ?_⟩
    simp only [after, Run.after, call, begin, finish, List.getElem?_concat_length, hget, hset, hingest, hchannels]
    rfl

theorem exists_foldl_sendReply (attempts : List Attempt) (waiting : List Reply) :
    ∃ events t, t.isDone = true ∧
      after ⟨p.ingest, p.channels, errands ++ [⟨remote, replies, attempts, none, waiting⟩]⟩ events =
        ⟨(waiting.foldl (Pipeline.sendReply transmit remote clock) p).ingest,
          (waiting.foldl (Pipeline.sendReply transmit remote clock) p).channels, errands ++ [t]⟩ := by
  induction waiting generalizing p attempts with
  | nil => exact ⟨[], _, rfl, rfl⟩
  | cons r rest ih =>
    obtain ⟨first, a, hfirst⟩ := exists_sendReply transmit p remote clock replies errands attempts r rest
    obtain ⟨more, t, ht, hmore⟩ := ih (p.sendReply transmit remote clock r) (attempts ++ [a])
    refine ⟨first ++ more, t, ht, ?_⟩
    exact (Run.after_append _ first more).trans ((congrArg (Run.after call · more) hfirst).trans hmore)

/-- **To answer a batch in one go is one of the ways in which its errand goes on**: the batch comes in, and before
anything else happens the errand, if there is one, comes to its end. -/
theorem exists_answered (arrival : Arrival) (b : Batch) :
    ∃ events done, (∀ t ∈ done, t.isDone = true) ∧
      after ⟨p.ingest, p.channels, errands⟩ (.batch p.replies arrival.ingest b :: events) =
        ⟨(p.answered transmit arrival b).ingest, (p.answered transmit arrival b).channels, errands ++ done⟩ := by
  let s : Mail := ⟨p.ingest, p.channels, errands⟩
  let q : Pipeline σ τ := { p with ingest := (p.ingest.handle arrival.ingest b).2.2 }
  have hanswered : p.answered transmit arrival b =
      q.replied transmit b.remote arrival.channels (p.ingest.handle arrival.ingest b).1 := rfl
  obtain ⟨-, hcases⟩ := take_cases s p.replies arrival.ingest b
  rcases hcases with ⟨hnil, htaken⟩ | ⟨remote, hremote, -, ⟨hruntime, htaken⟩ | ⟨hruntime, htaken⟩⟩
  · refine ⟨[], [], fun _ h => absurd h List.not_mem_nil, ?_⟩
    have hnothing : q.replied transmit b.remote arrival.channels [] = q := by
      cases hr : b.remote <;> cases hp : p.replies <;>
        simp [q, Pipeline.replied, Pipeline.sendReplies, Ingest.countUnsent, Ingest.count, hp]
    rw [List.append_nil, hanswered, show (p.ingest.handle arrival.ingest b).1 = [] from hnil, hnothing]
    exact htaken
  · obtain ⟨events, t, ht, hafter⟩ := exists_foldl_sendReply transmit q remote arrival.channels
      (p.ingest.handle arrival.ingest b).1 errands [] (p.ingest.handle arrival.ingest b).1
    refine ⟨events, [t], List.forall_mem_singleton.mpr ht, ?_⟩
    have hsent : q.replied transmit b.remote arrival.channels (p.ingest.handle arrival.ingest b).1 =
        (p.ingest.handle arrival.ingest b).1.foldl (Pipeline.sendReply transmit remote arrival.channels) q := by
      rw [hremote, Pipeline.replied, Pipeline.sendReplies, if_pos (show q.replies = true from hruntime)]
    rw [hanswered, hsent, ← hafter, after, Run.after]
    exact congrArg (Run.after call · events) htaken
  · refine ⟨[], [], fun _ h => absurd h List.not_mem_nil, ?_⟩
    have hunsent : q.replied transmit b.remote arrival.channels (p.ingest.handle arrival.ingest b).1 =
        { q with ingest := q.ingest.countUnsent (p.ingest.handle arrival.ingest b).1.length } := by
      rw [hremote, Pipeline.replied, Pipeline.sendReplies, if_neg (by simp [q, hruntime])]
    rw [List.append_nil, hanswered, hunsent]
    exact htaken

end OneGo

/-! ## What became of replies -/

theorem countP_attempts (as : List Attempt) :
    as.countP (fun a => a.sent && decide (a.reply.opcode = .tokenAssign)) +
      as.countP (fun a => a.sent && decide (a.reply.opcode = .confirm)) +
      as.countP (fun a => a.sent && decide (a.reply.opcode = .reset)) + as.countP (fun a => !a.sent) = as.length := by
  induction as with
  | nil => rfl
  | cons a rest ih =>
    have hkind : a.reply.opcode = .tokenAssign ∨ a.reply.opcode = .confirm ∨ a.reply.opcode = .reset := by
      cases a.reply <;> simp [Reply.opcode]
    simp only [List.countP_cons, List.length_cons]
    rcases hkind with h | h | h <;> cases a.sent <;> simp [h] <;> omega

theorem length_replies {answered : List Answered} (h : ∀ a ∈ answered, a.remote = none → a.replies = []) :
    (answered.flatMap Answered.replies).length = ((answered.filterMap Answered.errand?).flatMap Prod.snd).length +
      (answered.flatMap Answered.unsent).length := by
  induction answered with
  | nil => rfl
  | cons a rest ih =>
    obtain ⟨hfirst, hrest⟩ := List.forall_mem_cons.mp h
    have hthis : a.replies.length = (a.errand?.toList.flatMap Prod.snd).length + a.unsent.length := by
      obtain ⟨runtime, remote, replies⟩ := a
      cases remote with
      | none =>
        obtain rfl : replies = [] := hfirst rfl
        cases runtime <;> rfl
      | some r => cases runtime <;> cases replies <;> simp [Answered.errand?, Answered.unsent]
    have hcons : (a :: rest).filterMap Answered.errand? = a.errand?.toList ++ rest.filterMap Answered.errand? := by
      rw [List.filterMap_cons]
      cases a.errand? <;> rfl
    rw [List.flatMap_cons, List.length_append, ih hrest, List.flatMap_cons, List.length_append, hcons,
      List.flatMap_append, List.length_append, hthis]
    omega

/-- **Every reply is attempted once and counted once.** Batches come in, and errands go on, in any order and at any
instants; writes come out somehow, channels close, and others are inserted.

* All errands can come to their end from there, even if every write fails.
* Once they are over, what was counted as sent or as a failure is as much as there were replies. For each kind, as many
  are counted as sent as there are replies of the kind whose write succeeded; the failures are the other attempts, and
  the replies to batches that came in without a runtime.
* There is one errand for each batch with replies that came in with a runtime, in this order. It attempted each of its
  replies once, in order. All channels that it wrote over are those of its agent. If the pool can open channels, there
  was one for every attempt. After a write that failed, the errand only wrote over channels that came later, if all
  that were inserted are new. -/
theorem attempts_after (catalog : Catalog) (resetTimeout : UInt64) (connects : Bool) (idleTime : UInt64)
    (events : List Event) :
    let s₀ := start catalog resetTimeout connects idleTime
    let s := s₀.after events
    let answered := s₀.answers events
    let c := s.ingest.counters
    let sent (kind : Opcode) := s.attempts.countP (fun a => a.sent && decide (a.reply.opcode = kind))
    (∀ w : Written, ∃ more : List Event, (∀ e ∈ more, e.Sends w) ∧ (s.after more).Done) ∧
    (s.Done →
      c.tokensSent + c.confirmsSent + c.resetsSent + c.replyFailures =
          (answered.flatMap Answered.replies).length ∧
      (c.tokensSent = sent .tokenAssign ∧ c.confirmsSent = sent .confirm ∧ c.resetsSent = sent .reset) ∧
      c.replyFailures =
          s.attempts.countP (fun a => !a.sent) + (answered.flatMap Answered.unsent).length ∧
      s.errands.map (fun t => (t.remote, t.replies)) = answered.filterMap Answered.errand? ∧
      ∀ t ∈ s.errands, t.attempts.map Attempt.reply = t.replies ∧
        (∀ a ∈ t.attempts, ∀ x ∈ a.written, x.1.remote = t.remote) ∧
        (connects = true → ∀ a ∈ t.attempts, a.written.isSome) ∧
        (s₀.InsertsNew events → t.attempts.Pairwise (fun a b => ∀ x ∈ a.written, ∀ y ∈ b.written,
          x.1.serial ≤ y.1.serial ∧ (x.2.failure.isSome → x.1.serial < y.1.serial)))) := by
  intro s₀ s answered c sent
  have hstart : s₀.Kept connects [] := kept_start catalog resetTimeout connects idleTime
  have hkept : s.Kept connects answered := kept_after hstart events
  refine ⟨fun w => exists_done s w, fun hdone => ?_⟩
  have htokens : c.tokensSent = sent .tokenAssign := hkept.sent (.tokenAssign "" 0)
  have hconfirms : c.confirmsSent = sent .confirm := hkept.sent (.confirm "")
  have hresets : c.resetsSent = sent .reset := hkept.sent .reset
  have horder : ∀ t ∈ s.errands, t.attempts.map Attempt.reply = t.replies := fun t ht => by
    have hopen := hdone t ht
    rw [Errand.isDone, Bool.and_eq_true, Option.isNone_iff_eq_none, List.isEmpty_iff] at hopen
    simpa [hopen.1, hopen.2] using (hkept.sound t ht).order
  have hattempts : s.attempts.length = ((answered.filterMap Answered.errand?).flatMap Prod.snd).length := by
    rw [← hkept.errands, List.flatMap_map, ← List.length_map Attempt.reply, attempts, List.map_flatMap]
    exact congrArg List.length (List.flatMap_congr horder)
  refine ⟨?_, ⟨htokens, hconfirms, hresets⟩, hkept.failed, hkept.errands, fun t ht => ⟨horder t ht, ?_, ?_, ?_⟩⟩
  · calc c.tokensSent + c.confirmsSent + c.resetsSent + c.replyFailures
      _ = sent .tokenAssign + sent .confirm + sent .reset +
            (s.attempts.countP (fun a => !a.sent) + (answered.flatMap Answered.unsent).length) := by
          rw [htokens, hconfirms, hresets, show c.replyFailures = _ from hkept.failed]
      _ = s.attempts.length + (answered.flatMap Answered.unsent).length := by
          rw [← countP_attempts s.attempts, ← Nat.add_assoc]
      _ = (answered.flatMap Answered.replies).length := by rw [hattempts, length_replies hkept.addressed]
  · intro a ha x hx
    have hspent : (⟨x.1, x.2.failure.isSome⟩ : Spent) ∈ t.spent :=
      List.mem_append_left _ (List.mem_flatMap.mpr ⟨a, ha, List.mem_map.mpr ⟨x, Option.mem_toList.mpr hx, rfl⟩⟩)
    exact (hkept.sound t ht).own _ hspent
  · intro hconnects
    exact (hkept.sound t ht).reached (hkept.means.trans hconnects)
  · intro hnew
    have hascending : s.Ascending := ascending_after hstart (fun _ h => absurd h List.not_mem_nil) events hnew
    have hpairs := (List.pairwise_flatMap.mp (List.pairwise_append.mp (hascending t ht).succeed).1).2
    refine hpairs.imp fun hprecedes x hx y hy => ?_
    have hxy := hprecedes _ (List.mem_map.mpr ⟨x, Option.mem_toList.mpr hx, rfl⟩) _
      (List.mem_map.mpr ⟨y, Option.mem_toList.mpr hy, rfl⟩)
    exact ⟨hxy.le, hxy.lt⟩

/-- Two errands take turns. The second of four replies fails, and the channel with it; meanwhile another agent is told
to reset, and a channel is inserted that nobody opened. A third batch comes in without a runtime. -/
theorem attempts_after_of_two_errands :
    let agent (n : Nat) : Endpoint := ⟨.v4 10 0 0 n, 9000, 0⟩
    let named (name : String) : Incoming := ⟨.named ⟨"h", "a", [], name⟩, .gauge, 5, .long 1⟩
    let first : Batch := ⟨.sendMetricDirect, some (agent 1), [named "x", named "y"], 0, 0⟩
    let stray : Batch := ⟨.sendMetric, some (agent 2), [⟨.token 7, .gauge, 5, .long 1⟩], 0, 0⟩
    let last : Batch := ⟨.sendMetric, some (agent 3), [named "x"], 0, 0⟩
    let done : Written := ⟨none, false⟩
    let failed : Written := ⟨some (.network "unreachable"), true⟩
    let events : List Event := [.batch true 1 first, .begin 0 2, .batch true 3 stray, .finish 0 done, .begin 1 4,
      .begin 0 4, .finish 0 failed, .insert ⟨5, agent 3⟩ 4, .begin 0 5, .finish 1 done, .finish 0 done, .batch false 6 last, .begin 0 6,
      .finish 0 done]
    let s := (start (.fresh .byName) 10 true 1000).after events
    let c := s.ingest.counters
    s.Done ∧ (start (.fresh .byName) 10 true 1000).InsertsNew events ∧ [c.tokensSent, c.confirmsSent, c.resetsSent, c.replyFailures] = [2, 1, 1, 2] ∧
      c.tokensSent + c.confirmsSent + c.resetsSent + c.replyFailures = 6 ∧
      s.errands.map (fun t => t.attempts.map Attempt.reply) =
        [[.tokenAssign "h/a:x" 1, .confirm "h/a:x5", .tokenAssign "h/a:y" 2, .confirm "h/a:y5"], [.reset]] ∧
      s.errands.map (fun t => t.attempts.map (fun a => a.written.map (fun x => x.1.serial))) =
        [[some 0, some 0, some 6, some 6], [some 1]] := by
  intro agent named first stray last done failed events s c
  have hdone : s.Done := by decide +kernel
  obtain ⟨htotal, -, -, -, hattempts⟩ := (attempts_after (.fresh .byName) 10 true 1000 events).2 hdone
  have hanswered : (((start (.fresh .byName) 10 true 1000).answers events).flatMap Answered.replies).length = 6 := by
    decide +kernel
  have hsum : c.tokensSent + c.confirmsSent + c.resetsSent + c.replyFailures = 6 := by
    with_reducible exact htotal.trans hanswered
  have hreplies : s.errands.map (fun t => t.attempts.map Attempt.reply) = s.errands.map Errand.replies := by
    with_reducible exact List.map_congr_left fun t ht => (hattempts t ht).1
  have hasked : s.errands.map Errand.replies =
      [[.tokenAssign "h/a:x" 1, .confirm "h/a:x5", .tokenAssign "h/a:y" 2, .confirm "h/a:y5"], [.reset]] := by
    decide +kernel
  exact ⟨hdone, by decide +kernel, by decide +kernel, hsum, hreplies.trans hasked, by decide +kernel⟩

end Mail

end MetricRouter
