import MetricRouter.Proofs.DelayQueue
import MetricRouter.Proofs.Ingest.Turns

/-!
# Resets

An agent that sends an unknown token is told to forget its tokens, and is not told again before a timeout unless
it has confirmed. Which resets are on their way is kept in a table and, by their deadlines, in a queue. A
confirmation leaves its entry in the queue, so what decides is the table: the queue only ever forgets what has no
effect any more.

* `tellings` — when an agent was told to reset since it last confirmed;
* `mayReset_expireResets`, `mayReset_told`, `mayReset_confirmed` — what decides, after each thing that can happen;
* `Agrees`, `agrees_next`, `agrees_arrive`, `agrees_confirmed` — the pending resets agree with what happened;
* `EachTurn`, `eachTurn_history` — what holds of every turn of a run and of what happened before it;
* `reset_mem_replies_iff` — the main statement.
-/

namespace MetricRouter.Ingest

open Net (Endpoint)
open Wire (Incoming Batch Reply)

/-! ## What happened -/

/-- Does the agent confirm in the event? -/
def Event.confirms (r : Endpoint) : Event → Bool
  | turn _ => false
  | confirmed remote => remote = r

/-- The instant of the event, if the agent is told to reset in it. -/
def Event.tells (r : Endpoint) : Event → Option UInt64
  | turn u => if u.remote = some r ∧ .reset ∈ u.replies then some u.now else none
  | confirmed _ => none

/-- The instants at which the agent was told to reset since it last confirmed. -/
def tellings (r : Endpoint) (past : List Event) : List UInt64 :=
  (past.rtakeWhile (fun e => !e.confirms r)).filterMap (Event.tells r)

theorem tellings_turn (r : Endpoint) (past : List Event) (u : Turn) :
    tellings r (past ++ [.turn u]) = tellings r past ++ (Event.tells r (.turn u)).toList := by
  unfold tellings
  rw [List.rtakeWhile_concat_pos _ _ _ rfl, List.filterMap_append]
  cases h : Event.tells r (.turn u) <;> simp [h]

theorem tellings_confirmed (r remote : Endpoint) (past : List Event) :
    tellings r (past ++ [.confirmed remote]) = if remote = r then [] else tellings r past := by
  unfold tellings
  by_cases hr : remote = r
  · rw [List.rtakeWhile_concat_neg _ _ _ (by simp [Event.confirms, hr]), if_pos hr]
    rfl
  · rw [List.rtakeWhile_concat_pos _ _ _ (by simp [Event.confirms, hr]), if_neg hr, List.filterMap_append]
    exact List.append_nil _

/-! ## What decides -/

section MayReset

variable (i : Ingest) (r : Endpoint) {now t : UInt64}

theorem mayReset_count (f : IngestCounters → IngestCounters) : (i.count f).mayReset r t = i.mayReset r t := rfl

theorem all_get?_expireReset (h : now ≤ t) (pending : Table Endpoint UInt64) (remote : Endpoint) :
    ((expireReset now pending remote).get? r).all (fun expiry => expiry ≤ t) =
      (pending.get? r).all (fun expiry => expiry ≤ t) := by
  unfold expireReset
  split
  · rename_i hexpired
    rw [Table.get?_erase]
    split
    · rename_i hr
      subst hr
      -- what is forgotten does not hold off a reset any more
      cases hexpiry : pending.get? remote with
      | none => rfl
      | some expiry =>
        rw [hexpiry] at hexpired
        have hle : expiry ≤ now := of_decide_eq_true hexpired
        exact (decide_eq_true (UInt64.le_trans hle h)).symm
    · rfl
  · rfl

/-- **The queue forgets only what has no effect any more.** -/
theorem mayReset_expireResets (h : now ≤ t) : (i.expireResets now).mayReset r t = i.mayReset r t := by
  have hfold (remotes : List Endpoint) (pending : Table Endpoint UInt64) :
      ((remotes.foldl (expireReset now) pending).get? r).all (fun expiry => expiry ≤ t) =
        (pending.get? r).all (fun expiry => expiry ≤ t) := by
    induction remotes generalizing pending with
    | nil => rfl
    | cons remote rest ih => rw [List.foldl_cons, ih, all_get?_expireReset r h]
  exact hfold _ i.pendingResets

theorem mayReset_told (remote : Endpoint) : (i.told remote now).mayReset r t =
    if remote = r then decide (deadlineAfter now i.resetTimeout ≤ t) else i.mayReset r t := by
  unfold mayReset told
  rw [Table.get?_insert]
  split <;> rfl

theorem mayReset_confirmed (remote : Endpoint) : (i.confirmed (some remote)).mayReset r t =
    if remote = r then true else i.mayReset r t := by
  show ((i.pendingResets.erase remote).get? r).all _ = _
  rw [Table.get?_erase]
  split <;> rfl

end MayReset

/-! ## Agreement -/

/-- **The pending resets agree with what happened**: from an instant on, an agent may be told to reset exactly
when the time of all resets is up that it was told since it last confirmed. -/
structure Agrees (timeout : UInt64) (past : List Event) (now : UInt64) (i : Ingest) : Prop where
  waits : i.resetTimeout = timeout
  pending : ∀ r t, now ≤ t →
    (i.mayReset r t = true ↔ ∀ s ∈ tellings r past, deadlineAfter s timeout ≤ t)

section Agreement

variable {timeout : UInt64} {past : List Event} {now : UInt64} {i : Ingest}

theorem agrees_create (c : Catalog) (timeout : UInt64) : Agrees timeout [] 0 (create c timeout) where
  waits := rfl
  pending := fun r t _ => by simp [mayReset, create, tellings]

theorem Agrees.later (h : Agrees timeout past now i) {t : UInt64} (ht : now ≤ t) : Agrees timeout past t i :=
  ⟨h.waits, fun r t' ht' => h.pending r t' (UInt64.le_trans ht ht')⟩

theorem agrees_arrive (h : Agrees timeout past now i) (b : Batch) : Agrees timeout past now (i.arrive now b) where
  waits := h.waits
  pending := fun r t ht => by
    rw [arrive, mayReset_count, mayReset_expireResets i r ht]
    exact h.pending r t ht

theorem agrees_confirmed (h : Agrees timeout past now i) (remote : Option Endpoint) :
    Agrees timeout (past ++ remote.toList.map .confirmed) now (i.confirmed remote) := by
  cases remote with
  | none =>
    rw [Option.toList_none, List.map_nil, List.append_nil]
    exact ⟨h.waits, h.pending⟩
  | some remote =>
    refine ⟨h.waits, fun r t ht => ?_⟩
    rw [mayReset_confirmed, Option.toList_some, List.map_singleton, tellings_confirmed]
    split
    · simp
    · exact h.pending r t ht

/-- **A turn keeps the agreement.** -/
theorem agrees_next {u : Turn} (h : Agrees timeout past u.now u.ingest) :
    Agrees timeout (past ++ [.turn u]) u.now u.next := by
  have hmay : ∀ r t, u.next.mayReset r t = u.identified.2.2.mayReset r t := by
    intro r t
    rw [mayReset, u.pendingResets_next, ← mayReset]
  have htells : ∀ r, Event.tells r (.turn u) =
      if u.remote = some r ∧ .reset ∈ u.identified.2.1 then some u.now else none := by
    intro r
    exact if_congr (and_congr_right fun _ => u.mem_replies_iff (by simp)) rfl rfl
  have hquiet (hreset : .reset ∉ u.identified.2.1) (r : Endpoint) :
      tellings r (past ++ [.turn u]) = tellings r past := by
    rw [tellings_turn, htells, if_neg fun hr => hreset hr.2]
    exact List.append_nil _
  have hcases := identified_identify u.ingest u.remote u.now u.metric
  have htimeout := u.resetTimeout_next
  unfold Turn.identified at hmay htells hquiet htimeout
  generalize u.ingest.identify u.remote u.now u.metric = x at hcases hmay htells hquiet htimeout
  cases hcases with
  | known t identity hkey hlookup | stray t hkey hlookup =>
    refine ⟨htimeout.trans h.waits, fun r t ht => ?_⟩
    rw [hmay, hquiet List.not_mem_nil]
    exact h.pending r t ht
  | named n hkey =>
    refine ⟨htimeout.trans h.waits, fun r t ht => ?_⟩
    rw [hmay, hquiet (by split <;> simp)]
    exact h.pending r t ht
  | reset t remote hkey hlookup hremote hdue =>
    refine ⟨htimeout.trans h.waits, fun r t ht => ?_⟩
    rw [hmay, mayReset_told, tellings_turn, htells, hremote]
    have hwaits : u.ingest.dropped.resetTimeout = timeout := h.waits
    by_cases hr : remote = r
    · subst hr
      -- the agent is told again, so the resets told before are over by now
      have hover : ∀ s ∈ tellings remote past, deadlineAfter s timeout ≤ t :=
        fun s hs => UInt64.le_trans ((h.pending remote u.now (UInt64.le_refl _)).mp hdue s hs) ht
      rw [if_pos rfl, if_pos ⟨rfl, List.mem_singleton_self _⟩, hwaits, decide_eq_true_iff, Option.toList_some,
        List.forall_mem_append, List.forall_mem_singleton]
      exact ⟨fun hlast => ⟨hover, hlast⟩, And.right⟩
    · rw [if_neg hr, if_neg fun hsome => hr (Option.some.inj hsome.1), Option.toList_none, List.append_nil]
      exact h.pending r t ht

end Agreement

/-! ## Runs -/

/-- The property holds of every turn among events, together with all that happened before it. -/
def EachTurn (P : List Event → Turn → Prop) (past : List Event) : List Event → Prop
  | [] => True
  | .turn u :: rest => P past u ∧ EachTurn P (past ++ [.turn u]) rest
  | .confirmed r :: rest => EachTurn P (past ++ [.confirmed r]) rest

section EachTurn

variable {P : List Event → Turn → Prop} {past : List Event}

theorem eachTurn_append {es fs : List Event} :
    EachTurn P past (es ++ fs) ↔ EachTurn P past es ∧ EachTurn P (past ++ es) fs := by
  induction es generalizing past with
  | nil => simp [EachTurn]
  | cons e es ih => cases e <;> simp [EachTurn, ih, and_assoc]

theorem eachTurn_confirmed (remotes : List Endpoint) : EachTurn P past (remotes.map .confirmed) := by
  induction remotes generalizing past with
  | nil => trivial
  | cons r rest ih => exact ih

theorem EachTurn.apply {earlier later : List Event} {u : Turn}
    (h : EachTurn P past (earlier ++ .turn u :: later)) : P (past ++ earlier) u :=
  (eachTurn_append.mp h).2.1

end EachTurn

/-- The instant of a call; calls on the catalog have none. -/
def Call.time : Call → Option UInt64
  | handle now _ => some now
  | catalog _ => none

/-- The pending resets that a turn finds agree with what happened before it. -/
abbrev FindsAgreement (timeout : UInt64) (past : List Event) (u : Turn) : Prop :=
  Agrees timeout past u.now u.ingest

section Runs

variable {timeout : UInt64} {past : List Event} {now : UInt64} {i : Ingest}

theorem eachTurn_turns (h : Agrees timeout past now i) (remote : Option Endpoint) (confirm : Bool)
    (ms : List Incoming) :
    EachTurn (FindsAgreement timeout) past ((i.turns remote confirm now ms).map .turn) ∧
      Agrees timeout (past ++ (i.turns remote confirm now ms).map .turn) now
        (i.afterTurns remote confirm now ms) := by
  induction ms generalizing i past with
  | nil =>
    rw [turns, List.map_nil, List.append_nil]
    exact ⟨trivial, h⟩
  | cons m rest ih =>
    let u : Turn := ⟨i, remote, confirm, now, m⟩
    obtain ⟨hrest, hlast⟩ := ih (agrees_next (u := u) h)
    rw [List.append_assoc] at hlast
    exact ⟨⟨h, hrest⟩, hlast⟩

/-- **A batch keeps the agreement**, and each of its turns finds it. -/
theorem eachTurn_handle (h : Agrees timeout past now i) (b : Batch) :
    EachTurn (FindsAgreement timeout) past ((Call.handle now b).events i) ∧
      Agrees timeout (past ++ (Call.handle now b).events i) now (i.call (.handle now b)).2 := by
  have harrive := agrees_arrive h b
  by_cases hb : b.opcode = .resetConfirm
  · rw [events_of_confirm i now b hb, call, handle_of_confirm i now b hb]
    exact ⟨eachTurn_confirmed _, agrees_confirmed harrive b.remote⟩
  · rw [events_of_metrics i now b hb, call, handle_of_metrics i now b hb]
    obtain ⟨hturns, hlast⟩ := eachTurn_turns harrive b.remote b.opcode.wantsConfirm b.metrics
    exact ⟨hturns, hlast.waits, hlast.pending⟩

/-- **Every turn of a run finds the agreement**, if the calls come in the order of their instants. -/
theorem eachTurn_history (h : Agrees timeout past now i) {calls : List Call}
    (hordered : (now :: calls.filterMap Call.time).Pairwise (· ≤ ·)) :
    EachTurn (FindsAgreement timeout) past (i.history calls) := by
  induction calls generalizing i past now with
  | nil => trivial
  | cons k rest ih =>
    cases k with
    | catalog k => exact ih (i := (i.call (.catalog k)).2) ⟨h.waits, h.pending⟩ hordered
    | handle t b =>
      obtain ⟨hfirst, hrest⟩ := List.pairwise_cons.mp hordered
      obtain ⟨hturns, hlast⟩ := eachTurn_handle (h.later (hfirst t List.mem_cons_self)) b
      exact eachTurn_append.mpr ⟨hturns, ih hlast hrest⟩

end Runs

theorem reset_mem_replies_iff_mayReset {u : Turn} {r : Endpoint} (hremote : u.remote = some r) {t : Int64}
    (hkey : u.metric.key = .token t) (hmiss : u.ingest.catalog.lookupByToken t = none) :
    .reset ∈ u.replies ↔ u.ingest.mayReset r u.now = true := by
  rw [u.mem_replies_iff (by simp)]
  have hcases := identified_identify u.ingest u.remote u.now u.metric
  unfold Turn.identified
  generalize u.ingest.identify u.remote u.now u.metric = x at hcases ⊢
  cases hcases with
  | known t' identity hkey' hlookup =>
    rw [hkey] at hkey'
    rw [Wire.Key.token.inj hkey', hlookup] at hmiss
    exact absurd hmiss (by simp)
  | stray t' hkey' hlookup hdue => simp [hdue r hremote]
  | reset t' r' hkey' hlookup hremote' hdue =>
    rw [hremote] at hremote'
    rw [Option.some.inj hremote', hdue]
    simp
  | named n hkey' =>
    rw [hkey] at hkey'
    exact absurd hkey' (by simp)

/-- **An unconfirmed reset is not repeated early, and not held back too long.** A metric with an unknown token is
answered with a reset exactly when, for every reset that its agent was told since it last confirmed, the timeout
is over: whatever other agents do, and however many such metrics a batch has. The instant from which on a reset
counts as over is at most the last instant there is. -/
theorem reset_mem_replies_iff (c : Catalog) (timeout : UInt64) (calls : List Call)
    (hordered : (calls.filterMap Call.time).Pairwise (· ≤ ·)) {earlier later : List Event} {u : Turn}
    (hu : (create c timeout).history calls = earlier ++ .turn u :: later) {r : Endpoint}
    (hremote : u.remote = some r) {t : Int64} (hkey : u.metric.key = .token t)
    (hmiss : u.ingest.catalog.lookupByToken t = none) :
    .reset ∈ u.replies ↔
      ¬ ∃ s ∈ tellings r earlier, u.now.toNat < min (s.toNat + timeout.toNat) (2 ^ 64 - 1) := by
  have heach := eachTurn_history (agrees_create c timeout)
    (List.pairwise_cons.mpr ⟨fun _ _ => UInt64.zero_le, hordered⟩)
  rw [hu] at heach
  have hagrees : Agrees timeout earlier u.now u.ingest := heach.apply
  rw [reset_mem_replies_iff_mayReset hremote hkey hmiss, hagrees.pending r u.now (UInt64.le_refl _),
    not_exists]
  refine forall_congr' fun s => ?_
  rw [not_and, not_lt, UInt64.le_iff_toNat_le, toNat_deadlineAfter]

/-- A confirmation leaves an entry of the queue behind, whose time comes while the next reset is on its way. -/
theorem reset_mem_replies_iff_after_confirmation :
    let i := create (.fresh .byName) 10
    let r : Endpoint := ⟨.v4 10 0 0 1, 9000, 0⟩
    let m : Incoming := ⟨.token 7, .gauge, 0, .long 1⟩
    let b : Batch := ⟨.sendMetric, some r, [m, m], 0, 0⟩
    let calls : List Call := [.handle 0 b, .handle 5 ⟨.resetConfirm, some r, [], 0, 0⟩, .handle 6 b]
    let u : Turn := ⟨(i.after calls).arrive 12 b, some r, false, 12, m⟩
    ((calls ++ [Call.handle 12 b]).filterMap Call.time).Pairwise (· ≤ ·) ∧
      i.history (calls ++ [Call.handle 12 b]) = i.history calls ++ .turn u :: [.turn { u with ingest := u.next }] ∧
      u.remote = some r ∧ u.metric.key = .token 7 ∧ u.ingest.catalog.lookupByToken 7 = none ∧
      tellings r (i.history calls) = [6] ∧
      (.reset ∈ u.replies ↔
        ¬ ∃ s ∈ tellings r (i.history calls), u.now.toNat < min (s.toNat + (10 : UInt64).toNat) (2 ^ 64 - 1)) := by
  intro i r m b calls u
  have hordered : ((calls ++ [Call.handle 12 b]).filterMap Call.time).Pairwise (· ≤ ·) := by decide
  have hu : i.history (calls ++ [Call.handle 12 b]) =
      i.history calls ++ .turn u :: [.turn { u with ingest := u.next }] := history_append i calls _
  have htold : tellings r (i.history calls) = [6] := by decide +kernel
  have hmiss : u.ingest.catalog.lookupByToken 7 = none := by decide +kernel
  exact ⟨hordered, hu, rfl, rfl, hmiss, htold,
    reset_mem_replies_iff (.fresh .byName) 10 _ hordered hu rfl rfl hmiss⟩

end MetricRouter.Ingest
