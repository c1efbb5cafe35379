import MetricRouter.Proofs.Ingest.Batching
import MetricRouter.Proofs.Pipeline.Calls

/-!
# Batches in parts, on a pipeline

A batch and its parts leave the same ingest behind, and the replies go out over the same channels to the same effect.

* `Abreast`, `Alongside` — two pipelines with the same way back to the agents, and what both come to by it;
* `alongside_sendReply`, `alongside_replied` — what replies count depends on the way back only;
* `replied`, `replied_append` — replies to a batch, if it has an agent;
* `answered`, `abreast_handle`, `exists_counting_handle` — what happens before the samples go on, which changes nothing
  of it;
* `handle_append` — the main statement.
-/

namespace MetricRouter

open Net (Endpoint)
open Wire (Incoming Batch Opcode Reply)

namespace Pipeline

variable {σ τ : Type}

/-- **The same way back to the agents.** -/
structure Abreast (p q : Pipeline σ τ) : Prop where
  channels : q.channels = p.channels
  network : q.network = p.network
  replies : q.replies = p.replies

/-- **Two pipelines came to the same from two others**: both counted the same, and they are abreast. -/
def Alongside (p q p' q' : Pipeline σ τ) : Prop :=
  ∃ d, p'.ingest = p.ingest.counting d ∧ q'.ingest = q.ingest.counting d ∧ p'.Abreast q'

/-! ## Replies -/

/-- The pipeline once the replies to a batch are sent, if it has an agent. -/
def replied (transmit : Transmit τ) (p : Pipeline σ τ) (remote : Option Endpoint) (clock : UInt64)
    (rs : List Reply) : Pipeline σ τ :=
  match remote with
  | none => p
  | some r => p.sendReplies transmit r clock rs

section Replies

variable (transmit : Transmit τ) {p q : Pipeline σ τ} (clock : UInt64)

theorem alongside_sendReply (h : p.Abreast q) (remote : Endpoint) (r : Reply) :
    Alongside p q (p.sendReply transmit remote clock r) (q.sendReply transmit remote clock r) := by
  unfold sendReply
  rw [h.channels, h.network]
  obtain ⟨sent, channels, network⟩ := p.channels.send transmit remote r.encode clock p.network
  cases sent with
  | error e => exact ⟨{ replyFailures := 1 }, rfl, rfl, rfl, rfl, h.replies⟩
  | ok u =>
    cases r with
    | tokenAssign fqn token => exact ⟨{ tokensSent := 1 }, rfl, rfl, rfl, rfl, h.replies⟩
    | confirm key => exact ⟨{ confirmsSent := 1 }, rfl, rfl, rfl, rfl, h.replies⟩
    | reset => exact ⟨{ resetsSent := 1 }, rfl, rfl, rfl, rfl, h.replies⟩

theorem alongside_foldl_sendReply (h : p.Abreast q) (remote : Endpoint) (rs : List Reply) :
    Alongside p q (rs.foldl (sendReply transmit remote clock) p) (rs.foldl (sendReply transmit remote clock) q) := by
  induction rs generalizing p q with
  | nil => exact ⟨{}, rfl, rfl, h⟩
  | cons r rest ih =>
    obtain ⟨d, hp, hq, hnext⟩ := alongside_sendReply transmit clock h remote r
    obtain ⟨e, hp', hq', hlast⟩ := ih hnext
    refine ⟨d.plus e, ?_, ?_, hlast⟩
    · rw [← Ingest.counting_counting, ← hp]
      exact hp'
    · rw [← Ingest.counting_counting, ← hq]
      exact hq'

/-- **What replies count depends on the way back only.** -/
theorem alongside_replied (h : p.Abreast q) (remote : Option Endpoint) (rs : List Reply) :
    Alongside p q (p.replied transmit remote clock rs) (q.replied transmit remote clock rs) := by
  cases remote with
  | none => exact ⟨{}, rfl, rfl, h⟩
  | some r =>
    have hq := h.replies
    cases hp : p.replies with
    | true =>
      simp only [replied, sendReplies, hq, hp, if_true]
      exact alongside_foldl_sendReply transmit clock h r rs
    | false =>
      simp only [replied, sendReplies, hq, hp, Bool.false_eq_true, if_false]
      exact ⟨{ replyFailures := rs.length }, rfl, rfl, h.channels, h.network, rfl⟩

theorem replies_sendReply (p : Pipeline σ τ) (remote : Endpoint) (r : Reply) :
    (p.sendReply transmit remote clock r).replies = p.replies := by
  unfold sendReply
  simp only
  split <;> rfl

theorem replies_foldl_sendReply (p : Pipeline σ τ) (remote : Endpoint) (rs : List Reply) :
    (rs.foldl (sendReply transmit remote clock) p).replies = p.replies := by
  induction rs generalizing p with
  | nil => rfl
  | cons r rest ih => exact (ih _).trans (replies_sendReply transmit clock p remote r)

theorem replied_append (p : Pipeline σ τ) (remote : Option Endpoint) (rs more : List Reply) :
    p.replied transmit remote clock (rs ++ more) =
      (p.replied transmit remote clock rs).replied transmit remote clock more := by
  cases remote with
  | none => rfl
  | some r =>
    cases hp : p.replies with
    | true =>
      have hleft := (replies_foldl_sendReply transmit clock p r rs).trans hp
      simp only [replied, sendReplies, hp, if_true, hleft, List.foldl_append]
    | false =>
      simp [replied, sendReplies, hp, Ingest.countUnsent, Ingest.count, Nat.add_assoc]

end Replies

/-! ## Batches -/

section Batches

variable (receive : Receive σ) (transmit : Transmit τ) (p : Pipeline σ τ)

/-- The pipeline once a batch is taken in and its replies are sent, before its samples go on. -/
def answered (arrival : Arrival) (b : Batch) : Pipeline σ τ :=
  { p with ingest := (p.ingest.handle arrival.ingest b).2.2 }.replied transmit b.remote arrival.channels
    (p.ingest.handle arrival.ingest b).1

theorem abreast_forward (now : UInt64) (ms : List Metric) : p.Abreast (p.forward receive now ms).2 := by
  unfold forward
  cases p.conflation <;> exact ⟨rfl, rfl, rfl⟩

/-- **To pass samples on leaves the ingest and the way back alone.** -/
theorem abreast_handle (arrival : Arrival) (b : Batch) :
    (p.handle receive transmit arrival b).2.ingest = (p.answered transmit arrival b).ingest ∧
      (p.answered transmit arrival b).Abreast (p.handle receive transmit arrival b).2 :=
  ⟨ingest_forward receive _ _ _, abreast_forward receive _ _ _⟩

theorem exists_counting_handle (arrival : Arrival) (b : Batch) (i : Ingest) :
    let r := p.ingest.handle arrival.ingest b
    let begun := ({ p with ingest := i } : Pipeline σ τ).replied transmit b.remote arrival.channels r.1
    let after := (p.handle receive transmit arrival b).2
    ∃ d, begun.ingest = i.counting d ∧ after.ingest = r.2.2.counting d ∧ begun.Abreast after := by
  intro r begun after
  have hstart : Abreast { p with ingest := i } { p with ingest := r.2.2 } := ⟨rfl, rfl, rfl⟩
  obtain ⟨d, hbegun, hanswered, habreast⟩ := alongside_replied transmit arrival.channels hstart b.remote r.1
  obtain ⟨hingest, hafter⟩ := abreast_handle receive transmit p arrival b
  exact ⟨d, hbegun, hingest.trans hanswered, hafter.channels.trans habreast.channels,
    hafter.network.trans habreast.network, hafter.replies.trans habreast.replies⟩

/-- **Batching does not matter.** A batch of metrics `ms ++ more` that arrives at an instant other than the last one
comes to the same as a batch of `ms` and then one of `more`: the same replies, the same samples, the same catalog,
pending resets and counters of the ingest, and the same channels and traffic on the network. -/
theorem handle_append {opcode : Opcode} (hopcode : opcode ≠ .resetConfirm) {arrival : Arrival}
    (hnow : arrival.ingest < lastInstant) (htimeout : 0 < p.ingest.resetTimeout) (remote : Option Endpoint)
    (ms more : List Incoming) (x y k l : Nat) :
    let whole : Batch := ⟨opcode, remote, ms ++ more, x + y, k + l⟩
    let first : Batch := ⟨opcode, remote, ms, x, k⟩
    let second : Batch := ⟨opcode, remote, more, y, l⟩
    let atOnce := p.ingest.handle arrival.ingest whole
    let before := p.ingest.handle arrival.ingest first
    let later := before.2.2.handle arrival.ingest second
    let q := (p.handle receive transmit arrival whole).2
    let q' := ((p.handle receive transmit arrival first).2.handle receive transmit arrival second).2
    (atOnce.1 = before.1 ++ later.1 ∧ atOnce.2.1 = before.2.1 ++ later.2.1 ∧ atOnce.2.2 = later.2.2) ∧
      q.ingest = q'.ingest ∧ q.channels = q'.channels ∧ q.network = q'.network := by
  intro whole first second atOnce before later q q'
  have hparts : atOnce = (before.1 ++ later.1, before.2.1 ++ later.2.1, later.2.2) :=
    Ingest.handle_parts p.ingest arrival.ingest hopcode hnow htimeout remote ms more x y k l
  let clock := arrival.channels
  let begun := ({ p with ingest := atOnce.2.2 } : Pipeline σ τ).replied transmit remote clock before.1
  let between := (p.handle receive transmit arrival first).2
  obtain ⟨d, hbegun, hbetween, habreast⟩ :
      ∃ d, begun.ingest = atOnce.2.2.counting d ∧ between.ingest = before.2.2.counting d ∧ begun.Abreast between :=
    exists_counting_handle receive transmit p arrival first atOnce.2.2
  -- the second part finds what the first one left, but for what the replies counted
  have hsecond : between.ingest.handle arrival.ingest second = (later.1, later.2.1, later.2.2.counting d) := by
    rw [hbetween]
    exact Ingest.handle_counting before.2.2 arrival.ingest hopcode d
  let resumed : Pipeline σ τ := { between with ingest := later.2.2.counting d }
  have hresumed : begun.Abreast resumed := ⟨habreast.channels, habreast.network, habreast.replies⟩
  have hsame : resumed.ingest = begun.ingest := by
    rw [hbegun]
    exact congrArg (Ingest.counting · d) (congrArg (·.2.2) hparts).symm
  obtain ⟨e, hwhole, htwo, hend⟩ := alongside_replied transmit clock hresumed remote later.1
  have hanswered : p.answered transmit arrival whole = begun.replied transmit remote clock later.1 := by
    rw [← replied_append, ← show atOnce.1 = before.1 ++ later.1 from congrArg (·.1) hparts]
    rfl
  have hanswered' : between.answered transmit arrival second = resumed.replied transmit remote clock later.1 := by
    unfold answered
    rw [hsecond]
  obtain ⟨hq, hqa⟩ := abreast_handle receive transmit p arrival whole
  obtain ⟨hq', hqa'⟩ := abreast_handle receive transmit between arrival second
  rw [hanswered] at hq hqa
  rw [hanswered'] at hq' hqa'
  refine ⟨⟨congrArg (·.1) hparts, congrArg (·.2.1) hparts, congrArg (·.2.2) hparts⟩, ?_, ?_, ?_⟩
  · calc q.ingest
      _ = begun.ingest.counting e := hq.trans hwhole
      _ = resumed.ingest.counting e := by rw [hsame]
      _ = q'.ingest := (hq'.trans htwo).symm
  · exact hqa.channels.trans (hend.channels.symm.trans hqa'.channels.symm)
  · exact hqa.network.trans (hend.network.symm.trans hqa'.network.symm)

/-- An unknown token and a new name on both sides of the cut, where the first part has used up the one reset that is
due and has given the name its token; and an agent that is out of reach. -/
theorem handle_append_of_shared_token :
    let receive : Receive Unit := fun _ _ w => (.accepted, w)
    let transmit : Transmit Unit := .overSocket fun _ _ t => (some "unreachable", t)
    let r : Endpoint := ⟨.v4 10 0 0 1, 9000, 0⟩
    let x : Incoming := ⟨.named ⟨"h", "a", [], "x"⟩, .gauge, 0, .long 3⟩
    let stray : Incoming := ⟨.token 7, .gauge, 0, .long 1⟩
    let known : Incoming := ⟨.token 1, .delta, 4, .long 2⟩
    let p : Pipeline Unit Unit := ⟨.create (.fresh .byName) 10, .create true 1000, (), true,
      some (.create 10 4), .create (Router.create ()) 1 1⟩
    let whole : Batch := ⟨.sendMetricDirect, some r, [stray, x] ++ [stray, known, x], 30 + 40, 0 + 1⟩
    let first : Batch := ⟨.sendMetricDirect, some r, [stray, x], 30, 0⟩
    let second : Batch := ⟨.sendMetricDirect, some r, [stray, known, x], 40, 1⟩
    let q := (p.handle receive transmit (.now 5) whole).2
    let q' := ((p.handle receive transmit (.now 5) first).2.handle receive transmit (.now 5) second).2
    first.opcode ≠ .resetConfirm ∧ (Arrival.now 5).ingest < lastInstant ∧ 0 < p.ingest.resetTimeout ∧
      (p.ingest.handle 5 whole).1 = [.reset, .tokenAssign "h/a:x" 1, .confirm "h/a:x0"] ++
        [.confirm "h/a:x4", .tokenAssign "h/a:x" 1, .confirm "h/a:x0"] ∧
      q.ingest = q'.ingest ∧ q'.ingest.counters.replyFailures = 6 := by
  intro receive transmit r x stray known p whole first second q q'
  have hopcode : first.opcode ≠ .resetConfirm := by decide
  have hnow : (Arrival.now 5).ingest < lastInstant := by decide
  have htimeout : 0 < p.ingest.resetTimeout := by decide
  obtain ⟨⟨hreplies, -, -⟩, hingest, -, -⟩ := handle_append receive transmit p hopcode hnow htimeout (some r)
    [stray, x] [stray, known, x] 30 40 0 1
  have hsame : q.ingest = q'.ingest := by with_reducible exact hingest
  have hparts : (p.ingest.handle 5 first).1 ++ ((p.ingest.handle 5 first).2.2.handle 5 second).1 =
      [.reset, .tokenAssign "h/a:x" 1, .confirm "h/a:x0"] ++
        [.confirm "h/a:x4", .tokenAssign "h/a:x" 1, .confirm "h/a:x0"] := by decide +kernel
  have hcount : q'.ingest.counters.replyFailures = 6 := by decide +kernel
  exact ⟨hopcode, hnow, htimeout, hreplies.trans hparts, hsame, hcount⟩

end Batches

end Pipeline

end MetricRouter
