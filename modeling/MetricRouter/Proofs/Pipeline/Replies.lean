import MetricRouter.Proofs.Pipeline.Batching

/-!
# What a batch is answered

Each metric of a batch is answered on its own, by the catalog that it finds, and the answers stand one after another
in the order of the batch.

* `Catalog.token_assign` — the token that names are given is the one that their identity has from then on;
* `Sighting`, `sighted` — the metrics of a batch with the catalogs that they find;
* `Sighting.identity`, `Sighting.sample`, `Sighting.Answers` — what a metric gives, and what it may be answered;
* `Turn.identity_eq`, `Turn.sample_eq`, `Turn.replies_eq`, `Turn.answers` — a turn gives that, and answers that;
* `flatMap_sample_turns`, `forall₂_answers_turns` — the same for all metrics of a batch, in order;
* `takeAll_local` — metrics without an agent are not answered, and leave the resets alone;
* `handle_sightings` — the main statement.
-/

namespace MetricRouter

open Net (Endpoint)
open Wire (Incoming Batch Opcode Reply)

namespace Catalog

theorem token_tokenize (c : Catalog) (i : Identity) : (c.tokenize i).2.token i = (c.tokenize i).1 := by
  by_cases h : c.token i = noToken
  · rw [tokenize_of_untokenized h, token_give, if_pos rfl]
  · rw [tokenize_of_tokenized h]

theorem token_assign (c : Catalog) (n : Wire.FullName) (type : MetricType) :
    (c.call (.assign n type)).2.token (c.sight n type).1 = ((c.sight n type).2.tokenize (c.sight n type).1).1 :=
  token_tokenize _ _

end Catalog

namespace Ingest

/-! ## Metrics and the catalogs that they find -/

/-- A metric of a batch, and the catalog that it finds. -/
structure Sighting where
  catalog : Catalog
  metric : Incoming

/-- The metrics of a batch, each with the catalog that those before it leave. -/
def sighted (c : Catalog) : List Incoming → List Sighting
  | [] => []
  | m :: rest => ⟨c, m⟩ :: sighted (c.after m.asks) rest

namespace Sighting

variable (s : Sighting)

/-- The catalog that the metric leaves. -/
def next : Catalog := s.catalog.after s.metric.asks

/-- The identity of the metric: that of its names, or that of its token if the token has one. -/
def identity : Option Identity :=
  match s.metric.key with
  | .token t => s.catalog.index.get? t
  | .named n => some (s.catalog.sight n s.metric.type).1

/-- The sample that the metric gives: it has an identity, whose type accepts its value. -/
def sample : Option Metric :=
  (s.identity.filter (fun i => i.type.accepts s.metric.value)).map (fun i => ⟨i, s.metric.time, s.metric.value⟩)

/-- The confirmation of the sample, if there is one and it is asked for. -/
def confirms (direct : Bool) : List Reply :=
  if direct then s.sample.toList.map (fun m => .confirm (m.fqn ++ toString m.time.toInt)) else []

/-- **What a metric may be answered.** -/
inductive Answers (direct : Bool) (s : Sighting) : List Reply → Prop where
  /-- Its token is unknown, and a reset is on its way. -/
  | silence (h : s.identity = none) : Answers direct s []
  /-- Its token is unknown, and its agent is told. -/
  | reset (h : s.identity = none) : Answers direct s [.reset]
  /-- Its token is known. -/
  | known {t : Int64} {i : Identity} (hkey : s.metric.key = .token t) (h : s.identity = some i) :
      Answers direct s (s.confirms direct)
  /-- It came with its names, whose token comes first, whatever its value. -/
  | named {n : Wire.FullName} {i : Identity} (hkey : s.metric.key = .named n) (h : s.identity = some i) :
      Answers direct s (.tokenAssign i.fqn (s.next.token i) :: s.confirms direct)

end Sighting

/-! ## Turns -/

namespace Turn

variable (u : Turn)

/-- The metric of a turn, and the catalog that it finds. -/
def sighting : Sighting := ⟨u.ingest.catalog, u.metric⟩

theorem identity_eq : u.identity = u.sighting.identity := by
  have h := identified_identify u.ingest u.remote u.now u.metric
  unfold identity sighting Sighting.identity
  generalize u.ingest.identify u.remote u.now u.metric = r at h
  cases h with
  | known t i hkey hlookup | stray t hkey hlookup | reset t r hkey hlookup =>
    simp only [hkey]
    exact hlookup.symm
  | named n hkey => simp only [hkey]

/-- **The sample of a turn is the one that its metric gives.** -/
theorem sample_eq : u.sample = u.sighting.sample := by
  have hid := u.identity_eq
  unfold identity at hid
  unfold sample take Sighting.sample
  rw [← hid]
  generalize u.ingest.identify u.remote u.now u.metric = r
  obtain ⟨identity, replies, j⟩ := r
  cases identity with
  | none => rfl
  | some i =>
    by_cases h : i.type.accepts u.metric.value = true
    · simp [h, sighting]
    · simp [h, sighting]

theorem replies_eq : u.replies = u.identified.2.1 ++ u.sighting.confirms (u.confirm && u.remote.isSome) := by
  unfold Sighting.confirms
  rw [← u.sample_eq]
  unfold replies sample take identified
  generalize u.ingest.identify u.remote u.now u.metric = r
  obtain ⟨identity, replies, j⟩ := r
  cases identity with
  | none => simp
  | some i =>
    by_cases h : i.type.accepts u.metric.value = true
    · simp [h, Metric.confirmKey]
    · simp [h]

/-- **What a turn replies to an agent is an answer to its metric.** -/
theorem answers (h : u.remote.isSome) : u.sighting.Answers u.confirm u.replies := by
  have hid := u.identity_eq
  have hidentified := identified_identify u.ingest u.remote u.now u.metric
  rw [u.replies_eq, h, Bool.and_true]
  unfold identity at hid
  unfold identified
  generalize u.ingest.identify u.remote u.now u.metric = r at hid hidentified
  cases hidentified with
  | known t i hkey => exact .known hkey hid.symm
  | stray =>
    have hsample : u.sighting.confirms u.confirm = [] := by
      simp [Sighting.confirms, Sighting.sample, ← hid]
    rw [hsample]
    exact .silence hid.symm
  | reset =>
    have hsample : u.sighting.confirms u.confirm = [] := by
      simp [Sighting.confirms, Sighting.sample, ← hid]
    rw [hsample]
    exact .reset hid.symm
  | named n hkey =>
    have htoken : u.ingest.tokenFor n u.metric.type =
        u.sighting.next.token (u.ingest.catalog.sight n u.metric.type).1 := by
      unfold Sighting.next Incoming.asks sighting
      simp only [hkey]
      exact (Catalog.token_assign u.ingest.catalog n u.metric.type).symm
    rw [if_pos h, htoken]
    exact .named hkey hid.symm

end Turn

/-! ## Batches -/

section Batches

variable (i : Ingest) (confirm : Bool) (now : UInt64)

theorem flatMap_sample_turns (remote : Option Endpoint) (ms : List Incoming) :
    (i.turns remote confirm now ms).flatMap (fun u => u.sample.toList) =
      (sighted i.catalog ms).filterMap Sighting.sample := by
  induction ms generalizing i with
  | nil => rfl
  | cons m rest ih =>
    let u : Turn := ⟨i, remote, confirm, now, m⟩
    have hsample : u.sample = Sighting.sample ⟨i.catalog, m⟩ := u.sample_eq
    have hrest := ih u.next
    rw [u.catalog_next] at hrest
    rw [turns, List.flatMap_cons, sighted, hrest, hsample, List.filterMap_cons]
    cases Sighting.sample ⟨i.catalog, m⟩ <;> rfl

theorem forall₂_answers_turns (r : Endpoint) (ms : List Incoming) :
    List.Forall₂ (Sighting.Answers confirm) (sighted i.catalog ms)
      ((i.turns (some r) confirm now ms).map Turn.replies) := by
  induction ms generalizing i with
  | nil => exact .nil
  | cons m rest ih =>
    let u : Turn := ⟨i, some r, confirm, now, m⟩
    have hrest := ih u.next
    rw [u.catalog_next] at hrest
    exact .cons (u.answers rfl) hrest

/-- The same resets on their way. -/
structure SameResets (i j : Ingest) : Prop where
  pending : j.pendingResets = i.pendingResets
  expiry : j.resetExpiry = i.resetExpiry

theorem identify_local (m : Incoming) :
    (i.identify none now m).2.1 = [] ∧ i.SameResets (i.identify none now m).2.2 := by
  have h := identified_identify i none now m
  generalize i.identify none now m = r at h
  cases h with
  | known | stray | named => exact ⟨rfl, rfl, rfl⟩
  | reset t r hkey hlookup hremote => exact absurd hremote.symm (Option.some_ne_none r)

/-- **Metrics without an agent are not answered**, and leave the resets alone. -/
theorem takeAll_local (ms : List Incoming) :
    (i.takeAll none confirm now ms).1 = [] ∧ i.SameResets (i.takeAll none confirm now ms).2.2 := by
  induction ms generalizing i with
  | nil => exact ⟨rfl, rfl, rfl⟩
  | cons m rest ih =>
    let u : Turn := ⟨i, none, confirm, now, m⟩
    obtain ⟨hreplies, hresets⟩ := ih u.next
    obtain ⟨hsilent, hidentified⟩ : u.identified.2.1 = [] ∧ i.SameResets u.identified.2.2 :=
      identify_local i now m
    have hnext : i.SameResets u.next := by
      rcases u.next_cases with h | h <;> rw [h] <;> exact ⟨hidentified.pending, hidentified.expiry⟩
    have hnone : u.replies = [] := by
      rw [u.replies_eq, hsilent]
      simp [u, Sighting.confirms]
    rw [takeAll_cons]
    refine ⟨?_, hresets.pending.trans hnext.pending, hresets.expiry.trans hnext.expiry⟩
    show u.replies ++ (u.next.takeAll none confirm now rest).1 = []
    rw [hnone, hreplies, List.append_nil]

end Batches

end Ingest

theorem Wire.Opcode.wantsConfirm_eq (o : Opcode) : o.wantsConfirm = decide (o = .sendMetricDirect) := by
  cases o <;> rfl

namespace Pipeline

open Ingest (Sighting sighted)

variable {σ τ : Type}

/-- **What a batch of metrics comes to.** The samples go on in one go, in the order of the batch: those of the metrics
that have an identity whose type accepts their value. An agent is answered metric by metric, in the order of the
batch; without an agent nothing is answered, and the resets on their way are those that have not expired. -/
theorem handle_sightings (receive : Receive σ) (transmit : Transmit τ) (p : Pipeline σ τ) (arrival : Arrival)
    {b : Batch} (hb : b.opcode ≠ .resetConfirm) :
    let r := p.ingest.handle arrival.ingest b
    let seen := sighted p.ingest.catalog b.metrics
    let samples := seen.filterMap Sighting.sample
    let went := (p.answered transmit arrival b).forward receive arrival.conflation samples
    r.2.1 = samples ∧
    p.handle receive transmit arrival b = (went.1.map (fun _ => samples.length), went.2) ∧
    (b.remote.isSome → ∃ answers, r.1 = answers.flatten ∧
      List.Forall₂ (Sighting.Answers (decide (b.opcode = .sendMetricDirect))) seen answers) ∧
    (b.remote = none → r.1 = [] ∧ (p.ingest.expireResets arrival.ingest).SameResets r.2.2) := by
  intro r seen samples went
  have hr : r = _ := Ingest.handle_eq_takeAll p.ingest arrival.ingest hb
  let begun : Ingest := p.ingest.expireResets arrival.ingest
  let turns := begun.turns b.remote b.opcode.wantsConfirm arrival.ingest b.metrics
  have htaken : p.ingest.taken arrival.ingest b = (turns.flatMap Ingest.Turn.replies,
      turns.flatMap (fun u => u.sample.toList), _) := Ingest.takeAll_eq begun _ _ _ b.metrics
  have hsamples : r.2.1 = samples := by
    rw [hr, htaken]
    exact Ingest.flatMap_sample_turns begun _ _ _ b.metrics
  refine ⟨hsamples, ?_, fun hremote => ?_, fun hremote => ?_⟩
  · unfold went
    rw [← hsamples]
    rfl
  · obtain ⟨remote, hremote⟩ := Option.isSome_iff_exists.mp hremote
    refine ⟨turns.map Ingest.Turn.replies, ?_, ?_⟩
    · rw [hr, htaken]
      exact List.flatMap_def
    · have hanswers := Ingest.forall₂_answers_turns begun b.opcode.wantsConfirm arrival.ingest remote b.metrics
      rw [← hremote] at hanswers
      rw [← Opcode.wantsConfirm_eq]
      exact hanswers
  · have hlocal := Ingest.takeAll_local begun b.opcode.wantsConfirm arrival.ingest b.metrics
    rw [← hremote] at hlocal
    exact ⟨(congrArg (·.1) hr).trans hlocal.1, (congrArg (·.2.2) hr) ▸ ⟨hlocal.2.pending, hlocal.2.expiry⟩⟩

/-- An unknown token, twice; a token with a value that fits and with one that does not; a new name; and a name with a
type of its own and a value that does not fit the one in the catalog. -/
theorem handle_sightings_of_six :
    let receive : Receive Unit := fun _ _ w => (.accepted, w)
    let transmit : Transmit Unit := .overSocket fun _ _ t => (none, t)
    let c := (Catalog.fresh .byName).after [.assign ⟨"h", "a", [], "x"⟩ .gauge]
    let p : Pipeline Unit Unit := ⟨.create c 10, .create true 1000, (), true, none, .create (Router.create ()) 1 1⟩
    let b : Batch := ⟨.sendMetricDirect, some ⟨.v4 10 0 0 1, 9000, 0⟩,
      [⟨.token 7, .gauge, 3, .long 1⟩, ⟨.token 1, .gauge, 4, .long 2⟩,
        ⟨.named ⟨"h", "a", [], "y"⟩, .text, 5, .text "up"⟩, ⟨.named ⟨"h", "a", [], "x"⟩, .text, 6, .text "up"⟩,
        ⟨.token 1, .blob, 7, .blob [1]⟩, ⟨.token 7, .gauge, 8, .long 1⟩], 0, 0⟩
    let r := p.ingest.handle 0 b
    let seen := sighted p.ingest.catalog b.metrics
    let samples := seen.filterMap Sighting.sample
    let went := (p.answered transmit (.now 0) b).forward receive 0 samples
    b.opcode ≠ .resetConfirm ∧ r.2.1 = samples ∧
      p.handle receive transmit (.now 0) b = (went.1.map (fun _ => samples.length), went.2) ∧
      (∃ answers, r.1 = answers.flatten ∧ List.Forall₂ (Sighting.Answers true) seen answers) ∧
      samples.map Metric.confirmKey = ["h/a:x4", "h/a:y5"] ∧
      r.1 = [.reset, .confirm "h/a:x4", .tokenAssign "h/a:y" 2, .confirm "h/a:y5", .tokenAssign "h/a:x" 1] := by
  intro receive transmit c p b r seen samples went
  have hb : b.opcode ≠ .resetConfirm := by decide
  obtain ⟨hsamples, hwent, hanswers, -⟩ := handle_sightings receive transmit p (.now 0) hb
  exact ⟨hb, hsamples, hwent, hanswers rfl, by decide +kernel, by decide +kernel⟩

end Pipeline

end MetricRouter
