import MetricRouter.Proofs.Ingest.Calls

/-!
# What a turn can do

* `Identified`, `identified_identify` — the four ways in which a metric finds its identity or does not;
* `next_cases`, `mem_replies_iff`, `sample_eq_some` — what a turn leaves, replies and passes on goes back to the
  identification;
* `Turn.Amid`, `Turn.Ordered` — turns amid the calls on the catalog;
* `Call.turns`, `call_fst` — the turns of a call give its replies and its samples;
* `turnsOf`, `flatMap_replies_turnsOf`, `pairwise_turnsOf` — the turns of a run, and what they reply.
-/

namespace MetricRouter.Ingest

open Net (Endpoint)
open Wire (Incoming Batch Reply)

/-! ## Identification -/

/-- The state once an unknown token is counted. -/
def dropped (i : Ingest) : Ingest := i.count (fun c => { c with tokenLookupDrops := c.tokenLookupDrops + 1 })

/-- Is there no reset of an agent on its way at an instant? -/
def mayReset (i : Ingest) (remote : Endpoint) (now : UInt64) : Bool :=
  (i.pendingResets.get? remote).all (fun expiry => expiry ≤ now)

/-- The state once a reset of an agent is noted. -/
def told (i : Ingest) (remote : Endpoint) (now : UInt64) : Ingest :=
  { i with
    pendingResets := i.pendingResets.insert remote (deadlineAfter now i.resetTimeout)
    resetExpiry := fileReset i.resetExpiry (deadlineAfter now i.resetTimeout) remote }

/-- The state once a metric that came with its names has a token. -/
def assigned (i : Ingest) (n : Wire.FullName) (type : MetricType) : Ingest :=
  { i with catalog := (i.catalog.call (.assign n type)).2 }.count
    (fun c => { c with nonTokenizedMetrics := c.nonTokenizedMetrics + 1 })

/-- The token that the names of a metric have from then on. -/
def tokenFor (i : Ingest) (n : Wire.FullName) (type : MetricType) : Int64 :=
  ((i.catalog.sight n type).2.tokenize (i.catalog.sight n type).1).1

/-- **The ways in which a metric finds its identity or does not**: the identity, what is replied, and the state
after it. -/
inductive Identified (i : Ingest) (remote : Option Endpoint) (now : UInt64) (m : Incoming) :
    Option Identity × List Reply × Ingest → Prop where
  /-- It came with a token that is known. -/
  | known (t : Int64) (identity : Identity) (hkey : m.key = .token t)
      (hlookup : i.catalog.lookupByToken t = some identity) :
      Identified i remote now m (some identity, [], i)
  /-- It came with an unknown token, and no reset is due. -/
  | stray (t : Int64) (hkey : m.key = .token t) (hlookup : i.catalog.lookupByToken t = none)
      (hdue : ∀ r, remote = some r → i.mayReset r now = false) :
      Identified i remote now m (none, [], i.dropped)
  /-- It came with an unknown token, and its agent is told to reset. -/
  | reset (t : Int64) (r : Endpoint) (hkey : m.key = .token t) (hlookup : i.catalog.lookupByToken t = none)
      (hremote : remote = some r) (hdue : i.mayReset r now = true) :
      Identified i remote now m (none, [.reset], i.dropped.told r now)
  /-- It came with its names. -/
  | named (n : Wire.FullName) (hkey : m.key = .named n) :
      Identified i remote now m (some (i.catalog.sight n m.type).1,
        if remote.isSome then
          [.tokenAssign (i.catalog.sight n m.type).1.fqn (i.tokenFor n m.type)]
        else [],
        i.assigned n m.type)

theorem identified_identify (i : Ingest) (remote : Option Endpoint) (now : UInt64) (m : Incoming) :
    Identified i remote now m (i.identify remote now m) := by
  obtain ⟨key, type, time, value⟩ := m
  cases key with
  | named n => exact .named n rfl
  | token t =>
    cases hlookup : i.catalog.lookupByToken t with
    | some identity =>
      have hknown : i.identify remote now ⟨.token t, type, time, value⟩ = (some identity, [], i) := by
        simp only [identify, hlookup]
      rw [hknown]
      exact .known t identity rfl hlookup
    | none =>
      cases remote with
      | none =>
        have hstray : i.identify none now ⟨.token t, type, time, value⟩ = (none, [], i.dropped) := by
          simp only [identify, hlookup, dropped]
        rw [hstray]
        exact .stray t rfl hlookup (fun r hr => absurd hr (by simp))
      | some r =>
        have hasked : i.identify (some r) now ⟨.token t, type, time, value⟩ =
            (none, if (i.dropped.resetDue r now).1 then [.reset] else [], (i.dropped.resetDue r now).2) := by
          simp only [identify, hlookup, dropped]
          rfl
        cases hdue : i.mayReset r now with
        | true =>
          have htold : i.dropped.resetDue r now = (true, i.dropped.told r now) := if_pos hdue
          rw [hasked, htold]
          exact .reset t r rfl hlookup rfl hdue
        | false =>
          have hnot : ¬ i.dropped.mayReset r now = true := by
            show ¬ i.mayReset r now = true
            simp [hdue]
          have hkept : i.dropped.resetDue r now = (false, i.dropped) := if_neg hnot
          rw [hasked, hkept]
          refine .stray t rfl hlookup fun r' hr' => ?_
          rw [← Option.some.inj hr']
          exact hdue

/-! ## Turns -/

namespace Turn

variable (u : Turn)

/-- How the metric of a turn finds its identity. -/
def identified : Option Identity × List Reply × Ingest := u.ingest.identify u.remote u.now u.metric

theorem next_cases : u.next = u.identified.2.2 ∨
    u.next = u.identified.2.2.count (fun c => { c with typeMismatches := c.typeMismatches + 1 }) := by
  unfold next take identified
  split
  · rename_i h
    exact Or.inl (by rw [h])
  · rename_i h
    rw [h]
    split
    · exact Or.inl rfl
    · exact Or.inr rfl

theorem catalog_next : u.next.catalog = u.ingest.catalog.after u.metric.asks :=
  catalog_take u.ingest u.remote u.confirm u.now u.metric

theorem pendingResets_next : u.next.pendingResets = u.identified.2.2.pendingResets := by
  rcases u.next_cases with h | h
  · rw [h]
  · rw [h]
    rfl

theorem resetTimeout_next : u.next.resetTimeout = u.identified.2.2.resetTimeout := by
  rcases u.next_cases with h | h
  · rw [h]
  · rw [h]
    rfl

theorem tokenLookupDrops_next :
    u.next.counters.tokenLookupDrops = u.identified.2.2.counters.tokenLookupDrops := by
  rcases u.next_cases with h | h
  · rw [h]
  · rw [h]
    rfl

theorem mem_replies_iff {r : Reply} (hr : ∀ key, r ≠ .confirm key) :
    r ∈ u.replies ↔ r ∈ u.identified.2.1 := by
  unfold replies take identified
  split
  · rename_i h
    rw [h]
  · rename_i h
    rw [h]
    split
    · split
      · simp [hr]
      · simp
    · rfl

theorem sample_eq_some {s : Metric} (h : u.sample = some s) :
    u.identity = some s.identity ∧ s.identity.type.accepts s.value = true := by
  unfold sample take at h
  unfold identity
  split at h
  · exact absurd h (by simp)
  · rename_i hid
    rw [hid]
    split at h
    · rename_i haccepts
      rw [← Option.some.inj h]
      exact ⟨rfl, haccepts⟩
    · exact absurd h (by simp)

/-- **A turn amid calls on a catalog**: those before it lead to the catalog that it finds. -/
def Amid (c : Catalog) (asks : List Catalog.Call) : Prop :=
  ∃ before after, asks = before ++ (u.metric.asks ++ after) ∧ u.ingest.catalog = c.after before

/-- **A turn and a later one amid calls on a catalog.** -/
def Ordered (c : Catalog) (asks : List Catalog.Call) (u v : Turn) : Prop :=
  ∃ before after, asks = before ++ (u.metric.asks ++ after) ∧ u.ingest.catalog = c.after before ∧
    v.Amid u.next.catalog after

section Amid

variable {u} {v : Turn} {c : Catalog} {asks : List Catalog.Call}

theorem Amid.append_right (h : u.Amid c asks) (more : List Catalog.Call) : u.Amid c (asks ++ more) := by
  obtain ⟨before, after, rfl, hcatalog⟩ := h
  exact ⟨before, after ++ more, by simp only [List.append_assoc], hcatalog⟩

theorem Amid.append_left {earlier : List Catalog.Call} (h : u.Amid (c.after earlier) asks) :
    u.Amid c (earlier ++ asks) := by
  obtain ⟨before, after, rfl, hcatalog⟩ := h
  refine ⟨earlier ++ before, after, by simp only [List.append_assoc], ?_⟩
  rw [hcatalog, Catalog.after_append]

theorem Ordered.append_right (h : Ordered c asks u v) (more : List Catalog.Call) :
    Ordered c (asks ++ more) u v := by
  obtain ⟨before, after, rfl, hcatalog, hv⟩ := h
  exact ⟨before, after ++ more, by simp only [List.append_assoc], hcatalog, hv.append_right more⟩

theorem Ordered.append_left {earlier : List Catalog.Call} (h : Ordered (c.after earlier) asks u v) :
    Ordered c (earlier ++ asks) u v := by
  obtain ⟨before, after, rfl, hcatalog, hv⟩ := h
  refine ⟨earlier ++ before, after, by simp only [List.append_assoc], ?_, hv⟩
  rw [hcatalog, Catalog.after_append]

theorem Amid.ordered {more : List Catalog.Call} (hu : u.Amid c asks) (hv : v.Amid (c.after asks) more) :
    Ordered c (asks ++ more) u v := by
  obtain ⟨before, after, rfl, hcatalog⟩ := hu
  refine ⟨before, after ++ more, by simp only [List.append_assoc], hcatalog, Amid.append_left ?_⟩
  rwa [catalog_next, hcatalog, ← Catalog.after_append, ← Catalog.after_append]

end Amid

end Turn

/-! ## The turns of a run -/

section Runs

theorem amid_turns {i : Ingest} {remote : Option Endpoint} {confirm : Bool} {now : UInt64}
    {ms : List Incoming} {u : Turn} (h : u ∈ i.turns remote confirm now ms) :
    u.Amid i.catalog (ms.flatMap Incoming.asks) := by
  induction ms generalizing i with
  | nil => exact absurd h List.not_mem_nil
  | cons m rest ih =>
    rw [List.flatMap_cons]
    rcases List.mem_cons.mp h with rfl | h
    · exact ⟨[], rest.flatMap Incoming.asks, rfl, rfl⟩
    · refine Turn.Amid.append_left ?_
      rw [← catalog_take i remote confirm now m]
      exact ih h

theorem pairwise_turns (i : Ingest) (remote : Option Endpoint) (confirm : Bool) (now : UInt64)
    (ms : List Incoming) :
    (i.turns remote confirm now ms).Pairwise (Turn.Ordered i.catalog (ms.flatMap Incoming.asks)) := by
  induction ms generalizing i with
  | nil => exact List.Pairwise.nil
  | cons m rest ih =>
    rw [List.flatMap_cons]
    refine List.Pairwise.cons (fun v hv => ?_) ((ih _).imp fun h => Turn.Ordered.append_left ?_)
    · exact ⟨[], rest.flatMap Incoming.asks, rfl, rfl, amid_turns hv⟩
    · rwa [← catalog_take i remote confirm now m]

/-- The turns of a call. -/
def Call.turns (i : Ingest) : Call → List Turn
  | handle now b =>
    if b.opcode = .resetConfirm then []
    else (i.arrive now b).turns b.remote b.opcode.wantsConfirm now b.metrics
  | catalog _ => []

/-- **What is replied and passed on in a call are the replies and the samples of its turns**, in order. -/
theorem call_fst (i : Ingest) (k : Call) :
    (i.call k).1 = ((k.turns i).flatMap Turn.replies, (k.turns i).flatMap (fun u => u.sample.toList)) := by
  cases k with
  | catalog k => rfl
  | handle now b =>
    rw [Call.turns]
    by_cases hb : b.opcode = .resetConfirm
    · rw [if_pos hb, call, handle_of_confirm i now b hb]
      rfl
    · rw [if_neg hb, call, handle_of_metrics i now b hb]

theorem pairwise_turns_call (i : Ingest) (k : Call) :
    (k.turns i).Pairwise (Turn.Ordered i.catalog k.asks) := by
  cases k with
  | catalog k => exact List.Pairwise.nil
  | handle now b =>
    rw [Call.turns, Call.asks, Batch.asks]
    split
    · exact List.Pairwise.nil
    · exact pairwise_turns (i.arrive now b) b.remote b.opcode.wantsConfirm now b.metrics

theorem amid_turns_call {i : Ingest} {k : Call} {u : Turn} (h : u ∈ k.turns i) : u.Amid i.catalog k.asks := by
  cases k with
  | catalog k => exact absurd h List.not_mem_nil
  | handle now b =>
    rw [Call.turns] at h
    rw [Call.asks, Batch.asks]
    split at h
    · exact absurd h List.not_mem_nil
    · rename_i hb
      rw [if_neg hb]
      exact amid_turns (i := i.arrive now b) h

/-- The turn that an event is. -/
def Event.turn? : Event → Option Turn
  | turn u => some u
  | confirmed _ => none

theorem filterMap_turn?_events (i : Ingest) (k : Call) : (k.events i).filterMap Event.turn? = k.turns i := by
  cases k with
  | catalog k => rfl
  | handle now b =>
    rw [Call.turns]
    by_cases hb : b.opcode = .resetConfirm
    · rw [if_pos hb, events_of_confirm i now b hb]
      simp [Event.turn?]
    · rw [if_neg hb, events_of_metrics i now b hb, List.filterMap_map]
      exact List.filterMap_some

/-- The turns of a run, oldest first. -/
def turnsOf (i : Ingest) (calls : List Call) : List Turn := (i.history calls).filterMap Event.turn?

theorem turnsOf_cons (i : Ingest) (k : Call) (rest : List Call) :
    i.turnsOf (k :: rest) = k.turns i ++ (i.call k).2.turnsOf rest := by
  rw [turnsOf, history, List.filterMap_append, filterMap_turn?_events]
  rfl

/-- **What is replied in a run are the replies of its turns**, in order. -/
theorem flatMap_replies_turnsOf (i : Ingest) (calls : List Call) :
    (i.turnsOf calls).flatMap Turn.replies = (Run.answers call i calls).flatMap Prod.fst := by
  induction calls generalizing i with
  | nil => rfl
  | cons k rest ih => rw [turnsOf_cons, List.flatMap_append, ih, Run.answers, List.flatMap_cons, call_fst]

/-- **Every turn of a run stands amid the calls on the catalog.** -/
theorem amid_turnsOf {i : Ingest} {calls : List Call} {u : Turn} (h : u ∈ i.turnsOf calls) :
    u.Amid i.catalog (calls.flatMap Call.asks) := by
  induction calls generalizing i with
  | nil => exact absurd h List.not_mem_nil
  | cons k rest ih =>
    rw [List.flatMap_cons]
    rw [turnsOf_cons] at h
    rcases List.mem_append.mp h with h | h
    · exact (amid_turns_call h).append_right _
    · refine Turn.Amid.append_left ?_
      rw [← catalog_call i k]
      exact ih h

/-- **The turns of a run follow one another**, with the calls on the catalog in between. -/
theorem pairwise_turnsOf (i : Ingest) (calls : List Call) :
    (i.turnsOf calls).Pairwise (Turn.Ordered i.catalog (calls.flatMap Call.asks)) := by
  induction calls generalizing i with
  | nil => exact List.Pairwise.nil
  | cons k rest ih =>
    rw [turnsOf_cons, List.flatMap_cons]
    refine List.pairwise_append.mpr ⟨?_, ?_, fun u hu v hv => ?_⟩
    · exact (pairwise_turns_call i k).imp fun h => h.append_right _
    · refine (ih (i.call k).2).imp fun h => Turn.Ordered.append_left ?_
      rwa [← catalog_call i k]
    · refine (amid_turns_call hu).ordered ?_
      rw [← catalog_call i k]
      exact amid_turnsOf hv

end Runs

end MetricRouter.Ingest
