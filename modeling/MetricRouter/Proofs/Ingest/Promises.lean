import MetricRouter.Proofs.Catalog.Index
import MetricRouter.Proofs.Ingest.Turns

/-!
# Promised tokens

An agent that sends a name is told a token for it, and may send the token in place of the name from then on.

* `index_assign` — the token that a name is given leads to its identity at once;
* `Leads`, `leads_after` — a token that leads to an identity goes on doing so;
* `Turn.AttributedTo`, `attributedTo_of_leads` — what becomes of a metric with a token that leads to an identity;
* `lookupByToken_of_tokenAssign` — the main statement.
-/

namespace MetricRouter

open Net (Endpoint)
open Wire (FullName Incoming Batch Reply)

namespace Catalog

/-- **The token leads to the identity**, which is the one that the catalog has for its name. -/
def Leads (c : Catalog) (t : Int64) (i : Identity) : Prop :=
  c.lookupByToken t = some i ∧ c.find? i.fqn = some i

section Leads

variable {c : Catalog} {t : Int64} {i : Identity}

theorem Indexed.leads (h : c.Indexed) (hi : c.index.get? t = some i) : c.Leads t i :=
  ⟨hi, (holds_iff_find? h.filed).mp (h.sound hi).1⟩

theorem leads_after (h : c.Indexed) {calls : List Call} (hd : noToken ∉ c.drawn calls)
    (hr : Call.reset ∉ calls) (hi : c.Leads t i) : (c.after calls).Leads t i :=
  (indexed_after h hd).leads (get?_index_after h hd hr hi.1)

theorem index_assign (h : c.Indexed) {n : FullName} {type : MetricType} :
    let s := c.sight n type
    (c.call (.assign n type)).2.index.get? (s.2.tokenize s.1).1 = some s.1 := by
  intro s
  show (s.2.tokenize s.1).2.index.get? (s.2.tokenize s.1).1 = some s.1
  have hs : s.2.Indexed := indexed_sight h n type
  by_cases ht : s.2.token s.1 = noToken
  · rw [tokenize_of_untokenized ht, index_give]
    exact if_pos rfl
  · rw [tokenize_of_tokenized ht]
    exact hs.complete (holds_sight h.filed) ht

end Leads

end Catalog

namespace Ingest

/-- **The metric of the turn counts as one of the identity**: its sample, if it is passed on, has this identity,
and its token is neither dropped nor answered with a reset. -/
structure Turn.AttributedTo (v : Turn) (i : Identity) : Prop where
  identity : v.identity = some i
  sample : ∀ s, v.sample = some s → s.identity = i
  replies : .reset ∉ v.replies
  drops : v.next.counters.tokenLookupDrops = v.ingest.counters.tokenLookupDrops

theorem attributedTo_of_leads {v : Turn} {t : Int64} {i : Identity} (hkey : v.metric.key = .token t)
    (h : v.ingest.catalog.Leads t i) : v.AttributedTo i := by
  have hidentified : v.identified = (some i, [], v.ingest) := by
    have hcases := identified_identify v.ingest v.remote v.now v.metric
    unfold Turn.identified
    generalize v.ingest.identify v.remote v.now v.metric = r at hcases ⊢
    cases hcases with
    | known t' identity hkey' hlookup =>
      rw [hkey] at hkey'
      obtain rfl := Wire.Key.token.inj hkey'
      rw [h.1] at hlookup
      rw [Option.some.inj hlookup]
    | stray t' hkey' hlookup | reset t' r hkey' hlookup =>
      rw [hkey] at hkey'
      obtain rfl := Wire.Key.token.inj hkey'
      rw [h.1] at hlookup
      exact absurd hlookup (by simp)
    | named n hkey' =>
      rw [hkey] at hkey'
      exact absurd hkey' (by simp)
  have hidentity : v.identity = some i := congrArg Prod.fst hidentified
  refine ⟨hidentity, fun s hs => ?_, fun hreset => ?_, ?_⟩
  · have hfound := (v.sample_eq_some hs).1
    rw [hidentity] at hfound
    exact (Option.some.inj hfound).symm
  · rw [v.mem_replies_iff (by simp), hidentified] at hreset
    exact absurd hreset List.not_mem_nil
  · rw [v.tokenLookupDrops_next, hidentified]

theorem exists_name_of_tokenAssign {u : Turn} {fqn : String} {t : Int64}
    (h : .tokenAssign fqn t ∈ u.replies) :
    ∃ n, u.metric.key = .named n ∧ (u.ingest.catalog.sight n u.metric.type).1.fqn = fqn ∧
      u.ingest.tokenFor n u.metric.type = t := by
  rw [u.mem_replies_iff (by simp)] at h
  have hcases := identified_identify u.ingest u.remote u.now u.metric
  unfold Turn.identified at h
  generalize u.ingest.identify u.remote u.now u.metric = r at hcases h
  cases hcases with
  | known t' identity hkey hlookup => exact absurd h List.not_mem_nil
  | stray t' hkey hlookup => exact absurd h List.not_mem_nil
  | reset t' r hkey hlookup => exact absurd (List.mem_singleton.mp h) (by simp)
  | named n hkey =>
    refine ⟨n, hkey, ?_⟩
    simp only at h
    split at h
    · simpa [eq_comm] using h
    · exact absurd h List.not_mem_nil

section Promise

variable {c : Catalog} {asks before after : List Catalog.Call} {u v : Turn} {t : Int64} {i : Identity}

theorem Turn.around (hasks : asks = before ++ (u.metric.asks ++ after))
    (hcatalog : u.ingest.catalog = c.after before) (hc : c.Indexed) (hd : noToken ∉ c.drawn asks) :
    u.ingest.catalog.Indexed ∧ u.next.catalog.Indexed ∧ noToken ∉ u.next.catalog.drawn after ∧
      c.after asks = u.next.catalog.after after := by
  subst hasks
  rw [Catalog.drawn_append, List.mem_append, not_or, Catalog.drawn_append, List.mem_append, not_or,
    ← hcatalog] at hd
  have hindexed : u.ingest.catalog.Indexed := by
    rw [hcatalog]
    exact Catalog.indexed_after hc hd.1
  rw [u.catalog_next, Catalog.after_append, Catalog.after_append, ← hcatalog]
  exact ⟨hindexed, Catalog.indexed_after hindexed hd.2.1, hd.2.2, rfl⟩

theorem Turn.Amid.leads (h : v.Amid c asks) (hc : c.Indexed) (hd : noToken ∉ c.drawn asks)
    (hr : .reset ∉ asks) (hi : c.Leads t i) :
    v.ingest.catalog.Leads t i ∧ v.next.catalog.Leads t i := by
  obtain ⟨before, after, rfl, hcatalog⟩ := h
  rw [v.catalog_next, hcatalog, ← Catalog.after_append]
  rw [← List.append_assoc, Catalog.drawn_append, List.mem_append, not_or] at hd
  rw [← List.append_assoc, List.mem_append, not_or] at hr
  have hdrawn := hd.1
  rw [Catalog.drawn_append, List.mem_append, not_or] at hdrawn
  exact ⟨Catalog.leads_after hc hdrawn.1 (fun h => hr.1 (List.mem_append_left _ h)) hi,
    Catalog.leads_after hc hd.1 hr.1 hi⟩

theorem exists_leads_of_tokenAssign {fqn : String} (hindexed : u.ingest.catalog.Indexed)
    (hnext : u.next.catalog.Indexed) (ht : .tokenAssign fqn t ∈ u.replies) :
    ∃ i, i.fqn = fqn ∧ u.next.catalog.Leads t i := by
  obtain ⟨n, hkey, hfqn, htoken⟩ := exists_name_of_tokenAssign ht
  refine ⟨_, hfqn, hnext.leads ?_⟩
  rw [u.catalog_next, Incoming.asks, hkey, ← htoken]
  exact Catalog.index_assign hindexed

end Promise

/-- **A promise is kept.** The replies of a run are those of its turns. Once an agent is told a token for a name,
the token leads to the one identity of this name in every later state, whoever sends what and whichever tokens
are chosen elsewhere: just after the promise, around every later turn, and at the end of the run. So every later
metric that comes with the token counts as one of this identity. All this as long as the mark of an identity
without a token has not been drawn from the counter. -/
theorem lookupByToken_of_tokenAssign (s : KeyStrategy) (resetTimeout : UInt64) (calls : List Call)
    (hr : .catalog .reset ∉ calls) (hd : noToken ∉ (Catalog.fresh s).drawn (calls.flatMap Call.asks)) :
    let i := create (.fresh s) resetTimeout
    (Run.answers call i calls).flatMap Prod.fst = (i.turnsOf calls).flatMap Turn.replies ∧
    ∀ earlier u later, i.turnsOf calls = earlier ++ u :: later →
      ∀ fqn t, .tokenAssign fqn t ∈ u.replies →
        ∃ identity, identity.fqn = fqn ∧ u.next.catalog.Leads t identity ∧
          (∀ v ∈ later, v.ingest.catalog.Leads t identity ∧ v.next.catalog.Leads t identity ∧
            (v.metric.key = .token t → v.AttributedTo identity)) ∧
          (i.after calls).catalog.Leads t identity := by
  intro i
  refine ⟨(flatMap_replies_turnsOf i calls).symm, fun earlier u later hu fqn t ht => ?_⟩
  have hfresh : (Catalog.fresh s).Indexed := Catalog.indexed_fresh s fun _ _ => rfl
  have hr' : .reset ∉ calls.flatMap Call.asks := by
    intro h
    obtain ⟨k, hk, hreset⟩ := List.mem_flatMap.mp h
    rw [reset_mem_asks_iff.mp hreset] at hk
    exact hr hk
  have hmem : u ∈ i.turnsOf calls := by
    rw [hu]
    exact List.mem_append_right _ List.mem_cons_self
  obtain ⟨before, after, hasks, hcatalog⟩ : u.Amid (.fresh s) (calls.flatMap Call.asks) := amid_turnsOf hmem
  obtain ⟨hindexed, hnext, hdrawn, hend⟩ := Turn.around hasks hcatalog hfresh hd
  obtain ⟨identity, hfqn, hleads⟩ := exists_leads_of_tokenAssign hindexed hnext ht
  refine ⟨identity, hfqn, hleads, fun v hv => ?_, ?_⟩
  · have hpairwise := pairwise_turnsOf i calls
    rw [hu] at hpairwise
    obtain ⟨before', after', hasks', hcatalog', hamid⟩ :=
      List.rel_of_pairwise_cons (List.pairwise_append.mp hpairwise).2.1 hv
    have hdrawn' := (Turn.around hasks' hcatalog' hfresh hd).2.2.1
    have hreset : .reset ∉ after' := by
      rw [hasks', List.mem_append, not_or, List.mem_append, not_or] at hr'
      exact hr'.2.2
    obtain ⟨hbefore, hafter⟩ := hamid.leads hnext hdrawn' hreset hleads
    exact ⟨hbefore, hafter, fun hkey => attributedTo_of_leads hkey hbefore⟩
  · have hcatalogs : (i.after calls).catalog = u.next.catalog.after after := (catalog_after i calls).trans hend
    rw [hcatalogs]
    rw [hasks, List.mem_append, not_or, List.mem_append, not_or] at hr'
    exact Catalog.leads_after hnext hdrawn hr'.2.2 hleads

/-- A promise to one agent, a token chosen elsewhere, and another agent that sends the token, in a catalog whose
names all have the same key. -/
theorem lookupByToken_of_tokenAssign_of_one_key :
    let i := create (.fresh (.hashed fun _ => 0)) 1000
    let x : Incoming := ⟨.named ⟨"h", "a", [], "x"⟩, .gauge, 0, .long 3⟩
    let b : Batch := ⟨.sendMetric, some ⟨.v4 10 0 0 1, 9000, 0⟩, [x], 0, 0⟩
    let rest : List Call :=
      [.catalog (.assignWith 2 ⟨"h", "a", [], "y"⟩ .gauge),
        .handle 5 ⟨.sendMetric, some ⟨.v4 10 0 0 2, 9000, 0⟩,
          [⟨.named ⟨"h", "a", [], "z"⟩, .delta, 0, .long 1⟩, ⟨.token 1, .gauge, 0, .long 4⟩], 0, 0⟩]
    let u : Turn := ⟨i.arrive 0 b, b.remote, false, 0, x⟩
    let later := (i.call (.handle 0 b)).2.turnsOf rest
    .catalog .reset ∉ .handle 0 b :: rest ∧
      noToken ∉ (Catalog.fresh (.hashed fun _ => 0)).drawn ((.handle 0 b :: rest).flatMap Call.asks) ∧
      i.turnsOf (.handle 0 b :: rest) = [] ++ u :: later ∧ .tokenAssign "h/a:x" 1 ∈ u.replies ∧
      ∃ identity, identity.fqn = "h/a:x" ∧ u.next.catalog.Leads 1 identity ∧
        (∀ v ∈ later, v.ingest.catalog.Leads 1 identity ∧ v.next.catalog.Leads 1 identity ∧
          (v.metric.key = .token 1 → v.AttributedTo identity)) ∧
        (i.after (.handle 0 b :: rest)).catalog.Leads 1 identity := by
  intro i x b rest u later
  have hr : .catalog .reset ∉ .handle 0 b :: rest := by decide
  have hd : noToken ∉
      (Catalog.fresh (.hashed fun _ => 0)).drawn ((.handle 0 b :: rest).flatMap Call.asks) := by
    decide +kernel
  have hu : i.turnsOf (.handle 0 b :: rest) = [] ++ u :: later := rfl
  have ht : .tokenAssign "h/a:x" 1 ∈ u.replies := by decide +kernel
  exact ⟨hr, hd, hu, ht, (lookupByToken_of_tokenAssign _ 1000 _ hr hd).2 [] u later hu _ _ ht⟩

end Ingest

end MetricRouter
