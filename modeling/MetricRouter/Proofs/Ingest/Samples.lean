import MetricRouter.Proofs.Catalog.Index
import MetricRouter.Proofs.Ingest.Turns
import MetricRouter.Proofs.Metric.Sample

/-!
# The samples that are passed on

* `Catalog.Rooted`, `rooted_of_change` — identities that have tokens are filed under their names, whatever tokens
  were drawn;
* `find?_of_identity` — the identity that a turn finds is the one of its name;
* `find?_of_mem_samples` — so is the identity of every sample that is passed on, and it accepts the value;
* `length_samples_le` — of a name, no more samples are passed on than metrics came for it.
-/

namespace MetricRouter

open Wire (FullName Incoming)

namespace Catalog

/-- **The identities that have tokens are filed under their names.** -/
structure Rooted (c : Catalog) : Prop where
  filed : c.Filed
  held : ∀ {t i}, c.index.get? t = some i → c.Holds i

variable {c c' : Catalog} {k : Call} {n : FullName} {type : MetricType} {i : Identity}

theorem rooted_fresh (s : KeyStrategy) (ts : Tokens) : (fresh s ts).Rooted where
  filed := filed_fresh s ts
  held := fun h => by simp [fresh] at h

theorem rooted_sight (h : c.Rooted) (n : FullName) (type : MetricType) : (c.sight n type).2.Rooted where
  filed := filed_sight h.filed
  held := fun ht => by
    rw [(held_sight h.filed).2] at ht
    exact holds_sight_of_holds h.filed (h.held ht)

theorem rooted_give (h : c.Rooted) (hi : c.Holds i) (t next : Int64) : (c.give i t next).Rooted where
  filed := ⟨h.filed.primary, h.filed.overflow⟩
  held := fun {u j} hj => by
    simp only [index_give] at hj
    split at hj
    · rw [← Option.some.inj hj]
      exact hi
    · exact h.held hj

/-- **Every change keeps the identities that have tokens filed.** -/
theorem rooted_of_change (h : c.Rooted) (hchange : Change c k c') : c'.Rooted := by
  cases hchange with
  | kept => exact h
  | sighted n type => exact rooted_sight h n type
  | tokenized i _ hi => exact rooted_give h hi _ _
  | assigned n type => exact rooted_give (rooted_sight h n type) (holds_sight h.filed) _ _
  | chosen t n type => exact rooted_give (rooted_sight h n type) (holds_sight h.filed) _ _
  | read value n => exact ⟨⟨h.filed.primary, h.filed.overflow⟩, h.held⟩
  | forgotten => exact rooted_fresh c.strategy c.tokens

theorem rooted_after (h : c.Rooted) (calls : List Call) : (c.after calls).Rooted :=
  after_of_change (fun _ _ _ _ hchange hc => rooted_of_change hc hchange) h

theorem holds_assign (h : c.Filed) : (c.call (.assign n type)).2.Holds (c.sight n type).1 := by
  show ((c.sight n type).2.tokenize (c.sight n type).1).2.Holds (c.sight n type).1
  by_cases ht : (c.sight n type).2.token (c.sight n type).1 = noToken
  · rw [tokenize_of_untokenized ht]
    exact holds_sight h
  · rw [tokenize_of_tokenized ht]
    exact holds_sight h

end Catalog

namespace Ingest

/-- **The identity that a turn finds is the one of its name.** -/
theorem find?_of_identity {u : Turn} (h : u.ingest.catalog.Rooted) {i : Identity} (hi : u.identity = some i) :
    u.next.catalog.find? i.fqn = some i := by
  have hnext : u.next.catalog.Rooted := by
    rw [u.catalog_next]
    exact Catalog.rooted_after h _
  refine (Catalog.holds_iff_find? hnext.filed).mp ?_
  have hcases := identified_identify u.ingest u.remote u.now u.metric
  unfold Turn.identity at hi
  rw [u.catalog_next, Incoming.asks]
  generalize u.ingest.identify u.remote u.now u.metric = x at hcases hi
  cases hcases with
  | known t identity hkey hlookup =>
    rw [hkey, ← Option.some.inj hi]
    exact h.held hlookup
  | stray | reset => exact absurd hi (by simp)
  | named n hkey =>
    rw [hkey, ← Option.some.inj hi]
    exact Catalog.holds_assign h.filed

/-- **The identity of a sample that is passed on is the one of its name**, until the catalog forgets everything,
and it accepts the value. -/
theorem find?_of_mem_samples {i : Ingest} (h : i.catalog.Rooted) {k : Call} (hr : .reset ∉ k.asks) {m : Metric}
    (hm : m ∈ (i.call k).1.2) :
    (i.call k).2.catalog.find? m.fqn = some m.identity ∧ m.type.accepts m.value = true := by
  rw [call_fst] at hm
  obtain ⟨u, hu, hsample⟩ := List.mem_flatMap.mp hm
  obtain ⟨hidentity, haccepts⟩ := u.sample_eq_some (Option.mem_toList.mp hsample)
  obtain ⟨before, after, hasks, hcatalog⟩ := amid_turns_call hu
  have hrooted : u.ingest.catalog.Rooted := by
    rw [hcatalog]
    exact Catalog.rooted_after h before
  have hfiled : u.next.catalog.Filed := by
    rw [u.catalog_next]
    exact (Catalog.rooted_after hrooted _).filed
  refine ⟨?_, haccepts⟩
  rw [catalog_call, hasks, Catalog.after_append, Catalog.after_append, ← hcatalog, ← u.catalog_next]
  rw [hasks, List.mem_append, not_or, List.mem_append, not_or] at hr
  exact Catalog.find?_after_of_find? hfiled hr.2.2 (find?_of_identity hrooted hidentity)

/-- Does the metric of the turn count as one of the name? -/
def Turn.isOf (f : String) (u : Turn) : Bool := (u.identity.map Identity.fqn) == some f

/-- **Of a name, no more samples are passed on than metrics came for it.** -/
theorem length_samples_le (f : String) (us : List Turn) :
    (Metric.ofName f (us.flatMap fun u => u.sample.toList)).length ≤ us.countP (Turn.isOf f) := by
  induction us with
  | nil => exact Nat.le_refl _
  | cons u us ih =>
    rw [List.flatMap_cons, Metric.ofName_append, List.length_append, List.countP_cons, Nat.add_comm]
    refine Nat.add_le_add ih ?_
    cases hsample : u.sample with
    | none => exact Nat.zero_le _
    | some s =>
      have hidentity := (u.sample_eq_some hsample).1
      by_cases hf : s.fqn = f
      · subst hf
        simp [Turn.isOf, hidentity, Metric.fqn]
      · simp [hf]

end Ingest

end MetricRouter
