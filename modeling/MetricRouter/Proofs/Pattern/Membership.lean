import MetricRouter.Proofs.Pattern.Memo

/-!
# What groups are made of

The matchers that groups share are compiled once for each text. That changes neither which texts are refused nor what
the members of a group are.

* `Matchers.Compiled` — the invariant: all matchers are of texts that compile;
* `Matchers.isOk_compile`, `Matchers.compiled_of_compile` — shared matchers refuse the texts that do not compile;
* `Group.collected_collect`, `Group.collected_ofPatterns` — a group of patterns is there if all of them compile, and
  its members are the patterns without those that come again.
-/

namespace MetricRouter.Pattern

/-- Does the pattern compile, with the anchors that it is compiled with? -/
def Compiles (text : String) : Bool := (Matcher.compile text).isOk

namespace Matchers

/-- **All matchers are of texts that compile.** -/
def Compiled (ms : Matchers) : Prop := ∀ text, (ms.get? text).isSome → Compiles text = true

variable {ms : Matchers} {text : String}

theorem compiled_empty : Compiled .empty := fun text h => by simp at h

/-- **Shared matchers refuse the texts that do not compile.** -/
theorem isOk_compile (h : ms.Compiled) (text : String) : (ms.compile text).isOk = Compiles text := by
  cases hold : ms.get? text with
  | some m =>
    rw [compile_of_some hold, h text (by rw [hold]; rfl)]
    rfl
  | none =>
    rw [compile_of_none hold, Compiles]
    cases Matcher.compile text <;> rfl

theorem compiled_of_compile (h : ms.Compiled) {m : Matcher} {ms' : Matchers} (hc : ms.compile text = .ok (m, ms')) :
    ms'.Compiled := by
  have hcompiles : Compiles text = true := by
    rw [← isOk_compile h, hc]
    rfl
  cases hold : ms.get? text with
  | some m =>
    rw [compile_of_some hold] at hc
    obtain ⟨-, rfl⟩ := Prod.mk.inj (Except.ok.inj hc)
    exact h
  | none =>
    rw [compile_of_none hold] at hc
    cases hnew : Matcher.compile text with
    | error e =>
      rw [hnew] at hc
      exact absurd hc (by simp [Except.map])
    | ok new =>
      rw [hnew] at hc
      obtain ⟨-, rfl⟩ := Prod.mk.inj (Except.ok.inj hc)
      intro text' h'
      rw [Table.get?_insert] at h'
      split at h'
      · rename_i htext
        rwa [← htext]
      · exact h text' h'

end Matchers

namespace Group

/-- **What comes of collecting patterns** for a group: it is there if all of them compile, and then its members are
the earlier ones and each new pattern once. -/
structure Collected (members texts : List String) (r : Except InvalidPattern Group × Matchers) : Prop where
  compiled : r.2.Compiled
  isOk : r.1.isOk = texts.all Compiles
  members : ∀ g, r.1 = .ok g → g.members = members ++ (texts.filter (fun t => !members.contains t)).eraseDups

theorem members_insert (g : Group) (text : String) :
    (g.insert text).members = if text ∈ g.members then g.members else g.members ++ [text] := by
  unfold insert
  split <;> rfl

theorem members_insert_append (g : Group) (text : String) (rest : List String) :
    (g.insert text).members ++ (rest.filter (fun t => !(g.insert text).members.contains t)).eraseDups =
      g.members ++ ((text :: rest).filter (fun t => !g.members.contains t)).eraseDups := by
  rw [members_insert]
  by_cases hmem : text ∈ g.members
  · simp [hmem]
  · have hnew : (!g.members.contains text) = true := by simpa using hmem
    rw [if_neg hmem, List.filter_cons_of_pos (p := fun t => !g.members.contains t) hnew, List.eraseDups_cons,
      List.append_assoc, List.singleton_append, List.filter_filter]
    congr 3
    refine List.filter_congr fun t _ => ?_
    rw [Bool.eq_iff_iff]
    simp [and_comm]

theorem collected_collect {ms : Matchers} (h : ms.Compiled) (g : Group) (texts : List String) :
    Collected g.members texts (collect g ms texts) := by
  induction texts generalizing g ms with
  | nil =>
    refine ⟨h, rfl, fun g' hg' => ?_⟩
    rw [← Except.ok.inj hg']
    exact (List.append_nil _).symm
  | cons text rest ih =>
    have hcompiles := Matchers.isOk_compile h text
    unfold collect
    split
    · rename_i e hc
      rw [hc] at hcompiles
      exact ⟨h, by rw [List.all_cons, ← hcompiles]; rfl, fun g' hg' => absurd hg' (by simp)⟩
    · rename_i m ms' hc
      rw [hc] at hcompiles
      obtain ⟨hcompiled, hisOk, hmembers⟩ := ih (Matchers.compiled_of_compile h hc) (g.insert text)
      refine ⟨hcompiled, ?_, fun g' hg' => ?_⟩
      · rw [List.all_cons, ← hcompiles, hisOk]
        rfl
      · rw [hmembers g' hg', members_insert_append]

/-- **A group of patterns is there if all of them compile**, and has each of them once, in the order in which they
come first. -/
theorem collected_ofPatterns {ms : Matchers} (h : ms.Compiled) (texts : List String) :
    (ofPatterns ms texts).2.Compiled ∧ (ofPatterns ms texts).1.isOk = texts.all Compiles ∧
      ∀ g, (ofPatterns ms texts).1 = .ok g → g.members = texts.eraseDups := by
  obtain ⟨hcompiled, hisOk, hmembers⟩ := collected_collect h empty texts
  refine ⟨hcompiled, hisOk, fun g hg => ?_⟩
  rw [hmembers g hg]
  exact (List.nil_append _).trans (congrArg _ (List.filter_eq_self.mpr fun _ _ => rfl))

end Group

end MetricRouter.Pattern
