import Mathlib.Data.Set.Function
import MetricRouter.Pattern.Group

/-!
# The memo of matchers

A matcher remembers its answers by a number derived from the text. As long as the numbers tell the texts apart
that it is asked about, the memo changes no answer: a matcher goes on answering what its expression says, and so does
a group.

* `Matcher.Truthful`, `Matcher.answer_eq` — a memo with right answers only, which it remains;
* `Matchers.Truthful`, `Matchers.answer_eq` — the same for all matchers, whose expressions stay;
* `Group.accepts`, `Group.answer_eq` — what a group answers, whatever was asked before;
* `Matchers.truthful_ofPatterns` — new patterns leave the memos right.
-/

namespace MetricRouter.Pattern

/-! ## One matcher -/

namespace Matcher

/-- **The memo has right answers only** on the texts that the matcher is asked about. -/
structure Truthful (hash : String → Nat) (asked : Set String) (m : Matcher) : Prop where
  hits : ∀ {s}, s ∈ asked → hash s ∈ m.hits → m.regex.isMatch s = true
  misses : ∀ {s}, s ∈ asked → hash s ∈ m.misses → m.regex.isMatch s = false

variable {hash : String → Nat} {asked : Set String} {m : Matcher}

theorem truthful_compile {text : String} (h : compile text = .ok m) : m.Truthful hash asked := by
  unfold compile at h
  split at h
  · exact absurd h (by simp)
  · rw [← Except.ok.inj h]
    exact ⟨fun _ hs => absurd hs List.not_mem_nil, fun _ hs => absurd hs List.not_mem_nil⟩

/-- **A matcher answers what its expression says**, and remembers right answers only. -/
theorem answer_eq (hinj : Set.InjOn hash asked) (h : m.Truthful hash asked) {s : String} (hs : s ∈ asked) :
    (m.answer hash s).1 = m.regex.isMatch s ∧ (m.answer hash s).2.Truthful hash asked ∧
      (m.answer hash s).2.regex = m.regex := by
  unfold answer
  simp only [List.contains_eq_mem, decide_eq_true_iff]
  split
  · rename_i hhit
    exact ⟨(h.hits hs hhit).symm, h, rfl⟩
  · split
    · rename_i hmiss
      exact ⟨(h.misses hs hmiss).symm, h, rfl⟩
    · split
      · rename_i hmatch
        refine ⟨hmatch.symm, ⟨fun {s'} hs' hkey => ?_, h.misses⟩, rfl⟩
        rcases List.mem_cons.mp hkey with hkey | hkey
        · rwa [hinj hs' hs hkey]
        · exact h.hits hs' hkey
      · rename_i hmatch
        have hmatch := Bool.eq_false_iff.mpr hmatch
        refine ⟨hmatch.symm, ⟨h.hits, fun {s'} hs' hkey => ?_⟩, rfl⟩
        rcases List.mem_cons.mp hkey with hkey | hkey
        · rwa [hinj hs' hs hkey]
        · exact h.misses hs' hkey

end Matcher

/-! ## All matchers -/

namespace Matchers

/-- The expression of a pattern text that was compiled. -/
def regex? (ms : Matchers) (text : String) : Option Regex := (ms.get? text).map Matcher.regex

/-- Does the pattern text stand for an expression that matches? -/
def accepts (ms : Matchers) (text s : String) : Bool := (ms.regex? text).any (fun r => r.isMatch s)

/-- **All memos have right answers only** on the texts that are asked about. -/
def Truthful (hash : String → Nat) (asked : Set String) (ms : Matchers) : Prop :=
  ∀ text m, ms.get? text = some m → m.Truthful hash asked

variable {hash : String → Nat} {asked : Set String} {ms : Matchers}

theorem truthful_empty : Truthful hash asked .empty := fun text m h => by simp at h

theorem truthful_insert (h : ms.Truthful hash asked) (text : String) {m : Matcher} (hm : m.Truthful hash asked) :
    Truthful hash asked (ms.insert text m) := by
  intro text' m' hm'
  obtain ⟨rfl, rfl⟩ | ⟨-, hbefore⟩ := Table.get?_insert_eq_some_iff.mp hm'
  · exact hm
  · exact h text' m' hbefore

/-- **The matchers answer what their expressions say**, and change nothing but memos. -/
theorem answer_eq (hinj : Set.InjOn hash asked) (h : ms.Truthful hash asked) (text : String) {s : String}
    (hs : s ∈ asked) :
    (ms.answer hash text s).1 = ms.accepts text s ∧ (ms.answer hash text s).2.Truthful hash asked ∧
      ∀ text', (ms.answer hash text s).2.regex? text' = ms.regex? text' := by
  unfold answer accepts regex?
  cases hm : ms.get? text with
  | none => exact ⟨rfl, h, fun _ => rfl⟩
  | some m =>
    obtain ⟨hanswer, htruthful, hregex⟩ := m.answer_eq hinj (h text m hm) hs
    refine ⟨hanswer, truthful_insert h text htruthful, fun text' => ?_⟩
    rw [Table.get?_insert]
    split
    · rename_i htext
      rw [← htext, hm, Option.map_some, Option.map_some, hregex]
    · rfl

theorem compile_of_some {text : String} {m : Matcher} (h : ms.get? text = some m) : ms.compile text = .ok (m, ms) := by
  rw [compile, h]

theorem compile_of_none {text : String} (h : ms.get? text = none) :
    ms.compile text = (Matcher.compile text).map (fun m => (m, ms.insert text m)) := by
  rw [compile, h]
  cases Matcher.compile text with
  | error e => rfl
  | ok m => rfl

theorem truthful_of_compile (h : ms.Truthful hash asked) {text : String} {m : Matcher} {ms' : Matchers}
    (hc : ms.compile text = .ok (m, ms')) : ms'.Truthful hash asked := by
  unfold compile at hc
  split at hc
  · obtain ⟨-, rfl⟩ := Prod.mk.inj (Except.ok.inj hc)
    exact h
  · split at hc
    · exact absurd hc (by simp)
    · rename_i m' hm'
      obtain ⟨-, rfl⟩ := Prod.mk.inj (Except.ok.inj hc)
      exact truthful_insert h text (Matcher.truthful_compile hm')

end Matchers

/-! ## Groups -/

namespace Group

variable {hash : String → Nat} {asked : Set String} {ms : Matchers}

/-- Does the expression of a member match? -/
def accepts (g : Group) (ms : Matchers) (s : String) : Bool := g.members.any (fun text => ms.accepts text s)

theorem accepts_congr {ms' : Matchers} (h : ∀ text, ms'.regex? text = ms.regex? text) (g : Group) (s : String) :
    g.accepts ms' s = g.accepts ms s := by
  unfold accepts Matchers.accepts
  simp only [h]

theorem answerAny_eq (hinj : Set.InjOn hash asked) (h : ms.Truthful hash asked) {s : String} (hs : s ∈ asked)
    (texts : List String) :
    (answerAny hash s texts ms).1 = texts.any (fun text => ms.accepts text s) ∧
      (answerAny hash s texts ms).2.Truthful hash asked ∧
      ∀ text', (answerAny hash s texts ms).2.regex? text' = ms.regex? text' := by
  induction texts generalizing ms with
  | nil => exact ⟨rfl, h, fun _ => rfl⟩
  | cons text rest ih =>
    obtain ⟨hanswer, htruthful, hregex⟩ := ms.answer_eq hinj h text hs
    rw [List.any_cons, ← hanswer, answerAny]
    cases hfirst : ms.answer hash text s with
    | mk matched ms' =>
      rw [hfirst] at htruthful hregex
      cases matched with
      | true => exact ⟨rfl, htruthful, hregex⟩
      | false =>
        obtain ⟨hrest, htruthful', hregex'⟩ := ih htruthful
        refine ⟨hrest.trans ?_, htruthful', fun text' => (hregex' text').trans (hregex text')⟩
        simp only [Matchers.accepts, hregex, Bool.false_or]

/-- **A group answers what the expressions of its members say, whatever was asked before.** -/
theorem answer_eq (hinj : Set.InjOn hash asked) (h : ms.Truthful hash asked) (g : Group) {s : String}
    (hs : s ∈ asked) :
    (g.answer hash ms s).1 = g.accepts ms s ∧ (g.answer hash ms s).2.Truthful hash asked ∧
      ∀ text', (g.answer hash ms s).2.regex? text' = ms.regex? text' :=
  answerAny_eq hinj h hs g.members

end Group

theorem Matchers.truthful_ofPatterns {hash : String → Nat} {asked : Set String} {ms : Matchers}
    (h : ms.Truthful hash asked) (patterns : List String) :
    (Group.ofPatterns ms patterns).2.Truthful hash asked := by
  unfold Group.ofPatterns
  generalize Group.empty = g
  induction patterns generalizing g ms with
  | nil => exact h
  | cons text rest ih =>
    unfold Group.collect
    split
    · exact h
    · rename_i m ms' hcompile
      exact ih (truthful_of_compile h hcompile) _

end MetricRouter.Pattern
