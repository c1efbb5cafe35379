import MetricRouter.Pattern.Group

/-!
# Answers are final

Whatever a memo holds, right or wrong, a matcher repeats itself: what it has answered for a name it answers from then
on, whatever else it is asked. So does a group.

* `Matcher.recalled?`, `Matcher.Later`, `Matcher.later_answer` — what a memo holds on a key, and that it stays;
* `Matchers.Later`, `Matchers.Settled`, `Matchers.later_answer`, `Matchers.answer_of_settled` — the same for shared
  matchers;
* `Group.later_answer`, `Group.answer_of_later` — a group, asked again.
-/

namespace MetricRouter.Pattern

/-! ## One matcher -/

namespace Matcher

/-- The answer that the memo holds on a key, if there is one. -/
def recalled? (m : Matcher) (key : Nat) : Option Bool :=
  if m.hits.contains key then some true else if m.misses.contains key then some false else none

/-- **A later state of a matcher**: the same expression, and all answers of before. -/
structure Later (m m' : Matcher) : Prop where
  regex : m'.regex = m.regex
  recalls : ∀ {key yes}, m.recalled? key = some yes → m'.recalled? key = some yes

variable {hash : String → Nat} {m m' m'' : Matcher} {s : String} {yes : Bool}

theorem Later.refl (m : Matcher) : m.Later m := ⟨rfl, id⟩

theorem Later.trans (h : m.Later m') (h' : m'.Later m'') : m.Later m'' :=
  ⟨h'.regex.trans h.regex, fun hkey => h'.recalls (h.recalls hkey)⟩

theorem answer_of_recalled (h : m.recalled? (hash s) = some yes) : m.answer hash s = (yes, m) := by
  unfold recalled? at h
  unfold answer
  simp only
  split at h
  · rename_i hhit
    rw [if_pos hhit, Option.some.inj h]
  · rename_i hhit
    split at h
    · rename_i hmiss
      rw [if_neg hhit, if_pos hmiss, Option.some.inj h]
    · cases h

/-- **A matcher that is asked remembers its answer**, and forgets none. -/
theorem later_answer (h : m.answer hash s = (yes, m')) : m.Later m' ∧ m'.recalled? (hash s) = some yes := by
  cases hrecalled : m.recalled? (hash s) with
  | some known =>
    rw [answer_of_recalled hrecalled] at h
    obtain ⟨rfl, rfl⟩ := Prod.mk.inj h
    exact ⟨.refl m, hrecalled⟩
  | none =>
    have hnew : ¬ m.hits.contains (hash s) = true ∧ ¬ m.misses.contains (hash s) = true := by
      unfold recalled? at hrecalled
      split at hrecalled
      · cases hrecalled
      · split at hrecalled
        · cases hrecalled
        · exact ⟨‹_›, ‹_›⟩
    -- a key of which the memo holds an answer is not the new one
    have hold : ∀ {key yes}, m.recalled? key = some yes → key ≠ hash s := by
      rintro key yes hkey rfl
      rw [hrecalled] at hkey
      cases hkey
    unfold answer at h
    simp only [if_neg hnew.1, if_neg hnew.2] at h
    split at h <;> obtain ⟨rfl, rfl⟩ := Prod.mk.inj h
    · refine ⟨⟨rfl, fun {key yes} hkey => ?_⟩, ?_⟩
      · rw [← hkey]
        simp [recalled?, hold hkey]
      · simp [recalled?]
    · refine ⟨⟨rfl, fun {key yes} hkey => ?_⟩, ?_⟩
      · rw [← hkey]
        simp [recalled?, hold hkey]
      · unfold recalled?
        rw [if_neg hnew.1]
        simp

end Matcher

/-! ## Shared matchers -/

namespace Matchers

/-- **Later states of all matchers**, of which there are the same. -/
def Later (ms ms' : Matchers) : Prop := ∀ text, Option.Rel Matcher.Later (ms.get? text) (ms'.get? text)

/-- The matcher of a pattern has answered for a text. A pattern that has none answers that it does not match. -/
def Settled (hash : String → Nat) (ms : Matchers) (text s : String) (yes : Bool) : Prop :=
  ((ms.get? text).elim (some false) (fun m => m.recalled? (hash s))) = some yes

variable {hash : String → Nat} {ms ms' ms'' : Matchers} {text s : String} {yes : Bool}

theorem Later.refl (ms : Matchers) : ms.Later ms := fun text => by
  cases ms.get? text with
  | none => exact .none
  | some m => exact .some (.refl m)

theorem Later.trans (h : ms.Later ms') (h' : ms'.Later ms'') : ms.Later ms'' := fun text => by
  have hfirst := h text
  have hthen := h' text
  generalize ms.get? text = o, ms'.get? text = o', ms''.get? text = o'' at hfirst hthen ⊢
  cases hfirst with
  | none => exact hthen
  | some hm =>
    cases hthen with
    | some hm' => exact .some (hm.trans hm')

theorem Settled.of_later (h : ms.Settled hash text s yes) (hlater : ms.Later ms') : ms'.Settled hash text s yes := by
  have hmatcher := hlater text
  unfold Settled at h ⊢
  generalize ms.get? text = o, ms'.get? text = o' at hmatcher h ⊢
  cases hmatcher with
  | none => exact h
  | some hm => exact hm.recalls h

theorem answer_of_settled (h : ms.Settled hash text s yes) : (ms.answer hash text s).1 = yes := by
  unfold Settled at h
  unfold answer
  split
  · rename_i hnone
    rw [hnone] at h
    exact Option.some.inj h
  · rename_i m hm
    rw [hm] at h
    rw [Matcher.answer_of_recalled h]

/-- **Matchers that are asked remember their answer**, and forget none. -/
theorem later_answer (h : ms.answer hash text s = (yes, ms')) : ms.Later ms' ∧ ms'.Settled hash text s yes := by
  unfold answer at h
  split at h
  · rename_i hnone
    obtain ⟨rfl, rfl⟩ := Prod.mk.inj h
    refine ⟨.refl ms, ?_⟩
    rw [Settled, hnone]
    rfl
  · rename_i m hm
    obtain ⟨rfl, rfl⟩ := Prod.mk.inj h
    have hasked : m.answer hash s = ((m.answer hash s).1, (m.answer hash s).2) := rfl
    obtain ⟨hlater, hrecalled⟩ := Matcher.later_answer hasked
    refine ⟨fun text' => ?_, ?_⟩
    · rw [Table.get?_insert]
      split
      · rename_i htext
        rw [← htext, hm]
        exact .some hlater
      · exact Later.refl ms text'
    · rw [Settled, Table.get?_insert, if_pos rfl]
      exact hrecalled

end Matchers

/-! ## Groups -/

namespace Group

variable {hash : String → Nat} {ms ms' ms'' : Matchers} {s : String} {yes : Bool}

theorem later_answerAny {texts : List String} (h : answerAny hash s texts ms = (yes, ms')) : ms.Later ms' := by
  induction texts generalizing ms with
  | nil =>
    obtain ⟨-, rfl⟩ := Prod.mk.inj h
    exact .refl ms
  | cons text rest ih =>
    rw [answerAny] at h
    cases hasked : ms.answer hash text s with
    | mk first next =>
      rw [hasked] at h
      have hnext : ms.Later next := (Matchers.later_answer hasked).1
      cases first with
      | true =>
        obtain ⟨-, rfl⟩ := Prod.mk.inj h
        exact hnext
      | false => exact hnext.trans (ih h)

theorem answerAny_of_later {texts : List String} (h : answerAny hash s texts ms = (yes, ms'))
    (hlater : ms'.Later ms'') : (answerAny hash s texts ms'').1 = yes := by
  induction texts generalizing ms ms'' with
  | nil => exact congrArg Prod.fst h
  | cons text rest ih =>
    rw [answerAny] at h
    cases hasked : ms.answer hash text s with
    | mk first next =>
      rw [hasked] at h
      obtain ⟨-, hsettled⟩ := Matchers.later_answer hasked
      cases hagain : ms''.answer hash text s with
      | mk second next'' =>
        have hnext : ms''.Later next'' := (Matchers.later_answer hagain).1
        rw [answerAny, hagain]
        cases first with
        | true =>
          obtain ⟨rfl, rfl⟩ := Prod.mk.inj h
          have hsame := Matchers.answer_of_settled (hsettled.of_later hlater)
          rw [hagain] at hsame
          rw [show second = true from hsame]
        | false =>
          have hsame := Matchers.answer_of_settled (hsettled.of_later ((later_answerAny h).trans hlater))
          rw [hagain] at hsame
          rw [show second = false from hsame]
          exact ih h (hlater.trans hnext)

theorem later_answer {g : Group} (h : g.answer hash ms s = (yes, ms')) : ms.Later ms' := later_answerAny h

/-- **A group repeats its answers**, whatever it is asked in between. -/
theorem answer_of_later {g : Group} (h : g.answer hash ms s = (yes, ms')) (hlater : ms'.Later ms'') :
    (g.answer hash ms'' s).1 = yes :=
  answerAny_of_later h hlater

end Group

end MetricRouter.Pattern
