import MetricRouter.Pattern.Matcher
import MetricRouter.Proofs.Pattern.Bounds
import MetricRouter.Proofs.Pattern.Reading

/-!
# Anchored patterns

A matcher compiles its pattern between `^(?:` and `)$`, and looks for a match anywhere in a text. For a pattern that is
an expression by itself this is the same as to match the whole text: the pattern becomes the one group between the two
anchors, whatever alternatives it has, and its flags end with that group, so the anchors hold at the ends of the text
only.

* `parse_anchored` — the tree of an anchored pattern;
* `spans_anchored_iff` — what it matches;
* `isMatch_compiled` — a pattern that compiles by itself and between the anchors matches whole texts only.
-/

namespace MetricRouter.Pattern

/-- The tree of an expression between the anchors. -/
def Node.anchored (n : Node) : Node :=
  .concat (.concat (.assertion .startLine) (.group [] false n)) (.assertion .endLine)

/-- An expression between the anchors. -/
def Regex.anchored (r : Regex) : Regex :=
  .concat (.concat (.look .startText) (.group false r)) (.look .endText)

/-- The group that is open behind the opening anchor. -/
def anchorFrame : GroupFrame := ⟨⟨[], [.assertion .startLine]⟩, [], false, false⟩

section Anchored

variable {text : String} {n n' : Node} {r : Regex} {w : List Char}

theorem toList_anchored (text : String) :
    (Matcher.anchored text).toList = '^' :: '(' :: '?' :: ':' :: (text.toList ++ closing) := by
  simp [Matcher.anchored, String.toList_append, closing]

/-- Behind the opening anchor the pattern is read from the start, with one group around it. -/
theorem run_opening (fuel : Nat) (cs : List Char) : Reader.run (fuel + 2) .start ('^' :: '(' :: '?' :: ':' :: cs) =
    Reader.run fuel (Reader.start.within anchorFrame) cs := by
  rfl

/-- The closing ends the group and the text. -/
theorem run_closing (k : Nat) {r : Reader} (h : r.frames = []) :
    ∃ s, Reader.run (k + 2) (r.within anchorFrame) closing = .ok s ∧ s.level.node = r.level.node.anchored := by
  obtain ⟨level, frames, blanks, names⟩ := r
  obtain rfl : frames = [] := h
  have hskip : skip blanks closing = closing := by cases blanks <;> rfl
  let parts : List Node := [.assertion .endLine, .group [] false level.node, .assertion .startLine]
  refine ⟨⟨⟨[], parts⟩, [], false, names⟩, ?_, rfl⟩
  rw [Reader.run, show (Reader.within anchorFrame ⟨level, [], blanks, names⟩).blanks = blanks from rfl, hskip]
  cases k <;> rfl

theorem frames_of_finish {r : Reader} (h : r.finish = .ok n) : r.frames = [] ∧ n = r.level.node := by
  unfold Reader.finish at h
  split at h
  · rename_i hframes
    split at h
    · exact ⟨hframes, (Except.ok.inj h).symm⟩
    · cases h
  · cases h

/-- **The tree of an anchored pattern** is the tree of the pattern between the anchors. -/
theorem parse_anchored (h : Node.parse text = .ok n) (h' : Node.parse (Matcher.anchored text) = .ok n') :
    n' = n.anchored := by
  unfold Node.parse at h h'
  cases hrun : Reader.run text.toList.length .start text.toList with
  | error e => simp [hrun] at h
  | ok r =>
    rw [hrun] at h
    obtain ⟨hframes, rfl⟩ := frames_of_finish h
    have hlength : (Matcher.anchored text).toList.length = text.toList.length + 4 + 2 := by
      simp [toList_anchored, closing]
    have hopening := run_opening (text.toList.length + 4) (text.toList ++ closing)
    rw [← toList_anchored, ← hlength] at hopening
    rw [hopening] at h'
    rcases Reader.run_within (F := anchorFrame) (Nat.le_refl _) (Nat.le_add_right _ 2) (.append _) hrun with
      hopen | ⟨k, hclose⟩
    · -- a comment has swallowed the closing, so the group is still open
      rw [hopen] at h'
      have hnone := (frames_of_finish h').1
      rw [Reader.within, List.append_eq_nil_iff] at hnone
      exact absurd hnone.2 (List.cons_ne_nil _ _)
    · obtain ⟨s, hs, hnode⟩ := run_closing k hframes
      rw [hclose, hs] at h'
      rw [(frames_of_finish h').2, hnode]

theorem ofNode_anchored {f' : Flags} (h : Regex.ofNode {} n = .ok (r, f')) :
    Regex.ofNode {} n.anchored = .ok (r.anchored, {}) := by
  have happly : ({} : Flags).apply [] = {} := rfl
  simp only [Node.anchored, Regex.ofNode, happly, h]
  rfl

/-- **What an anchored expression matches** is the whole text, if the expression matches it. -/
theorem spans_anchored_iff : (∃ i j, Spans w r.anchored i j) ↔ Spans w r 0 w.length := by
  constructor
  · rintro ⟨i, j, h⟩
    cases h with
    | concat first last =>
      cases first with
      | concat opening body =>
        cases opening with
        | look hi hstart =>
          cases last with
          | look hj hend =>
            cases body with
            | group h =>
              have hi0 : i = 0 := by
                simp only [Look.holds, charBefore, Option.isNone_iff_eq_none, ite_eq_left_iff,
                  List.getElem?_eq_none_iff] at hstart
                omega
              have hjlength : j = w.length := by
                simp only [Look.holds, Option.isNone_iff_eq_none, List.getElem?_eq_none_iff] at hend
                omega
              exact hi0 ▸ hjlength ▸ h
  · intro h
    refine ⟨0, w.length, .concat (.concat (.look (Nat.zero_le _) rfl) (.group h)) (.look (Nat.le_refl _) ?_)⟩
    simp [Look.holds]

theorem parts_of_compile (h : Regex.compile text = .ok r) :
    ∃ n f, Node.parse text = .ok n ∧ Regex.ofNode {} n = .ok (r, f) := by
  unfold Regex.compile at h
  split at h
  · cases h
  · rename_i n hparse
    split at h
    · cases h
    · rename_i x f hnode
      split at h
      · exact ⟨n, f, hparse, Except.ok.inj h ▸ hnode⟩
      · cases h

/-- **What a matcher looks for** is the expression of its pattern between the anchors. -/
theorem regex_of_compile {m : Matcher} (hr : Regex.compile text = .ok r) (hm : Matcher.compile text = .ok m) :
    m.regex = r.anchored ∧ r.Ordered := by
  obtain ⟨n, f, hparse, hnode⟩ := parts_of_compile hr
  unfold Matcher.compile at hm
  cases hcompile : Regex.compile (Matcher.anchored text) with
  | error e => simp [hcompile] at hm
  | ok x =>
    rw [hcompile] at hm
    obtain ⟨n', f', hparse', hnode'⟩ := parts_of_compile hcompile
    rw [parse_anchored hparse hparse', ofNode_anchored hnode] at hnode'
    obtain rfl := Except.ok.inj hm
    exact ⟨(Prod.mk.inj (Except.ok.inj hnode')).1.symm, ordered_ofNode hnode (ordered_parse hparse)⟩

/-- **A matcher matches the whole of a text.** For a pattern that is an expression by itself, and compiles between the
anchors, the matcher finds a match in a text exactly if the expression of the pattern matches the text from its first
place to its last. So no alternative, no flag in the pattern and no line break in the text lets a part of it through.
The search from the first place only, for the pattern without the anchors, gives the same answer. -/
theorem isMatch_compiled {m : Matcher} (hr : Regex.compile text = .ok r) (hm : Matcher.compile text = .ok m)
    (candidate : String) :
    (m.regex.isMatch candidate = true ↔ Spans candidate.toList r 0 candidate.toList.length) ∧
      m.regex.isMatch candidate = r.matchesWhole candidate := by
  obtain ⟨hregex, hordered⟩ := regex_of_compile hr hm
  have hanchored : r.anchored.Ordered := ⟨⟨trivial, hordered⟩, trivial⟩
  have hspans : m.regex.isMatch candidate = true ↔ Spans candidate.toList r 0 candidate.toList.length := by
    rw [hregex, isMatch_iff hanchored, spans_anchored_iff]
  exact ⟨hspans, Bool.eq_iff_iff.mpr (hspans.trans (matchesWhole_iff hordered candidate).symm)⟩

/-- A pattern with a flag and two alternatives, each of which matches a line of the text, and none the whole. -/
theorem isMatch_compiled_of_lines :
    let text := "(?m)^a$|b"
    ∃ r m, Regex.compile text = .ok r ∧ Matcher.compile text = .ok m ∧ r.isMatch "a\nb" = true ∧
      ¬ Spans "a\nb".toList r 0 3 ∧ Spans "b".toList r 0 1 := by
  intro text
  have hbare : (Regex.compile text).toOption.any (·.isMatch "a\nb") = true := by decide +kernel
  have hanchored : (Matcher.compile text).toOption.any
      (fun m => !m.regex.isMatch "a\nb" && m.regex.isMatch "b") = true := by decide +kernel
  cases hr : Regex.compile text with
  | error e => simp [hr, Except.toOption] at hbare
  | ok r =>
    cases hm : Matcher.compile text with
    | error e => simp [hm, Except.toOption] at hanchored
    | ok m =>
      simp only [hr, hm, Except.toOption, Option.any_some, Bool.and_eq_true, Bool.not_eq_true'] at hbare hanchored
      refine ⟨r, m, rfl, rfl, hbare, fun hspans => ?_, (isMatch_compiled hr hm "b").1.mp hanchored.2⟩
      exact Bool.eq_false_iff.mp hanchored.1 ((isMatch_compiled hr hm "a\nb").1.mpr hspans)

end Anchored

end MetricRouter.Pattern
