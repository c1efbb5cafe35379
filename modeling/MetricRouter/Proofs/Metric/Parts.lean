import MetricRouter.Metric.Identity
import MetricRouter.Proofs.Metric.Name

/-!
# Names and their parts

A text form is cut at its first `:`, and what stands in front of it at every `/`. So the parts that are read are those
that it joins, and only the metric's own name, which comes last, may have delimiters in it.

* `splitAt_eq_iff` — the pieces between separators have none, and joined they give the text;
* `Plain`, `parse_text`, `exists_text` — parts that can be told apart are read back, and which texts are made of such;
* `parse_of_not_mem`, `parse_of_slash_not_mem` — the other texts, which have no parts;
* `parse_eq_ok_iff`, `exists_parse_iff` — what a text is read as, and which texts can be read;
* `parse_render`, `render_eq_render_iff` — names that are rendered, and when two of them are one;
* `parse_iff_joined`, `parse_render_sanitized` — the main statements.
-/

namespace MetricRouter.Fqn

/-! ## Pieces -/

section Pieces

variable {sep c : Char} {cs piece : List Char} {more : List (List Char)}

theorem splitAt_cons_self : splitAt sep (sep :: cs) = ([], (splitAt sep cs).1 :: (splitAt sep cs).2) := if_pos rfl

theorem splitAt_cons_of_ne (h : c ≠ sep) : splitAt sep (c :: cs) = (c :: (splitAt sep cs).1, (splitAt sep cs).2) :=
  if_neg h

theorem join_splitAt (cs : List Char) :
    (splitAt sep cs).1 ++ (splitAt sep cs).2.flatMap (fun p => sep :: p) = cs := by
  induction cs with
  | nil => rfl
  | cons c rest ih =>
    by_cases h : c = sep
    · subst h
      rw [splitAt_cons_self, List.flatMap_cons, List.cons_append, ih, List.nil_append]
    · rw [splitAt_cons_of_ne h, List.cons_append, ih]

theorem not_mem_of_mem_splitAt : ∀ p ∈ (splitAt sep cs).1 :: (splitAt sep cs).2, sep ∉ p := by
  induction cs with
  | nil => simp [splitAt]
  | cons c rest ih =>
    by_cases h : c = sep
    · subst h
      rw [splitAt_cons_self]
      exact List.forall_mem_cons.mpr ⟨List.not_mem_nil, ih⟩
    · obtain ⟨hfirst, hmore⟩ := List.forall_mem_cons.mp ih
      rw [splitAt_cons_of_ne h]
      exact List.forall_mem_cons.mpr ⟨List.not_mem_cons_of_ne_of_not_mem (Ne.symm h) hfirst, hmore⟩

theorem splitAt_append (h : sep ∉ piece) :
    splitAt sep (piece ++ cs) = (piece ++ (splitAt sep cs).1, (splitAt sep cs).2) := by
  induction piece with
  | nil => rfl
  | cons c rest ih =>
    obtain ⟨hc, hrest⟩ := not_or.mp (mt List.mem_cons.mpr h)
    rw [List.cons_append, splitAt_cons_of_ne (Ne.symm hc), ih hrest]
    rfl

theorem splitAt_flatMap (h : ∀ p ∈ more, sep ∉ p) : splitAt sep (more.flatMap (fun p => sep :: p)) = ([], more) := by
  induction more with
  | nil => rfl
  | cons p rest ih =>
    obtain ⟨hp, hrest⟩ := List.forall_mem_cons.mp h
    rw [List.flatMap_cons, List.cons_append, splitAt_cons_self, splitAt_append hp, ih hrest, List.append_nil]

theorem splitAt_eq_iff :
    splitAt sep cs = (piece, more) ↔
      (∀ p ∈ piece :: more, sep ∉ p) ∧ cs = piece ++ more.flatMap (fun p => sep :: p) := by
  constructor
  · intro h
    have hfree := @not_mem_of_mem_splitAt sep cs
    have hjoin := @join_splitAt sep cs
    rw [h] at hfree hjoin
    exact ⟨hfree, hjoin.symm⟩
  · rintro ⟨hfree, rfl⟩
    obtain ⟨hpiece, hmore⟩ := List.forall_mem_cons.mp hfree
    rw [splitAt_append hpiece, splitAt_flatMap hmore, List.append_nil]

end Pieces

/-! ## Texts -/

/-- Has the text no delimiter? -/
def Free (s : String) : Prop := '/' ∉ s.toList ∧ ':' ∉ s.toList

/-- Can the parts be told apart where they are joined? The metric's own name comes last and may be any text. -/
@[mk_iff]
structure Plain (f : Fqn) : Prop where
  host : Free f.host
  agent : Free f.agent
  segments : ∀ s ∈ f.segments, Free s

/-- What stands in front of the metric's own name. -/
def path (f : Fqn) : List Char := f.host.toList ++ (f.agent :: f.segments).flatMap (fun s => '/' :: s.toList)

section Texts

variable {s : String} {f : Fqn} {front name : List Char}

theorem toList_text (f : Fqn) : f.text.toList = f.path ++ ':' :: f.name.toList := by
  simp [text, path, String.toList_join, List.flatMap_map]

theorem Plain.free_of_mem (h : f.Plain) : ∀ s ∈ f.host :: f.agent :: f.segments, Free s :=
  List.forall_mem_cons.mpr ⟨h.host, List.forall_mem_cons.mpr ⟨h.agent, h.segments⟩⟩

theorem Plain.colon_not_mem_path (h : f.Plain) : ':' ∉ f.path := by
  rw [path, List.mem_append, List.mem_flatMap]
  rintro (hhost | ⟨s, hs, hcolon⟩)
  · exact h.host.2 hhost
  · have hfree := h.free_of_mem s (List.mem_cons_of_mem _ hs)
    exact List.not_mem_cons_of_ne_of_not_mem (by decide) hfree.2 hcolon

theorem Plain.splitAt_path (h : f.Plain) :
    splitAt '/' f.path = (f.host.toList, (f.agent :: f.segments).map String.toList) := by
  refine splitAt_eq_iff.mpr ⟨?_, ?_⟩
  · rw [← List.map_cons]
    intro p hp
    obtain ⟨s, hs, rfl⟩ := List.mem_map.mp hp
    exact (h.free_of_mem s hs).1
  · rw [path, List.flatMap_map]

/-! ## Reading

A text has no `:`, or no `/` in front of the first one, or it is the text form of parts. -/

theorem parse_of_not_mem (h : ':' ∉ s.toList) : parse s = .error (.noMetricName s) := by
  have hnone : s.toList.dropWhile (fun c => c != ':') = [] :=
    List.dropWhile_eq_nil_iff.mpr fun c hc => by simpa using ne_of_mem_of_not_mem hc h
  unfold parse
  simp only [hnone]

theorem cut_append (hfront : ':' ∉ front) :
    (front ++ ':' :: name).takeWhile (fun c => c != ':') = front ∧
      (front ++ ':' :: name).dropWhile (fun c => c != ':') = ':' :: name := by
  have hkept : ∀ c ∈ front, (c != ':') = true := fun c hc => by simpa using ne_of_mem_of_not_mem hc hfront
  rw [List.takeWhile_append_of_pos hkept, List.dropWhile_append_of_pos hkept]
  simp

theorem parse_of_slash_not_mem (hs : s.toList = front ++ ':' :: name) (hfront : ':' ∉ front) (hslash : '/' ∉ front) :
    parse s = .error (.noAgent s) := by
  obtain ⟨htake, hdrop⟩ := @cut_append front name hfront
  have hsplit : splitAt '/' front = (front, []) := splitAt_eq_iff.mpr (by simpa using hslash)
  unfold parse
  simp only [hs, htake, hdrop, hsplit]

theorem parse_text (h : f.Plain) : parse f.text = .ok f := by
  obtain ⟨htake, hdrop⟩ := @cut_append f.path f.name.toList h.colon_not_mem_path
  unfold parse
  simp [toList_text, htake, hdrop, h.splitAt_path]

theorem exists_text (hs : s.toList = front ++ ':' :: name) (hfront : ':' ∉ front) (hslash : '/' ∈ front) :
    ∃ f : Fqn, f.Plain ∧ s = f.text := by
  obtain ⟨host, more, hsplit⟩ : ∃ host more, splitAt '/' front = (host, more) := ⟨_, _, rfl⟩
  obtain ⟨hpieces, hjoin⟩ := splitAt_eq_iff.mp hsplit
  cases more with
  | nil =>
    rw [hjoin, List.flatMap_nil, List.append_nil] at hslash
    exact absurd hslash (hpieces host List.mem_cons_self)
  | cons agent segments =>
    have hinside : ∀ p ∈ host :: agent :: segments, p ⊆ front := fun p hp c hc => by
      rw [hjoin]
      rcases List.mem_cons.mp hp with rfl | hp
      · exact List.mem_append_left _ hc
      · exact List.mem_append_right _ (List.mem_flatMap.mpr ⟨p, hp, List.mem_cons_of_mem _ hc⟩)
    -- a piece has no `/` since it was cut there, and no `:` since it stands in front of the first one
    have hfree : ∀ p ∈ host :: agent :: segments, Free (String.ofList p) := fun p hp => by
      rw [Free, String.toList_ofList]
      exact ⟨hpieces p hp, fun hcolon => hfront (hinside p hp hcolon)⟩
    obtain ⟨hhost, hagent, hsegments⟩ : Free (String.ofList host) ∧ Free (String.ofList agent) ∧
        ∀ p ∈ segments, Free (String.ofList p) := by
      simpa only [List.forall_mem_cons] using hfree
    refine ⟨⟨String.ofList host, String.ofList agent, segments.map String.ofList, String.ofList name⟩,
      ⟨hhost, hagent, List.forall_mem_map.mpr hsegments⟩, ?_⟩
    apply String.toList_inj.mp
    rw [toList_text, hs, hjoin]
    simp [path, List.flatMap_map]

/-- The parts that are read are those that the text joins. -/
theorem parse_eq_ok_iff : parse s = .ok f ↔ f.Plain ∧ s = f.text := by
  constructor
  · intro h
    by_cases hcolon : ':' ∈ s.toList
    · obtain ⟨front, name, hs, hfront⟩ := List.eq_append_cons_of_mem hcolon
      by_cases hslash : '/' ∈ front
      · obtain ⟨g, hg, rfl⟩ := exists_text hs hfront hslash
        obtain rfl : g = f := Except.ok.inj ((parse_text hg).symm.trans h)
        exact ⟨hg, rfl⟩
      · rw [parse_of_slash_not_mem hs hfront hslash] at h
        exact absurd h (by simp)
    · rw [parse_of_not_mem hcolon] at h
      exact absurd h (by simp)
  · rintro ⟨hplain, rfl⟩
    exact parse_text hplain

theorem exists_parse_iff :
    (∃ f, parse s = .ok f) ↔ ':' ∈ s.toList ∧ s.toList.idxOf '/' < s.toList.idxOf ':' := by
  constructor
  · rintro ⟨f, hf⟩
    obtain ⟨hplain, rfl⟩ := parse_eq_ok_iff.mp hf
    have hslash : '/' ∈ f.path := by simp [path]
    rw [toList_text, List.idxOf_append_of_mem hslash, List.idxOf_append_of_notMem hplain.colon_not_mem_path,
      List.idxOf_cons_self, Nat.add_zero]
    exact ⟨by simp, List.idxOf_lt_length_of_mem hslash⟩
  · rintro ⟨hcolon, hbefore⟩
    obtain ⟨front, name, hs, hfront⟩ := List.eq_append_cons_of_mem hcolon
    have hslash : '/' ∈ front := by
      by_contra hnone
      rw [hs, List.idxOf_append_of_notMem hnone, List.idxOf_append_of_notMem hfront, List.idxOf_cons_self] at hbefore
      exact Nat.not_lt_zero _ (Nat.lt_of_add_lt_add_left hbefore)
    obtain ⟨f, hf, rfl⟩ := exists_text hs hfront hslash
    exact ⟨f, parse_text hf⟩

end Texts

/-- **What a text is read as.** A text has parts exactly if it has a `:` and a `/` in front of the first one. Its parts
are the ones that it joins as they stand, with no delimiter in any of them but the metric's own name; any of them may
be empty. -/
theorem parse_iff_joined (s : String) :
    ((∃ f, parse s = .ok f) ↔ ':' ∈ s.toList ∧ s.toList.idxOf '/' < s.toList.idxOf ':') ∧
    ∀ f, parse s = .ok f ↔
      (Free f.host ∧ Free f.agent ∧ ∀ segment ∈ f.segments, Free segment) ∧
        s = f.host ++ "/" ++ f.agent ++ String.join (f.segments.map (fun segment => "/" ++ segment)) ++ ":" ++
          f.name :=
  ⟨exists_parse_iff, fun f => parse_eq_ok_iff.trans (and_congr_left' (plain_iff f))⟩

/-- Empty parts, and delimiters in the metric's own name. -/
example : parse "h//x/:a/b:" = .ok ⟨"h", "", ["x", ""], "a/b:"⟩ := by decide

/-! ## Rendered names -/

section Rendered

variable {host agent name : String} {segments : List String}

theorem fit_ne_delimiter (c : Char) : fit c ≠ '/' ∧ fit c ≠ ':' := by
  unfold fit
  split
  · decide
  · rename_i h
    simpa [isDelimiter] using h

theorem free_sanitize (s : String) : Free (sanitize s) := by
  cases h : isBlankText s with
  | true =>
    rw [sanitize_of_blank h]
    exact ⟨by decide, by decide⟩
  | false =>
    rw [Free, toList_sanitize h]
    simp only [List.mem_map, not_exists, not_and]
    exact ⟨fun c _ => (fit_ne_delimiter c).1, fun c _ => (fit_ne_delimiter c).2⟩

theorem plain_ofRaw : (ofRaw host agent name segments).Plain where
  host := free_sanitize host
  agent := free_sanitize agent
  segments := List.forall_mem_map.mpr fun s _ => free_sanitize s

/-- A name is read back as the sanitized identifiers. -/
theorem parse_render : parse (render host agent name segments) = .ok (ofRaw host agent name segments) :=
  parse_text plain_ofRaw

theorem ofRaw_sanitize :
    ofRaw (sanitize host) (sanitize agent) (sanitize name) (sanitizeNamespace segments) =
      ofRaw host agent name segments := by
  rw [ofRaw, sanitize_sanitize, sanitize_sanitize, sanitize_sanitize, sanitizeNamespace_sanitizeNamespace, ofRaw]

/-- Names are told apart by the sanitized identifiers. -/
theorem render_eq_render_iff {host' agent' name' : String} {segments' : List String} :
    render host agent name segments = render host' agent' name' segments' ↔
      ofRaw host agent name segments = ofRaw host' agent' name' segments' := by
  refine ⟨fun h => ?_, fun h => congrArg text h⟩
  have hparse := @parse_render host agent name segments
  rw [h, parse_render] at hparse
  exact (Except.ok.inj hparse).symm

end Rendered

/-- **A name stands for the sanitized identifiers.** It is read back as these, and rendering them gives the name again.
So two lists of identifiers have one name exactly if they are the same once sanitized, and an identity that is made of
identifiers has their name and its parts. -/
theorem parse_render_sanitized (host agent name : String) (segments : List String) :
    parse (render host agent name segments) =
      .ok ⟨sanitize host, sanitize agent, sanitizeNamespace segments, sanitize name⟩ ∧
    render (sanitize host) (sanitize agent) (sanitize name) (sanitizeNamespace segments) =
      render host agent name segments ∧
    (∀ host' agent' name' segments', render host agent name segments = render host' agent' name' segments' ↔
      sanitize host = sanitize host' ∧ sanitize agent = sanitize agent' ∧
        sanitizeNamespace segments = sanitizeNamespace segments' ∧ sanitize name = sanitize name') ∧
    ∀ (ts : Tokens) (type : MetricType), (ts.create host agent name type segments).1 =
      { serial := ts.created, host := sanitize host, agent := sanitize agent,
        segments := sanitizeNamespace segments, name := sanitize name, type := type,
        fqn := render host agent name segments } := by
  refine ⟨parse_render, congrArg text ofRaw_sanitize, fun host' agent' name' segments' => ?_, fun ts type => ?_⟩
  · rw [render_eq_render_iff, ofRaw, ofRaw, mk.injEq]
  · rw [Tokens.create, render_sanitizeNamespace]

end MetricRouter.Fqn
