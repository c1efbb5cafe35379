import MetricRouter.Pattern.Reader
import MetricRouter.Proofs.Pattern.Tokens

/-!
# Reading a text that goes on

The reader goes through a pattern in front of what closes its anchors as it goes through the pattern alone, with one
more group around all that is open. Where it has come to the end of the pattern, the closing is left.

* `onward_readSetStart`, `readAscii?_append`, `peek_append` — the parts of a class;
* `SetReader.step_append`, `SetReader.onward_run`, `steady_readSet` — classes;
* `Reader.within`, `onward_step` — one token of an expression, with one more group around it;
* `run_within` — a whole expression.
-/

namespace MetricRouter.Pattern

/-! ## Character classes -/

section Classes

variable {blanks : Bool} {fuel fuel' : Nat} {c d : Char} {cs cs' tl rest : List Char}

theorem onward_readLeadingMembers (blanks : Bool) (members : List ClassSet) (hcs : Goes cs cs')
    (hfuel : cs.length ≤ fuel) (hfuel' : cs.length ≤ fuel') :
    Onward cs.length (readLeadingMembers blanks fuel members cs) (readLeadingMembers blanks fuel' members cs') := by
  induction fuel generalizing fuel' members cs cs' with
  | zero =>
    rw [List.length_eq_zero_iff.mp (Nat.le_zero.mp hfuel), readLeadingMembers]
    exact .error
  | succ fuel ih =>
    cases cs with
    | nil =>
      rw [readLeadingMembers]
      exact .error
    | cons c tl =>
      have hskip := length_skip_le blanks tl
      rw [List.length_cons] at hfuel hfuel'
      cases fuel' with
      | zero => omega
      | succ fuel' =>
        rw [hcs.of_cons]
        by_cases hhyphen : c = '-'
        · subst hhyphen
          simp only [readLeadingMembers]
          exact (ih _ (goes_skip blanks tl) (by omega) (by omega)).mono (Nat.le_succ_of_le hskip)
        · by_cases hbracket : c = ']'
          · subst hbracket
            simp only [readLeadingMembers]
            split
            · cases hs : skip blanks tl with
              | nil => exact .error
              | cons d ds =>
                rw [skip_append hs]
                exact .ok (Nat.le_succ_of_le (hs ▸ hskip)) (.append (d :: ds))
            · exact .ok (Nat.le_refl _) (.append (']' :: tl))
          · have hread : ∀ fuel tl, readLeadingMembers blanks (fuel + 1) members (c :: tl) = .ok (members, c :: tl) :=
              fun fuel tl => by simp [readLeadingMembers, hhyphen, hbracket]
            rw [hread, hread]
            exact .ok (Nat.le_refl _) (.append (c :: tl))

theorem onward_readSetStart (blanks : Bool) (cs : List Char) :
    Onward cs.length (paired (readSetStart blanks cs)) (paired (readSetStart blanks (cs ++ closing))) := by
  have hleading {more more' : List Char} (hmore : Goes more more') (hle : more.length ≤ cs.length) :=
    (onward_readLeadingMembers blanks [] hmore (Nat.le_refl _) hmore.length_le).mono hle
  cases hs : skip blanks cs with
  | nil =>
    have herror : readSetStart blanks cs = .error .classUnclosed := by rw [readSetStart, hs]
    exact .of_eq (congrArg paired herror)
  | cons c tl =>
    have hlength := length_lt_of_skip hs
    have hs' := skip_append hs
    by_cases hcaret : c = '^'
    · subst hcaret
      have hskip := Nat.le_trans (length_skip_le blanks tl) (Nat.le_of_lt hlength)
      simp only [readSetStart, hs, hs', paired_map]
      exact (hleading (goes_skip blanks tl) hskip).map fun members => (true, members)
    · have hread {cs tl : List Char} (h : skip blanks cs = c :: tl) : readSetStart blanks cs =
          (readLeadingMembers blanks (c :: tl).length [] (c :: tl)).map fun p => (false, p.1, p.2) := by
        simp [readSetStart, h, hcaret]
      rw [hread hs, hread hs', paired_map, paired_map]
      exact (hleading (.append (c :: tl)) hlength).map fun members => (false, members)

theorem dropWhile_colon_append (cs : List Char) :
    (cs ++ closing).dropWhile (fun c => c != ':') =
      if (cs.dropWhile fun c => c != ':').isEmpty then [] else (cs.dropWhile fun c => c != ':') ++ closing := by
  rw [List.dropWhile_append]
  rfl

theorem takeWhile_colon_append (h : cs.dropWhile (fun c => c != ':') = c :: tl) :
    (cs ++ closing).takeWhile (fun c => c != ':') = cs.takeWhile fun c => c != ':' := by
  rw [List.takeWhile_append, if_neg]
  intro heq
  have hlength : _ = cs.length :=
    congrArg List.length (List.takeWhile_append_dropWhile (p := fun c => c != ':') (l := cs))
  rw [List.length_append, heq, h] at hlength
  simp at hlength

/-- The name of a class up to its closing, in a class such as `[:alpha:]`. -/
def readAsciiName? (negated : Bool) (cs : List Char) : Option (ClassSet × List Char) :=
  match cs.dropWhile (fun c => c != ':') with
  | ':' :: ']' :: rest =>
    (AsciiKind.ofName? (String.ofList (cs.takeWhile (fun c => c != ':')))).map fun kind => (.ascii kind negated, rest)
  | _ => none

theorem readAsciiName?_append (negated : Bool) (cs : List Char) :
    readAsciiName? negated (cs ++ closing) = (readAsciiName? negated cs).map fun p => (p.1, p.2 ++ closing) := by
  unfold readAsciiName?
  rw [dropWhile_colon_append]
  cases hd : cs.dropWhile (fun c => c != ':') with
  | nil => rfl
  | cons c tl =>
    rw [takeWhile_colon_append hd]
    by_cases hclosed : ∃ more, c :: tl = ':' :: ']' :: more
    · obtain ⟨more, heq⟩ := hclosed
      rw [heq]
      cases AsciiKind.ofName? (String.ofList (cs.takeWhile fun c => c != ':')) <;> rfl
    · have hnone : ∀ more, c :: (tl ++ closing) ≠ ':' :: ']' :: more := fun more heq => by
        cases tl with
        | nil => simp [closing] at heq
        | cons d ds =>
          simp only [List.cons_append, List.cons.injEq] at heq
          exact hclosed ⟨ds, by rw [heq.1, heq.2.1]⟩
      split
      · rename_i more heq
        exact absurd heq (hnone more)
      · split
        · rename_i more heq
          exact absurd ⟨more, heq⟩ hclosed
        · rfl

theorem length_readAsciiName?_le {negated : Bool} {m : ClassSet} (h : readAsciiName? negated cs = some (m, rest)) :
    rest.length ≤ cs.length := by
  unfold readAsciiName? at h
  split at h
  · rename_i more heq
    obtain ⟨kind, -, hkind⟩ := Option.map_eq_some_iff.mp h
    have hlength := (List.dropWhile_suffix (fun c => c != ':') (l := cs)).length_le
    rw [heq, (Prod.mk.inj hkind).2] at hlength
    exact Nat.le_of_succ_le (Nat.le_of_succ_le hlength)
  · cases h

theorem readAscii?_of_colon (h : ∀ more, tl ≠ '^' :: more) : readAscii? (':' :: tl) = readAsciiName? false tl := by
  unfold readAscii?
  split
  · rename_i more heq
    exact absurd (List.cons.inj heq).2 (h more)
  · rename_i more _ heq
    rw [← (List.cons.inj heq).2]
    rfl
  · rename_i hne
    exact absurd rfl (hne tl)

theorem readAscii?_of_ne (h : ∀ tl, cs ≠ ':' :: tl) : readAscii? cs = none := by
  unfold readAscii?
  split
  · exact absurd rfl (h _)
  · exact absurd rfl (h _)
  · rfl

theorem readAscii?_append (cs : List Char) :
    readAscii? (cs ++ closing) = (readAscii? cs).map fun p => (p.1, p.2 ++ closing) := by
  by_cases hcolon : ∃ tl, cs = ':' :: tl
  · obtain ⟨tl, rfl⟩ := hcolon
    by_cases hcaret : ∃ more, tl = '^' :: more
    · obtain ⟨more, rfl⟩ := hcaret
      exact readAsciiName?_append true more
    · have hne : ∀ more, tl ≠ '^' :: more := fun more heq => hcaret ⟨more, heq⟩
      rw [List.cons_append, readAscii?_of_colon hne, readAscii?_of_colon ((Goes.append tl).ne_cons (by decide) hne)]
      exact readAsciiName?_append false tl
  · have hne : ∀ tl, cs ≠ ':' :: tl := fun tl heq => hcolon ⟨tl, heq⟩
    rw [readAscii?_of_ne hne, readAscii?_of_ne ((Goes.append cs).ne_cons (by decide) hne)]
    rfl

theorem length_readAscii?_le {m : ClassSet} (h : readAscii? cs = some (m, rest)) : rest.length ≤ cs.length := by
  unfold readAscii? at h
  split at h
  · exact Nat.le_succ_of_le (Nat.le_succ_of_le (length_readAsciiName?_le h))
  · exact Nat.le_succ_of_le (length_readAsciiName?_le h)
  · cases h

theorem steady_readMember (blanks : Bool) : Steady (readMember blanks) := by
  intro cs
  cases cs with
  | nil => exact .error
  | cons c tl =>
    by_cases hslash : c = '\\'
    · subst hslash
      exact (steady_readEscape blanks tl).mono (Nat.le_succ _)
    · have hread : ∀ tl, readMember blanks (c :: tl) = .ok (.literal ⟨c, false⟩, tl) :=
        fun tl => by simp only [readMember]
      rw [List.cons_append, hread, hread]
      exact .ok (Nat.le_succ _) (.append tl)

theorem peekPast_append (inComment : Bool) (cs : List Char) :
    peekPast inComment (cs ++ closing) = (peekPast inComment cs).or (some ')') := by
  induction cs generalizing inComment with
  | nil => cases inComment <;> rfl
  | cons c tl ih =>
    rw [List.cons_append, peekPast, peekPast]
    split
    · exact ih _
    · split
      · exact ih _
      · rfl

theorem peekPast_ne_none (hd : d = ']' ∨ d = '-') : peekPast false (d :: tl) ≠ none := by
  rcases hd with rfl | rfl <;> simp [peekPast, Text.isBlank]

theorem peek_append (hd : d = ']' ∨ d = '-') : peek blanks (cs ++ closing) = some d ↔ peek blanks cs = some d := by
  have hparen : d ≠ ')' := by rcases hd with rfl | rfl <;> decide
  cases blanks with
  | false =>
    cases cs with
    | nil => simp [peek, closing, hparen.symm]
    | cons c tl => rfl
  | true =>
    simp only [peek, if_true, peekPast_append]
    cases hpast : peekPast false cs with
    | some e => rfl
    | none =>
      cases cs with
      | nil => simp [hparen.symm]
      | cons c tl =>
        have hc : c ≠ d := fun heq => peekPast_ne_none hd (heq ▸ hpast)
        simp [hparen.symm, hc]

theorem steady_readRange (blanks : Bool) : Steady (readRange blanks) := by
  intro cs
  cases hread : readMember blanks cs with
  | error e =>
    exact .of_eq (by rw [readRange, hread])
  | ok p =>
    obtain ⟨first, rest⟩ := p
    obtain ⟨hle, rest', hread', hgoes⟩ := (steady_readMember blanks cs).again hread
    -- what is left stands alone
    have hsingle {tl : List Char} (htl : tl.length ≤ cs.length) : Onward cs.length
        (first.member.map fun m => (m, tl)) (first.member.map fun m => (m, tl ++ closing)) := by
      cases first.member with
      | error e => exact .error
      | ok m => exact .ok htl (.append tl)
    cases hs : skip blanks rest with
    | nil =>
      have herror : readRange blanks cs = .error .classUnclosed := by simp only [readRange, hread, hs]
      exact .of_eq herror
    | cons c tl =>
      have hs' := hgoes.skip_cons hs
      have hlength := length_lt_of_skip hs
      by_cases hhyphen : c = '-'
      · subst hhyphen
        simp only [readRange, hread, hread', hs, hs', peek_append (Or.inl rfl), peek_append (Or.inr rfl)]
        split
        · have htl : ('-' :: tl).length ≤ cs.length := Nat.le_trans hlength hle
          exact hsingle htl
        · cases hmore : skip blanks tl with
          | nil => exact .error
          | cons d ds =>
            rw [skip_append hmore]
            cases hlast : readMember blanks (d :: ds) with
            | error e =>
              simp only [hlast]
              exact .error
            | ok p =>
              obtain ⟨last, left⟩ := p
              obtain ⟨hleft, left', hlast', hmoreGoes⟩ := (steady_readMember blanks (d :: ds)).again hlast
              have hds := length_lt_of_skip hmore
              rw [List.cons_append] at hlast'
              rw [List.length_cons] at hleft
              simp only [hlast, hlast']
              split
              · split
                · exact .ok (by omega) hmoreGoes
                · exact .error
              · exact .error
      · have hread {cs rest tl : List Char} (h : readMember blanks cs = .ok (first, rest))
            (hs : skip blanks rest = c :: tl) : readRange blanks cs = first.member.map fun m => (m, c :: tl) := by
          simp [readRange, h, hs, hhyphen]
        rw [hread ‹_› hs, hread hread' hs']
        exact hsingle (Nat.le_trans hlength hle)

/-- **One step leads to another** with the same outcome, and what is left, at most so many characters, goes on. -/
inductive SetStep.GoesOn (n : Nat) : SetStep → SetStep → Prop where
  | more {reader : SetReader} {rest rest' : List Char} (fewer : rest.length ≤ n) (goes : Goes rest rest') :
      GoesOn n (.more reader rest) (.more reader rest')
  | closed {negated : Bool} {set : ClassSet} {rest rest' : List Char} (fewer : rest.length ≤ n)
      (goes : Goes rest rest') : GoesOn n (.closed negated set rest) (.closed negated set rest')

/-- The characters that make an operation when they are doubled. -/
def isOperator (c : Char) : Bool := c = '&' || c = '-' || c = '~'

theorem SetReader.step_of_range {r : SetReader} (hs : skip blanks cs = c :: tl) (hopen : c ≠ '[') (hclose : c ≠ ']')
    (hop : ∀ more, tl = c :: more → isOperator c = false) : r.step blanks cs =
      match readRange blanks (c :: tl) with
      | .error e => .error e
      | .ok (m, rest) => .ok (.more ⟨m :: r.members, r.frames⟩ rest) := by
  simp only [step, hs]
  split
  case h_1 heq => cases heq
  case h_2 heq => exact absurd (List.cons.inj heq).1 hopen
  case h_3 heq => exact absurd (List.cons.inj heq).1 hclose
  case h_7 => rfl
  all_goals
    rename_i heq
    obtain ⟨rfl, rfl⟩ := List.cons.inj heq
    exact absurd (hop _ rfl) (by decide)

/-- **One token of a class is read the same** when the text goes on. -/
theorem SetReader.step_append {r : SetReader} {s : SetStep} (h : r.step blanks cs = .ok s) :
    ∃ s', r.step blanks (cs ++ closing) = .ok s' ∧ s.GoesOn cs.length s' := by
  cases hs : skip blanks cs with
  | nil => simp [step, hs] at h
  | cons c tl =>
    have hs' := skip_append hs
    have hlength := length_lt_of_skip hs
    by_cases hopen : c = '['
    · subst hopen
      simp only [step, hs, hs', readAscii?_append] at h ⊢
      cases hascii : readAscii? tl with
      | some p =>
        simp only [hascii, Except.ok.injEq, Option.map_some] at h ⊢
        exact ⟨_, rfl, h ▸ .more (Nat.le_trans (length_readAscii?_le hascii) (Nat.le_of_lt hlength)) (.append p.2)⟩
      | none =>
        simp only [hascii, Option.map_none] at h ⊢
        cases hstart : readSetStart blanks tl with
        | error e => simp [hstart] at h
        | ok p =>
          obtain ⟨negated, members, rest⟩ := p
          obtain ⟨hle, rest', hstart', hgoes⟩ := (onward_readSetStart blanks tl).unpaired hstart
          simp only [hstart, hstart', Except.ok.injEq] at h ⊢
          exact ⟨_, rfl, h ▸ .more (Nat.le_trans hle (Nat.le_of_lt hlength)) hgoes⟩
    · by_cases hclose : c = ']'
      · subst hclose
        simp only [step, hs, hs'] at h ⊢
        split at h
        · rw [Except.ok.injEq] at h
          exact ⟨_, rfl, h ▸ .closed (Nat.le_of_lt hlength) (.append tl)⟩
        · rw [Except.ok.injEq] at h
          exact ⟨_, rfl, h ▸ .more (Nat.le_of_lt hlength) (.append tl)⟩
        · cases h
      · by_cases hop : isOperator c = true ∧ ∃ more, tl = c :: more
        · obtain ⟨hop, more, rfl⟩ := hop
          have hmore := Nat.le_of_lt (Nat.lt_of_succ_lt hlength)
          simp only [isOperator, Bool.or_eq_true, decide_eq_true_iff] at hop
          rcases hop with (rfl | rfl) | rfl
          all_goals
            simp only [step, hs, hs', List.cons_append, Except.ok.injEq] at h ⊢
            exact ⟨_, rfl, h ▸ .more hmore (.append more)⟩
        · have hbare : ∀ more, tl = c :: more → isOperator c = false := fun more htl =>
            Bool.eq_false_iff.mpr fun hc => hop ⟨hc, more, htl⟩
          have hclosed : ∀ more, tl ++ closing = c :: more → isOperator c = false := fun more htl => by
            cases tl with
            | nil => exact (List.cons.inj htl).1 ▸ by decide
            | cons d ds => exact hbare ds ((List.cons.inj htl).1 ▸ rfl)
          rw [step_of_range hs hopen hclose hbare] at h
          rw [step_of_range hs' hopen hclose hclosed]
          cases hrange : readRange blanks (c :: tl) with
          | error e => simp [hrange] at h
          | ok p =>
            obtain ⟨m, rest⟩ := p
            obtain ⟨hle, rest', hrange', hgoes⟩ := (steady_readRange blanks (c :: tl)).again hrange
            rw [List.cons_append] at hrange'
            simp only [hrange, hrange', Except.ok.injEq] at h ⊢
            exact ⟨_, rfl, h ▸ .more (Nat.le_trans hle hlength) hgoes⟩

theorem SetReader.onward_run {r : SetReader} (hfuel : fuel ≤ fuel') (hcs : Goes cs cs') :
    Onward cs.length (paired (run blanks fuel r cs)) (paired (run blanks fuel' r cs')) := by
  induction fuel generalizing fuel' r cs cs' with
  | zero => exact .error
  | succ fuel ih =>
    obtain ⟨fuel', rfl⟩ := Nat.exists_eq_add_of_le' (Nat.le_of_add_left_le hfuel)
    rw [run, run]
    rcases hcs with rfl | ⟨rfl, -⟩
    · cases hstep : r.step blanks cs with
      | error e => exact .error
      | ok s =>
        obtain ⟨s', hstep', hgoes⟩ := step_append hstep
        rw [hstep']
        cases hgoes with
        | closed fewer goes => exact .ok fewer goes
        | more fewer goes => exact (ih (Nat.le_of_succ_le_succ hfuel) goes).mono fewer
    · have hstep : r.step blanks [] = .error .classUnclosed := by cases blanks <;> rfl
      rw [hstep]
      exact .error

theorem steady_readSet (blanks : Bool) : Steady (readSet blanks) := by
  intro cs
  refine ⟨fun {v rest} h => ?_⟩
  unfold readSet at h ⊢
  cases hstart : readSetStart blanks cs with
  | error e => simp [hstart] at h
  | ok p =>
    obtain ⟨negated, members, more⟩ := p
    obtain ⟨hle, more', hstart', hgoes⟩ := (onward_readSetStart blanks cs).unpaired hstart
    simp only [hstart, hstart'] at h ⊢
    cases hrun : SetReader.run blanks (cs.length + 1) ⟨members, [.bracket [] negated]⟩ more with
    | error e => simp [hrun] at h
    | ok p =>
      obtain ⟨negated, set, left⟩ := p
      have hfuel : cs.length + 1 ≤ (cs ++ closing).length + 1 := Nat.succ_le_succ (Goes.append cs).length_le
      obtain ⟨hleft, left', hrun', hgoes'⟩ := (SetReader.onward_run hfuel hgoes).unpaired hrun
      simp only [hrun, hrun', Except.ok.injEq, Prod.mk.injEq] at h ⊢
      obtain ⟨rfl, rfl⟩ := h
      exact ⟨Nat.le_trans hleft hle, left', ⟨rfl, rfl⟩, hgoes'⟩

end Classes

/-! ## Expressions -/

section Expressions

variable {F : GroupFrame} {r r' : Reader} {cs cs' : List Char} {fuel fuel' : Nat}

/-- The reader with one more group around all that is open. -/
def Reader.within (F : GroupFrame) (r : Reader) : Reader := { r with frames := r.frames ++ [F] }

theorem goes_readGreed (h : Goes cs cs') : (readGreed cs').1 = (readGreed cs).1 ∧
    Goes (readGreed cs).2 (readGreed cs').2 ∧ (readGreed cs).2.length ≤ cs.length := by
  by_cases hmark : ∃ tl, cs = '?' :: tl
  · obtain ⟨tl, rfl⟩ := hmark
    rw [h.of_cons]
    exact ⟨rfl, .append tl, Nat.le_succ _⟩
  · have hread {cs : List Char} (h : ∀ tl, cs ≠ '?' :: tl) : readGreed cs = (true, cs) := by
      unfold readGreed
      split
      · exact absurd rfl (h _)
      · rfl
    have hne : ∀ tl, cs ≠ '?' :: tl := fun tl h => hmark ⟨tl, h⟩
    rw [hread hne, hread (h.ne_cons (by decide) hne)]
    exact ⟨rfl, h, Nat.le_refl _⟩

namespace Reader

theorem onward_repeatLast (least : Nat) (most : Option Nat) {n : Nat} (hn : cs.length ≤ n) (hcs : Goes cs cs') :
    Onward n ((r.repeatLast least most cs).map fun p => (p.1.within F, p.2))
      ((r.within F).repeatLast least most cs') := by
  obtain ⟨hgreedy, hgoes, hle⟩ := goes_readGreed hcs
  simp only [repeatLast, hgreedy, show (r.within F).level = r.level from rfl]
  cases r.level.repeatLast least most (readGreed cs).1 with
  | error e => exact .error
  | ok l => exact .ok (Nat.le_trans hle hn) hgoes

theorem onward_openGroup (cs : List Char) :
    Onward cs.length ((r.openGroup cs).map fun p => (p.1.within F, p.2))
      ((r.within F).openGroup (cs ++ closing)) := by
  unfold openGroup
  cases hstart : readGroupStart r.blanks cs with
  | error e => exact .error
  | ok p =>
    obtain ⟨start, rest⟩ := p
    obtain ⟨hle, rest', hstart', hgoes⟩ := (steady_readGroupStart r.blanks cs).again hstart
    rw [show (r.within F).blanks = r.blanks from rfl, hstart']
    cases start with
    | flags change => exact .ok hle hgoes
    | group change captures name =>
      simp only
      rw [show (r.within F).names = r.names from rfl]
      split
      · exact .error
      · exact .ok hle hgoes

/-- **One token is read the same** when the text goes on, and there is one more group around it. -/
theorem onward_step (r : Reader) (c : Char) (cs : List Char) :
    Onward cs.length ((r.step c cs).map fun p => (p.1.within F, p.2)) ((r.within F).step c (cs ++ closing)) := by
  have hpush {n : Node} : Onward cs.length (.ok ((r.push n).within F, cs)) (.ok ((r.within F).push n, cs ++ closing)) :=
    .ok (Nat.le_refl _) (.append cs)
  have hread {α : Type} {x y : Except SyntaxFault (α × List Char)} (h : Onward cs.length x y) (node : α → Node) :
      Onward cs.length ((x.map fun p => (r.push (node p.1), p.2)).map fun p => (p.1.within F, p.2))
        (y.map fun p => ((r.within F).push (node p.1), p.2)) := by
    have hmap := (h.map fun a => r.push (node a)).map (within F)
    cases y <;> exact hmap
  unfold step
  split
  case h_1 => exact onward_openGroup cs
  case h_2 =>
    cases hframes : r.frames with
    | nil =>
      rw [closeGroup, hframes]
      exact .error
    | cons f frames =>
      have hclose : (r.within F).closeGroup = r.closeGroup.map (within F) := by
        simp only [closeGroup, within, hframes, List.cons_append]
        rfl
      rw [hclose]
      cases r.closeGroup with
      | error e => exact .error
      | ok r' => exact .ok (Nat.le_refl _) (.append cs)
  case h_3 => exact .ok (Nat.le_refl _) (.append cs)
  case h_4 => exact hread (steady_readSet r.blanks cs) id
  case h_5 | h_6 | h_7 => exact onward_repeatLast _ _ (Nat.le_refl _) (.append cs)
  case h_8 =>
    rw [show (r.within F).level = r.level from rfl, show (r.within F).blanks = r.blanks from rfl]
    split
    · exact .error
    · exact .error
    · cases hcount : readCount r.blanks cs with
      | error e => exact .error
      | ok p =>
        obtain ⟨⟨least, most⟩, rest⟩ := p
        obtain ⟨hle, rest', hcount', hgoes⟩ := (steady_readCount r.blanks cs).again hcount
        rw [hcount']
        exact onward_repeatLast least most hle hgoes
  case h_9 => exact hread (steady_readEscape r.blanks cs) Atom.node
  all_goals exact hpush

theorem run_of_end {k : Nat} (hcs : Goes cs cs') (hs : skip r.blanks cs = []) :
    run (k + 2) r cs' = .ok r ∨ run (k + 2) r cs' = run (k + 2) r closing := by
  have hclosing : skip r.blanks closing = closing := by cases r.blanks <;> rfl
  rcases hs ▸ hcs.skip r.blanks with happend | ⟨-, hnil⟩
  · exact Or.inr (by rw [run, run, happend, List.nil_append, hclosing])
  · exact Or.inl (by rw [run, hnil])

/-- **A whole text is read the same** up to the closing, unless its end is a comment, which swallows the closing. -/
theorem run_within (hfuel : cs.length ≤ fuel) (hfuel' : cs.length + 2 ≤ fuel') (hcs : Goes cs cs')
    (h : run fuel r cs = .ok r') : run fuel' (r.within F) cs' = .ok (r'.within F) ∨
      ∃ k, run fuel' (r.within F) cs' = run (k + 2) (r'.within F) closing := by
  induction fuel generalizing fuel' r cs cs' with
  | zero =>
    obtain ⟨k, rfl⟩ := Nat.exists_eq_add_of_le' (Nat.le_of_add_left_le hfuel')
    rw [run, Except.ok.injEq] at h
    have hnil : cs = [] := List.length_eq_zero_iff.mp (Nat.le_zero.mp hfuel)
    have hs : skip r.blanks cs = [] := by cases hb : r.blanks <;> rw [hnil] <;> rfl
    exact h ▸ (run_of_end (r := r.within F) hcs hs).imp_right fun heq => ⟨k, heq⟩
  | succ fuel ih =>
    obtain ⟨k, rfl⟩ := Nat.exists_eq_add_of_le' (Nat.le_of_add_left_le hfuel')
    rw [run] at h
    cases hs : skip r.blanks cs with
    | nil =>
      rw [hs, Except.ok.injEq] at h
      exact h ▸ (run_of_end (r := r.within F) hcs hs).imp_right fun heq => ⟨k, heq⟩
    | cons c tl =>
      rw [hs] at h
      cases hstep : r.step c tl with
      | error e => simp [hstep] at h
      | ok p =>
        obtain ⟨next, left⟩ := p
        have hlength := length_lt_of_skip hs
        obtain ⟨(hle : left.length ≤ tl.length), left', hstep', (hgoes : Goes left left')⟩ :=
          (onward_step (F := F) r c tl).again (congrArg _ hstep)
        simp only [hstep] at h
        have hrun : run (k + 2) (r.within F) cs' = run (k + 1) (next.within F) left' := by
          rw [run, show (r.within F).blanks = r.blanks from rfl, hcs.skip_cons hs]
          simp only [hstep']
        rw [hrun]
        exact ih (by omega) (by omega) hgoes h

end Reader

end Expressions

end MetricRouter.Pattern
