import MetricRouter.Proofs.Pattern.Memo
import MetricRouter.Proofs.Run
import MetricRouter.Text.Hash

/-!
# What the memo of matchers recalls

A matcher knows texts by their hashes only. It answers for a text what its expression says of the first text with
the same hash that it was asked about, so texts that share a hash share their answers.

* `firstAlike` — the first text with the hash of a text;
* `Matcher.Recalls`, `Matcher.recalls_answer` — the memo of a matcher, and one answer;
* `Matchers.Call`, `Matchers.call`, `Matchers.asks` — what can be asked of shared matchers, and which of them are
  asked in a call;
* `Matchers.Recalls`, `recalls_call`, `recalls_history` — the invariant of all memos, for one call and for all of
  them;
* `answer_after` — the main statement: what matchers and groups answer after any calls;
* `answer_of_same_hash` — two names with one hash, one of which is answered wrongly.
-/

namespace MetricRouter.Pattern

/-- The first of some texts that has the hash of a text, and the text itself if none of them has. -/
def firstAlike (hash : String → Nat) (asked : List String) (s : String) : String :=
  (asked.find? (fun y => hash y == hash s)).getD s

section FirstAlike

variable {hash : String → Nat} {asked : List String} {s : String}

theorem firstAlike_concat (hash : String → Nat) (asked : List String) (s : String) :
    firstAlike hash (asked ++ [s]) s = firstAlike hash asked s := by
  unfold firstAlike
  rw [List.find?_append]
  cases asked.find? (fun y => hash y == hash s) with
  | none => simp
  | some y => rfl

theorem firstAlike_eq (h : ∀ y ∈ asked, hash y = hash s → y = s) : firstAlike hash asked s = s := by
  unfold firstAlike
  cases hfind : asked.find? (fun y => hash y == hash s) with
  | none => rfl
  | some y =>
    have hsame : (hash y == hash s) = true := List.find?_some (p := fun y => hash y == hash s) hfind
    exact h y (List.mem_of_find?_eq_some hfind) (beq_iff_eq.mp hsame)

end FirstAlike

/-! ## One matcher -/

namespace Matcher

/-- What the expression says of the first text with a hash, if there is one. -/
def verdict? (hash : String → Nat) (asked : List String) (m : Matcher) (key : Nat) : Option Bool :=
  (asked.find? (fun y => hash y == key)).map m.regex.isMatch

/-- **The memo holds what the expression says of the texts that were asked about**: of those with one hash, of the
first. -/
structure Recalls (hash : String → Nat) (asked : List String) (m : Matcher) : Prop where
  hits : ∀ key, key ∈ m.hits ↔ m.verdict? hash asked key = some true
  misses : ∀ key, key ∈ m.misses ↔ m.verdict? hash asked key = some false

variable {hash : String → Nat} {asked : List String} {m : Matcher}

theorem recalls_compile (hash : String → Nat) {text : String} (h : compile text = .ok m) :
    Regex.compile (anchored text) = .ok m.regex ∧ m.Recalls hash [] := by
  unfold compile at h
  split at h
  · exact absurd h (by simp)
  · rename_i regex hregex
    rw [← Except.ok.inj h]
    exact ⟨hregex, ⟨fun _ => by simp [verdict?], fun _ => by simp [verdict?]⟩⟩

theorem verdict?_concat (s : String) (key : Nat) : m.verdict? hash (asked ++ [s]) key =
    (m.verdict? hash asked key).or (if hash s = key then some (m.regex.isMatch s) else none) := by
  unfold verdict?
  rw [List.find?_append]
  cases asked.find? (fun y => hash y == key) with
  | some y => rfl
  | none =>
    by_cases hs : hash s = key
    · simp [hs]
    · simp [hs]

theorem isMatch_firstAlike (hash : String → Nat) (asked : List String) (m : Matcher) (s : String) :
    m.regex.isMatch (firstAlike hash asked s) = (m.verdict? hash asked (hash s)).getD (m.regex.isMatch s) := by
  unfold firstAlike verdict?
  cases asked.find? (fun y => hash y == hash s) with
  | none => rfl
  | some y => rfl

/-- **A matcher answers what its expression says of the first text with the same hash**, and recalls that it was
asked. -/
theorem recalls_answer (h : m.Recalls hash asked) (s : String) :
    (m.answer hash s).1 = m.regex.isMatch (firstAlike hash asked s) ∧
      (m.answer hash s).2.Recalls hash (asked ++ [s]) ∧ (m.answer hash s).2.regex = m.regex := by
  -- a hash with a verdict keeps it, so the memo is right as it is
  have hkept : (m.verdict? hash asked (hash s)).isSome → m.Recalls hash (asked ++ [s]) := by
    intro hsome
    have hsame : ∀ key, m.verdict? hash (asked ++ [s]) key = m.verdict? hash asked key := by
      intro key
      rw [verdict?_concat]
      split
      · rename_i hkey
        obtain ⟨b, hb⟩ := Option.isSome_iff_exists.mp hsome
        rw [← hkey, hb]
        rfl
      · rw [Option.or_none]
    exact ⟨fun key => by rw [hsame, h.hits], fun key => by rw [hsame, h.misses]⟩
  rw [isMatch_firstAlike]
  unfold answer
  simp only [List.contains_eq_mem, decide_eq_true_iff, h.hits, h.misses]
  split
  · rename_i hhit
    rw [hhit] at hkept ⊢
    exact ⟨rfl, hkept rfl, rfl⟩
  · rename_i hhit
    split
    · rename_i hmiss
      rw [hmiss] at hkept ⊢
      exact ⟨rfl, hkept rfl, rfl⟩
    · rename_i hmiss
      have hnone : m.verdict? hash asked (hash s) = none := by
        cases hverdict : m.verdict? hash asked (hash s) with
        | none => rfl
        | some b => cases b <;> simp_all
      rw [hnone, Option.getD_none]
      -- the hash is new: its verdict is the one on this text
      have hnew : ∀ key b, m.verdict? hash (asked ++ [s]) key = some b ↔
          (key = hash s ∧ m.regex.isMatch s = b) ∨ m.verdict? hash asked key = some b := by
        intro key b
        rw [verdict?_concat]
        by_cases hkey : hash s = key
        · rw [← hkey, hnone]
          simp
        · simp [hkey, Ne.symm hkey]
      split
      · rename_i hmatch
        refine ⟨hmatch.symm, ⟨fun key => ?_, fun key => ?_⟩, rfl⟩
        · exact List.mem_cons.trans ((or_congr (by simp [hmatch]) (h.hits key)).trans (hnew key true).symm)
        · exact (h.misses key).trans (Iff.trans (by simp [hmatch]) (hnew key false).symm)
      · rename_i hmatch
        refine ⟨(Bool.eq_false_iff.mpr hmatch).symm, ⟨fun key => ?_, fun key => ?_⟩, rfl⟩
        · exact (h.hits key).trans (Iff.trans (by simp [hmatch]) (hnew key true).symm)
        · exact List.mem_cons.trans ((or_congr (by simp [hmatch]) (h.misses key)).trans (hnew key false).symm)

end Matcher

/-! ## Shared matchers -/

namespace Matchers

/-- What can be asked of shared matchers. -/
inductive Call where
  /-- That a pattern be compiled. -/
  | compile (text : String)
  /-- Whether the pattern of a text matches. -/
  | ask (text s : String)
  /-- Whether a member of a group matches. -/
  | askGroup (g : Group) (s : String)

/-- The answer to a call, and the matchers after it. -/
def call (hash : String → Nat) (ms : Matchers) : Call → Bool × Matchers
  | .compile text =>
    match ms.compile text with
    | .error _ => (false, ms)
    | .ok (_, ms) => (true, ms)
  | .ask text s => ms.answer hash text s
  | .askGroup g s => g.answer hash ms s

/-- A text that the matcher of a pattern is asked about. -/
structure Asked where
  pattern : String
  text : String

/-- What the matcher of a pattern is asked; nothing if there is none. -/
def askedOne (ms : Matchers) (text s : String) : List Asked := if (ms.get? text).isSome then [⟨text, s⟩] else []

/-- What the matchers of patterns are asked in turn, up to the first that matches. -/
def askedAny (hash : String → Nat) (s : String) : List String → Matchers → List Asked
  | [], _ => []
  | text :: rest, ms =>
    ms.askedOne text s ++
      match ms.answer hash text s with
      | (true, _) => []
      | (false, ms) => askedAny hash s rest ms

/-- What matchers are asked in a call. -/
def asks (hash : String → Nat) (ms : Matchers) : Call → List Asked
  | .compile _ => []
  | .ask text s => ms.askedOne text s
  | .askGroup g s => askedAny hash s g.members ms

/-- What matchers are asked in calls that are made in order. -/
def history (hash : String → Nat) (ms : Matchers) : List Call → List Asked
  | [] => []
  | k :: rest => asks hash ms k ++ history hash (call hash ms k).2 rest

/-- The texts that the matcher of a pattern was asked about. -/
def textsOf (text : String) (log : List Asked) : List String :=
  (log.filter (fun a => a.pattern == text)).map Asked.text

theorem textsOf_append (text : String) (log more : List Asked) :
    textsOf text (log ++ more) = textsOf text log ++ textsOf text more := by
  rw [textsOf, List.filter_append, List.map_append]
  rfl

theorem textsOf_askedOne (ms : Matchers) (text text' s : String) :
    textsOf text' (ms.askedOne text s) = if text = text' ∧ (ms.get? text).isSome then [s] else [] := by
  unfold textsOf askedOne
  cases (ms.get? text).isSome with
  | false => simp
  | true =>
    by_cases ht : text = text'
    · simp [ht]
    · simp [ht]

/-- **All memos hold what the expressions say of the texts that were asked about**, and every matcher is the one of
its pattern. A pattern without a matcher was never asked. -/
structure Recalls (hash : String → Nat) (log : List Asked) (ms : Matchers) : Prop where
  compiled : ∀ {text m}, ms.get? text = some m → Regex.compile (Matcher.anchored text) = .ok m.regex
  recalls : ∀ {text m}, ms.get? text = some m → m.Recalls hash (textsOf text log)
  unknown : ∀ {text}, ms.get? text = none → textsOf text log = []

variable {hash : String → Nat} {log : List Asked} {ms : Matchers}

theorem recalls_empty : Recalls hash [] .empty :=
  ⟨fun h => by simp at h, fun h => by simp at h, fun _ => rfl⟩

theorem recalls_compile (h : ms.Recalls hash log) (text : String) :
    (call hash ms (.compile text)).2.Recalls hash log := by
  rw [call]
  cases hold : ms.get? text with
  | some m =>
    rw [compile_of_some hold]
    exact h
  | none =>
    rw [compile_of_none hold]
    cases hcompile : Matcher.compile text with
    | error e => exact h
    | ok m =>
      obtain ⟨hregex, hrecalls⟩ := Matcher.recalls_compile hash hcompile
      show Recalls hash log (ms.insert text m)
      refine ⟨fun {text' m'} hm' => ?_, fun {text' m'} hm' => ?_, fun {text'} hm' => ?_⟩
      · obtain ⟨rfl, rfl⟩ | ⟨-, hbefore⟩ := Table.get?_insert_eq_some_iff.mp hm'
        · exact hregex
        · exact h.compiled hbefore
      · obtain ⟨rfl, rfl⟩ | ⟨-, hbefore⟩ := Table.get?_insert_eq_some_iff.mp hm'
        · rw [h.unknown hold]
          exact hrecalls
        · exact h.recalls hbefore
      · rw [Table.get?_insert] at hm'
        split at hm'
        · exact absurd hm' (by simp)
        · exact h.unknown hm'

/-- **The matcher of a pattern answers what its expression says of the first text with the same hash.** -/
theorem recalls_answer (h : ms.Recalls hash log) (text s : String) :
    (ms.answer hash text s).1 = ms.accepts text (firstAlike hash (textsOf text log) s) ∧
      (ms.answer hash text s).2.Recalls hash (log ++ ms.askedOne text s) ∧
      ∀ text', (ms.answer hash text s).2.regex? text' = ms.regex? text' := by
  cases hm : ms.get? text with
  | none =>
    have hanswer : ms.answer hash text s = (false, ms) := by rw [answer, hm]
    rw [hanswer, askedOne, hm, accepts, regex?, hm]
    exact ⟨rfl, by simpa using h, fun _ => rfl⟩
  | some m =>
    obtain ⟨hverdict, hrecalls, hregex⟩ := Matcher.recalls_answer (h.recalls hm) s
    have hanswer : ms.answer hash text s = ((m.answer hash s).1, ms.insert text (m.answer hash s).2) := by
      rw [answer, hm]
    have htexts : ∀ text', textsOf text' (log ++ ms.askedOne text s) =
        textsOf text' log ++ if text = text' then [s] else [] := by
      intro text'
      rw [textsOf_append, textsOf_askedOne, hm]
      simp
    rw [hanswer]
    refine ⟨?_, ⟨fun {text' m'} hm' => ?_, fun {text' m'} hm' => ?_, fun {text'} hm' => ?_⟩, fun text' => ?_⟩
    · rw [hverdict, accepts, regex?, hm]
      rfl
    · obtain ⟨rfl, rfl⟩ | ⟨-, hbefore⟩ := Table.get?_insert_eq_some_iff.mp hm'
      · rw [hregex]
        exact h.compiled hm
      · exact h.compiled hbefore
    · obtain ⟨rfl, rfl⟩ | ⟨ht, hbefore⟩ := Table.get?_insert_eq_some_iff.mp hm'
      · rw [htexts, if_pos rfl]
        exact hrecalls
      · rw [htexts, if_neg ht, List.append_nil]
        exact h.recalls hbefore
    · rw [Table.get?_insert] at hm'
      split at hm'
      · exact absurd hm' (by simp)
      · rename_i ht
        rw [htexts, if_neg ht, List.append_nil]
        exact h.unknown hm'
    · simp only [regex?, Table.get?_insert]
      split
      · rename_i ht
        rw [← ht, hm, Option.map_some, Option.map_some, hregex]
      · rfl

theorem firstAlike_textsOf (ms : Matchers) (log : List Asked) (text text' s : String) :
    firstAlike hash (textsOf text' (log ++ ms.askedOne text s)) s = firstAlike hash (textsOf text' log) s := by
  rw [textsOf_append, textsOf_askedOne]
  split
  · exact firstAlike_concat hash _ s
  · rw [List.append_nil]

theorem recalls_answerAny (h : ms.Recalls hash log) (s : String) (texts : List String) :
    (Group.answerAny hash s texts ms).1 =
        texts.any (fun text => ms.accepts text (firstAlike hash (textsOf text log) s)) ∧
      (Group.answerAny hash s texts ms).2.Recalls hash (log ++ askedAny hash s texts ms) := by
  induction texts generalizing ms log with
  | nil => exact ⟨rfl, by simpa [askedAny, Group.answerAny] using h⟩
  | cons text rest ih =>
    obtain ⟨hanswer, hrecalls, hregex⟩ := recalls_answer h text s
    rw [List.any_cons, ← hanswer, Group.answerAny, askedAny, ← List.append_assoc]
    cases hfirst : ms.answer hash text s with
    | mk matched ms' =>
      rw [hfirst] at hrecalls hregex
      cases matched with
      | true => exact ⟨rfl, by simpa using hrecalls⟩
      | false =>
        obtain ⟨hrest, hrecalls'⟩ := ih hrecalls
        refine ⟨hrest.trans ?_, hrecalls'⟩
        simp only [firstAlike_textsOf, accepts, hregex, Bool.false_or]

/-- **Every call keeps the invariant.** -/
theorem recalls_call (h : ms.Recalls hash log) (k : Call) :
    (call hash ms k).2.Recalls hash (log ++ asks hash ms k) := by
  cases k with
  | compile text =>
    rw [asks, List.append_nil]
    exact recalls_compile h text
  | ask text s => exact (recalls_answer h text s).2.1
  | askGroup g s => exact (recalls_answerAny h s g.members).2

theorem recalls_history (h : ms.Recalls hash log) (calls : List Call) :
    (Run.after (call hash) ms calls).Recalls hash (log ++ history hash ms calls) := by
  induction calls generalizing ms log with
  | nil =>
    rw [history, List.append_nil]
    exact h
  | cons k rest ih =>
    rw [history, ← List.append_assoc]
    exact ih (recalls_call h k)

/-- **What matchers answer after any calls.** For any hash by which texts are known, the matcher of a pattern answers
for a text what the expression of the pattern says of the first text with the same hash that this matcher was asked
about, be it directly or through a group. A group matches if one of its members answers so. Where none of the texts
asked about is another one with the same hash, the answers are those of the expressions. -/
theorem answer_after (hash : String → Nat) (calls : List Call) (s : String) :
    let ms := Run.after (call hash) .empty calls
    let log := history hash .empty calls
    let alike (text : String) := firstAlike hash (textsOf text log) s
    (∀ text m, ms.get? text = some m → Regex.compile (Matcher.anchored text) = .ok m.regex ∧
      (ms.answer hash text s).1 = m.regex.isMatch (alike text)) ∧
    (∀ g : Group, (g.answer hash ms s).1 = g.members.any (fun text => ms.accepts text (alike text))) ∧
    ((∀ a ∈ log, hash a.text = hash s → a.text = s) →
      (∀ text m, ms.get? text = some m → (ms.answer hash text s).1 = m.regex.isMatch s) ∧
        ∀ g : Group, (g.answer hash ms s).1 = g.accepts ms s) := by
  intro ms log alike
  have hrecalls : ms.Recalls hash log := recalls_history recalls_empty calls
  have hmatcher : ∀ text m, ms.get? text = some m → (ms.answer hash text s).1 = m.regex.isMatch (alike text) := by
    intro text m hm
    rw [(recalls_answer hrecalls text s).1, accepts, regex?, hm]
    rfl
  have hgroup : ∀ g : Group, (g.answer hash ms s).1 = g.members.any (fun text => ms.accepts text (alike text)) :=
    fun g => (recalls_answerAny hrecalls s g.members).1
  refine ⟨fun text m hm => ⟨hrecalls.compiled hm, hmatcher text m hm⟩, hgroup, fun hown => ?_⟩
  have halike : ∀ text, alike text = s := fun text => firstAlike_eq fun y hy => by
    obtain ⟨a, ha, rfl⟩ := List.mem_map.mp hy
    exact hown a (List.mem_filter.mp ha).1
  simp only [halike] at hmatcher hgroup
  exact ⟨hmatcher, hgroup⟩

/-- Two names with one hash: after the matcher of the first one's host was asked about the first, it takes the second
for a match as well, and so does a group with this member. -/
theorem answer_of_same_hash :
    let text := "4b14a2dfaaf2ebc1/.*"
    let first := "4b14a2dfaaf2ebc1/billing:cpu.load"
    let second := "c7c8820ea7ccaa50/billing:cpu.load"
    let g : Group := Group.empty.insert text
    let ms := Run.after (call Text.hash) .empty [.compile text, .ask text first]
    second ≠ first ∧ Text.hash second = Text.hash first ∧ ms.accepts text second = false ∧
      (ms.answer Text.hash text second).1 = true ∧ g.accepts ms second = false ∧
      (g.answer Text.hash ms second).1 = true := by
  decide +kernel

end Matchers

end MetricRouter.Pattern
