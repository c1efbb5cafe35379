import MetricRouter.Proofs.Pattern.Membership
import MetricRouter.Proofs.Run
import MetricRouter.Proofs.Table

/-!
# Groups that share matchers

Groups come to their members in several ways, and all of them compile patterns among the same matchers. Whatever is
asked of the groups in whatever order, each is the set of texts that it should be, and there is one matcher for every
text that was ever compiled.

* `firstFault` — the fault of the first pattern that does not compile;
* `Matchers.Holds`, `Matchers.holds_compile`, `Group.holds_collect` — the matchers of some texts, each compiled once;
* `Groups.Call`, `Groups.call`, `Groups.expected` — what can be asked of groups, and what the members should be then;
* `Groups.Sound`, `Groups.sound_call`, `Groups.sound_after` — the invariant, for one call and for all of them;
* `Groups.members_after` — the main statement.
-/

namespace MetricRouter.Pattern

/-- The fault of the first pattern that does not compile, if there is one. -/
def firstFault : List String → Option InvalidPattern
  | [] => none
  | text :: rest =>
    match Matcher.compile text with
    | .error e => some e
    | .ok _ => firstFault rest

theorem firstFault_eq_none_iff {texts : List String} : firstFault texts = none ↔ texts.all Compiles = true := by
  induction texts with
  | nil => simp [firstFault]
  | cons text rest ih =>
    rw [List.all_cons, firstFault, Compiles]
    cases Matcher.compile text with
    | error e => simp [Except.isOk, Except.toBool]
    | ok m => simpa [Except.isOk, Except.toBool] using ih

/-! ## The matchers of some texts -/

theorem text_of_compile {text : String} {m : Matcher} (h : Matcher.compile text = .ok m) : m.text = text := by
  unfold Matcher.compile at h
  split at h
  · exact absurd h (by simp)
  · rw [← Except.ok.inj h]

theorem eraseDups_concat (texts : List String) (text : String) :
    (texts ++ [text]).eraseDups = if text ∈ texts then texts.eraseDups else texts.eraseDups ++ [text] := by
  rw [List.eraseDups_append]
  by_cases h : text ∈ texts
  · simp [h, List.removeAll]
  · simp [h, List.removeAll, List.eraseDups_cons]

namespace Matchers

/-- **The matchers are those of some texts**, each compiled once. -/
structure Holds (texts : List String) (ms : Matchers) : Prop where
  keys : ms.keys = texts.eraseDups
  own : ∀ {text m}, ms.get? text = some m → Matcher.compile text = .ok m

variable {texts : List String} {ms : Matchers} {text : String}

theorem holds_empty : Holds [] .empty := ⟨rfl, fun h => by simp at h⟩

theorem compiled_of_holds (h : ms.Holds texts) : ms.Compiled := fun text htext => by
  obtain ⟨m, hm⟩ := Option.isSome_iff_exists.mp htext
  rw [Compiles, h.own hm]
  rfl

theorem exists_matcher_iff (h : ms.Holds texts) : (∃ m, ms.get? text = some m) ↔ text ∈ texts := by
  rw [← Table.mem_keys_iff, h.keys, List.mem_eraseDups]

/-- **A text that compiles has its matcher**, from the first time on, and a text that does not leaves no trace. -/
theorem holds_compile (h : ms.Holds texts) (text : String) :
    (∃ m ms', Matcher.compile text = .ok m ∧ ms.compile text = .ok (m, ms') ∧ ms'.Holds (texts ++ [text])) ∨
      ∃ e, Matcher.compile text = .error e ∧ ms.compile text = .error e := by
  cases hold : ms.get? text with
  | some m =>
    have hmem : text ∈ texts := (exists_matcher_iff h).mp ⟨m, hold⟩
    refine Or.inl ⟨m, ms, h.own hold, compile_of_some hold, ?_, h.own⟩
    rw [eraseDups_concat, if_pos hmem, h.keys]
  | none =>
    rw [compile_of_none hold]
    cases hnew : Matcher.compile text with
    | error e => exact Or.inr ⟨e, rfl, rfl⟩
    | ok m =>
      have hmem : text ∉ texts := fun hmem => by
        obtain ⟨m', hm'⟩ := (exists_matcher_iff h).mpr hmem
        exact absurd (hold.symm.trans hm') (by simp)
      refine Or.inl ⟨m, ms.insert text m, rfl, rfl, ?_, fun {text' m'} hm' => ?_⟩
      · rw [Table.keys_insert, eraseDups_concat, if_neg hmem, h.keys, if_neg (by rwa [List.mem_eraseDups])]
      · obtain ⟨rfl, rfl⟩ | ⟨-, hbefore⟩ := Table.get?_insert_eq_some_iff.mp hm'
        · exact hnew
        · exact h.own hbefore

end Matchers

namespace Group

variable {compiled : List String} {ms : Matchers}

theorem members_remove (g : Group) (text : String) :
    (g.remove text).2.members = g.members.filter (fun t => decide (t ≠ text)) := by
  show g.members.erase text = _
  rw [g.nodup.erase_eq_filter]
  exact List.filter_congr fun t _ => by simp [bne, beq_eq_decide]

/-- **Patterns are compiled up to the first invalid one**, whose fault is then the answer. -/
theorem holds_collect (h : ms.Holds compiled) (g : Group) (texts : List String) :
    (collect g ms texts).2.Holds (compiled ++ texts.takeWhile Compiles) ∧
      ∀ e, firstFault texts = some e → (collect g ms texts).1 = .error e := by
  induction texts generalizing compiled ms g with
  | nil => exact ⟨by simpa [collect] using h, fun e he => absurd he (by simp [firstFault])⟩
  | cons text rest ih =>
    rw [firstFault, collect, List.takeWhile_cons, Compiles]
    rcases Matchers.holds_compile h text with ⟨m, ms', hok, hc, hholds⟩ | ⟨e, herror, hc⟩
    · rw [hok, hc]
      have hrest := ih hholds (g.insert text)
      rw [List.append_assoc] at hrest
      exact hrest
    · rw [herror, hc]
      refine ⟨by simpa [Except.isOk, Except.toBool] using h, fun e' he' => ?_⟩
      rw [Option.some.inj he']

/-- **A group of patterns is made if all of them compile**, and else nothing comes of it but matchers. -/
theorem ofPatterns_cases (h : ms.Holds compiled) (texts : List String) :
    ∃ ms', ms'.Holds (compiled ++ texts.takeWhile Compiles) ∧
      ((firstFault texts = none ∧ ∃ g, g.members = texts.eraseDups ∧ ofPatterns ms texts = (.ok g, ms')) ∨
        ∃ e, firstFault texts = some e ∧ ofPatterns ms texts = (.error e, ms')) := by
  obtain ⟨-, hisOk, hmembers⟩ := collected_ofPatterns (Matchers.compiled_of_holds h) texts
  obtain ⟨hholds, hfault⟩ := holds_collect h empty texts
  have hcollect : ofPatterns ms texts = collect empty ms texts := rfl
  rw [← hcollect] at hholds hfault
  refine ⟨_, hholds, ?_⟩
  cases hfirst : firstFault texts with
  | some e => exact Or.inr ⟨e, rfl, Prod.ext (hfault e hfirst) rfl⟩
  | none =>
    rw [firstFault_eq_none_iff.mp hfirst] at hisOk
    cases hresult : (ofPatterns ms texts).1 with
    | error e =>
      rw [hresult] at hisOk
      exact absurd hisOk (by simp [Except.isOk, Except.toBool])
    | ok g => exact Or.inl ⟨rfl, g, hmembers g hresult, Prod.ext hresult rfl⟩

end Group

/-! ## Groups -/

/-- Groups by number, which share their matchers. -/
structure Groups where
  matchers : Matchers
  group : Nat → Group

namespace Groups

/-- Groups without members, and no matcher. -/
def fresh : Groups := ⟨.empty, fun _ => .empty⟩

/-- The members of a group. -/
def members (s : Groups) (n : Nat) : List String := (s.group n).members

/-- What can be asked of groups. -/
inductive Call where
  | add (n : Nat) (text : String)
  | remove (n : Nat) (text : String)
  | replace (n : Nat) (texts : List String)
  /-- That a new group of patterns be made. -/
  | make (n : Nat) (texts : List String)

/-- What groups answer. -/
inductive Answer where
  /-- Did the members change? -/
  | changed (yes : Bool)
  | done
  | invalid (e : InvalidPattern)

/-- The groups after one of them was set. -/
def put (s : Groups) (n : Nat) (g : Group) (ms : Matchers) : Groups := ⟨ms, Function.update s.group n g⟩

/-- The answer to a call, and the groups after it. -/
def call (s : Groups) : Call → Answer × Groups
  | .add n text =>
    match (s.group n).add s.matchers text with
    | (.error e, g, ms) => (.invalid e, s.put n g ms)
    | (.ok yes, g, ms) => (.changed yes, s.put n g ms)
  | .remove n text =>
    let (yes, g) := (s.group n).remove text
    (.changed yes, s.put n g s.matchers)
  | .replace n texts =>
    match (s.group n).replace s.matchers texts with
    | (.error e, g, ms) => (.invalid e, s.put n g ms)
    | (.ok _, g, ms) => (.done, s.put n g ms)
  | .make n texts =>
    match Group.ofPatterns s.matchers texts with
    | (.error e, ms) => (.invalid e, { s with matchers := ms })
    | (.ok g, ms) => (.done, s.put n g ms)

/-! ## What the members should be -/

/-- The patterns that a call comes with. -/
def Call.texts : Call → List String
  | add _ text => [text]
  | remove _ _ => []
  | replace _ texts | make _ texts => texts

/-- The patterns that are compiled in a call. -/
def Call.compiled (k : Call) : List String := k.texts.takeWhile Compiles

/-- What a call answers if its patterns compile. -/
def Call.answer (members : Nat → List String) : Call → Answer
  | add n text => .changed (!(members n).contains text)
  | remove n text => .changed ((members n).contains text)
  | replace _ _ | make _ _ => .done

/-- The members after a call whose patterns compile. -/
def Call.apply (members : Nat → List String) : Call → Nat → List String
  | add n text => Function.update members n (if text ∈ members n then members n else members n ++ [text])
  | remove n text => Function.update members n ((members n).filter (fun t => decide (t ≠ text)))
  | replace n texts | make n texts => Function.update members n texts.eraseDups

/-- The members after calls: one with a pattern that does not compile changes nothing. -/
def expected (calls : List Call) : Nat → List String :=
  calls.foldl (fun members k => if k.texts.all Compiles then k.apply members else members) (fun _ => [])

/-! ## One call -/

section Step

variable {compiled : List String} {s : Groups}

@[simp] theorem matchers_put (s : Groups) (n : Nat) (g : Group) (ms : Matchers) : (s.put n g ms).matchers = ms := rfl

theorem members_put (s : Groups) (n : Nat) (g : Group) (ms : Matchers) :
    (s.put n g ms).members = Function.update s.members n g.members := by
  funext x
  unfold members put
  simp only [Function.update_apply]
  split <;> rfl

/-- What a call does: with a pattern that does not compile it answers its fault, and else it does what it should. -/
structure Answered (s : Groups) (k : Call) (r : Answer × Groups) : Prop where
  fault : ∀ e, firstFault k.texts = some e → r.1 = .invalid e ∧ r.2.members = s.members
  done : firstFault k.texts = none → r.1 = k.answer s.members ∧ r.2.members = k.apply s.members

theorem answered_call (h : s.matchers.Holds compiled) (k : Call) :
    (s.call k).2.matchers.Holds (compiled ++ k.compiled) ∧ Answered s k (s.call k) := by
  have hsame (n : Nat) (ms : Matchers) : (s.put n (s.group n) ms).members = s.members := by
    rw [members_put]
    exact Function.update_eq_self n s.members
  cases k with
  | add n text =>
    rw [call, Group.add]
    rcases Matchers.holds_compile h text with ⟨m, ms', hok, hc, hholds⟩ | ⟨e, herror, hc⟩
    · have hcompiles : Compiles text = true := by
        rw [Compiles, hok]
        rfl
      rw [hc]
      refine ⟨by simpa [Call.compiled, Call.texts, hcompiles] using hholds, fun e he => ?_, fun _ => ⟨rfl, ?_⟩⟩
      · simp [Call.texts, firstFault, hok] at he
      · rw [members_put, Group.members_insert]
        rfl
    · rw [hc]
      have hcompiles : Compiles text = false := by
        rw [Compiles, herror]
        rfl
      refine ⟨by simpa [Call.compiled, Call.texts, hcompiles] using h, fun e' he' => ?_, fun hnone => ?_⟩
      · rw [Call.texts, firstFault, herror] at he'
        exact ⟨by rw [Option.some.inj he'], hsame n s.matchers⟩
      · simp [Call.texts, firstFault, herror] at hnone
  | remove n text =>
    rw [call]
    refine ⟨by simpa [Call.compiled, Call.texts] using h, fun e he => absurd he (by simp [Call.texts, firstFault]),
      fun _ => ⟨rfl, ?_⟩⟩
    rw [members_put, Group.members_remove]
    rfl
  | replace n texts =>
    rw [call, Group.replace]
    obtain ⟨ms', hholds, ⟨hnone, g, hg, hmade⟩ | ⟨e, he, hmade⟩⟩ := Group.ofPatterns_cases h texts
    · rw [hmade]
      refine ⟨hholds, fun e he => absurd (hnone.symm.trans he) (by simp), fun _ => ⟨rfl, ?_⟩⟩
      rw [members_put, hg]
      rfl
    · rw [hmade]
      refine ⟨hholds, fun e' he' => ⟨?_, hsame n ms'⟩, fun hnone => absurd (hnone.symm.trans he) (by simp)⟩
      rw [Option.some.inj (he.symm.trans he')]
  | make n texts =>
    rw [call]
    obtain ⟨ms', hholds, ⟨hnone, g, hg, hmade⟩ | ⟨e, he, hmade⟩⟩ := Group.ofPatterns_cases h texts
    · rw [hmade]
      refine ⟨hholds, fun e he => absurd (hnone.symm.trans he) (by simp), fun _ => ⟨rfl, ?_⟩⟩
      rw [members_put, hg]
      rfl
    · rw [hmade]
      refine ⟨hholds, fun e' he' => ⟨?_, rfl⟩, fun hnone => absurd (hnone.symm.trans he) (by simp)⟩
      rw [Option.some.inj (he.symm.trans he')]

theorem mem_of_mem_apply {members : Nat → List String} {k : Call} {n : Nat} {text : String}
    (h : text ∈ k.apply members n) : text ∈ members n ∨ text ∈ k.texts := by
  cases k with
  | add x t =>
    rw [Call.apply, Function.update_apply] at h
    split at h
    · rename_i hx
      subst hx
      split at h
      · exact Or.inl h
      · exact (List.mem_append.mp h).imp id fun h => h
    · exact Or.inl h
  | remove x t =>
    rw [Call.apply, Function.update_apply] at h
    split at h
    · rename_i hx
      subst hx
      exact Or.inl (List.mem_filter.mp h).1
    · exact Or.inl h
  | replace x texts | make x texts =>
    rw [Call.apply, Function.update_apply] at h
    split at h
    · exact Or.inr (List.mem_eraseDups.mp h)
    · exact Or.inl h

/-- **Members are said to change exactly where they do.** -/
theorem changed_iff {members : Nat → List String} {k : Call} {yes : Bool} (h : k.answer members = .changed yes) :
    yes = true ↔ k.apply members ≠ members := by
  cases k with
  | add n text =>
    obtain rfl := Answer.changed.inj h
    rw [Call.apply, ne_eq, Function.update_eq_self_iff]
    by_cases hmem : text ∈ members n
    · simp [hmem]
    · simp [hmem]
  | remove n text =>
    obtain rfl := Answer.changed.inj h
    rw [Call.apply, ne_eq, Function.update_eq_self_iff, List.filter_eq_self]
    simp
  | replace n texts | make n texts => exact absurd h (by simp [Call.answer])

/-- **The groups after calls**: their matchers are those of the texts that were compiled, their members are what they
should be, and every member has its matcher. -/
structure Sound (calls : List Call) (s : Groups) : Prop where
  holds : s.matchers.Holds (calls.flatMap Call.compiled)
  members : s.members = expected calls
  matched : ∀ n, ∀ text ∈ s.members n, text ∈ calls.flatMap Call.compiled

theorem sound_call {calls : List Call} (h : Sound calls s) (k : Call) : Sound (calls ++ [k]) (s.call k).2 := by
  obtain ⟨hholds, hfault, hdone⟩ := answered_call h.holds k
  have hcompiled : (calls ++ [k]).flatMap Call.compiled = calls.flatMap Call.compiled ++ k.compiled := by simp
  have hexpected : expected (calls ++ [k]) =
      if k.texts.all Compiles then k.apply (expected calls) else expected calls := List.foldl_concat ..
  cases hfirst : firstFault k.texts with
  | some e =>
    have hall : ¬ k.texts.all Compiles = true := fun hall => by
      rw [firstFault_eq_none_iff.mpr hall] at hfirst
      exact absurd hfirst (by simp)
    obtain ⟨-, hmembers⟩ := hfault e hfirst
    refine ⟨hcompiled ▸ hholds, ?_, fun n text htext => ?_⟩
    · rw [hmembers, h.members, hexpected, if_neg hall]
    · rw [hmembers] at htext
      exact hcompiled ▸ List.mem_append_left _ (h.matched n text htext)
  | none =>
    have hall := firstFault_eq_none_iff.mp hfirst
    have htexts : k.compiled = k.texts := List.takeWhile_eq_self_iff.mpr (List.all_eq_true.mp hall)
    obtain ⟨-, hmembers⟩ := hdone hfirst
    refine ⟨hcompiled ▸ hholds, ?_, fun n text htext => ?_⟩
    · rw [hmembers, h.members, hexpected, if_pos hall]
    · rw [hmembers] at htext
      rw [hcompiled, htexts, List.mem_append]
      exact (mem_of_mem_apply htext).imp (h.matched n text) id

end Step

theorem sound_after (calls : List Call) : Sound calls (Run.after call fresh calls) := by
  induction calls using List.reverseRecOn with
  | nil => exact ⟨Matchers.holds_empty, rfl, fun n text h => absurd h List.not_mem_nil⟩
  | append_singleton calls k ih =>
    rw [Run.after_concat]
    exact sound_call ih k

/-- **Groups that share matchers are sets of texts in order of insertion.** After all calls, with patterns that compile
or not, the members of every group are different, and what they should be: an added text comes last if it is new, a
removed one is gone, and a list takes the place of all members, without the texts that come again. The next call answers
the fault of its first invalid pattern, wherever this one stands, and then no group changes; or else it does what it
should, and says whether the members changed. There is one matcher for every text that was compiled, which stays, and
none for any other text, and every member has its own. -/
theorem members_after (calls : List Call) (k : Call) :
    let s := Run.after call fresh calls
    let s' := (s.call k).2
    (s.members = expected calls ∧ ∀ n, (s.members n).Nodup) ∧
    (∀ e, firstFault k.texts = some e → (s.call k).1 = .invalid e ∧ s'.members = s.members) ∧
    (firstFault k.texts = none → (s.call k).1 = k.answer s.members ∧ s'.members = k.apply s.members) ∧
    (firstFault k.texts = none ↔ ∀ text ∈ k.texts, Compiles text = true) ∧
    (∀ yes, (s.call k).1 = .changed yes → (yes = true ↔ s'.members ≠ s.members)) ∧
    s.matchers.keys = (calls.flatMap Call.compiled).eraseDups ∧
    (∀ text m, s.matchers.get? text = some m →
      m.text = text ∧ Matcher.compile text = .ok m ∧ s'.matchers.get? text = some m) ∧
    ∀ n, ∀ text ∈ s.members n, ∃ m, s.matchers.get? text = some m := by
  intro s s'
  have hsound : Sound calls s := sound_after calls
  have hnext : Sound (calls ++ [k]) s' := sound_call hsound k
  obtain ⟨-, hfault, hdone⟩ := answered_call hsound.holds k
  refine ⟨⟨hsound.members, fun n => (s.group n).nodup⟩, hfault, hdone,
    firstFault_eq_none_iff.trans List.all_eq_true, fun yes hyes => ?_, hsound.holds.keys, fun text m hm => ?_,
    fun n text htext => (Matchers.exists_matcher_iff hsound.holds).mpr (hsound.matched n text htext)⟩
  · cases hfirst : firstFault k.texts with
    | some e => exact absurd ((hfault e hfirst).1.symm.trans hyes) (by simp)
    | none =>
      obtain ⟨hanswer, hmembers⟩ := hdone hfirst
      rw [hmembers]
      exact changed_iff (hanswer.symm.trans hyes)
  · have hcompile := hsound.holds.own hm
    obtain ⟨m', hm'⟩ := (Matchers.exists_matcher_iff hnext.holds).mpr (by
      rw [List.flatMap_append]
      exact List.mem_append_left _ ((Matchers.exists_matcher_iff hsound.holds).mp ⟨m, hm⟩))
    have hsame : m' = m := Except.ok.inj ((hnext.holds.own hm').symm.trans hcompile)
    exact ⟨text_of_compile hcompile, hcompile, hsame ▸ hm'⟩

/-- A list with an invalid text at its end changes no group, but the texts before it have their matchers now. -/
example :
    let s := Run.after call fresh [.add 0 "a", .make 1 ["b", "a", "b"], .replace 0 ["c", "b", "("]]
    s.members 0 = ["a"] ∧ s.members 1 = ["b", "a"] ∧ s.matchers.keys = ["a", "b", "c"] := by
  decide +kernel

end Groups

end MetricRouter.Pattern
