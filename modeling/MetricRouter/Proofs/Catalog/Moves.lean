import MetricRouter.Proofs.Catalog.Choices

/-!
# What a call does to the index and to the counter

Index and counter are moved together: a token is drawn from the counter and filed, or a chosen one is filed and the
counter moves past it.

* `Call.asks`, `given` — the calls that ask for a token, and the tokens that they are answered;
* `Moves`, `moves_call` — what a call does to index and counter, draws from the counter and answers;
* `searched_of_mem_draws`, `given_cases` — where the numbers come from that a call draws or answers.
-/

namespace MetricRouter.Catalog

open Wire (FullName)

/-! ## Tokens that are asked for -/

/-- Does the call ask for a token that the catalog chooses? -/
def Call.asks : Call → Bool
  | tokenize _ | assign _ _ => true
  | _ => false

/-- The token in an answer. -/
def Answer.token? : Answer → Option Int64
  | token t => some t
  | _ => none

/-- The token that a call is answered if it asks for one. -/
def Call.given (c : Catalog) (k : Call) : Option Int64 := if k.asks then (c.call k).1.token? else none

/-- The tokens that calls are answered which ask for one, in order. -/
def given (c : Catalog) (calls : List Call) : List Int64 :=
  ((calls.zip (c.answers calls)).filter (fun p => p.1.asks)).filterMap (fun p => p.2.token?)

theorem given_cons (c : Catalog) (k : Call) (rest : List Call) :
    c.given (k :: rest) = (k.given c).toList ++ (c.call k).2.given rest := by
  unfold given Call.given
  rw [answers, Run.answers, List.zip_cons_cons, List.filter_cons]
  cases k.asks with
  | false => rfl
  | true =>
    rw [if_pos rfl, List.filterMap_cons, if_pos rfl]
    cases (c.call k).1.token? <;> rfl

theorem draws_of_not_asks (c : Catalog) {k : Call} (hk : k.asks = false) : k.draws c = [] := by
  cases k with
  | tokenize i => exact absurd hk (by simp [Call.asks])
  | assign n type => exact absurd hk (by simp [Call.asks])
  | _ => rfl

theorem given_of_not_asks (c : Catalog) {k : Call} (hk : k.asks = false) : k.given c = none := by
  rw [Call.given, hk]
  exact if_neg Bool.false_ne_true

/-! ## Index and counter -/

/-- **What a call does to the index and to the counter.** -/
inductive Moves (c : Catalog) (k : Call) (c' : Catalog) : Prop where
  /-- Nothing; a token that is answered stands in the index. -/
  | kept (index : c'.index = c.index) (next : c'.nextToken = c.nextToken) (draws : k.draws c = [])
      (given : ∀ t, k.given c = some t → c.index.contains t = true)
  /-- It draws a token and answers it. -/
  | drawn (i : Identity) (index : c'.index = c.index.insert c.freeToken i)
      (next : c'.nextToken = c.freeToken + 1) (asks : k.asks = true)
      (draws : k.draws c = tries c.index c.index.size c.nextToken) (given : k.given c = some c.freeToken)
  /-- It gives away a chosen token. -/
  | chosen (i : Identity) (t : Int64) (n : FullName) (type : MetricType) (call : k = .assignWith t n type)
      (choosable : isChoosable t = true) (index : c'.index = c.index.insert t i)
      (next : c'.nextToken = max c.nextToken (t + 1))
  /-- It forgets everything. -/
  | forgotten (call : k = .reset) (index : c'.index = .empty) (next : c'.nextToken = firstToken)

section Moves

variable {c d : Catalog} {k : Call}

theorem moves_tokenize (hd : d.Indexed) {i : Identity} (hi : d.Holds i) (hindex : d.index = c.index)
    (hnext : d.nextToken = c.nextToken) (hasks : k.asks = true) (hdraws : k.draws c = d.draws i)
    (hcall : c.call k = (.token (d.tokenize i).1, (d.tokenize i).2)) : Moves c k (c.call k).2 := by
  have hgiven : k.given c = some (d.tokenize i).1 := by
    rw [Call.given, if_pos hasks, hcall]
    rfl
  have hfree : d.freeToken = c.freeToken := by rw [freeToken, hindex, hnext, freeToken]
  rw [hcall]
  by_cases ht : d.token i = noToken
  · rw [tokenize_of_untokenized ht] at hgiven ⊢
    rw [hfree] at hgiven ⊢
    refine .drawn i ?_ rfl hasks ?_ hgiven
    · rw [← hindex]
      rfl
    · rw [hdraws, draws, if_pos ht, hindex, hnext]
  · rw [tokenize_of_tokenized ht] at hgiven ⊢
    refine .kept hindex hnext ?_ ?_
    · rw [hdraws, draws, if_neg ht]
    · intro t hgiven'
      obtain rfl : d.token i = t := Option.some.inj (hgiven.symm.trans hgiven')
      rw [← hindex]
      exact Table.contains_iff.mpr ⟨i, hd.complete hi ht⟩

/-- **Every call moves the index and the counter in one of these ways.** -/
theorem moves_call (h : c.Indexed) (k : Call) : Moves c k (c.call k).2 := by
  -- a call that does not ask for a token, and leaves index and counter alone
  have hkept {c' : Catalog} (hk : k.asks = false) (hindex : c'.index = c.index)
      (hnext : c'.nextToken = c.nextToken) : Moves c k c' :=
    .kept hindex hnext (draws_of_not_asks c hk) (fun t ht => by simp [given_of_not_asks c hk] at ht)
  have hs (n : FullName) (type : MetricType) := sighted_sight h n type
  cases k with
  | resolve n type => exact hkept rfl (hs n type).index (hs n type).nextToken
  | build fqn type =>
    cases hp : Fqn.parse fqn with
    | error fault =>
      have hcall : (c.call (.build fqn type)).2 = c := by simp [call, build, hp, Except.map]
      exact hcall.symm ▸ hkept rfl rfl rfl
    | ok p =>
      have hcall : (c.call (.build fqn type)).2 =
          (c.sight ⟨p.host, p.agent, p.segments, p.name⟩ type).2 := by
        simp [call, build, hp, Except.map, sight]
      exact hcall.symm ▸ hkept rfl (hs _ type).index (hs _ type).nextToken
  | tokenize i =>
    by_cases hi : c.Holds i
    · exact moves_tokenize h hi rfl rfl rfl (draws_tokenize hi) (by simp [call, hi])
    · have hcall : c.call (.tokenize i) = (.done, c) := by simp [call, hi]
      have hgiven : (Call.tokenize i).given c = none := by
        rw [Call.given, hcall]
        rfl
      rw [hcall]
      exact .kept rfl rfl (by simp [Call.draws, hi]) (fun t ht => by simp [hgiven] at ht)
  | assign n type =>
    exact moves_tokenize (indexed_sight h n type) (holds_sight h.filed) (hs n type).index (hs n type).nextToken
      rfl rfl rfl
  | assignWith t n type =>
    rcases assignTokenWith_cases c t n type with ⟨-, hr⟩ | ⟨hc, hr⟩
    · have hcall : (c.call (.assignWith t n type)).2 = c := by simp [call, hr]
      exact hcall.symm ▸ hkept rfl rfl rfl
    · rcases hr with ⟨-, hr⟩ | ⟨holder, -, -, hr⟩ | ⟨-, -, -, hr⟩ | ⟨-, -, hr⟩
      · simpa [call, hr] using hkept rfl (hs n type).index (hs n type).nextToken
      · simpa [call, hr] using hkept rfl (hs n type).index (hs n type).nextToken
      · simpa [call, hr] using hkept rfl (hs n type).index (hs n type).nextToken
      · refine .chosen (c.sight n type).1 t n type rfl hc ?_ ?_
        · simp only [call, hr]
          rw [← (hs n type).index]
          rfl
        · simp only [call, hr]
          rw [← (hs n type).nextToken]
          rfl
  | isAssigned n => exact hkept rfl rfl rfl
  | lookup t => exact hkept rfl rfl rfl
  | delta value n => exact hkept rfl rfl rfl
  | size => exact hkept rfl rfl rfl
  | reset => exact .forgotten rfl rfl rfl

theorem searched_of_mem_draws (h : c.Indexed) {t : Int64} (ht : t ∈ k.draws c) :
    k.asks = true ∧ k.draws c = tries c.index c.index.size c.nextToken ∧ k.given c = some c.freeToken := by
  rcases moves_call h k with ⟨-, -, hdraws, -⟩ | ⟨i, -, -, hasks, hdraws, hgiven⟩ | ⟨i, t', n, type, rfl⟩ | ⟨rfl⟩
  · rw [hdraws] at ht
    exact absurd ht List.not_mem_nil
  · exact ⟨hasks, hdraws, hgiven⟩
  · exact absurd ht List.not_mem_nil
  · exact absurd ht List.not_mem_nil

theorem given_cases (h : c.Indexed) {t : Int64} (ht : k.given c = some t) :
    c.index.contains t = true ∨ (t = c.freeToken ∧ t ∈ k.draws c) := by
  rcases moves_call h k with ⟨-, -, -, hgiven⟩ | ⟨i, -, -, -, hdraws, hgiven⟩ | ⟨i, t', n, type, rfl⟩ | ⟨rfl⟩
  · exact Or.inl (hgiven t ht)
  · obtain rfl := Option.some.inj (hgiven.symm.trans ht)
    exact Or.inr ⟨rfl, hdraws ▸ firstFree_mem_tries _ _ _⟩
  · exact absurd ht (by simp [Call.given, Call.asks])
  · exact absurd ht (by simp [Call.given, Call.asks])

end Moves

end MetricRouter.Catalog
