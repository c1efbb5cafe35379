import MetricRouter.Proofs.Catalog.Changes

/-!
# The catalog as a plain map

A plain map has one identity under each full name, and neither keys nor an overflow. Every catalog answers
as the plain map does, so the way in which keys are derived cannot be observed.

* `NameMap`, `NameMap.call` — the plain map, and what it answers;
* `Represents` — a catalog and a plain map that hold the same;
* `represents_call` — they answer alike, and go on holding the same;
* `answers_eq_answers` — the answers of a catalog do not depend on its keys.
-/

namespace MetricRouter

open Wire (FullName)
open Catalog (Call firstFree isChoosable)

/-- One identity under each full name, with its tokens and readings. -/
structure NameMap where
  identities : Table String Identity
  tokens : Tokens
  index : Table Int64 Identity
  readings : Table String Int64
  nextToken : Int64

namespace NameMap

/-- The map without an identity. -/
def fresh (ts : Tokens) : NameMap := ⟨.empty, ts, .empty, .empty, firstToken⟩

/-- The identity of a name, created at its first sighting. -/
def sight (m : NameMap) (n : FullName) (type : MetricType) : Identity × NameMap :=
  match m.identities.get? n.fqn with
  | some i => (i, m)
  | none =>
    let (i, tokens) := m.tokens.create n.host n.agent n.name type n.segments
    (i, { m with identities := m.identities.insert n.fqn i, tokens := tokens })

/-- The map after an identity was given a token and the counter was moved. -/
def give (m : NameMap) (i : Identity) (t next : Int64) : NameMap :=
  { m with
    tokens := { m.tokens with held := m.tokens.held.insert i.serial t }
    index := m.index.insert t i
    nextToken := next }

/-- The token of an identity, drawn if it has none. -/
def tokenize (m : NameMap) (i : Identity) : Int64 × NameMap :=
  if m.tokens.token i = noToken then
    let t := firstFree m.index m.index.size m.nextToken
    (t, m.give i t (t + 1))
  else (m.tokens.token i, m)

/-- A chosen token for the identity of a name. -/
def choose (m : NameMap) (t : Int64) (n : FullName) (type : MetricType) : Catalog.Answer × NameMap :=
  if isChoosable t then
    let (i, m) := m.sight n type
    if m.tokens.token i = t then (.token t, m)
    else
      match m.index.get? t with
      | some holder => (.refused (.tokenConflict t holder.fqn), m)
      | none =>
        if m.tokens.token i = noToken then (.token t, m.give i t (max m.nextToken (t + 1)))
        else (.token (m.tokens.token i), m)
  else (.refused (.protocol ("invalid token " ++ toString t.toInt)), m)

/-- How far a counter moved since its last reading. -/
def moved (m : NameMap) (value : Int64) (n : FullName) : Option Int64 :=
  match m.readings.get? n.fqn with
  | none => none
  | some previous => if value < previous then none else some (value - previous)

/-- The answer to a call, and the map after it. -/
def call (m : NameMap) : Call → Catalog.Answer × NameMap
  | .resolve n type =>
    let (i, m) := m.sight n type
    (.identity i (m.tokens.token i), m)
  | .build fqn type =>
    match Fqn.parse fqn with
    | .error fault => (.malformed fault, m)
    | .ok p =>
      let (i, m) := m.sight ⟨p.host, p.agent, p.segments, p.name⟩ type
      (.identity i (m.tokens.token i), m)
  | .tokenize i =>
    if i ∈ m.identities.values then
      let (t, m) := m.tokenize i
      (.token t, m)
    else (.done, m)
  | .assign n type =>
    let (i, m) := m.sight n type
    let (t, m) := m.tokenize i
    (.token t, m)
  | .assignWith t n type => m.choose t n type
  | .isAssigned n =>
    (.known (((m.identities.get? n.fqn).map m.tokens.token).filter (fun t => t != noToken)), m)
  | .lookup t => (.holder ((m.index.get? t).map (fun i => (i, m.tokens.token i))), m)
  | .delta value n => (.moved (m.moved value n), { m with readings := m.readings.insert n.fqn value })
  | .size => (.size m.identities.size, m)
  | .reset => (.done, fresh m.tokens)

/-- The answers to calls that are made in order. -/
abbrev answers (m : NameMap) (calls : List Call) : List Catalog.Answer := Run.answers call m calls

end NameMap

namespace Catalog

/-- **The catalog and the map hold the same.** -/
structure Represents (c : Catalog) (m : NameMap) : Prop where
  filed : c.Filed
  find? : ∀ f, c.find? f = m.identities.get? f
  size : c.size = m.identities.size
  tokens : c.tokens = m.tokens
  index : c.index = m.index
  readings : c.readings = m.readings
  nextToken : c.nextToken = m.nextToken

theorem represents_fresh (s : KeyStrategy) (ts : Tokens) : Represents (fresh s ts) (NameMap.fresh ts) where
  filed := filed_fresh s ts
  find? := fun _ => rfl
  size := rfl
  tokens := rfl
  index := rfl
  readings := rfl
  nextToken := rfl

section Represents

variable {c : Catalog} {m : NameMap}

theorem fqn_of_get? (h : Represents c m) {f : String} {i : Identity} (hi : m.identities.get? f = some i) :
    i.fqn = f :=
  fqn_of_find? h.filed ((h.find? f).trans hi)

theorem holds_iff_mem_values (h : Represents c m) (i : Identity) :
    c.Holds i ↔ i ∈ m.identities.values := by
  rw [holds_iff_find? h.filed, h.find?, Table.mem_values_iff]
  constructor
  · intro hi
    exact ⟨_, hi⟩
  · rintro ⟨f, hf⟩
    rw [fqn_of_get? h hf]
    exact hf

theorem represents_sight (h : Represents c m) (n : FullName) (type : MetricType) :
    (c.sight n type).1 = (m.sight n type).1 ∧ Represents (c.sight n type).2 (m.sight n type).2 := by
  rcases sight_cases h.filed n type with ⟨i, hi, hs⟩ | ⟨hno, c', hs, hext⟩
  · have hm : m.sight n type = (i, m) := by
      rw [h.find?] at hi
      simp [NameMap.sight, hi]
    rw [hs, hm]
    exact ⟨rfl, h⟩
  · have hm : m.sight n type = (c.newcomer n type,
        { m with
          identities := m.identities.insert n.fqn (c.newcomer n type)
          tokens := { m.tokens with created := m.tokens.created + 1 } }) := by
      rw [h.find?] at hno
      simp only [NameMap.sight, hno, newcomer, h.tokens]
      rfl
    rw [hs, hm]
    refine ⟨rfl, ?_⟩
    rw [h.find?] at hno
    exact {
      filed := hext.filed
      find? := by
        intro f
        rw [hext.find?, fqn_newcomer, h.find?, Table.get?_insert]
      size := by rw [hext.size, Table.size_insert, hno, h.size]; rfl
      tokens := by rw [hext.created, h.tokens]
      index := by rw [hext.index, h.index]
      readings := by rw [hext.readings, h.readings]
      nextToken := by rw [hext.nextToken, h.nextToken] }

theorem represents_give (h : Represents c m) (i : Identity) (t next : Int64) :
    Represents (c.give i t next) (m.give i t next) where
  filed := ⟨h.filed.primary, h.filed.overflow⟩
  find? := h.find?
  size := h.size
  tokens := by simp only [give, NameMap.give, h.tokens]
  index := by simp only [give, NameMap.give, h.index]
  readings := h.readings
  nextToken := rfl

theorem represents_tokenize (h : Represents c m) (i : Identity) :
    (c.tokenize i).1 = (m.tokenize i).1 ∧ Represents (c.tokenize i).2 (m.tokenize i).2 := by
  have htoken : c.token i = m.tokens.token i := by rw [token, h.tokens]
  by_cases ht : c.token i = noToken
  · have hfree : c.freeToken = firstFree m.index m.index.size m.nextToken := by
      rw [freeToken, h.index, h.nextToken]
    rw [tokenize_of_untokenized ht, NameMap.tokenize, if_pos (htoken ▸ ht), ← hfree]
    exact ⟨rfl, represents_give h i _ _⟩
  · rw [tokenize_of_tokenized ht, NameMap.tokenize, if_neg (htoken ▸ ht)]
    exact ⟨htoken, h⟩

theorem represents_choose (h : Represents c m) (t : Int64) (n : FullName) (type : MetricType) :
    (c.call (.assignWith t n type)).1 = (m.choose t n type).1 ∧
      Represents (c.call (.assignWith t n type)).2 (m.choose t n type).2 := by
  obtain ⟨hsame, hs⟩ := represents_sight h n type
  have htoken : (c.sight n type).2.token (c.sight n type).1 =
      (m.sight n type).2.tokens.token (m.sight n type).1 := by rw [token, hs.tokens, hsame]
  rcases assignTokenWith_cases c t n type with ⟨hc, hr⟩ | ⟨hc, hr⟩
  · simp only [call, hr, NameMap.choose, hc]
    exact ⟨rfl, h⟩
  simp only [NameMap.choose, hc, if_true, ← htoken, ← hs.index]
  rcases hr with ⟨ht, hr⟩ | ⟨holder, ht, hi, hr⟩ | ⟨ht, hi, hn, hr⟩ | ⟨hi, hn, hr⟩
  · simp only [call, hr, if_pos ht]
    exact ⟨trivial, hs⟩
  · simp only [call, hr, if_neg ht, hi]
    exact ⟨trivial, hs⟩
  · simp only [call, hr, if_neg ht, hi, if_neg hn]
    exact ⟨trivial, hs⟩
  · have ht : ¬ (c.sight n type).2.token (c.sight n type).1 = t := by
      rw [hn]
      exact (ne_noToken_of_isChoosable hc).symm
    simp only [call, hr, if_neg ht, hi, if_pos hn, ← hsame, ← hs.nextToken]
    exact ⟨trivial, represents_give hs _ _ _⟩

/-- **A catalog and a map that hold the same answer every call alike, and hold the same after it.** -/
theorem represents_call (c : Catalog) (m : NameMap) (k : Call) (h : Represents c m) :
    (c.call k).1 = (m.call k).1 ∧ Represents (c.call k).2 (m.call k).2 := by
  have htoken {c : Catalog} {m : NameMap} (h : Represents c m) (i : Identity) :
      c.token i = m.tokens.token i := by rw [token, h.tokens]
  cases k with
  | resolve n type =>
    obtain ⟨hsame, hs⟩ := represents_sight h n type
    exact ⟨by simp only [call, NameMap.call, htoken hs, hsame], hs⟩
  | build fqn type =>
    cases hp : Fqn.parse fqn with
    | error fault =>
      simp only [call, build, NameMap.call, hp, Except.map]
      exact ⟨trivial, h⟩
    | ok p =>
      obtain ⟨hsame, hs⟩ := represents_sight h ⟨p.host, p.agent, p.segments, p.name⟩ type
      have hcall : c.call (.build fqn type) =
          c.call (.resolve ⟨p.host, p.agent, p.segments, p.name⟩ type) := by
        simp [call, build, hp, Except.map, sight]
      rw [hcall]
      simp only [NameMap.call, hp]
      exact ⟨by simp only [call, htoken hs, hsame], hs⟩
  | tokenize i =>
    have hholds := holds_iff_mem_values h i
    obtain ⟨hsame, ht⟩ := represents_tokenize h i
    by_cases hi : c.Holds i
    · simp only [call, NameMap.call, if_pos hi, if_pos (hholds.mp hi)]
      exact ⟨by rw [hsame], ht⟩
    · simp only [call, NameMap.call, if_neg hi, if_neg (fun e => hi (hholds.mpr e))]
      exact ⟨trivial, h⟩
  | assign n type =>
    obtain ⟨hsame, hs⟩ := represents_sight h n type
    obtain ⟨hdrawn, ht⟩ := represents_tokenize hs (c.sight n type).1
    rw [hsame] at hdrawn ht
    have hcall : c.call (.assign n type) =
        (.token ((c.sight n type).2.tokenize (c.sight n type).1).1,
          ((c.sight n type).2.tokenize (c.sight n type).1).2) := rfl
    rw [hcall, hsame]
    exact ⟨by simp only [NameMap.call, hdrawn], ht⟩
  | assignWith t n type => exact represents_choose h t n type
  | isAssigned n =>
    refine ⟨?_, h⟩
    have hmap : c.token = m.tokens.token := funext (htoken h)
    simp only [call, NameMap.call, isAssigned, render_eq, h.find?, hmap]
  | lookup t =>
    refine ⟨?_, h⟩
    simp only [call, NameMap.call, lookupByToken, h.index, htoken h]
  | delta value n =>
    refine ⟨?_, ?_⟩
    · cases hread : m.readings.get? n.fqn with
      | none => simp only [call, delta, NameMap.call, NameMap.moved, render_eq, h.readings, hread]
      | some previous => simp only [call, delta, NameMap.call, NameMap.moved, render_eq, h.readings, hread]
    · exact { h with
        filed := ⟨h.filed.primary, h.filed.overflow⟩
        readings := by simp only [call, delta, NameMap.call, render_eq, h.readings] }
  | size => exact ⟨by simp only [call, NameMap.call, h.size], h⟩
  | reset =>
    refine ⟨rfl, ?_⟩
    show Represents (fresh c.strategy c.tokens) (NameMap.fresh m.tokens)
    rw [h.tokens]
    exact represents_fresh c.strategy m.tokens

end Represents

theorem answers_eq_answers (s : KeyStrategy) (ts : Tokens) (calls : List Call) :
    (fresh s ts).answers calls = (NameMap.fresh ts).answers calls :=
  (Run.answers_eq_of_sim represents_call (represents_fresh s ts) calls).1

end Catalog

end MetricRouter
