import MetricRouter.Pattern.Matcher

/-!
# Groups of patterns

A group is a set of pattern texts in order of insertion; it matches what any of its members matches. The
matchers themselves are shared by all groups.

* `Group.add`, `Group.remove`, `Group.replace`, `Group.ofPatterns` — membership;
* `Group.answer` — the members are tried in order, and the first match ends the search.

An operation that meets an invalid text leaves the group as it was. Texts that compiled before it stay
among the shared matchers.
-/

namespace MetricRouter.Pattern

/-- Pattern texts without duplicates, in order of insertion. -/
structure Group where
  members : List String
  nodup : members.Nodup := by simp

namespace Group

/-- The group without a member. -/
def empty : Group := { members := [] }

instance : Inhabited Group := ⟨empty⟩

/-- The group with one more member, at the end if it is new. -/
def insert (g : Group) (text : String) : Group :=
  if h : text ∈ g.members then g
  else
    { members := g.members ++ [text]
      nodup := List.nodup_append.mpr ⟨g.nodup, by simp, fun a ha b hb => by
        rw [List.mem_singleton] at hb; rintro rfl; exact h (hb ▸ ha)⟩ }

/-- Adds a pattern and tells whether it is a new member. -/
def add (g : Group) (ms : Matchers) (text : String) : Except InvalidPattern Bool × Group × Matchers :=
  match ms.compile text with
  | .error e => (.error e, g, ms)
  | .ok (_, ms) => (.ok (!g.members.contains text), g.insert text, ms)

/-- Removes a pattern and tells whether it was a member. -/
def remove (g : Group) (text : String) : Bool × Group :=
  (g.members.contains text, { members := g.members.erase text, nodup := g.nodup.erase text })

/-- Compiles patterns in order and collects them in a group, up to the first invalid one. -/
def collect (g : Group) (ms : Matchers) : List String → Except InvalidPattern Group × Matchers
  | [] => (.ok g, ms)
  | text :: rest =>
    match ms.compile text with
    | .error e => (.error e, ms)
    | .ok (_, ms) => collect (g.insert text) ms rest

/-- The group of some patterns. -/
def ofPatterns (ms : Matchers) (patterns : List String) : Except InvalidPattern Group × Matchers :=
  collect empty ms patterns

/-- Replaces all members by some patterns. -/
def replace (g : Group) (ms : Matchers) (patterns : List String) :
    Except InvalidPattern Unit × Group × Matchers :=
  match ofPatterns ms patterns with
  | (.error e, ms) => (.error e, g, ms)
  | (.ok g, ms) => (.ok (), g, ms)

/-- Does one of the patterns match? They are tried in order up to the first match. -/
def answerAny (hash : String → Nat) (candidate : String) :
    List String → Matchers → Bool × Matchers
  | [], ms => (false, ms)
  | text :: rest, ms =>
    match ms.answer hash text candidate with
    | (true, ms) => (true, ms)
    | (false, ms) => answerAny hash candidate rest ms

/-- Does a member match? -/
def answer (hash : String → Nat) (g : Group) (ms : Matchers) (candidate : String) :
    Bool × Matchers :=
  answerAny hash candidate g.members ms

end Group

end MetricRouter.Pattern
