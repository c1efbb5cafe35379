import MetricRouter.Pattern.Matching
import MetricRouter.Table
import MetricRouter.Text.Quoted

/-!
# Matchers with a memo

A matcher is a compiled pattern that remembers, by a number derived from the text, what it answered before. The
pattern has to match the whole of a text, so its text is compiled between `^(?:` and `)$`.

* `Matcher.compile` — the matcher of a pattern;
* `Matcher.answer` — its answer on a text, and the matcher that remembers it;
* `Matchers.compile` — the one matcher of a pattern text that all groups of patterns share.
-/

namespace MetricRouter.Pattern

/-- A pattern that does not compile. -/
structure InvalidPattern where
  fault : CompileFault
  deriving DecidableEq, Repr

/-- A compiled pattern with a memo of its answers. -/
structure Matcher where
  text : String
  regex : Regex
  /-- The hashes of texts that matched. -/
  hits : List Nat
  /-- The hashes of texts that did not. -/
  misses : List Nat

namespace Matcher

/-- The text that is compiled for a pattern. -/
def anchored (text : String) : String := "^(?:" ++ text ++ ")$"

/-- The matcher of a pattern. -/
def compile (text : String) : Except InvalidPattern Matcher :=
  match Regex.compile (anchored text) with
  | .error fault => .error ⟨fault⟩
  | .ok regex => .ok ⟨text, regex, [], []⟩

/-- Does the text match? The memo is asked first, and it remembers a new answer. -/
def answer (hash : String → Nat) (m : Matcher) (candidate : String) : Bool × Matcher :=
  let key := hash candidate
  if m.hits.contains key then (true, m)
  else if m.misses.contains key then (false, m)
  else if m.regex.isMatch candidate then (true, { m with hits := key :: m.hits })
  else (false, { m with misses := key :: m.misses })

/-- The number of answers remembered. -/
def cached (m : Matcher) : Nat := m.hits.length + m.misses.length

/-- The matcher as it is shown in reports. -/
def describe (m : Matcher) : String :=
  "PatternMatch \x7b text: " ++ Text.quoteText m.text ++ ", cached: " ++ toString m.cached ++ " \x7d"

end Matcher

/-- The matchers compiled so far, by pattern text. -/
abbrev Matchers := Table String Matcher

namespace Matchers

/-- The matcher of a pattern text, compiled at its first use. An invalid text leaves no trace. -/
def compile (ms : Matchers) (text : String) : Except InvalidPattern (Matcher × Matchers) :=
  match ms.get? text with
  | some m => .ok (m, ms)
  | none =>
    match Matcher.compile text with
    | .error e => .error e
    | .ok m => .ok (m, ms.insert text m)

/-- Does the text match the pattern? A pattern that was never compiled matches nothing. -/
def answer (hash : String → Nat) (ms : Matchers) (text candidate : String) : Bool × Matchers :=
  match ms.get? text with
  | none => (false, ms)
  | some m =>
    let (matched, m) := m.answer hash candidate
    (matched, ms.insert text m)

end Matchers

end MetricRouter.Pattern
