import MetricRouter.Pattern.Automaton

/-!
# Compiling a pattern text

* `Regex.compile` — the expression that a text stands for, unless it would need too large an automaton.
-/

namespace MetricRouter.Pattern

/-- The expression that a text stands for. -/
def Regex.compile (text : String) : Except CompileFault Regex :=
  match Node.parse text with
  | .error e => .error (.malformed e)
  | .ok node =>
    match Regex.ofNode {} node with
    | .error e => .error e
    | .ok (r, _) => if r.normal.fits then .ok r else .error .tooLarge

end MetricRouter.Pattern
