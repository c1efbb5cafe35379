import MetricRouter.Text.Blank

/-!
# Fully qualified names

A metric is named by its host, its agent, a list of namespace segments and its own name. The text
form is `host/agent[/segment…]:name`.

* `sanitize`, `sanitizeNamespace` — identifiers made fit for a name: trimmed, without delimiters,
  `unknown` when nothing is left, blank namespace segments dropped;
* `render` — the text form of raw identifiers;
* `Fqn.text`, `Fqn.parse` — the text form of given parts as they stand, and its inverse.
-/

namespace MetricRouter

/-- The parts of a fully qualified name. -/
structure Fqn where
  host : String
  agent : String
  segments : List String
  name : String
  deriving DecidableEq

/-- Why a text is no fully qualified name. -/
inductive NameFault where
  /-- No `:` sets off the metric's own name. -/
  | noMetricName (text : String)
  /-- The path in front of the `:` has a single segment. -/
  | noAgent (text : String)
  deriving DecidableEq

/-- What is wrong with the text, in words. -/
def NameFault.message : NameFault → String
  | noMetricName text => "FQN [" ++ text ++ "] has no metric name"
  | noAgent text => "FQN [" ++ text ++ "] has no agent"

namespace Fqn

/-! ## Identifiers -/

/-- A character that separates the parts of a name. -/
def isDelimiter (c : Char) : Bool := c == '/' || c == ':'

/-- What stands for an identifier that is blank. -/
def placeholder : String := "unknown"

/-- An identifier made fit for a name: trimmed, each delimiter replaced by `_`. -/
def sanitize (s : String) : String :=
  let kept := Text.trimBlank s.toList
  if kept.isEmpty then placeholder
  else String.ofList (kept.map (fun c => if isDelimiter c then '_' else c))

/-- Is nothing left of the text once it is trimmed? -/
def isBlankText (s : String) : Bool := (Text.trimBlank s.toList).isEmpty

/-- The segments of a namespace made fit for a name; blank ones are dropped. -/
def sanitizeNamespace (segments : List String) : List String :=
  (segments.filter (fun s => !isBlankText s)).map sanitize

/-! ## Text form -/

/-- The parts joined as they stand: `host/agent[/segment…]:name`. -/
def text (f : Fqn) : String :=
  f.host ++ "/" ++ f.agent ++ String.join (f.segments.map (fun s => "/" ++ s)) ++ ":" ++ f.name

/-- The name that raw identifiers stand for. -/
def ofRaw (host agent name : String) (segments : List String) : Fqn :=
  { host := sanitize host, agent := sanitize agent, segments := sanitizeNamespace segments,
    name := sanitize name }

/-- The text form of the name that raw identifiers stand for. -/
def render (host agent name : String) (segments : List String) : String :=
  (ofRaw host agent name segments).text

/-- The pieces between the occurrences of a separator; always at least one. -/
def splitAt (sep : Char) : List Char → List Char × List (List Char)
  | [] => ([], [])
  | c :: rest =>
    let (piece, more) := splitAt sep rest
    if c = sep then ([], piece :: more) else (c :: piece, more)

/-- The parts of a text form. The first `:` ends the path, and the path needs a `/`. -/
def parse (s : String) : Except NameFault Fqn :=
  let cs := s.toList
  match cs.dropWhile (fun c => c != ':') with
  | [] => .error (.noMetricName s)
  | _ :: name =>
    match splitAt '/' (cs.takeWhile (fun c => c != ':')) with
    | (_, []) => .error (.noAgent s)
    | (host, agent :: segments) =>
      .ok { host := String.ofList host, agent := String.ofList agent,
            segments := segments.map String.ofList, name := String.ofList name }

end Fqn

end MetricRouter
