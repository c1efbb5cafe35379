import MetricRouter.Pattern.Scan

/-!
# Reading a regular expression

The reader goes through the text once. What is open at any place, groups in an expression and brackets
in a class, is kept on a stack, so one step handles one token.

* `SetReader.step`, `readSet` — a class between brackets;
* `Reader.step`, `Reader.run` — an expression;
* `Node.parse` — the tree of a whole text.
-/

namespace MetricRouter.Pattern

/-! ## Character classes -/

/-- What is open around the members being read. -/
inductive SetFrame where
  /-- A bracket with the members that stand before it in the bracket around it. -/
  | bracket (outer : List ClassSet) (negated : Bool)
  /-- An operation with its left side. -/
  | op (kind : SetOp) (lhs : ClassSet)
  deriving Repr

/-- A class being read: the members so far, newest first, and what is open around them. -/
structure SetReader where
  members : List ClassSet
  frames : List SetFrame
  deriving Repr

/-- The set of some members, given newest first. -/
def ClassSet.ofMembers : List ClassSet → ClassSet
  | [] => .empty
  | [m] => m
  | m :: rest => .union (ofMembers rest) m

/-- Ends the operation that is open, if there is one. -/
def SetReader.closeOp (rhs : ClassSet) : List SetFrame → ClassSet × List SetFrame
  | .op kind lhs :: frames => (.op kind lhs rhs, frames)
  | frames => (rhs, frames)

/-- Hyphens at the start of a bracket stand for themselves, and so does a closing bracket that comes
first of all. -/
def readLeadingMembers (blanks : Bool) (fuel : Nat) (members : List ClassSet) (cs : List Char) :
    Except SyntaxFault (List ClassSet × List Char) :=
  match fuel, cs with
  | _, [] => .error .classUnclosed
  | fuel + 1, '-' :: rest =>
    readLeadingMembers blanks fuel (.literal ⟨'-', false⟩ :: members) (skip blanks rest)
  | _, ']' :: rest =>
    if members.isEmpty then
      match skip blanks rest with
      | [] => .error .classUnclosed
      | rest => .ok ([.literal ⟨']', false⟩], rest)
    else .ok (members, cs)
  | _, _ => .ok (members, cs)

/-- The start of a bracket, from behind the opening bracket: whether it is negated, the members that
only stand for themselves there, and the text after them. -/
def readSetStart (blanks : Bool) (cs : List Char) :
    Except SyntaxFault (Bool × List ClassSet × List Char) :=
  let members (negated : Bool) (cs : List Char) :=
    (readLeadingMembers blanks cs.length [] cs).map (fun p => (negated, p.1, p.2))
  match skip blanks cs with
  | [] => .error .classUnclosed
  | '^' :: rest => members true (skip blanks rest)
  | cs => members false cs

/-- The ASCII class with a given name. -/
def AsciiKind.ofName? (name : String) : Option AsciiKind :=
  match name with
  | "alnum" => some .alnum
  | "alpha" => some .alpha
  | "ascii" => some .ascii
  | "blank" => some .blank
  | "cntrl" => some .cntrl
  | "digit" => some .digit
  | "graph" => some .graph
  | "lower" => some .lower
  | "print" => some .print
  | "punct" => some .punct
  | "space" => some .space
  | "upper" => some .upper
  | "word" => some .word
  | "xdigit" => some .xdigit
  | _ => none

/-- A class such as `[:alpha:]` or `[:^alpha:]`, from behind its opening bracket; `none` where the text
is none, so that the bracket opens a class of its own. -/
def readAscii? (cs : List Char) : Option (ClassSet × List Char) :=
  let named (negated : Bool) (cs : List Char) : Option (ClassSet × List Char) :=
    match cs.dropWhile (fun c => c != ':') with
    | ':' :: ']' :: rest =>
      (AsciiKind.ofName? (String.ofList (cs.takeWhile (fun c => c != ':')))).map
        fun kind => (.ascii kind negated, rest)
    | _ => none
  match cs with
  | ':' :: '^' :: rest => named true rest
  | ':' :: rest => named false rest
  | _ => none

/-- One member of a class, or one end of a range. -/
def readMember (blanks : Bool) : List Char → Except SyntaxFault (Atom × List Char)
  | [] => .error .classUnclosed
  | '\\' :: rest => readEscape blanks rest
  | c :: rest => .ok (.literal ⟨c, false⟩, rest)

/-- The member that a token stands for; conditions stand for none. -/
def Atom.member : Atom → Except SyntaxFault ClassSet
  | literal l => .ok (.literal l)
  | unicodeClass q n => .ok (.unicode q n)
  | perlClass k n => .ok (.perl k n)
  | _ => .error .classMember

/-- A member of a class or a range of characters. A hyphen in front of `]` or of another hyphen does not
make a range. -/
def readRange (blanks : Bool) (cs : List Char) : Except SyntaxFault (ClassSet × List Char) :=
  match readMember blanks cs with
  | .error e => .error e
  | .ok (first, rest) =>
    let single (cs : List Char) : Except SyntaxFault (ClassSet × List Char) :=
      first.member.map (fun m => (m, cs))
    match skip blanks rest with
    | [] => .error .classUnclosed
    | '-' :: rest =>
      if peek blanks rest = some ']' ∨ peek blanks rest = some '-' then single ('-' :: rest)
      else
        match skip blanks rest with
        | [] => .error .classUnclosed
        | rest =>
          match readMember blanks rest with
          | .error e => .error e
          | .ok (last, rest) =>
            match first, last with
            | .literal a, .literal b =>
              if a.char ≤ b.char then .ok (.range a b, rest) else .error .rangeReversed
            | _, _ => .error .classMember
    | rest => single rest

/-- The outcome of one step in a class. -/
inductive SetStep where
  | more (reader : SetReader) (rest : List Char)
  /-- The outermost bracket is closed. -/
  | closed (negated : Bool) (set : ClassSet) (rest : List Char)

/-- One token of a class. -/
def SetReader.step (blanks : Bool) (r : SetReader) (cs : List Char) : Except SyntaxFault SetStep :=
  let operation (kind : SetOp) (rest : List Char) : Except SyntaxFault SetStep :=
    let (lhs, frames) := closeOp (.ofMembers r.members) r.frames
    .ok (.more ⟨[], .op kind lhs :: frames⟩ rest)
  match skip blanks cs with
  | [] => .error .classUnclosed
  | '[' :: rest =>
    match readAscii? rest with
    | some (m, rest) => .ok (.more ⟨m :: r.members, r.frames⟩ rest)
    | none =>
      match readSetStart blanks rest with
      | .error e => .error e
      | .ok (negated, members, rest) =>
        .ok (.more ⟨members, .bracket r.members negated :: r.frames⟩ rest)
  | ']' :: rest =>
    match closeOp (.ofMembers r.members) r.frames with
    | (set, [.bracket _ negated]) => .ok (.closed negated set rest)
    | (set, .bracket outer negated :: frames) =>
      .ok (.more ⟨.bracketed negated set :: outer, frames⟩ rest)
    | (_, _) => .error .classUnclosed
  | '&' :: '&' :: rest => operation .intersection rest
  | '-' :: '-' :: rest => operation .difference rest
  | '~' :: '~' :: rest => operation .symmetricDifference rest
  | cs =>
    match readRange blanks cs with
    | .error e => .error e
    | .ok (m, rest) => .ok (.more ⟨m :: r.members, r.frames⟩ rest)

/-- Goes on with a class until its outermost bracket is closed; every token has a character, so the
length of the text bounds the number of steps. -/
def SetReader.run (blanks : Bool) : Nat → SetReader → List Char →
    Except SyntaxFault (Bool × ClassSet × List Char)
  | 0, _, _ => .error .classUnclosed
  | fuel + 1, r, cs =>
    match r.step blanks cs with
    | .error e => .error e
    | .ok (.closed negated set rest) => .ok (negated, set, rest)
    | .ok (.more r rest) => run blanks fuel r rest

/-- A class between brackets, from behind its opening bracket. -/
def readSet (blanks : Bool) (cs : List Char) : Except SyntaxFault (Node × List Char) :=
  match readSetStart blanks cs with
  | .error e => .error e
  | .ok (negated, members, rest) =>
    match SetReader.run blanks (cs.length + 1) ⟨members, [.bracket [] negated]⟩ rest with
    | .error e => .error e
    | .ok (negated, set, rest) => .ok (.bracketed negated set, rest)

/-! ## Expressions -/

/-- One level of an expression being read: the finished alternatives and the parts of the current one,
both newest first. -/
structure Level where
  alternatives : List Node
  parts : List Node
  deriving Repr

/-- A group being read, with the level around it. -/
structure GroupFrame where
  outer : Level
  change : FlagChange
  captures : Bool
  /-- Whether blanks are ignored around the group. -/
  blanks : Bool
  deriving Repr

/-- An expression being read. -/
structure Reader where
  level : Level
  frames : List GroupFrame
  /-- Are blanks and comments ignored here? -/
  blanks : Bool
  /-- The names of the groups so far. -/
  names : List String
  deriving Repr

/-- The sequence of some parts, given newest first. -/
def Node.ofParts : List Node → Node
  | [] => .empty
  | [n] => n
  | n :: rest => .concat (ofParts rest) n

/-- One of some alternatives, given newest first. -/
def Node.ofAlternatives : List Node → Node
  | [] => .empty
  | [n] => n
  | n :: rest => .alternation (ofAlternatives rest) n

/-- The expression that a finished level stands for. -/
def Level.node (l : Level) : Node := .ofAlternatives (.ofParts l.parts :: l.alternatives)

/-- The level with one more part. -/
def Level.push (l : Level) (n : Node) : Level := { l with parts := n :: l.parts }

/-- Repeats the last part of the level. -/
def Level.repeatLast (l : Level) (least : Nat) (most : Option Nat) (greedy : Bool) :
    Except SyntaxFault Level :=
  match l.parts with
  | [] | .setFlags _ :: _ => .error .repetitionMissing
  | n :: parts => .ok { l with parts := .repetition n least most greedy :: parts }

/-- Whether a repetition is greedy, and the text past the mark of a lazy one. -/
def readGreed : List Char → Bool × List Char
  | '?' :: rest => (false, rest)
  | cs => (true, cs)

namespace Reader

/-- A reader at the start of a text. -/
def start : Reader := ⟨⟨[], []⟩, [], false, []⟩

/-- The reader with one more part in its level. -/
def push (r : Reader) (n : Node) : Reader := { r with level := r.level.push n }

/-- Repeats the last part. -/
def repeatLast (r : Reader) (least : Nat) (most : Option Nat) (rest : List Char) :
    Except SyntaxFault (Reader × List Char) :=
  let (greedy, rest) := readGreed rest
  (r.level.repeatLast least most greedy).map (fun l => ({ r with level := l }, rest))

/-- Opens a group, or sets flags for the rest of the current one. -/
def openGroup (r : Reader) (cs : List Char) : Except SyntaxFault (Reader × List Char) :=
  match readGroupStart r.blanks cs with
  | .error e => .error e
  | .ok (.flags change, rest) =>
    .ok ({ r.push (.setFlags change) with
           blanks := (change.state? .ignoreBlanks).getD r.blanks }, rest)
  | .ok (.group change captures name, rest) =>
    match name.filter (r.names.contains ·) with
    | some _ => .error .groupName
    | none =>
      .ok ({ level := ⟨[], []⟩
             frames := ⟨r.level, change, captures, r.blanks⟩ :: r.frames
             blanks := (change.state? .ignoreBlanks).getD r.blanks
             names := name.toList ++ r.names }, rest)

/-- Closes the innermost group. -/
def closeGroup (r : Reader) : Except SyntaxFault Reader :=
  match r.frames with
  | [] => .error .groupUnopened
  | f :: frames =>
    .ok { r with
          level := f.outer.push (.group f.change f.captures r.level.node)
          frames := frames
          blanks := f.blanks }

/-- One token of the expression. -/
def step (r : Reader) (c : Char) (rest : List Char) : Except SyntaxFault (Reader × List Char) :=
  match c with
  | '(' => r.openGroup rest
  | ')' => r.closeGroup.map (fun r => (r, rest))
  | '|' => .ok ({ r with level := ⟨.ofParts r.level.parts :: r.level.alternatives, []⟩ }, rest)
  | '[' => (readSet r.blanks rest).map (fun p => (r.push p.1, p.2))
  | '?' => r.repeatLast 0 (some 1) rest
  | '*' => r.repeatLast 0 none rest
  | '+' => r.repeatLast 1 none rest
  | '{' =>
    match r.level.parts with
    | [] | .setFlags _ :: _ => .error .repetitionMissing
    | _ =>
      match readCount r.blanks rest with
      | .error e => .error e
      | .ok ((least, most), rest) => r.repeatLast least most rest
  | '\\' => (readEscape r.blanks rest).map (fun p => (r.push p.1.node, p.2))
  | '.' => .ok (r.push .dot, rest)
  | '^' => .ok (r.push (.assertion .startLine), rest)
  | '$' => .ok (r.push (.assertion .endLine), rest)
  | c => .ok (r.push (.literal ⟨c, false⟩), rest)

/-- Reads the text to its end; every token has a character, so the length of the text bounds the number
of steps. -/
def run : Nat → Reader → List Char → Except SyntaxFault Reader
  | 0, r, _ => .ok r
  | fuel + 1, r, cs =>
    match skip r.blanks cs with
    | [] => .ok r
    | c :: rest =>
      match r.step c rest with
      | .error e => .error e
      | .ok (r, rest) => run fuel r rest

/-- The expression that was read, once every group is closed. -/
def finish (r : Reader) : Except SyntaxFault Node :=
  match r.frames with
  | [] => if r.level.node.depth ≤ nestLimit then .ok r.level.node else .error .nestedTooDeeply
  | _ => .error .groupUnclosed

end Reader

/-- The tree of a regular expression. -/
def Node.parse (text : String) : Except SyntaxFault Node :=
  match Reader.run text.toList.length .start text.toList with
  | .error e => .error e
  | .ok r => r.finish

end MetricRouter.Pattern
