import MetricRouter.Net.Address

/-!
# Arguments

What a command is told by its arguments and by the environment.

* `Arguments.parse` — arguments and variables, of which the arguments win.

A name may be cut off from its value by a blank or by `=`; names of one letter may be written together,
and the value of the last one may follow it directly.
-/

namespace MetricRouter.CommandLine

/-- Why arguments are refused. -/
inductive Refusal where
  /-- The help text was asked for. -/
  | help
  | unknownArgument
  /-- A value that is missing or not one of the values allowed. -/
  | invalidValue
  /-- A value that cannot be read. -/
  | malformedValue
  /-- An argument that was given before. -/
  | repeatedArgument
  /-- A value for an argument that has none. -/
  | unneededValue
  deriving DecidableEq, Repr

/-- The arguments that have a name. -/
inductive Flag where
  | config
  | port
  | bind
  | conflationPeriod
  | noConflation
  | watchConfig
  | debug
  | checkConfig
  | version
  | help
  deriving DecidableEq, Repr

namespace Flag

/-- All arguments, in the order in which their variables are looked at. -/
def all : List Flag :=
  [.config, .port, .bind, .conflationPeriod, .noConflation, .watchConfig, .debug, .checkConfig, .version,
   .help]

/-- The name after two dashes. -/
def long : Flag → String
  | config => "config"
  | port => "port"
  | bind => "bind"
  | conflationPeriod => "conflation-period-ms"
  | noConflation => "no-conflation"
  | watchConfig => "watch-config"
  | debug => "debug"
  | checkConfig => "check-config"
  | version => "show-version"
  | help => "help"

/-- The letter after one dash. -/
def short? : Flag → Option Char
  | config => some 'c'
  | debug => some 'd'
  | version => some 'V'
  | help => some 'h'
  | _ => none

/-- The variable that stands in for the argument. -/
def environmentName? : Flag → Option String
  | config => some "APMROUTER_CONFIG"
  | port => some "APMROUTER_PORT"
  | bind => some "APMROUTER_BIND"
  | conflationPeriod => some "APMROUTER_CONFLATION_PERIOD_MS"
  | noConflation => some "APMROUTER_NO_CONFLATION"
  | watchConfig => some "APMROUTER_WATCH_CONFIG"
  | debug => some "APMROUTER_DEBUG"
  | _ => none

/-- Does a value follow? -/
def takesValue : Flag → Bool
  | config | port | bind | conflationPeriod => true
  | _ => false

/-- The argument of a name. -/
def ofLong? (name : String) : Option Flag := all.find? (fun f => f.long == name)

/-- The argument of a letter. -/
def ofShort? (c : Char) : Option Flag := all.find? (fun f => f.short? == some c)

end Flag

/-- What a command was told. -/
structure Arguments where
  config : Option String := none
  port : Option Nat := none
  bind : Option Net.Ip := none
  conflationPeriodMillis : Option Nat := none
  noConflation : Bool := false
  watchConfig : Bool := false
  debug : Bool := false
  checkConfig : Bool := false
  version : Bool := false

namespace Arguments

/-! ## Values -/

/-- The number that decimal digits stand for. -/
def digits? (cs : List Char) : Option Nat :=
  if cs.isEmpty || !cs.all Char.isDigit then none else some (Net.digitsValue 10 cs)

/-- A port. A sign may come first, but there are no ports below zero. -/
def port? (s : String) : Option Nat :=
  let (negative, digits) := match s.toList with
    | '+' :: cs => (false, cs)
    | '-' :: cs => (true, cs)
    | cs => (false, cs)
  (digits? digits).filter (fun n => if negative then n == 0 else n < UInt16.size)

/-- A number of 64 bits. A `+` may come first. -/
def word? (s : String) : Option Nat :=
  let digits := match s.toList with
    | '+' :: cs => cs
    | cs => cs
  (digits? digits).filter (· < UInt64.size)

/-- The value of an argument without one; a variable spells it out. -/
def truth? : String → Option Bool
  | "true" => some true
  | "false" => some false
  | _ => none

/-- The value, or a refusal in its absence. -/
def orRefuse {α : Type} (r : Refusal) : Option α → Except Refusal α
  | some a => .ok a
  | none => .error r

/-- Takes in the value of an argument. -/
def store (a : Arguments) (s : String) : Flag → Except Refusal Arguments
  | .config => if s.isEmpty then .error .invalidValue else .ok { a with config := some s }
  | .port => do return { a with port := some (← orRefuse .malformedValue (port? s)) }
  | .bind => do return { a with bind := some (← orRefuse .malformedValue (Net.Ip.parse? s)) }
  | .conflationPeriod => do
    return { a with conflationPeriodMillis := some (← orRefuse .malformedValue (word? s)) }
  | .noConflation => do return { a with noConflation := ← orRefuse .invalidValue (truth? s) }
  | .watchConfig => do return { a with watchConfig := ← orRefuse .invalidValue (truth? s) }
  | .debug => do return { a with debug := ← orRefuse .invalidValue (truth? s) }
  | .checkConfig => do return { a with checkConfig := ← orRefuse .invalidValue (truth? s) }
  | .version => do return { a with version := ← orRefuse .invalidValue (truth? s) }
  | .help => .error .help

/-! ## Reading arguments -/

/-- How far the arguments were read. -/
structure Progress where
  arguments : Arguments := {}
  /-- The arguments that were given. -/
  given : List Flag := []
  /-- The latest argument that takes a value, with the value if there was one. -/
  pending : Option (Flag × Option String) := none
  /-- Was there a `--`? After it nothing has a name. -/
  trailing : Bool := false

abbrev Step := Except Refusal Progress

namespace Progress

/-- Takes in an argument with its value. -/
def put (p : Progress) (f : Flag) (value : Option String) : Step := do
  if f == .help then throw .help
  let value ← if f.takesValue then orRefuse .invalidValue value else pure "true"
  if p.given.contains f then throw .repeatedArgument
  return { p with arguments := ← p.arguments.store value f, given := f :: p.given }

/-- Takes in the argument that waited for a value. -/
def settle (p : Progress) : Step :=
  match p.pending with
  | none => .ok p
  | some (f, value) => { p with pending := none }.put f value

/-- Takes in an argument after the one that waited. -/
def give (p : Progress) (f : Flag) (value : Option String) : Step := do
  (← p.settle).put f value

/-- Waits for the value of an argument. -/
def await (p : Progress) (f : Flag) : Step := do
  return { ← p.settle with pending := some (f, none) }

/-- An argument whose name has one letter, and those written together with it. -/
def shorts (p : Progress) : List Char → Step
  | [] => .ok p
  | c :: rest =>
    match Flag.ofShort? c with
    | none => .error .unknownArgument
    | some f =>
      if f.takesValue then
        match rest with
        | [] => p.await f
        | '=' :: value => p.give f (some (String.ofList value))
        | value => p.give f (some (String.ofList value))
      else
        match p.give f none with
        | .error r => .error r
        | .ok p => shorts p rest

/-- An argument whose name follows two dashes. -/
def longer (p : Progress) (cs : List Char) : Step :=
  let name := cs.takeWhile (· != '=')
  let value := match cs.dropWhile (· != '=') with
    | [] => none
    | _ :: value => some (String.ofList value)
  match Flag.ofLong? (String.ofList name) with
  | none => .error .unknownArgument
  | some f =>
    if f.takesValue then if value.isSome then p.give f value else p.await f
    else if value.isSome then .error .unneededValue
    else p.give f none

/-- An argument without a name: the value that is waited for. -/
def bare (p : Progress) (s : String) : Step :=
  match p.pending with
  | some (f, none) => .ok { p with pending := some (f, some s) }
  | _ => .error .unknownArgument

/-- Reads the next argument. -/
def next (p : Progress) (s : String) : Step :=
  if p.trailing then .error .unknownArgument
  else
    match s.toList with
    | ['-', '-'] => .ok { p with trailing := true }
    | '-' :: '-' :: cs => p.longer cs
    | '-' :: c :: cs => p.shorts (c :: cs)
    | _ => p.bare s

/-- Looks at the variable of an argument that was not given. -/
def lookUp (env : String → Option String) (p : Progress) (f : Flag) : Step :=
  if p.given.contains f then .ok p
  else
    match f.environmentName?.bind env with
    | none => .ok p
    | some value => do return { p with arguments := ← p.arguments.store value f }

end Progress

/-- What arguments and the environment tell. -/
def parse (args : List String) (env : String → Option String) : Except Refusal Arguments := do
  let p ← args.foldlM Progress.next {}
  let p ← p.settle
  return (← Flag.all.foldlM (Progress.lookUp env) p).arguments

end Arguments

end MetricRouter.CommandLine
