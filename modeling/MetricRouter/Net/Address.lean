/-!
# Network addresses

* `Ip.parse?`, `Ip.display` — addresses of four bytes in dotted decimal, and addresses of eight groups in
  hexadecimal, where `::` stands for a run of zero groups;
* `Endpoint.parse?`, `Endpoint.display` — an address with a port, `10.0.0.1:5000` or `[::1]:80`.
-/

namespace MetricRouter.Net

/-- An address of a host. -/
inductive Ip where
  /-- Four bytes. -/
  | v4 (a b c d : Nat)
  /-- Eight groups of 16 bits. -/
  | v6 (groups : List Nat)
  deriving DecidableEq, Repr, Inhabited

/-- An address with a port; one of eight groups may have a scope. -/
structure Endpoint where
  ip : Ip
  port : Nat
  scope : Nat := 0
  deriving DecidableEq, Repr, Inhabited

/-! ## Reading numbers -/

/-- The value of a digit in a base up to 16. -/
def digit? (base : Nat) (c : Char) : Option Nat :=
  let v := if '0' ≤ c ∧ c ≤ '9' then c.toNat - 48
    else if 'a' ≤ c ∧ c ≤ 'f' then c.toNat - 87
    else if 'A' ≤ c ∧ c ≤ 'F' then c.toNat - 55
    else base
  if v < base then some v else none

/-- The number that digits stand for. -/
def digitsValue (base : Nat) (digits : List Char) : Nat :=
  digits.foldl (fun n c => n * base + (digit? base c).getD 0) 0

/-- A number below `bound`, of at most `width` digits if a width is given; `zeros` allows zeros in front
of it. -/
def number? (base bound : Nat) (width : Option Nat) (zeros : Bool) (cs : List Char) :
    Option (Nat × List Char) :=
  let digits := cs.takeWhile (fun c => (digit? base c).isSome)
  let value := digitsValue base digits
  if digits.isEmpty || (width.any (fun w => w < digits.length)) || bound ≤ value
    || (!zeros && digits.head? == some '0' && 1 < digits.length) then none
  else some (value, cs.drop digits.length)

/-- A given character, then what `next` reads. -/
def after? {α : Type} (c : Char) (next : List Char → Option (α × List Char)) :
    List Char → Option (α × List Char)
  | [] => none
  | d :: rest => if d = c then next rest else none

/-! ## Reading addresses -/

/-- A byte in decimal. -/
def byte? (cs : List Char) : Option (Nat × List Char) := number? 10 256 (some 3) false cs

/-- Four bytes in decimal with dots between them. -/
def v4? (cs : List Char) : Option (Ip × List Char) := do
  let (a, cs) ← byte? cs
  let (b, cs) ← after? '.' byte? cs
  let (c, cs) ← after? '.' byte? cs
  let (d, cs) ← after? '.' byte? cs
  return (.v4 a b c d, cs)

/-- Up to `room` groups with colons between them. The last two may be written as four bytes; the mark
tells whether they were. -/
def groups? (first : Bool) : Nat → List Char → List Nat × Bool × List Char
  | 0, cs => ([], false, cs)
  | room + 1, cs =>
    let separated {α : Type} (next : List Char → Option (α × List Char)) : Option (α × List Char) :=
      if first then next cs else after? ':' next cs
    match (if room = 0 then none else separated v4?) with
    | some (.v4 a b c d, rest) => ([a * 256 + b, c * 256 + d], true, rest)
    | _ =>
      match separated (number? 16 65536 (some 4) true) with
      | none => ([], false, cs)
      | some (g, rest) =>
        let (more, embedded, rest) := groups? false room rest
        (g :: more, embedded, rest)

/-- Eight groups, or fewer with one `::` for the missing ones. -/
def v6? (cs : List Char) : Option (Ip × List Char) :=
  let (head, embedded, rest) := groups? true 8 cs
  if head.length = 8 then some (.v6 head, rest)
  else if embedded then none
  else
    match rest with
    | ':' :: ':' :: rest =>
      let (tail, _, rest) := groups? true (7 - head.length) rest
      some (.v6 (head ++ List.replicate (8 - head.length - tail.length) 0 ++ tail), rest)
    | _ => none

/-- What a reader makes of a whole text. -/
def whole? {α : Type} (reader : List Char → Option (α × List Char)) (s : String) : Option α :=
  match reader s.toList with
  | some (a, []) => some a
  | _ => none

/-- An address. -/
def Ip.parse? (s : String) : Option Ip :=
  (whole? v4? s).or (whole? v6? s)

/-- A port after a colon. -/
def port? (cs : List Char) : Option (Nat × List Char) := after? ':' (number? 10 65536 none true) cs

/-- An address of four bytes with a port. -/
def endpointV4? (cs : List Char) : Option (Endpoint × List Char) := do
  let (ip, cs) ← v4? cs
  let (port, cs) ← port? cs
  return (⟨ip, port, 0⟩, cs)

/-- An address of eight groups in brackets, perhaps with a scope, and a port. -/
def endpointV6? (cs : List Char) : Option (Endpoint × List Char) := do
  let (ip, cs) ← after? '[' v6? cs
  let (scope, cs) := (after? '%' (number? 10 UInt32.size none true) cs).getD (0, cs)
  let (port, cs) ← after? ']' port? cs
  return (⟨ip, port, scope⟩, cs)

/-- An address with a port. -/
def Endpoint.parse? (s : String) : Option Endpoint :=
  (whole? endpointV4? s).or (whole? endpointV6? s)

/-! ## Writing -/

/-- A group in hexadecimal. -/
def groupText (n : Nat) : String := String.ofList (Nat.toDigits 16 n)

/-- Groups with colons between them. -/
def groupsText (gs : List Nat) : String := String.intercalate ":" (gs.map groupText)

/-- The start and the length of the first longest run of zeros; `start` is the place of the first group
given, `run` the number of zeros right before it. -/
def longestRun (start run : Nat) (best : Nat × Nat) : List Nat → Nat × Nat
  | [] => best
  | g :: rest =>
    if g = 0 then
      let best := if best.2 < run + 1 then (start - run, run + 1) else best
      longestRun (start + 1) (run + 1) best rest
    else longestRun (start + 1) 0 best rest

/-- Four bytes with dots between them. -/
def dotted (a b c d : Nat) : String :=
  toString a ++ "." ++ toString b ++ "." ++ toString c ++ "." ++ toString d

/-- An address. Of the runs of two or more zero groups the first longest one is written as `::`; an
address that wraps four bytes shows them in decimal. -/
def Ip.display : Ip → String
  | v4 a b c d => dotted a b c d
  | v6 [0, 0, 0, 0, 0, 65535, x, y] => "::ffff:" ++ dotted (x / 256) (x % 256) (y / 256) (y % 256)
  | v6 groups =>
    let (start, run) := longestRun 0 0 (0, 0) groups
    if 1 < run then groupsText (groups.take start) ++ "::" ++ groupsText (groups.drop (start + run))
    else groupsText groups

/-- An address with a port. -/
def Endpoint.display (e : Endpoint) : String :=
  match e.ip with
  | .v4 .. => e.ip.display ++ ":" ++ toString e.port
  | .v6 _ =>
    "[" ++ e.ip.display ++ (if e.scope = 0 then "" else "%" ++ toString e.scope) ++ "]:" ++
      toString e.port

end MetricRouter.Net
