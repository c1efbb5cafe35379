import MetricRouter.Table
import MetricRouter.Yaml.Token

/-!
# Nodes

The structure of a document: scalars, sequences and mappings. An alias is a node of its own, which names
the node that it stands for by a number.

* `Document.read` — the document of a text;
* `Document.node` — the node that an alias stands for;
* `Document.aliasLimit` — how many aliases a reader of the document may follow.

A value that is left out is an empty plain scalar, and so is the root of a text without a document.
-/

namespace MetricRouter.Yaml

/-- The structure of a document. -/
inductive Node where
  | scalar (tag : Option Tag) (style : Style) (text : String)
  | sequence (tag : Option Tag) (items : List Node)
  | mapping (tag : Option Tag) (entries : List (Node × Node))
  /-- An alias of the node with a number. -/
  | reference (number : Nat)
  deriving Inhabited

/-- A value that is left out. -/
def Node.absent : Node := .scalar none .plain ""

/-- A document. -/
structure Document where
  root : Node
  /-- The nodes that aliases may stand for by their numbers, each with how many had started before it. -/
  anchored : Table Nat (Nat × Node)

/-- The node with a number. -/
def Document.node (d : Document) (number : Nat) : Node := (d.anchored.get? number).elim .absent Prod.snd

mutual

/-- The number of events that a node is read from: a scalar or an alias is one, a collection has one at
its start and one at its end. -/
def Node.events : Node → Nat
  | .scalar _ _ _ => 1
  | .reference _ => 1
  | .sequence _ items => itemEvents items + 2
  | .mapping _ entries => entryEvents entries + 2

/-- The number of events of some nodes. -/
def Node.itemEvents : List Node → Nat
  | [] => 0
  | n :: rest => n.events + itemEvents rest

/-- The number of events of some entries. -/
def Node.entryEvents : List (Node × Node) → Nat
  | [] => 0
  | e :: rest => pairEvents e + entryEvents rest

/-- The number of events of a key with its value. -/
def Node.pairEvents : Node × Node → Nat
  | (key, value) => key.events + value.events

end

/-- How many aliases may be followed while values are read off the document. -/
def Document.aliasLimit (d : Document) : Nat := 100 * d.root.events

namespace Node

/-! ## The state of building -/

/-- What is left of the tokens, and what is known of anchors and tags. -/
structure Build where
  tokens : List Token
  /-- The number of each anchor. -/
  anchors : Table String Nat
  /-- How many nodes with an anchor have started. -/
  started : Nat
  /-- The nodes of the numbers as far as they are complete, each with how many had started before it. -/
  anchored : Table Nat (Nat × Node)
  /-- What the handles of tags stand for. -/
  handles : Table String Tag

abbrev Builder := StateT Build (Except Fault)

/-- The next token. -/
def peek : Builder (Option Token) := return (← get).tokens.head?

/-- Goes on to the token after the next one. -/
def skip : Builder Unit := modify fun b => { b with tokens := b.tokens.drop 1 }

/-- Is the next token one of these? -/
def sees (ts : List Token) : Builder Bool := return (← peek).any ts.contains

/-- Goes over the next token if it is this one, and tells whether it was. -/
def takes (t : Token) : Builder Bool := do
  if ← sees [t] then skip; return true
  else return false

/-- Goes over the next token, which has to be this one. -/
def expect (t : Token) : Builder Unit := do
  if !(← takes t) then throw .unexpectedToken

/-! ## Properties -/

/-- The anchor before a value, if there is one. -/
def anchor? : Builder (Option String) := do
  match ← peek with
  | some (.anchor name) => skip; return some name
  | _ => return none

/-- The tag before a value, if there is one. -/
def tag? : Builder (Option Tag) := do
  match ← peek with
  | some (.tag handle suffix) =>
    skip
    if handle.isEmpty then return some suffix
    match (← get).handles.get? handle with
    | some lead => return some (lead ++ suffix)
    | none => throw .unknownHandle
  | _ => return none

/-- The anchor and the tag before a value, in either order. -/
def properties : Builder (Option String × Option Tag) := do
  let first ← anchor?
  let tag ← tag?
  match first with
  | some _ => return (first, tag)
  | none => return (← anchor?, tag)

/-- The number of a node with an anchor, and how many such nodes had started before it. The number is that
of the anchors set so far, the same one set again not counted; so once an anchor was set again, its number
is that of the next new one, too. -/
def open? (name : Option String) : Builder (Option (Nat × Nat)) :=
  name.mapM fun name => do
    let b ← get
    set { b with anchors := b.anchors.insert name b.anchors.size, started := b.started + 1 }
    return (b.anchors.size, b.started)

/-- Notes the node that a number stands for. Of several it is the one that starts last, which may be inside
another one. -/
def close (opened : Option (Nat × Nat)) (node : Node) : Builder Node := do
  if let some (n, start) := opened then
    modify fun b =>
      if (b.anchored.get? n).any (fun e => start < e.1) then b
      else { b with anchored := b.anchored.insert n (start, node) }
  return node

/-! ## Values -/

/-- The tag that leaves open of which kind a value is. A scalar with it has no tag, unless it is left out. -/
def openTag : Tag := Text.utf8 "!"

/-- Reads a value; it is left out if one of these tokens comes next. -/
def orAbsent (ts : List Token) (value : Builder Node) : Builder Node := do
  if ← sees ts then return absent else value

mutual

/-- Reads a value. `block` allows blocks, and `flat` one whose items are not indented. -/
def value : Nat → Bool → Bool → Builder Node
  | 0, _, _ => throw .unexpectedToken
  | n + 1, block, flat => do
    if let some (.reference name) ← peek then
      skip
      match (← get).anchors.get? name with
      | some number => return .reference number
      | none => throw .unknownAnchor
    let (anchor, tag) ← properties
    let opened ← open? anchor
    let node ←
      match ← peek, block, flat with
      | some .item, _, true => sequence tag <$> flatItems n
      | some (.scalar style text), _, _ => do skip; pure (scalar (tag.filter (· != openTag)) style text)
      | some .flowSequence, _, _ => do skip; sequence tag <$> flowItems n true
      | some .flowMapping, _, _ => do skip; mapping tag <$> flowEntries n true
      | some .blockSequence, true, _ => do skip; sequence tag <$> blockItems n
      | some .blockMapping, true, _ => do skip; mapping tag <$> blockEntries n
      | _, _, _ =>
        if anchor.isSome || tag.isSome then pure (scalar tag .plain "") else throw .unexpectedToken
    close opened node

/-- The items of a block. -/
def blockItems : Nat → Builder (List Node)
  | 0 => throw .unexpectedToken
  | n + 1 => do
    if ← takes .blockEnd then return []
    expect .item
    let first ← orAbsent [.item, .blockEnd] (value n true false)
    return first :: (← blockItems n)

/-- The items of a block that is not indented. -/
def flatItems : Nat → Builder (List Node)
  | 0 => throw .unexpectedToken
  | n + 1 => do
    if !(← takes .item) then return []
    let first ← orAbsent [.item, .key, .value, .blockEnd] (value n true false)
    return first :: (← flatItems n)

/-- The entries of a block. -/
def blockEntries : Nat → Builder (List (Node × Node))
  | 0 => throw .unexpectedToken
  | n + 1 => do
    if ← takes .blockEnd then return []
    let inner := orAbsent [.key, .value, .blockEnd] (value n true true)
    expect .key
    let key ← inner
    let entry ← if ← takes .value then inner else pure absent
    return (key, entry) :: (← blockEntries n)

/-- The items between brackets. -/
def flowItems : Nat → Bool → Builder (List Node)
  | 0, _ => throw .unexpectedToken
  | n + 1, first => do
    if ← takes .flowSequenceEnd then return []
    if !first then expect .comma
    if ← takes .flowSequenceEnd then return []
    let item ← if ← takes .key then flowPair n else value n false false
    return item :: (← flowItems n false)

/-- A key with its value between brackets, which is a mapping of its own. Where the key is left out, the
token that comes in its place is passed over. -/
def flowPair : Nat → Builder Node
  | 0 => throw .unexpectedToken
  | n + 1 => do
    let inner := orAbsent [.comma, .flowSequenceEnd] (value n false false)
    let key ←
      if ← sees [.value, .comma, .flowSequenceEnd] then do skip; pure absent else value n false false
    let entry ← if ← takes .value then inner else pure absent
    return mapping none [(key, entry)]

/-- The entries between braces. -/
def flowEntries : Nat → Bool → Builder (List (Node × Node))
  | 0, _ => throw .unexpectedToken
  | n + 1, first => do
    if ← takes .flowMappingEnd then return []
    if !first then expect .comma
    if ← takes .flowMappingEnd then return []
    let inner := orAbsent [.comma, .flowMappingEnd] (value n false false)
    let entry ←
      if ← takes .key then
        let key ← orAbsent [.value] inner
        let entry ← if ← takes .value then inner else pure absent
        pure (key, entry)
      else
        let key ← value n false false
        pure (key, absent)
    return entry :: (← flowEntries n false)

end

/-! ## Documents -/

/-- Reads the directives before a document: at most one version, and each handle once. -/
def directives : Nat → Bool → List String → Builder Unit
  | 0, _, _ => return ()
  | n + 1, versioned, handles => do
    match ← peek with
    | some (.version major minor) =>
      if versioned || major != 1 || !(minor == 1 || minor == 2) then throw .badDirective
      skip
      directives n true handles
    | some (.handle name lead) =>
      if handles.contains name then throw .badDirective
      skip
      modify fun b => { b with handles := b.handles.insert name lead }
      directives n versioned (name :: handles)
    | _ => return ()

/-- Goes over the marks at the end of a document. -/
def documentEnds : Builder Unit :=
  modify fun b => { b with tokens := b.tokens.dropWhile (· == .documentEnd) }

/-- Does a document start with its mark or with directives? -/
def startsMarked : Option Token → Bool
  | some .documentStart | some (.version _ _) | some (.handle _ _) => true
  | _ => false

/-- The root of a text with at most one document. -/
def root (fuel : Nat) : Builder Node := do
  if (← get).tokens.isEmpty then return absent
  let marked := startsMarked (← peek)
  if marked then
    directives fuel false []
    expect .documentStart
  let rest := (← get).tokens
  let ends := rest.isEmpty || rest.head? == some .documentEnd || startsMarked rest.head?
  let node ← if marked && ends then pure absent else value fuel true false
  documentEnds
  if (← get).tokens.isEmpty then return node else throw .manyDocuments

/-- The handles of tags that need no declaration. -/
def standardHandles : Table String Tag :=
  (Table.empty.insert "!" (Text.utf8 "!")).insert "!!" (Text.utf8 "tag:yaml.org,2002:")

end Node

/-- The document of a text. -/
def Document.read (text : String) : Except Fault Document := do
  let tokens ← Token.ofText text.toList
  let start : Node.Build :=
    { tokens := tokens, anchors := .empty, started := 0, anchored := .empty, handles := Node.standardHandles }
  let (root, b) ← (Node.root (2 * tokens.length + 2)).run start
  return ⟨root, b.anchored⟩

end MetricRouter.Yaml
