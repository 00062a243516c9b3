import EntityStore.Yaml.Token

/-!
# Nodes

The tokens of a document form a tree of nodes: scalars, lists, mappings, and references to anchored
nodes. A node that is left out where there has to be one is an empty plain scalar. Anchors are
numbered by the count of the names that are in use before them, so an anchor that takes over a name
has the number of the next new one; a reference means the last node with its number.
-/

namespace EntityStore.Yaml

/-- What stands before a node. -/
structure Properties where
  anchor : Option Nat := none
  tag : Option Tag := none

/-- A node of the tree that a document is written as. -/
inductive Node where
  /-- Means the node whose anchor has this `number`. -/
  | reference (number : Nat)
  /-- A scalar, and whether it is written `plain`. -/
  | scalar (properties : Properties) (text : String) (plain : Bool)
  | list (properties : Properties) (items : List Node)
  | mapping (properties : Properties) (entries : List (Node × Node))

namespace Node

/-- The node that is left out. -/
def omitted : Node := scalar {} "" true

mutual

/-- The anchored nodes of a tree with their numbers, in the order of the beginnings of the nodes. -/
def anchored : Node → List (Nat × Node)
  | reference _ => []
  | scalar p text plain => (p.anchor.map fun number => (number, scalar p text plain)).toList
  | list p items =>
    (p.anchor.map fun number => (number, list p items)).toList ++ anchoredItems items
  | mapping p entries =>
    (p.anchor.map fun number => (number, mapping p entries)).toList ++ anchoredEntries entries

def anchoredItems : List Node → List (Nat × Node)
  | [] => []
  | item :: rest => item.anchored ++ anchoredItems rest

def anchoredEntries : List (Node × Node) → List (Nat × Node)
  | [] => []
  | (key, value) :: rest => key.anchored ++ value.anchored ++ anchoredEntries rest

end

mutual

/-- The size of a tree: a list or mapping counts as two nodes beside its parts. -/
def size : Node → Nat
  | reference _ => 1
  | scalar _ _ _ => 1
  | list _ items => 2 + sizeOfItems items
  | mapping _ entries => 2 + sizeOfEntries entries

def sizeOfItems : List Node → Nat
  | [] => 0
  | item :: rest => item.size + sizeOfItems rest

def sizeOfEntries : List (Node × Node) → Nat
  | [] => 0
  | (key, value) :: rest => key.size + value.size + sizeOfEntries rest

end

end Node

/-! ## Keys under a tag -/

namespace Node

mutual

/-- The node as a key of a mapping with a private tag. That tag takes the place of the one of the
key, and of those of its own keys if the key is a mapping. -/
def underTag : Node → Node
  | reference number => reference number
  | scalar p text plain => scalar { p with tag := none } text plain
  | list p items => list { p with tag := none } items
  | mapping p entries => mapping { p with tag := none } (keysUnderTag entries)

def keysUnderTag : List (Node × Node) → List (Node × Node)
  | [] => []
  | (key, value) :: rest => (key.underTag, value) :: keysUnderTag rest

end

end Node

/-! ## Reading nodes -/

/-- What the reading of nodes depends on: the `tokens` that are left, the numbers of the anchors
that have been named, and what `handles` stand for. -/
structure Reading where
  tokens : List Token
  names : List (List Char × Nat) := []
  handles : List (List Char × Tag) := []

/-- A step of reading, which fails if the document is ill-formed. -/
abbrev Reader := StateT Reading Option

namespace Reader

def peek : Reader (Option Token) := do return (← get).tokens.head?

def advance : Reader Unit := modify fun r => { r with tokens := r.tokens.tail }

/-- The number of a new anchor `name`. -/
def numberOf (name : List Char) : Reader Nat := do
  let r ← get
  let number := r.names.length
  set { r with names := (name, number) :: r.names.filter fun entry => entry.1 != name }
  return number

/-- The reference to the anchor that is now called `name`. -/
def referenceTo (name : List Char) : Reader Node := do
  match (← get).names.lookup name with
  | some number => return .reference number
  | none => failure

/-- The tag that is meant by what is written. Its handle has to be known. -/
def tagOf (t : TagText) : Reader Tag := do
  match t.handle with
  | none => return t.rest
  | some handle =>
    match (← get).handles.lookup handle with
    | some beginning => return beginning ++ t.rest
    | none => failure

/-- The anchor and the tag of a node as they are written, in either order. -/
def writtenProperties : Reader (Option (List Char) × Option TagText) := do
  match ← peek with
  | some (.anchor name) => do
    advance
    match ← peek with
    | some (.tag t) => do
      advance
      return (some name, some t)
    | _ => return (some name, none)
  | some (.tag t) => do
    advance
    match ← peek with
    | some (.anchor name) => do
      advance
      return (some name, some t)
    | _ => return (none, some t)
  | _ => return (none, none)

/-- The anchor and the tag of a node. -/
def properties : Reader Properties := do
  let (name, written) ← writtenProperties
  let tag ← written.mapM tagOf
  return ⟨← name.mapM numberOf, tag⟩

/-- A node of which only properties are written; one of them has to be there. -/
def onlyProperties (p : Properties) : Reader Node :=
  if p.anchor.isNone && p.tag.isNone then failure else return .scalar p "" true

/-- What begins no node after the mark of an item in a block. -/
def endsItem : Option Token → Bool
  | some .item | some .blockEnd => true
  | _ => false

/-- What begins no node after the mark of a key or a value in a block. -/
def endsEntryPart : Option Token → Bool
  | some .key | some .value | some .blockEnd => true
  | _ => false

/-- What begins no node after the mark of a key or a value in square brackets. -/
def endsPairPart : Option Token → Bool
  | some .comma | some .closeList => true
  | _ => false

/-- What begins no node after the mark of a key or a value in braces. -/
def endsBracedPart : Option Token → Bool
  | some .comma | some .closeMapping => true
  | _ => false

def isValue : Option Token → Bool
  | some .value => true
  | _ => false

mutual

/-- Read a node. Blocks may stand only within blocks, and a block of items that is not indented only
as a part of an entry. -/
def node : Nat → (inBlock inEntry : Bool) → Reader Node
  | 0, _, _ => failure
  | steps + 1, inBlock, inEntry => do
    match ← peek with
    | some (.alias name) => do
      advance
      referenceTo name
    | _ => do
      let p ← properties
      match ← peek with
      | some .item => if inEntry then return .list p (← flatItems steps) else onlyProperties p
      | some (.scalar text plain) => do
        advance
        return .scalar p text plain
      | some .openList => do
        advance
        return .list p (← bracketItems steps true)
      | some .openMapping => do
        advance
        return .mapping p (← bracketEntries steps true)
      | some .itemsStart =>
        if inBlock then do
          advance
          return .list p (← blockItems steps)
        else onlyProperties p
      | some .entriesStart =>
        if inBlock then do
          advance
          return .mapping p (← blockEntries steps)
        else onlyProperties p
      | _ => onlyProperties p

/-- Read the items of a block up to its end. -/
def blockItems : Nat → Reader (List Node)
  | 0 => failure
  | steps + 1 => do
    match ← peek with
    | some .item => do
      advance
      let first ← if endsItem (← peek) then pure .omitted else node steps true false
      return first :: (← blockItems steps)
    | some .blockEnd => do
      advance
      return []
    | _ => failure

/-- Read the items of a block that is not indented. -/
def flatItems : Nat → Reader (List Node)
  | 0 => failure
  | steps + 1 => do
    match ← peek with
    | some .item => do
      advance
      let next ← peek
      let first ←
        if endsItem next || endsEntryPart next then pure .omitted else node steps true false
      return first :: (← flatItems steps)
    | _ => return []

/-- Read the entries of a block up to its end. -/
def blockEntries : Nat → Reader (List (Node × Node))
  | 0 => failure
  | steps + 1 => do
    match ← peek with
    | some .key => do
      advance
      let key ← if endsEntryPart (← peek) then pure .omitted else node steps true true
      let value ←
        if isValue (← peek) then do
          advance
          if endsEntryPart (← peek) then pure .omitted else node steps true true
        else pure .omitted
      return (key, value) :: (← blockEntries steps)
    | some .blockEnd => do
      advance
      return []
    | _ => failure

/-- Read the items in square brackets up to the closing one. Between two items stands a comma; a
single entry is an item, too. The mark of a key without a key takes the next token with it. -/
def bracketItems : Nat → (first : Bool) → Reader (List Node)
  | 0, _ => failure
  | steps + 1, first => do
    match ← peek with
    | some .closeList => do
      advance
      return []
    | next => do
      if !first then
        match next with
        | some .comma => advance
        | _ => failure
      match ← peek with
      | some .closeList => do
        advance
        return []
      | some .key => do
        advance
        let next ← peek
        let key ←
          if isValue next || endsPairPart next then do
            advance
            pure .omitted
          else node steps false false
        let value ←
          if isValue (← peek) then do
            advance
            if endsPairPart (← peek) then pure .omitted else node steps false false
          else pure .omitted
        return .mapping {} [(key, value)] :: (← bracketItems steps false)
      | _ => do
        let item ← node steps false false
        return item :: (← bracketItems steps false)

/-- Read the entries in braces up to the closing one. Between two entries stands a comma; a node
without a mark before it is a key without a value. -/
def bracketEntries : Nat → (first : Bool) → Reader (List (Node × Node))
  | 0, _ => failure
  | steps + 1, first => do
    match ← peek with
    | some .closeMapping => do
      advance
      return []
    | next => do
      if !first then
        match next with
        | some .comma => advance
        | _ => failure
      match ← peek with
      | some .closeMapping => do
        advance
        return []
      | some .key => do
        advance
        let next ← peek
        let key ←
          if isValue next || endsBracedPart next then pure .omitted else node steps false false
        let value ←
          if isValue (← peek) then do
            advance
            if endsBracedPart (← peek) then pure .omitted else node steps false false
          else pure .omitted
        return (key, value) :: (← bracketEntries steps false)
      | _ => do
        let key ← node steps false false
        return (key, .omitted) :: (← bracketEntries steps false)

end

/-! ## Reading documents -/

/-- The handles that every document knows. -/
def standardHandles : List (List Char × Tag) :=
  [("!".toList, Tag.ofText "!"), ("!!".toList, Tag.standard "")]

/-- The directives that stand next. -/
def directives : Nat → Reader (List Directive)
  | 0 => failure
  | steps + 1 => do
    match ← peek with
    | some (.directive d) => do
      advance
      return d :: (← directives steps)
    | _ => return []

def definedHandles : List Directive → List (List Char × Tag)
  | [] => []
  | .handle name tag :: rest => (name, tag) :: definedHandles rest
  | .version _ _ :: rest => definedHandles rest

def statedVersions : List Directive → List (Nat × Nat)
  | [] => []
  | .version major minor :: rest => (major, minor) :: statedVersions rest
  | .handle _ _ :: rest => statedVersions rest

/-- Take directives into account. The version may be stated once and has to be 1.1 or 1.2, and no
handle may be defined twice. -/
def applyDirectives (ds : List Directive) : Reader Unit := do
  let versions := statedVersions ds
  let handles := definedHandles ds
  if versions.length ≤ 1 ∧ (versions.all fun v => v == (1, 1) || v == (1, 2)) ∧
      (handles.map Prod.fst).Nodup then
    modify fun r => { r with handles := handles ++ standardHandles }
  else failure

def isExplicit : Option Token → Bool
  | some (.directive _) | some .documentStart => true
  | _ => false

/-- What begins no node after the mark that begins a document. -/
def endsDocument : Option Token → Bool
  | some (.directive _) | some .documentStart | some .documentEnd | none => true
  | _ => false

/-- Read a document whose beginning is marked. -/
def explicitDocument (steps : Nat) : Reader Node := do
  applyDirectives (← directives steps)
  match ← peek with
  | some .documentStart => do
    advance
    if endsDocument (← peek) then return .omitted else node steps true false
  | _ => failure

/-- Read a document, if there is one. -/
def document (steps : Nat) : Reader (Option Node) := do
  let next ← peek
  if next.isNone then return none
  else if isExplicit next then return some (← explicitDocument steps)
  else
    applyDirectives []
    return some (← node steps true false)

/-- Read the end of the text after a document. Marks of its end may stand there, but no other
document. -/
def finish : Reader Unit := do
  let afterMarks := (← get).tokens.dropWhile fun
    | .documentEnd => true
    | _ => false
  if afterMarks.isEmpty then return else failure

end Reader

/-- The root of the only document in `text`; the inner `none` stands for a text without any. Of two
steps of reading at least one leaves a token behind. -/
def root? (text : String) : Option (Option Node) := do
  let tokens ← tokens? text
  let steps := 2 * tokens.length + 2
  let (root, rest) ← (Reader.document steps).run { tokens := tokens }
  let _ ← Reader.finish.run rest
  return root

end EntityStore.Yaml
