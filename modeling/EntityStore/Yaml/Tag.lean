import EntityStore.Yaml.Scalar

/-!
# Tags

A tag names the kind of a node. It is written as a whole between `!<` and `>`, or as an abbreviation
with a handle that stands for the beginning of the tag. Other characters than those of addresses are
written as the octets of their encoding. Each of the written parts ends early where the character
with code zero is among them, which may be all that there is of it.
-/

namespace EntityStore.Yaml

/-- The characters of a tag; `none` for octets that are the encoding of no character. -/
abbrev Tag := List (Option Char)

namespace Tag

def ofText (text : String) : Tag := text.toList.map some

/-- The characters that count: those before the first one with code zero. -/
def upToZero (tag : Tag) : Tag := tag.takeWhile (· != some '\x00')

/-- The tag without an exclamation mark at its beginning, unless it is nothing else. -/
def unmarked : Tag → Tag
  | some '!' :: c :: rest => c :: rest
  | tag => tag

/-- Whether a tag is private: it begins with an exclamation mark. -/
def isPrivate (tag : Tag) : Bool := tag.head? == some (some '!')

/-- The text of a tag, if all its characters are known. -/
def text? (tag : Tag) : Option String := (tag.mapM id).map String.ofList

/-- The name of a private tag, without its mark. -/
def privateName? (tag : Tag) : Option String := if tag.isPrivate then tag.unmarked.text? else none

/-- The kind of value that a private tag states: its name, in which a second mark does not count
either. -/
def kind? (tag : Tag) : Option String :=
  if tag.isPrivate then tag.unmarked.unmarked.text? else none

def bare : Tag := [some '!']

/-- The tag of a `kind` that every reader knows. -/
def standard (kind : String) : Tag := ofText ("tag:yaml.org,2002:" ++ kind)

end Tag

def isNameChar (c : Char) : Bool := c.isAlphanum || c == '-' || c == '_'

/-- The name that stands next, and what follows it. -/
def readName (ps : List Place) : List Char × List Place :=
  ((ps.takeWhile fun p => isNameChar p.char).map Place.char,
    ps.dropWhile fun p => isNameChar p.char)

/-! ## Characters of tags -/

/-- Whether `c` stands for itself in a tag. Marks of lists in brackets do so only where the tag is
written as a `whole`. -/
def isTagChar (whole : Bool) (c : Char) : Bool :=
  isNameChar c || ";/?:@&=+$.!~*'()".toList.contains c || (whole && [',', '[', ']'].contains c)

/-- The number of octets in the encoding of a character whose first one is `octet`. -/
def octetCount? (octet : Nat) : Option Nat :=
  if octet < 0x80 then some 1
  else if 0xC0 ≤ octet ∧ octet < 0xE0 then some 2
  else if 0xE0 ≤ octet ∧ octet < 0xF0 then some 3
  else if 0xF0 ≤ octet ∧ octet < 0xF8 then some 4
  else none

/-- The least code point that needs so many octets. -/
def leastCode : Nat → Nat
  | 2 => 0x80
  | 3 => 0x800
  | 4 => 0x10000
  | _ => 0

/-- The character that octets encode, if they encode one in the shortest way. -/
def charOfOctets? (first : Nat) (others : List Nat) : Option Char :=
  let lead := match others.length with
    | 0 => first
    | 1 => first % 0x20
    | 2 => first % 0x10
    | _ => first % 0x08
  let code := others.foldl (fun code octet => 0x40 * code + octet % 0x40) lead
  if leastCode (others.length + 1) ≤ code then charOfCode? code else none

/-- Read an octet after its percent sign. -/
def readOctet? : List Place → Option (Nat × List Place)
  | a :: b :: rest => do
    return (16 * (← Text.hexValue? a.char) + (← Text.hexValue? b.char), rest)
  | _ => none

/-- Read so many further octets of the encoding of a character. -/
def readOctets? : Nat → List Place → Option (List Nat × List Place)
  | 0, ps => some ([], ps)
  | _ + 1, [] => none
  | count + 1, p :: ps => do
    if p.char ≠ '%' then none
    else
      let (octet, ps) ← readOctet? ps
      if octet < 0x80 ∨ 0xC0 ≤ octet then none
      else
        let (others, ps) ← readOctets? count ps
        return (octet :: others, ps)

/-- Read a character of a tag; the inner `none` stands for octets that encode no character. -/
def readTagChar? (whole : Bool) : List Place → Option (Option Char × List Place)
  | [] => none
  | p :: ps =>
    if p.char = '%' then do
      let (first, ps) ← readOctet? ps
      let count ← octetCount? first
      let (others, ps) ← readOctets? (count - 1) ps
      return (charOfOctets? first others, ps)
    else if isTagChar whole p.char then some (some p.char, ps)
    else none

/-- Read characters of a tag, as many as there are and not more than the given number. -/
def readTagChars? (whole : Bool) : Nat → List Place → Option (Tag × List Place)
  | 0, ps => some ([], ps)
  | _ + 1, [] => some ([], [])
  | steps + 1, p :: ps =>
    if p.char = '%' ∨ isTagChar whole p.char then do
      let (c, ps) ← readTagChar? whole (p :: ps)
      let (cs, ps) ← readTagChars? whole steps ps
      return (c :: cs, ps)
    else some ([], p :: ps)

/-! ## Tags and handles -/

/-- Read what may be a handle: an exclamation mark, a name and perhaps another exclamation mark. -/
def readHandle? : List Place → Option (List Char × List Place)
  | [] => none
  | p :: ps =>
    if p.char ≠ '!' then none
    else
      let (name, rest) := readName ps
      match rest with
      | [] => some ('!' :: name, [])
      | q :: after =>
        if q.char = '!' then some ('!' :: name ++ ['!'], after) else some ('!' :: name, q :: after)

/-- A tag as it is written: the `handle`, unless it is written as a whole, and the `rest`. -/
structure TagText where
  handle : Option (List Char)
  rest : Tag
  deriving DecidableEq

/-- Read a tag written as a whole, after `!<`. -/
def readWholeTag? (ps : List Place) : Option (TagText × List Place) := do
  let (tag, ps) ← readTagChars? true ps.length ps
  match ps with
  | p :: rest => if p.char = '>' ∧ tag ≠ [] then some (⟨none, tag.upToZero⟩, rest) else none
  | [] => none

/-- Read an abbreviated tag. What begins like a handle and is none belongs to the rest of the
tag. -/
def readShortTag? (ps : List Place) : Option (TagText × List Place) := do
  let (handle, ps) ← readHandle? ps
  let (tag, ps) ← readTagChars? false ps.length ps
  if 1 < handle.length ∧ handle.getLast? = some '!' then
    if tag = [] then none else some (⟨some handle, tag.upToZero⟩, ps)
  else
    let tag := (handle.drop 1).map some ++ tag.upToZero
    if tag = [] then some (⟨none, Tag.bare⟩, ps) else some (⟨some ['!'], tag⟩, ps)

/-- Read a tag. A blank, the end of a line or, in brackets, a comma ends it. -/
def readTag? (inBrackets : Bool) (ps : List Place) : Option (TagText × List Place) := do
  let (tag, rest) ←
    if startsWith '<' (ps.drop 1) then readWholeTag? (ps.drop 2) else readShortTag? ps
  if endsWord rest ∨ (inBrackets ∧ startsWith ',' rest) then some (tag, rest) else none

/-! ## Directives -/

inductive Directive where
  | version (major minor : Nat)
  /-- The beginning of tags that a handle stands for. -/
  | handle (name : List Char) (tag : Tag)
  deriving DecidableEq

def readVersionNumber? (ps : List Place) : Option (Nat × List Place) := do
  let digits := (ps.takeWhile fun p => p.char.isDigit).map Place.char
  if 9 < digits.length then none
  else return (← Text.readNat? digits, ps.drop digits.length)

def readVersion? (ps : List Place) : Option (Directive × List Place) := do
  let (major, ps) ← readVersionNumber? (dropBlanks ps)
  if startsWith '.' ps then
    let (minor, ps) ← readVersionNumber? (ps.drop 1)
    return (.version major minor, ps)
  else none

/-- Read a handle, a blank and the beginning of tags. -/
def readHandleMeaning? (ps : List Place) : Option (Directive × List Place) := do
  let (name, ps) ← readHandle? (dropBlanks ps)
  if name.getLast? ≠ some '!' then none
  else if !(ps.head?.map fun p => isBlank p.char).getD false then none
  else
    let ps := dropBlanks ps
    let (tag, ps) ← readTagChars? true ps.length ps
    if tag ≠ [] ∧ endsWord ps then some (.handle name tag.upToZero, ps) else none

/-- Read a directive after its percent sign, up to the end of its line. -/
def readDirective? (ps : List Place) : Option (Directive × List Place) := do
  let (name, ps) := readName ps
  if !endsWord ps then none
  else
    let (directive, ps) ←
      if name = "YAML".toList then readVersion? ps
      else if name = "TAG".toList then readHandleMeaning? ps
      else none
    return (directive, ← afterLine? ps)

end EntityStore.Yaml
