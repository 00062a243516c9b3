import EntityStore.Decimal.Reader
import EntityStore.Yaml.Node

/-!
# Documents

What a tree of nodes means: values without references, in which every scalar stands for a text, a
number, a truth value or nothing. A plain scalar stands for what its text looks like, a scalar in
quotes for a text, unless a tag says otherwise. The keys of a mapping are distinct.
-/

namespace EntityStore.Yaml

/-- The meaning of a document or of a part of one. -/
inductive Document where
  | null
  | bool (b : Bool)
  | integer (i : Int)
  | float (x : Float)
  | text (s : String)
  | list (items : List Document)
  /-- A mapping, in the order of its entries. -/
  | mapping (entries : List (Document × Document))
  /-- A value of the `kind` that a private tag states. -/
  | tagged (kind : String) (content : Document)
  deriving Inhabited

namespace Document

/-! ## Equality of keys -/

mutual

/-- Whether two values are the same key. There is one `NaN`, and the entries of a mapping have no
order. -/
def same : Document → Document → Bool
  | null, null => true
  | bool a, bool b => a == b
  | integer a, integer b => a == b
  | float a, float b => a == b || (a.isNaN && b.isNaN)
  | text a, text b => a == b
  | list a, list b => sameItems a b
  | mapping a, mapping b => a.length == b.length && sameEntries a b
  | tagged s a, tagged t b => s == t && a.same b
  | _, _ => false

def sameItems : List Document → List Document → Bool
  | [], [] => true
  | a :: as, b :: bs => a.same b && sameItems as bs
  | _, _ => false

/-- Whether every entry is one of the `others`. -/
def sameEntries : List (Document × Document) → List (Document × Document) → Bool
  | [], _ => true
  | (key, value) :: rest, others =>
    (others.any fun entry => key.same entry.1 && value.same entry.2) && sameEntries rest others

end

/-- A mapping of `entries`, unless a key occurs twice. -/
def ofEntries? (entries : List (Document × Document)) : Option Document :=
  if (entries.map Prod.fst).Pairwise fun a b => ¬ a.same b then some (mapping entries) else none

/-! ## The meaning of scalars -/

/-- The truth value that a `word` stands for. -/
def boolOfWord? (word : String) : Option Bool :=
  if ["true", "True", "TRUE"].contains word then some true
  else if ["false", "False", "FALSE"].contains word then some false
  else none

/-- Whether a `word` stands for `null`. -/
def isNullWord (word : String) : Bool := ["null", "Null", "NULL", "~"].contains word

/-- Whether `cs` is a zero and further decimal digits, with or without a sign. Such a text is no
number. -/
def isZeroFilled (cs : List Char) : Bool :=
  match cs with
  | '+' :: '0' :: ds | '-' :: '0' :: ds | '0' :: ds => !ds.isEmpty && ds.all Char.isDigit
  | _ => false

/-- The number that digits after the mark of their base, or decimal digits, denote. -/
def magnitude? : List Char → Option Nat
  | '0' :: 'x' :: ds => Text.readDigits? 16 ds
  | '0' :: 'o' :: ds => Text.readDigits? 8 ds
  | '0' :: 'b' :: ds => Text.readDigits? 2 ds
  | ds => Text.readNat? ds

/-- The whole number that a text denotes. -/
def readInteger? (cs : List Char) : Option Int :=
  if isZeroFilled cs then none
  else
    match cs with
    | '+' :: ds => (magnitude? ds).map fun n => (n : Int)
    | '-' :: ds => (magnitude? ds).map fun n => -(n : Int)
    | ds => (magnitude? ds).map fun n => (n : Int)

/-- Whether `i` lies between the least and the greatest whole number of a document. -/
def fitsDocument (i : Int) : Bool := Text.int64Min ≤ i && i ≤ (Text.count64Max : Int)

/-- Whether `i` is a number of 128 bits. One beyond is not taken for a whole number. -/
def isWhole (i : Int) : Bool :=
  -170141183460469231731687303715884105728 ≤ i && i ≤ 340282366920938463463374607431768211455

/-- The whole number that a text stands for. A whole number that is too great for a document is an
error; the outer `none` says that the text is not a whole number. -/
def integerOf? (cs : List Char) : Option (Option Document) :=
  ((readInteger? cs).filter isWhole).map fun i => if fitsDocument i then some (integer i) else none

/-- The number that a text stands for if it is not a whole one. -/
def floatOf? (cs : List Char) : Option Float :=
  let word := String.ofList cs
  if [".inf", ".Inf", ".INF", "+.inf", "+.Inf", "+.INF"].contains word then some (1.0 / 0.0)
  else if ["-.inf", "-.Inf", "-.INF"].contains word then some (-1.0 / 0.0)
  else if [".nan", ".NaN", ".NAN"].contains word then some (0.0 / 0.0)
  else
    match cs with
    | '+' :: '+' :: _ | '+' :: '-' :: _ => none
    | _ => (Decimal.read? cs).filter Float.isFinite

/-- The meaning of a scalar that is written plain. -/
def ofPlain? (word : String) : Option Document :=
  let cs := word.toList
  if word.isEmpty || isNullWord word then some null
  else
    match boolOfWord? word, integerOf? cs with
    | some b, _ => some (bool b)
    | none, some whole => whole
    | none, none =>
      match (if isZeroFilled cs then none else floatOf? cs) with
      | some x => some (float x)
      | none => some (text word)

/-- The meaning of a scalar without a private tag. The tags of standard kinds decide how `word` is
understood; with any other tag it stands for itself. -/
def ofScalar? (tag : Option Tag) (word : String) (plain : Bool) : Option Document :=
  match tag with
  | none => if plain then ofPlain? word else some (text word)
  | some tag =>
    if tag = Tag.standard "bool" then (boolOfWord? word).map bool
    else if tag = Tag.standard "int" then (integerOf? word.toList).join
    else if tag = Tag.standard "float" then (floatOf? word.toList).map float
    else if tag = Tag.standard "null" then if isNullWord word then some null else none
    else if plain && tag.isPrivate then ofPlain? word
    else some (text word)

/-! ## The meaning of nodes -/

/-- The `content` under the private tag of a node, if it has one. -/
def withTag (tag : Option Tag) (content : Document) : Document :=
  match tag.bind Tag.kind? with
  | some kind => tagged kind content
  | none => content

/-- The greatest number of lists and mappings that may stand inside one another. -/
def maxDepth : Nat := 128

/-- The number of references that may be followed for each node of a document. -/
def referencesPerNode : Nat := 100

/-- The node that a node means: the `anchored` one for a reference. The state is the number of
references that may still be followed. -/
def followed (anchored : List (Nat × Node)) : Node → StateT Nat Option Node
  | .reference number => do
    match ← get with
    | 0 => failure
    | left + 1 => do
      set left
      match (anchored.reverse.lookup number) with
      | some target => return target
      | none => failure
  | other => return other

/-- The meaning of a node within which so many lists and mappings may stand inside one another. -/
def ofNode? (anchored : List (Nat × Node)) : Nat → Node → StateT Nat Option Document
  | depth, n => do
    match ← followed anchored n, depth with
    | .reference _, _ => failure
    | .scalar p word plain, _ =>
      match p.tag.bind Tag.kind? with
      | some kind => return tagged kind (← (ofScalar? none word plain : Option Document))
      | none => (ofScalar? p.tag word plain : Option Document)
    | .list _ _, 0 | .mapping _ _, 0 => failure
    | .list p items, depth + 1 =>
      return withTag p.tag (list (← items.mapM (ofNode? anchored depth)))
    | .mapping p entries, depth + 1 => do
      let isTagged := (p.tag.bind Tag.kind?).isSome
      let entries ← (if isTagged then Node.keysUnderTag entries else entries).mapM fun entry => do
        return (← ofNode? anchored depth entry.1, ← ofNode? anchored depth entry.2)
      return withTag p.tag (← (ofEntries? entries : Option Document))

/-- The meaning of a tree. -/
def ofRoot? (root : Node) : Option Document :=
  (ofNode? root.anchored maxDepth root).run' (referencesPerNode * root.size)

/-- The meaning of the text `source`, which is `null` if there is no document. -/
def read? (source : String) : Option Document := do
  match ← root? source with
  | some root => ofRoot? root
  | none => return null

/-! ## Looking into documents -/

/-- The value without its tags. -/
def untagged : Document → Document
  | tagged _ content => content.untagged
  | other => other

def text? (d : Document) : Option String :=
  match d.untagged with
  | text s => some s
  | _ => none

def bool? (d : Document) : Option Bool :=
  match d.untagged with
  | bool b => some b
  | _ => none

def isNull (d : Document) : Bool :=
  match d.untagged with
  | null => true
  | _ => false

/-- The name that a value states: a text, or the kind of a tagged `null`. -/
def name? : Document → Option String
  | text s => some s
  | tagged kind content => if content.isNull then some kind else none
  | _ => none

end Document

/-- The name that a node states: the text of a scalar as it is written, or a private tag of
`null`. -/
def Node.name? : Node → Option String
  | scalar p word plain =>
    match p.tag.bind Tag.privateName? with
    | some name => if plain && (word.isEmpty || Document.isNullWord word) then some name else none
    | none => some word
  | _ => none

end EntityStore.Yaml
