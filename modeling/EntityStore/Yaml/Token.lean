import EntityStore.Yaml.Block
import EntityStore.Yaml.Tag

/-!
# Tokens

A text is cut into tokens, in which its indentation has become marks of the beginning and the end of
blocks. Whether a token is the key of a mapping shows only at the colon after it. So a token that
may be a key is remembered, and the mark of a key is put before it when the colon comes. A key
stands on one line and is at most 1024 characters long.
-/

namespace EntityStore.Yaml

/-- A token of a text. -/
inductive Token where
  | directive (d : Directive)
  | documentStart
  | documentEnd
  /-- The beginning of a block of items. -/
  | itemsStart
  /-- The beginning of a block of entries. -/
  | entriesStart
  | blockEnd
  | openList
  | closeList
  | openMapping
  | closeMapping
  | item
  | comma
  | key
  | value
  /-- A reference to an anchor. -/
  | alias (name : List Char)
  | anchor (name : List Char)
  | tag (t : TagText)
  /-- A scalar, and whether it is written `plain`. -/
  | scalar (text : String) (plain : Bool)

/-- A token that is a key if a colon follows. It stands after `number` others, and if it is
`required` it cannot be anything else. -/
structure Candidate where
  number : Nat
  line : Nat
  column : Nat
  required : Bool
  deriving DecidableEq, Repr

namespace Candidate

/-- The greatest distance between the beginning of a key and its colon. -/
def reach : Nat := 1024

/-- Whether `p` is too far away for the colon after the key. -/
def isPassed (k : Candidate) (p : Place) : Bool :=
  k.line < p.line || k.column + reach < p.column

/-- The candidate if it still is one at `p`. A required one must be one. -/
def at? (p : Place) : Option Candidate → Option (Option Candidate)
  | none => some none
  | some k => if k.isPassed p then if k.required then none else some none else some (some k)

end Candidate

/-- The state of cutting a text into tokens. -/
structure Tokenizer where
  /-- The tokens so far, the last one first. -/
  tokens : List Token := []
  /-- The indentations of the open blocks, the innermost and deepest first. -/
  indents : List Nat := []
  /-- The last token that may be a key, within the innermost open bracket. -/
  candidate : Option Candidate := none
  /-- The last tokens that may be keys outside of the open brackets, the innermost first. -/
  outer : List (Option Candidate) := []
  /-- Whether the next token may be a key. In a block, this is so at the beginning of a line. -/
  keyAllowed : Bool := true

namespace Tokenizer

/-- Whether a bracket is open. -/
def inBrackets (t : Tokenizer) : Bool := !t.outer.isEmpty

/-- The least indentation of what stands within the innermost block. -/
def least (t : Tokenizer) : Nat := (t.indents.head?.map (· + 1)).getD 0

def push (t : Tokenizer) (token : Token) : Tokenizer := { t with tokens := token :: t.tokens }

/-- Put `token` after the first `number` ones. -/
def insert (t : Tokenizer) (number : Nat) (token : Token) : Tokenizer :=
  let after := t.tokens.length - number
  { t with tokens := t.tokens.take after ++ token :: t.tokens.drop after }

/-- End the blocks that are indented further than `column`. Within brackets blocks do not end. -/
def unindent (t : Tokenizer) (column : Nat) : Tokenizer :=
  if t.inBrackets then t
  else
    let ended := t.indents.takeWhile (column < ·)
    { t with
      tokens := ended.map (fun _ => Token.blockEnd) ++ t.tokens
      indents := t.indents.dropWhile (column < ·) }

def unindentAll (t : Tokenizer) : Tokenizer :=
  if t.inBrackets then t
  else { t with tokens := t.indents.map (fun _ => Token.blockEnd) ++ t.tokens, indents := [] }

/-- Begin a block at `column`, after the first `number` tokens, if there is none yet at that column.
Within brackets no block begins. -/
def indent (t : Tokenizer) (column number : Nat) (token : Token) : Tokenizer :=
  if t.inBrackets || column < t.least then t
  else { t.insert number token with indents := column :: t.indents }

/-- Forget the last token that may be a key. A required one must not be forgotten. -/
def dropCandidate (t : Tokenizer) : Option Tokenizer :=
  if (t.candidate.map Candidate.required).getD false then none
  else some { t with candidate := none }

/-- Forget all tokens that are no longer candidates at `p`. -/
def passTo (t : Tokenizer) (p : Place) : Option Tokenizer := do
  let candidate ← Candidate.at? p t.candidate
  let outer ← t.outer.mapM (Candidate.at? p)
  return { t with candidate := candidate, outer := outer }

/-- Remember that the next token, at `p`, may be a key. It has to be one if it stands where the keys
of the innermost block stand. -/
def markCandidate (t : Tokenizer) (p : Place) : Option Tokenizer :=
  if !t.keyAllowed then some t
  else do
    let required := !t.inBrackets && t.indents.head? == some p.column
    let t ← t.dropCandidate
    return { t with candidate := some ⟨t.tokens.length, p.line, p.column, required⟩ }

def allowKey (t : Tokenizer) (allowed : Bool) : Tokenizer := { t with keyAllowed := allowed }

/-- Skip blanks, comments and line breaks. In a block, a line break allows a key, and before a key
no tab is skipped. Answers whether a key is allowed. -/
def skip (inBrackets : Bool) (inComment allowed : Bool) : List Place → Bool × List Place
  | [] => (allowed, [])
  | p :: ps =>
    if isBreak p.char then skip inBrackets false (allowed || !inBrackets) ps
    else if inComment || p.char == '#' then skip inBrackets true allowed ps
    else if p.char == ' ' || (p.char == '\t' && (inBrackets || !allowed)) ||
        (p.char == byteOrderMark && p.column == 0) then
      skip inBrackets false allowed ps
    else (allowed, p :: ps)

/-! ## The kinds of tokens -/

/-- A mark of a document, which ends all blocks. -/
def documentMark (t : Tokenizer) (token : Token) : Option Tokenizer := do
  return ((← t.unindentAll.dropCandidate).push token).allowKey false

/-- A directive, after its percent sign. -/
def directive (t : Tokenizer) (rest : List Place) : Option (Tokenizer × List Place) := do
  let t ← t.unindentAll.dropCandidate
  let (directive, rest) ← readDirective? rest
  return ((t.push (.directive directive)).allowKey false, rest)

def opening (t : Tokenizer) (p : Place) (token : Token) : Option Tokenizer := do
  let t ← t.markCandidate p
  return { t.push token with
    candidate := none, outer := t.candidate :: t.outer, keyAllowed := true }

def closing (t : Tokenizer) (token : Token) : Option Tokenizer := do
  let t ← t.dropCandidate
  return { t.push token with
    candidate := t.outer.head?.getD none, outer := t.outer.tail, keyAllowed := false }

def comma (t : Tokenizer) : Option Tokenizer := do
  return ((← t.dropCandidate).push .comma).allowKey true

def item (t : Tokenizer) (p : Place) : Option Tokenizer := do
  if !t.inBrackets && !t.keyAllowed then none
  else
    let t ← (t.indent p.column t.tokens.length .itemsStart).dropCandidate
    return (t.push .item).allowKey true

def key (t : Tokenizer) (p : Place) : Option Tokenizer := do
  if !t.inBrackets && !t.keyAllowed then none
  else
    let t ← (t.indent p.column t.tokens.length .entriesStart).dropCandidate
    return (t.push .key).allowKey (!t.inBrackets)

/-- The mark of a value. What may be a key before it now is one. -/
def value (t : Tokenizer) (p : Place) : Option Tokenizer :=
  match t.candidate with
  | some k =>
    let t := (t.insert k.number .key).indent k.column k.number .entriesStart
    some { t.push .value with candidate := none, keyAllowed := false }
  | none =>
    if !t.inBrackets && !t.keyAllowed then none
    else
      let t := t.indent p.column t.tokens.length .entriesStart
      some ((t.push .value).allowKey (!t.inBrackets))

/-- An anchor or a reference to one, after its mark. -/
def anchor (t : Tokenizer) (p : Place) (token : List Char → Token) (rest : List Place) :
    Option (Tokenizer × List Place) := do
  let t ← t.markCandidate p
  let (name, rest) := readName rest
  let ends := endsWord rest ||
    (rest.head?.map fun q => "?:,]\x7d%@\x60".toList.contains q.char).getD false
  if name.isEmpty || !ends then none else some ((t.push (token name)).allowKey false, rest)

def tag (t : Tokenizer) (p : Place) (rest : List Place) : Option (Tokenizer × List Place) := do
  let t ← t.markCandidate p
  let (tag, rest) ← readTag? t.inBrackets (p :: rest)
  return ((t.push (.tag tag)).allowKey false, rest)

/-- A scalar in a block, after its mark. -/
def block (t : Tokenizer) (folded : Bool) (rest : List Place) :
    Option (Tokenizer × List Place) := do
  let t ← t.dropCandidate
  let (text, rest) ← block? folded t.least rest
  return ((t.push (.scalar text false)).allowKey true, rest)

/-- A scalar in quotes, after its opening quote. -/
def quoted (t : Tokenizer) (p : Place) (rest : List Place) : Option (Tokenizer × List Place) := do
  let t ← t.markCandidate p
  let (text, rest) ← if p.char = '\'' then singleQuoted? rest else doubleQuoted? rest
  return ((t.push (.scalar text false)).allowKey false, rest)

def plain (t : Tokenizer) (p : Place) (rest : List Place) : Option (Tokenizer × List Place) := do
  let t ← t.markCandidate p
  let scalar ← plain? t.inBrackets t.least (p :: rest)
  return ((t.push (.scalar scalar.text true)).allowKey scalar.broken, scalar.rest)

/-- Characters that no plain scalar begins with. -/
def indicators : List Char := "-?:,[]\x7b\x7d#&*!|>'\"%@\x60".toList

def startsPlain (t : Tokenizer) (p : Place) (rest : List Place) : Bool :=
  !(isBlank p.char || indicators.contains p.char) ||
    (!endsWord rest && (p.char == '-' || (!t.inBrackets && (p.char == '?' || p.char == ':'))))

def token (t : Tokenizer) (p : Place) (rest : List Place) : Option (Tokenizer × List Place) :=
  let withRest (rest : List Place) (t : Option Tokenizer) := t.map fun t => (t, rest)
  let endsMark := t.inBrackets || endsWord rest
  if p.column = 0 ∧ p.char = '%' then t.directive rest
  else if startsRule '-' (p :: rest) then withRest (rest.drop 2) (t.documentMark .documentStart)
  else if startsRule '.' (p :: rest) then withRest (rest.drop 2) (t.documentMark .documentEnd)
  else if p.char = '[' then withRest rest (t.opening p .openList)
  else if p.char = '\x7b' then withRest rest (t.opening p .openMapping)
  else if p.char = ']' then withRest rest (t.closing .closeList)
  else if p.char = '\x7d' then withRest rest (t.closing .closeMapping)
  else if p.char = ',' then withRest rest t.comma
  else if p.char = '-' ∧ endsWord rest then withRest rest (t.item p)
  else if p.char = '?' ∧ endsMark then withRest rest (t.key p)
  else if p.char = ':' ∧ endsMark then withRest rest (t.value p)
  else if p.char = '*' then t.anchor p .alias rest
  else if p.char = '&' then t.anchor p .anchor rest
  else if p.char = '!' then t.tag p rest
  else if p.char = '|' ∧ !t.inBrackets then t.block false rest
  else if p.char = '>' ∧ !t.inBrackets then t.block true rest
  else if p.char = '\'' ∨ p.char = '"' then t.quoted p rest
  else if t.startsPlain p rest then t.plain p rest
  else none

/-- The tokens in order, at the end of the text. -/
def finish (t : Tokenizer) : Option (List Token) := do
  return (← t.unindentAll.dropCandidate).tokens.reverse

/-- Read tokens up to the end of the text, one at each step. -/
def run : Nat → Tokenizer → List Place → Option (List Token)
  | 0, _, _ => none
  | steps + 1, t, ps =>
    let (allowed, ps) := skip t.inBrackets false t.keyAllowed ps
    match ps with
    | [] => (t.allowKey allowed).finish
    | p :: rest => do
      let t ← (t.allowKey allowed).passTo p
      let (t, rest) ← (t.unindent p.column).token p rest
      run steps t rest

end Tokenizer

def tokens? (text : String) : Option (List Token) := do
  let ps ← places? text
  Tokenizer.run (ps.length + 1) {} ps

end EntityStore.Yaml
