import EntityStore.Text.Numeral
import EntityStore.Yaml.Place

/-!
# Scalars

A scalar is written plain, in single quotes or in double quotes, and may go on over several lines.
Where it does, the blanks around a line break do not count: a single break stands for a space, and
of several breaks the first does not count. The readers here take the places of a scalar and hand on
the places after it. Characters read so far are kept with the last one first.
-/

namespace EntityStore.Yaml

/-- What was read since the last character of a scalar that is neither blank nor a break; the last
character stands first. -/
inductive Gap where
  | blanks (cs : List Char)
  /-- Line breaks, the `first` of them and those after it. -/
  | breaks (first : Char) (more : List Char)
  /-- Line breaks of which a backslash has taken the first one away. -/
  | joined (more : List Char)
  deriving DecidableEq, Repr

namespace Gap

def none : Gap := blanks []

def isSome : Gap → Bool
  | blanks [] => false
  | _ => true

def isBroken : Gap → Bool
  | blanks _ => false
  | _ => true

/-- Add a blank. Next to a line break it does not count. -/
def blank (c : Char) : Gap → Gap
  | blanks cs => blanks (c :: cs)
  | gap => gap

def lineBreak (c : Char) : Gap → Gap
  | blanks _ => breaks c []
  | breaks first more => breaks first (c :: more)
  | joined more => joined (c :: more)

/-- The characters `text`, in reverse, with what the gap after them stands for. -/
def fill (text : List Char) : Gap → List Char
  | blanks cs => cs ++ text
  | breaks '\n' [] => ' ' :: text
  | breaks '\n' more => more ++ text
  | breaks first more => more ++ first :: text
  | joined more => more ++ text

end Gap

/-! ## Plain scalars -/

def isBracket (c : Char) : Bool := [',', '[', ']', '\x7b', '\x7d'].contains c

/-- A plain scalar that has been read, whether a line is `broken` after it, and what follows. -/
structure Plain where
  text : String
  broken : Bool
  rest : List Place

/-- Whether a plain scalar ends here. A comment, a mark of a document or, outside of brackets, a
line that is indented too little end it after a gap; a colon at the end of a word, and in brackets
every mark of them, end it anywhere. -/
def endsPlain (inBrackets : Bool) (least : Nat) (gap : Gap) (p : Place) (ps : List Place) : Bool :=
  (gap.isSome && (p.char == '#' || startsDocumentMark (p :: ps) ||
    (gap.isBroken && !inBrackets && p.column < least))) ||
  (p.char == ':' && endsWord ps) || (inBrackets && isBracket p.char)

/-- Whether a colon stands before a mark in brackets, where it is neither part of a word nor the end
of one. -/
def isStrayColon (p : Place) (ps : List Place) : Bool :=
  p.char == ':' && (startsWith '?' ps || (ps.head?.map fun q => isBracket q.char).getD false)

/-- Read a plain scalar, of which `text` and `gap` have been read. A line break ends it where the
next line is indented less than `least`, and a tab must not take part in that indentation. -/
def plainFrom (inBrackets : Bool) (least : Nat) (text : List Char) (gap : Gap) :
    List Place → Option Plain
  | [] => some ⟨String.ofList text.reverse, gap.isBroken, []⟩
  | p :: ps =>
    if isBlank p.char then
      if p.char = '\t' ∧ gap.isBroken ∧ p.column < least then none
      else plainFrom inBrackets least text (gap.blank p.char) ps
    else if isBreak p.char then plainFrom inBrackets least text (gap.lineBreak p.char) ps
    else if endsPlain inBrackets least gap p ps then
      some ⟨String.ofList text.reverse, gap.isBroken, p :: ps⟩
    else if inBrackets && isStrayColon p ps then none
    else plainFrom inBrackets least (p.char :: gap.fill text) .none ps

def plain? (inBrackets : Bool) (least : Nat) (ps : List Place) : Option Plain :=
  plainFrom inBrackets least [] .none ps

/-! ## Scalars in quotes -/

/-- Read a scalar after its opening single quote, of which `text` and `gap` have been read. Two
quotes in it stand for one. -/
def singleQuotedFrom (text : List Char) (gap : Gap) : List Place → Option (String × List Place)
  | [] => none
  | p :: ps =>
    if isBlank p.char then singleQuotedFrom text (gap.blank p.char) ps
    else if isBreak p.char then singleQuotedFrom text (gap.lineBreak p.char) ps
    else if startsDocumentMark (p :: ps) then none
    else if p.char = '\'' then
      match ps with
      | [] => some (String.ofList (gap.fill text).reverse, [])
      | q :: rest =>
        if q.char = '\'' then singleQuotedFrom ('\'' :: gap.fill text) .none rest
        else some (String.ofList (gap.fill text).reverse, q :: rest)
    else singleQuotedFrom (p.char :: gap.fill text) .none ps

def singleQuoted? (ps : List Place) : Option (String × List Place) := singleQuotedFrom [] .none ps

/-- The character that `c` stands for after a backslash. -/
def escaped? (c : Char) : Option Char :=
  ([('0', '\x00'), ('a', '\x07'), ('b', '\x08'), ('t', '\t'), ('\t', '\t'), ('n', '\n'),
    ('v', '\x0b'), ('f', '\x0c'), ('r', '\r'), ('e', '\x1b'), (' ', ' '), ('"', '"'), ('/', '/'),
    ('\\', '\\'), ('N', '\x85'), ('_', '\xa0'), ('L', '\u2028'), ('P', '\u2029')] :
      List (Char × Char)).lookup c

/-- The number of hexadecimal digits that follow `c` after a backslash. -/
def codeLength? (c : Char) : Option Nat :=
  ([('x', 2), ('u', 4), ('U', 8)] : List (Char × Nat)).lookup c

def charOfCode? (code : Nat) : Option Char :=
  if code.isValidChar then some (Char.ofNat code) else none

/-- Where the reading of a scalar in double quotes stands. -/
inductive InQuotes where
  | text (gap : Gap)
  | escape
  /-- Within the digits of a code point, of which some are `left`. -/
  | code (left value : Nat)

/-- Read a scalar after its opening double quote, of which `text` has been read. -/
def doubleQuotedFrom (text : List Char) : InQuotes → List Place → Option (String × List Place)
  | _, [] => none
  | .text gap, p :: ps =>
    if isBlank p.char then doubleQuotedFrom text (.text (gap.blank p.char)) ps
    else if isBreak p.char then doubleQuotedFrom text (.text (gap.lineBreak p.char)) ps
    else if startsDocumentMark (p :: ps) then none
    else if p.char = '"' then some (String.ofList (gap.fill text).reverse, ps)
    else if p.char = '\\' then doubleQuotedFrom (gap.fill text) .escape ps
    else doubleQuotedFrom (p.char :: gap.fill text) (.text .none) ps
  | .escape, p :: ps =>
    if isBreak p.char then doubleQuotedFrom text (.text (.joined [])) ps
    else
      match codeLength? p.char, escaped? p.char with
      | some length, _ => doubleQuotedFrom text (.code length 0) ps
      | none, some c => doubleQuotedFrom (c :: text) (.text .none) ps
      | none, none => none
  | .code left value, p :: ps =>
    match Text.hexValue? p.char with
    | none => none
    | some digit =>
      if 1 < left then doubleQuotedFrom text (.code (left - 1) (16 * value + digit)) ps
      else
        match charOfCode? (16 * value + digit) with
        | none => none
        | some c => doubleQuotedFrom (c :: text) (.text .none) ps

def doubleQuoted? (ps : List Place) : Option (String × List Place) :=
  doubleQuotedFrom [] (.text .none) ps

end EntityStore.Yaml
