/-!
# Places in a text

A YAML text is read as a sequence of characters that know their line and their column, since the
form of a document depends on both. A line ends at a line feed, a carriage return, both of them in
this order, a next-line character, or one of the two separators of Unicode. All but the separators
stand for the same line break.
-/

namespace EntityStore.Yaml

/-- A character at its place in a text. Lines and columns are counted from 0. -/
structure Place where
  char : Char
  line : Nat
  column : Nat
  deriving DecidableEq, Repr

/-- Whether a character may occur in a text at all: control characters other than tabs and line
breaks may not, nor may code points that are no characters. -/
def isAllowed (c : Char) : Bool :=
  ['\t', '\n', '\r', '\x85'].contains c ||
    ([(0x20, 0x7E), (0xA0, 0xD7FF), (0xE000, 0xFFFD), (0x10000, 0x10FFFF)] : List (Nat × Nat)).any
      fun range => range.1 ≤ c.toNat && c.toNat ≤ range.2

/-- The mark that may begin a line without being a part of it. -/
def byteOrderMark : Char := '\ufeff'

def isBlank (c : Char) : Bool := c == ' ' || c == '\t'

/-- Whether a character is one of the separators of Unicode that end a line. -/
def isSeparator (c : Char) : Bool := c == '\u2028' || c == '\u2029'

def isBreak (c : Char) : Bool := c == '\n' || isSeparator c

/-- The places of a text that goes on at the given `line` and `column`. -/
def placesFrom (line column : Nat) : List Char → List Place
  | [] => []
  | '\r' :: '\n' :: cs => ⟨'\n', line, column⟩ :: placesFrom (line + 1) 0 cs
  | c :: cs =>
    if c = '\n' ∨ c = '\r' ∨ c = '\x85' then ⟨'\n', line, column⟩ :: placesFrom (line + 1) 0 cs
    else ⟨c, line, column⟩ ::
      if isSeparator c then placesFrom (line + 1) 0 cs else placesFrom line (column + 1) cs

/-- The places of `text`, in which every character has to be allowed. -/
def places? (text : String) : Option (List Place) :=
  if text.toList.all isAllowed then some (placesFrom 0 0 text.toList) else none

/-! ## What stands at a place -/

/-- Whether a word cannot go on: at a blank, a line break or the end of the text. -/
def endsWord : List Place → Bool
  | [] => true
  | p :: _ => isBlank p.char || isBreak p.char

def startsWith (c : Char) : List Place → Bool
  | [] => false
  | p :: _ => p.char == c

/-- Whether a line begins with three times the same `mark`, at the end of a word. -/
def startsRule (mark : Char) : List Place → Bool
  | a :: b :: c :: rest =>
    a.column == 0 && a.char == mark && b.char == mark && c.char == mark && endsWord rest
  | _ => false

/-- Whether the mark of the beginning or the end of a document stands next. -/
def startsDocumentMark (ps : List Place) : Bool := startsRule '-' ps || startsRule '.' ps

def dropBlanks (ps : List Place) : List Place := ps.dropWhile fun p => isBlank p.char

/-- What follows a line on which only blanks and a comment are left. -/
def afterLine? (ps : List Place) : Option (List Place) :=
  let ps := dropBlanks ps
  let ps := if startsWith '#' ps then ps.dropWhile fun p => !isBreak p.char else ps
  match ps with
  | [] => some []
  | p :: rest => if isBreak p.char then some rest else none

end EntityStore.Yaml
