import EntityStore.Text.Blank

/-!
# Identifiers

Names that may stand in a statement without quotes: segments joined by points, each of them a letter
or underscore followed by letters, digits and underscores. Where a star is allowed it stands for all
columns, alone or after the name of a table.
-/

namespace EntityStore.Identifier

/-- A character that a segment may begin with. -/
def isHead (c : Char) : Bool := c.isAlpha || c == '_'

/-- A character that a segment may go on with. -/
def isTail (c : Char) : Bool := c.isAlphanum || c == '_'

def isSegment : List Char → Bool
  | [] => false
  | c :: cs => isHead c && cs.all isTail

/-- Whether `parts` between points form a name; if `star` is set, the last one may be `*`. -/
def areParts (star : Bool) : List (List Char) → Bool
  | [] => true
  | part :: rest =>
    if star && part == ['*'] then rest.isEmpty else isSegment part && areParts star rest

/-- Whether `text` is an identifier, or with `star` one that may end in `.*`. -/
def isValid (text : String) (star : Bool) : Bool := areParts star (text.toList.splitOn '.')

/-- Split `text` at its first point. -/
def qualifier? (text : String) : Option (String × String) :=
  match text.toList.dropWhile (· != '.') with
  | _ :: rest => some (String.ofList (text.toList.takeWhile (· != '.')), String.ofList rest)
  | [] => none

/-! ## Names given in a select list -/

/-- Whether characters begin with `AS` in any case, between spaces. -/
def startsWithAs (cs : List Char) : Bool := (cs.take 4).map Char.toLower == [' ', 'a', 's', ' ']

/-- The characters after the last `AS`, if there is one. -/
def afterLastAs? : List Char → Option (List Char)
  | [] => none
  | c :: cs =>
    match afterLastAs? cs with
    | some rest => some rest
    | none => if startsWithAs (c :: cs) then some (cs.drop 3) else none

/-- The name that an expression of a select list gives to its column, as in `COUNT(*) AS total`. -/
def selectName? (expression : String) : Option String := do
  let rest ← afterLastAs? expression.toList
  let name := String.ofList (Text.trim rest)
  if isValid name false then some name else none

end EntityStore.Identifier
