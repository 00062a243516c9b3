/-!
# Blank characters

Readers of numbers and dates skip blanks around or inside their input. A blank is one of the 25
characters with the Unicode property `White_Space`; the set has not changed since Unicode 6.3.
-/

namespace EntityStore.Text

/-- The blanks as closed ranges of code points, ascending and apart. -/
def blankRanges : List (Nat × Nat) :=
  [(0x09, 0x0D), (0x20, 0x20), (0x85, 0x85), (0xA0, 0xA0), (0x1680, 0x1680), (0x2000, 0x200A),
   (0x2028, 0x2029), (0x202F, 0x202F), (0x205F, 0x205F), (0x3000, 0x3000)]

/-- A character is blank if one of the `blankRanges` holds its code point. -/
def isBlank (c : Char) : Bool :=
  blankRanges.any fun range => range.1 ≤ c.toNat && c.toNat ≤ range.2

/-- The text without its leading blanks. -/
def trimStart (cs : List Char) : List Char := cs.dropWhile isBlank

/-- The text without its leading and trailing blanks. -/
def trim (cs : List Char) : List Char := (trimStart (trimStart cs).reverse).reverse

end EntityStore.Text
