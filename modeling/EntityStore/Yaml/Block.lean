import EntityStore.Yaml.Scalar

/-!
# Scalars in blocks

After `|` or `>` the further indented lines form a scalar, which keeps the blanks and breaks in
them. After `>` a break between two lines that do not begin with a blank stands for a space. The
line of the mark may say how far the block is indented, and whether the breaks at its end are kept.
-/

namespace EntityStore.Yaml

/-- What becomes of the breaks at the end of a block. -/
inductive BlockEnd where
  | strip
  /-- The break of the last line is kept. -/
  | clip
  | keep
  deriving DecidableEq, Repr

/-- What the line of the mark says: what becomes of the breaks at the end, and by how much the block
is indented more than what it stands in. -/
structure BlockHead where
  ending : BlockEnd
  width : Option Nat
  deriving DecidableEq, Repr

/-- Read what becomes of the breaks at the end, which is `clip` if nothing is said. -/
def readEnding : List Place → BlockEnd × List Place
  | [] => (.clip, [])
  | p :: ps =>
    if p.char = '+' then (.keep, ps) else if p.char = '-' then (.strip, ps) else (.clip, p :: ps)

/-- Read the indentation, if it is said here. It must not be zero. -/
def readWidth? : List Place → Option (Option Nat × List Place)
  | [] => some (none, [])
  | p :: ps =>
    if p.char = '0' then none
    else if p.char.isDigit then some (some (p.char.toNat - '0'.toNat), ps)
    else some (none, p :: ps)

/-- Read the line of the mark after it. What it says may stand in either order. -/
def blockHead? (ps : List Place) : Option (BlockHead × List Place) := do
  let (first, ps) := readEnding ps
  let (width, ps) ← readWidth? ps
  let (ending, ps) := if first = .clip ∧ width.isSome then readEnding ps else (first, ps)
  return (⟨ending, width⟩, ← afterLine? ps)

/-- What has been read of a block. Characters and breaks are kept with the last one first. -/
structure BlockText where
  text : List Char := []
  /-- The break after the last line that is not empty. -/
  ended : List Char := []
  /-- The breaks of the empty lines after it. -/
  empty : List Char := []
  /-- Whether that line begins with a blank. -/
  blank : Bool := false

namespace BlockText

/-- The block up to the beginning of another line that is not empty. -/
def nextLine (b : BlockText) (folded blank : Bool) : BlockText where
  text :=
    if folded && b.ended == ['\n'] && !b.blank && !blank then
      if b.empty.isEmpty then ' ' :: b.text else b.empty ++ b.text
    else b.empty ++ b.ended ++ b.text
  blank := blank

/-- The scalar that a block stands for. -/
def finish (b : BlockText) : BlockEnd → String
  | .strip => String.ofList b.text.reverse
  | .clip => String.ofList (b.ended ++ b.text).reverse
  | .keep => String.ofList (b.empty ++ b.ended ++ b.text).reverse

end BlockText

/-- Read the lines of a block. If its indentation is not given, the first line that is not empty and
the empty ones before it decide about it: it is that of the deepest of them, and not less than
`least`. A line that is not indented just so is not part of the block; a tab must not take part in
the indentation. -/
def blockLines (folded : Bool) (least : Nat) (indent : Option Nat) (deepest : Nat) (inLine : Bool)
    (b : BlockText) : List Place → Option (BlockText × List Place)
  | [] => some (b, [])
  | p :: ps =>
    if inLine then
      if isBreak p.char then
        blockLines folded least indent deepest false { b with ended := [p.char] } ps
      else blockLines folded least indent deepest true { b with text := p.char :: b.text } ps
    else
      let inMargin := indent.all (p.column < ·)
      if inMargin ∧ p.char = ' ' then blockLines folded least indent deepest false b ps
      else if inMargin ∧ p.char = '\t' then none
      else if isBreak p.char then
        blockLines folded least indent (max deepest p.column) false
          { b with empty := p.char :: b.empty } ps
      else
        let depth := indent.getD (max (max deepest p.column) (max least 1))
        if p.column = depth then
          let line := b.nextLine folded (isBlank p.char)
          blockLines folded least (some depth) deepest true
            { line with text := p.char :: line.text } ps
        else some (b, p :: ps)

/-- Read a block after its mark, within what is indented less than `least`. -/
def block? (folded : Bool) (least : Nat) (ps : List Place) : Option (String × List Place) := do
  let (head, ps) ← blockHead? ps
  let indent := head.width.map fun width => if least = 0 then width else least - 1 + width
  let (b, rest) ← blockLines folded least indent 0 false {} ps
  return (b.finish head.ending, rest)

end EntityStore.Yaml
