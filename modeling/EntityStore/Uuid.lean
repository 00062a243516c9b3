import EntityStore.Text.Numeral

/-!
# Universally unique identifiers

Identifiers of 128 bits, written as 32 hexadecimal digits in five groups. A random identifier has
122 random bits; the others state that it is one.
-/

namespace EntityStore

structure Uuid where
  bits : BitVec 128
  deriving DecidableEq, Repr

namespace Uuid

/-- The hexadecimal digits, the most significant first. -/
def digits (u : Uuid) : List Char :=
  (List.range 32).map fun place => Nat.digitChar (u.bits.toNat / Nat.pow 16 (31 - place) % 16)

/-- The digits in groups of 8, 4, 4, 4 and 12. -/
def chars (u : Uuid) : List Char :=
  let ds := u.digits
  ds.take 8 ++ '-' :: ((ds.drop 8).take 4 ++ '-' :: ((ds.drop 12).take 4 ++
    '-' :: ((ds.drop 16).take 4 ++ '-' :: ds.drop 20)))

def text (u : Uuid) : String := String.ofList u.chars

/-- The random identifier made from the bits of `n`: version 4, and the variant with the bits 10. -/
def ofRandom (n : Nat) : Uuid :=
  ⟨BitVec.ofNat 48 (n >>> 74) ++ BitVec.ofNat 4 4 ++ BitVec.ofNat 12 (n >>> 62) ++
    BitVec.ofNat 2 2 ++ BitVec.ofNat 62 n⟩

/-- The identifier with the 32 digits `cs`. -/
def ofDigits? (cs : List Char) : Option Uuid := do
  let n ← Text.readDigits? 16 cs
  if cs.length = 32 then some ⟨BitVec.ofNat 128 n⟩ else none

/-- The digits of an identifier that is written in groups, or without any. -/
def ungrouped? (cs : List Char) : Option (List Char) :=
  match cs.splitOn '-' with
  | [whole] => some whole
  | [a, b, c, d, e] =>
    if [a, b, c, d, e].map List.length = [8, 4, 4, 4, 12] then some (a ++ b ++ c ++ d ++ e)
    else none
  | _ => none

/-- The identifier that `text` denotes: its digits, in groups or not, and groups also in braces or
behind `urn:uuid:`. Letters are read in either case. -/
def read? (text : String) : Option Uuid := do
  let cs := text.toList
  let head := "urn:uuid:".toList
  let bare :=
    if (cs.take head.length).map Char.toLower = head then cs.drop head.length
    else if cs.head? = some '\x7b' ∧ cs.getLast? = some '\x7d' then (cs.drop 1).dropLast
    else cs
  if bare ≠ cs ∧ !bare.contains '-' then none else ofDigits? (← ungrouped? bare)

end Uuid

end EntityStore
