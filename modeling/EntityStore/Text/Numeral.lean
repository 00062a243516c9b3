/-!
# Whole numbers in text

A whole number is written as an optional sign and at least one decimal digit, and nothing else. Some
forms write numbers in another base, with letters for the digits after nine.
-/

namespace EntityStore.Text

/-- The number written by decimal digits, cut into halves as often as `depth` says. Halves of equal
length keep the products of a long text few and balanced. -/
def digitsByHalves : Nat → List Char → Nat
  | 0, cs => Nat.ofDigitChars 10 cs 0
  | depth + 1, cs =>
    let rear := cs.length / 2
    let front := cs.length - rear
    Nat.pow 10 rear * digitsByHalves depth (cs.take front) + digitsByHalves depth (cs.drop front)

/-- The number that decimal digits denote. -/
def ofDigits (cs : List Char) : Nat := digitsByHalves (cs.length / 16).log2 cs

theorem digitsByHalves_eq (depth : Nat) (cs : List Char) :
    digitsByHalves depth cs = Nat.ofDigitChars 10 cs 0 := by
  induction depth generalizing cs with
  | zero => rfl
  | succ depth ih =>
    have hlen : (cs.drop (cs.length - cs.length / 2)).length = cs.length / 2 := by
      rw [List.length_drop]
      omega
    conv => rhs; rw [← List.take_append_drop (cs.length - cs.length / 2) cs]
    rw [Nat.ofDigitChars_append, Nat.ofDigitChars_eq_ofDigitChars_zero, hlen]
    simp only [digitsByHalves, ih]
    rfl

theorem ofDigits_eq (cs : List Char) : ofDigits cs = Nat.ofDigitChars 10 cs 0 :=
  digitsByHalves_eq _ cs

/-- The number that `cs` denotes, if that is a non-empty run of decimal digits. -/
def readNat? (cs : List Char) : Option Nat :=
  if cs.isEmpty || !cs.all Char.isDigit then none else some (ofDigits cs)

/-- The number that decimal digits behind an optional sign denote. -/
def readInt? : List Char → Option Int
  | '-' :: cs => (readNat? cs).map fun n => -(n : Int)
  | '+' :: cs => (readNat? cs).map fun n => (n : Int)
  | cs => (readNat? cs).map fun n => (n : Int)

def hexValue? (c : Char) : Option Nat :=
  if c.isDigit then some (c.toNat - '0'.toNat)
  else if 'a' ≤ c && c ≤ 'f' then some (c.toNat - 'a'.toNat + 10)
  else if 'A' ≤ c && c ≤ 'F' then some (c.toNat - 'A'.toNat + 10)
  else none

/-- The value of a digit in a `base` up to 16. -/
def digitValue? (base : Nat) (c : Char) : Option Nat := (hexValue? c).filter (· < base)

/-- The number that a non-empty run of digits in a `base` up to 16 denotes. -/
def readDigits? (base : Nat) (cs : List Char) : Option Nat :=
  if cs.isEmpty then none
  else (cs.mapM (digitValue? base)).map fun values =>
    values.foldl (fun n value => base * n + value) 0

def int64Min : Int := -9223372036854775808

def int64Max : Int := 9223372036854775807

/-- The greatest unsigned integer of 64 bits. -/
def count64Max : Nat := 18446744073709551615

/-- Whether `i` is a signed integer of 64 bits. -/
def fitsInt64 (i : Int) : Bool := int64Min ≤ i && i ≤ int64Max

/-- The number that `readInt?` reads, refused outside of the range of 64 bits. -/
def readInt64? (cs : List Char) : Option Int := (readInt? cs).filter fitsInt64

theorem isDigit_toDigits (n : Nat) : ∀ c ∈ Nat.toDigits 10 n, c.isDigit = true :=
  fun _ hc => Nat.isDigit_of_mem_toDigits (by decide) (by decide) hc

theorem ne_of_isDigit {c sign : Char} (digit : c.isDigit = true) (other : sign.isDigit = false) :
    c ≠ sign := by
  rintro rfl
  rw [digit] at other
  cases other

/-- A digit is its own capital. -/
theorem toUpper_of_isDigit {c : Char} (digit : c.isDigit = true) : c.toUpper = c := by
  simp only [Char.isDigit, ge_iff_le, Bool.and_eq_true, decide_eq_true_eq] at digit
  refine dif_neg ?_
  rintro ⟨lower, -⟩
  exact absurd (UInt32.le_trans lower digit.2) (by decide)

theorem toDigits_ne_cons {sign : Char} (other : sign.isDigit = false) (n : Nat) (cs : List Char) :
    Nat.toDigits 10 n ≠ sign :: cs := by
  intro same
  have digit := isDigit_toDigits n sign (by simp [same])
  exact ne_of_isDigit digit other rfl

/-- The decimal digits of `n` are none of some `words` without digits, in any case. -/
theorem lookup_toDigits {α : Type} {words : List (String × α)}
    (letters : ∀ entry ∈ words, (entry.1.toList.all fun c => !c.isDigit) = true) (n : Nat) :
    words.lookup (String.ofList ((Nat.toDigits 10 n).map Char.toUpper)) = none := by
  rw [List.lookup_eq_none_iff]
  intro entry hentry
  refine bne_iff_ne.2 fun same => ?_
  obtain ⟨c, hc⟩ := List.exists_mem_of_ne_nil _ (Nat.toDigits_ne_nil (b := 10) (n := n))
  have digit := isDigit_toDigits n c hc
  have upper : c ∈ entry.1.toList := by
    rw [← same, String.toList_ofList, List.mem_map]
    exact ⟨c, hc, toUpper_of_isDigit digit⟩
  have other := List.all_eq_true.1 (letters entry hentry) c upper
  rw [digit] at other
  cases other

theorem toList_toString (n : Nat) : (toString n).toList = Nat.toDigits 10 n := by
  simp [Nat.repr]

theorem readNat?_toDigits (n : Nat) : readNat? (Nat.toDigits 10 n) = some n := by
  have hne : Nat.toDigits 10 n ≠ [] := Nat.toDigits_ne_nil
  have hall : (Nat.toDigits 10 n).all Char.isDigit = true :=
    List.all_eq_true.2 (isDigit_toDigits n)
  simp [readNat?, hne, hall, ofDigits_eq]

theorem readInt?_toDigits (n : Nat) : readInt? (Nat.toDigits 10 n) = some (n : Int) := by
  rw [readInt?.eq_3 _ (toDigits_ne_cons rfl n) (toDigits_ne_cons rfl n), readNat?_toDigits]
  rfl

end EntityStore.Text
