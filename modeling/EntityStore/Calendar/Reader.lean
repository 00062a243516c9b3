import EntityStore.Calendar.Instant
import EntityStore.Text.Blank
import EntityStore.Text.Numeral

/-!
# Reading dates and instants

Two forms of a date with a time are read: the interchange form `2024-02-29T12:30:00.25+01:00`, in
which every field has its full width and the shift of the clock is stated, and the plain form
`2024-02-29 12:30:00` in Universal Time, in which fields may be shorter and blanks may stand before
them. A date alone has the plain form.

A step of a reader takes the characters that it reads off the front and hands on the rest.
-/

namespace EntityStore.Calendar

/-- One step of a reader. -/
abbrev Step (α : Type) := List Char → Option (α × List Char)

def expect (c : Char) : Step Unit
  | d :: rest => if c = d then some ((), rest) else none
  | [] => none

/-- Read between `least` and `most` decimal digits, as many as there are. -/
def digits (least most : Nat) : Step Nat := fun cs =>
  let run := (cs.take most).takeWhile Char.isDigit
  if run.length < least then none else some (Text.ofDigits run, cs.drop run.length)

/-- Read a field of one or two digits, after blanks. -/
def plainField : Step Nat := fun cs => digits 1 2 (Text.trimStart cs)

/-- Read a year, after blanks: at most four digits, or a sign and any number of digits. -/
def plainYear : Step Int := fun cs =>
  match Text.trimStart cs with
  | '-' :: rest => (digits 1 rest.length rest).map fun (n, rest) => (-(n : Int), rest)
  | '+' :: rest => (digits 1 rest.length rest).map fun (n, rest) => ((n : Int), rest)
  | rest => (digits 1 4 rest).map fun (n, rest) => ((n : Int), rest)

def plainDate : Step Date := fun cs => do
  let (year, cs) ← plainYear cs
  let ((), cs) ← expect '-' cs
  let (month, cs) ← plainField cs
  let ((), cs) ← expect '-' cs
  let (day, cs) ← plainField cs
  let date ← Date.ofParts? year month day
  return (date, cs)

/-- The date that a text in plain form denotes: a `plainDate` and nothing after it. -/
def Date.read? (cs : List Char) : Option Date := do
  let (date, rest) ← plainDate cs
  if rest.isEmpty then some date else none

/-- The instant that a text in plain form denotes. -/
def Instant.readPlain? (cs : List Char) : Option Instant := do
  let (date, cs) ← plainDate cs
  let (hour, cs) ← plainField (Text.trimStart cs)
  let ((), cs) ← expect ':' cs
  let (minute, cs) ← plainField cs
  let ((), cs) ← expect ':' cs
  let (second, cs) ← plainField cs
  let instant ← date.at? ⟨hour, minute, second, 0, 0⟩
  if cs.isEmpty then some instant else none

/-! ## The interchange form -/

/-- Read the part of a second after a point, if there is one. Digits after the ninth are dropped. -/
def fraction : Step Nat
  | '.' :: cs => do
    let (n, rest) ← digits 1 9 cs
    let count := cs.length - rest.length
    return (n * Nat.pow 10 (9 - count), rest.dropWhile Char.isDigit)
  | cs => some (0, cs)

/-- Read how many seconds the clock is ahead: `Z`, or a sign, hours and minutes. -/
def shift : Step Int
  | [] => none
  | c :: cs =>
    if c = 'Z' ∨ c = 'z' then some (0, cs)
    else if c = '+' ∨ c = '-' ∨ c = '−' then do
      let (hours, cs) ← digits 2 2 cs
      let ((), cs) ← expect ':' cs
      let (minutes, cs) ← digits 2 2 cs
      if 23 < hours ∨ 59 < minutes then none
      else
        let seconds : Int := 3600 * hours + 60 * minutes
        return (if c = '+' then seconds else -seconds, cs)
    else none

/-- Read what stands between date and time: `T` or a blank. -/
def separator : Step Unit
  | c :: rest => if c = 'T' ∨ c = 't' ∨ c = ' ' then some ((), rest) else none
  | [] => none

/-- The instant that a text in interchange form denotes, with `T`, seconds and the shift of the
clock. -/
def Instant.readInterchange? (cs : List Char) : Option Instant := do
  let (year, cs) ← digits 4 4 cs
  let ((), cs) ← expect '-' cs
  let (month, cs) ← digits 2 2 cs
  let ((), cs) ← expect '-' cs
  let (day, cs) ← digits 2 2 cs
  let ((), cs) ← separator cs
  let (hour, cs) ← digits 2 2 cs
  let ((), cs) ← expect ':' cs
  let (minute, cs) ← digits 2 2 cs
  let ((), cs) ← expect ':' cs
  let (second, cs) ← digits 2 2 cs
  let (nano, cs) ← fraction cs
  let (ahead, cs) ← shift cs
  let date ← Date.ofParts? year month day
  let instant ← date.at? ⟨hour, minute, second, nano, ahead⟩
  if cs.isEmpty then some instant else none

/-- The instant that a text denotes, in interchange form or else in plain form. -/
def Instant.read? (cs : List Char) : Option Instant := readInterchange? cs <|> readPlain? cs

end EntityStore.Calendar
