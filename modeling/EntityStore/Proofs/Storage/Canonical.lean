import EntityStore.Proofs.Calendar.Order
import EntityStore.Proofs.Storage.RoundTrip

/-!
# Forms that are written

A column reads several forms of one value and writes one of them. A form that is read as a value, and
the value then written, is the same form again if and only if it is one that the column writes.
-/

namespace EntityStore

/-! ## Texts of instants -/

namespace Calendar.Instant

/-- What `toMilli` cuts off is not written. -/
theorem text_toMilli (t : Instant) : t.toMilli.text = t.text := by
  have clock := t.clock_toMilli
  simp only [Instant.clock, List.cons.injEq, and_true] at clock
  obtain ⟨hour, minute, second, milli⟩ := clock
  have date : t.toMilli.date = t.date := rfl
  unfold text chars
  rw [date, hour, minute, second, milli]

/-- A year with a sign stands in no form that is read: the interchange form begins with a digit, and
in the plain form no letter follows the date. -/
theorem read?_chars_eq_none {t : Instant} (beyond : ¬ (0 ≤ t.date.year ∧ t.date.year ≤ 9999)) :
    read? t.chars = none := by
  have interchange : readInterchange? t.chars = none := by
    unfold readInterchange? chars Date.chars yearChars
    rw [if_neg beyond]
    split <;> rfl
  have plain : readPlain? t.chars = none := by
    unfold readPlain? chars
    rw [bind_read (plainDate_chars t.date _)]
    rfl
  unfold read?
  rw [interchange, plain]
  rfl

/-- An instant that is read off the text of another one has the same text. -/
theorem text_of_read? {s t : Instant} (read : read? t.text.toList = some s) : s.text = t.text := by
  rw [text, String.toList_ofList] at read
  by_cases within : 0 ≤ t.date.year ∧ t.date.year ≤ 9999
  · rw [t.read?_chars within.1 within.2] at read
    obtain rfl := Option.some.inj read
    rw [text_toMilli, text, chars_settled, ← text]
  · rw [read?_chars_eq_none within] at read
    cases read

end Calendar.Instant

/-! ## Forms of a type -/

namespace ColumnType

/-- The values of a type. `Value.null` is one of every type, and types that read nothing have all
values. -/
def Holds : ColumnType → Value → Prop
  | _, .null | boolean, .bool _ | json, .json _ | date, .date _ | date, .instant _
  | datetime, .instant _ => True
  | boolean, _ | json, _ | date, _ | datetime, _ => False
  | _, _ => True

/-- The stored form `raw` is read as a value of `type`. -/
def Accepts (type : ColumnType) (raw : Value) : Prop := type.Holds (type.ofStorage raw)

/-- A form in which a type stores one of its values. -/
def Writes : ColumnType → Value → Prop
  | _, .null => True
  | boolean, raw => raw = .int 0 ∨ raw = .int 1
  | json, raw => ∃ j, raw = .text j.compact ∧ Json.read? j.compact = some j
  | date, raw => (∃ d : Calendar.Date, raw = .text d.text) ∨
    ∃ t : Calendar.Instant, raw = .text t.text
  | datetime, raw => ∃ t : Calendar.Instant, raw = .text t.text
  | _, _ => True

/-- Where a text itself is no value of `type`, it is accepted only if it is read as one. -/
theorem read_of_accepted {type : ColumnType} (read : Option Value) {s : String}
    (other : ¬ type.Holds (.text s)) (accepted : type.Holds (read.getD (.text s))) :
    ∃ v, read = some v := by
  cases read with
  | some v => exact ⟨v, rfl⟩
  | none => exact absurd accepted other

theorem boolean_rewritten {raw : Value} (accepted : boolean.Accepts raw) :
    boolean.toStorage (boolean.ofStorage raw) = raw ↔ boolean.Writes raw := by
  cases raw with
  | null => exact iff_of_true rfl trivial
  | int i =>
    show Value.int (if i != 0 then 1 else 0) = .int i ↔ Value.int i = .int 0 ∨ Value.int i = .int 1
    simp only [Value.int.injEq, bne_iff_ne]
    split <;> omega
  | bool | float => exact iff_of_false nofun (by simp [Writes])
  | text s =>
    obtain ⟨v, read⟩ := read_of_accepted ((storedBool? s).map .bool) id accepted
    obtain ⟨b, -, rfl⟩ := Option.map_eq_some_iff.1 read
    show boolean.toStorage (((storedBool? s).map .bool).getD (.text s)) = _ ↔ _
    rw [read]
    exact iff_of_false nofun (by simp [Writes])
  | _ => cases accepted

theorem json_rewritten {raw : Value} (accepted : json.Accepts raw) :
    json.toStorage (json.ofStorage raw) = raw ↔ json.Writes raw := by
  cases raw with
  | null => exact iff_of_true rfl trivial
  | json j => exact iff_of_false nofun (by simp [Writes])
  | text s =>
    obtain ⟨v, read⟩ := read_of_accepted ((Json.read? s).map .json) id accepted
    obtain ⟨j, parsed, rfl⟩ := Option.map_eq_some_iff.1 read
    show json.toStorage (((Json.read? s).map .json).getD (.text s)) = _ ↔ _
    rw [read]
    constructor
    · intro same
      obtain rfl : j.compact = s := Value.text.inj same
      exact ⟨j, rfl, parsed⟩
    · rintro ⟨j', written, again⟩
      cases written
      cases parsed.symm.trans again
      rfl
  | _ => cases accepted

theorem datetime_rewritten {raw : Value} (accepted : datetime.Accepts raw) :
    datetime.toStorage (datetime.ofStorage raw) = raw ↔ datetime.Writes raw := by
  cases raw with
  | null => exact iff_of_true rfl trivial
  | instant t => exact iff_of_false nofun (by simp [Writes])
  | text s =>
    obtain ⟨v, read⟩ :=
      read_of_accepted ((Calendar.Instant.read? s.toList).map .instant) id accepted
    obtain ⟨t, moment, rfl⟩ := Option.map_eq_some_iff.1 read
    show datetime.toStorage (((Calendar.Instant.read? s.toList).map .instant).getD _) = _ ↔ _
    rw [read]
    constructor
    · intro same
      exact ⟨t, same.symm⟩
    · rintro ⟨t', written⟩
      cases written
      exact congrArg Value.text (Calendar.Instant.text_of_read? moment)
  | _ => cases accepted

theorem date_rewritten {raw : Value} (accepted : date.Accepts raw) :
    date.toStorage (date.ofStorage raw) = raw ↔ date.Writes raw := by
  cases raw with
  | null => exact iff_of_true rfl trivial
  | date | instant => exact iff_of_false nofun (by simp [Writes])
  | text s =>
    obtain ⟨v, read⟩ := read_of_accepted (storedDate? s) id accepted
    show date.toStorage ((storedDate? s).getD (.text s)) = _ ↔ _
    rw [read]
    constructor
    · intro same
      unfold storedDate? at read
      split at read
      · rename_i d _
        cases read
        exact .inl ⟨d, same.symm⟩
      · obtain ⟨t, -, rfl⟩ := Option.map_eq_some_iff.1 read
        exact .inr ⟨t, same.symm⟩
    · rintro (⟨d, written⟩ | ⟨t, written⟩)
      · cases written
        rw [storedDate?_text] at read
        cases read
        rfl
      · cases written
        rw [storedDate?_instant] at read
        obtain ⟨t', moment, rfl⟩ := Option.map_eq_some_iff.1 read
        exact congrArg Value.text (Calendar.Instant.text_of_read? moment)
  | _ => cases accepted

/-- A form that `type` reads comes back if and only if it writes it. -/
theorem rewritten {type : ColumnType} {raw : Value} (accepted : type.Accepts raw) :
    type.toStorage (type.ofStorage raw) = raw ↔ type.Writes raw := by
  cases type with
  | boolean => exact boolean_rewritten accepted
  | json => exact json_rewritten accepted
  | date => exact date_rewritten accepted
  | datetime => exact datetime_rewritten accepted
  | _ => cases raw <;> exact iff_of_true rfl trivial

end ColumnType

/-- Without transformers, a form that `c` reads comes back if and only if its type writes it. -/
theorem Column.rewritten {c : Column} (plain : c.transformers = []) {raw : Value}
    (accepted : c.type.Accepts raw) :
    c.toStorage (c.ofStorage raw) = raw ↔ c.type.Writes raw := by
  rw [toStorage_eq_type plain, ofStorage_eq_type plain]
  exact ColumnType.rewritten accepted

end EntityStore
