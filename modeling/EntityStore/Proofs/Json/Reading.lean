import EntityStore.Json.Reader
import EntityStore.Proofs.Json.Token

/-!
# Values read back

The machine that puts tokens together hands a value to the innermost open array or object as soon as
it has read the tokens of the value, however many are open, as long as the value finds room among
them. A value that fits the room of a whole text is read back from its compact text.
-/

namespace EntityStore.Json

/-! ## The machine on the tokens of a value -/

theorem Machine.run_cons {care : Care} {m next : Machine} {token : Token}
    (h : m.step care token = some next) (rest : List Token) :
    m.run care (token :: rest) = next.run care rest := by
  rw [Machine.run, h]
  rfl

theorem Machine.enter_full {frames : List Frame} (room : frames.length < maxDepth) (frame : Frame)
    (stage : Stage) : Machine.enter .full frames frame stage = some ⟨frame :: frames, stage⟩ :=
  if_pos (by simp [room])

/-- Where a value is awaited, reading the tokens of `j` puts it in its place, with up to `room` more
arrays and objects open in the meantime. -/
def Builds (room : Nat) (j : Json) : Prop :=
  ∀ (frames : List Frame) (rest : List Token), frames.length + room ≤ maxDepth →
    Machine.run .full ⟨frames, .value⟩ (j.tokens ++ rest) =
      (Machine.place frames j).bind fun m => m.run .full rest

/-- No value begins like the end of an array. -/
theorem run_valueOrEnd (j : Json) (frames : List Frame) (rest : List Token) :
    Machine.run .full ⟨frames, .valueOrEnd⟩ (j.tokens ++ rest) =
      Machine.run .full ⟨frames, .value⟩ (j.tokens ++ rest) := by
  cases j with
  | array items => cases items <;> rfl
  | object members => cases members <;> rfl
  | _ => rfl

theorem run_itemTokens {room : Nat} {items : List Json} (each : ∀ item ∈ items, Builds room item)
    (done : List Json) {frames : List Frame} (rest : List Token)
    (fits : frames.length + (room + 1) ≤ maxDepth) :
    Machine.run .full ⟨.array done :: frames, .more⟩ (itemTokens items ++ rest) =
      (Machine.place frames (.array (done.reverse ++ items))).bind fun m => m.run .full rest := by
  induction items generalizing done with
  | nil =>
    rw [List.append_nil]
    rfl
  | cons item items ih =>
    have comma : Machine.step .full ⟨.array done :: frames, .more⟩ .comma =
        some ⟨.array done :: frames, .value⟩ := rfl
    have first := each item List.mem_cons_self (.array done :: frames) (itemTokens items ++ rest)
      (by rw [List.length_cons]; omega)
    have others := ih (fun other h => each other (List.mem_cons_of_mem item h)) (item :: done)
    rw [itemTokens, List.cons_append, List.append_assoc, Machine.run_cons comma, first]
    show Machine.run .full ⟨.array (item :: done) :: frames, .more⟩ _ = _
    rw [others, List.reverse_cons, List.append_assoc, List.singleton_append]

theorem run_memberTokens {room : Nat} {members : List (String × Json)}
    (each : ∀ m ∈ members, Builds room m.2) (done : List (String × Json)) {frames : List Frame}
    (rest : List Token) (fits : frames.length + (room + 1) ≤ maxDepth) :
    Machine.run .full ⟨.object done :: frames, .more⟩ (memberTokens members ++ rest) =
      (Machine.place frames (.object (done.reverse ++ members))).bind fun m => m.run .full rest := by
  induction members generalizing done with
  | nil =>
    rw [List.append_nil]
    rfl
  | cons m members ih =>
    obtain ⟨key, value⟩ := m
    have comma : Machine.step .full ⟨.object done :: frames, .more⟩ .comma =
        some ⟨.object done :: frames, .key⟩ := rfl
    have name : Machine.step .full ⟨.object done :: frames, .key⟩ (.text (some key.toList)) =
        some ⟨.member done key :: frames, .colon⟩ := by
      simp [Machine.step, Machine.startMember, Care.fill]
    have colon : Machine.step .full ⟨.member done key :: frames, .colon⟩ .colon =
        some ⟨.member done key :: frames, .value⟩ := rfl
    have first := each (key, value) List.mem_cons_self (.member done key :: frames)
      (memberTokens members ++ rest) (by rw [List.length_cons]; omega)
    have others := ih (fun other h => each other (List.mem_cons_of_mem _ h)) ((key, value) :: done)
    simp only [memberTokens, List.cons_append, List.append_assoc]
    rw [Machine.run_cons comma, Machine.run_cons name, Machine.run_cons colon, first]
    show Machine.run .full ⟨.object ((key, value) :: done) :: frames, .more⟩ _ = _
    rw [others, List.reverse_cons, List.append_assoc, List.singleton_append]

theorem Fits.builds {room : Nat} {j : Json} (fits : Fits room j) : Builds room j := by
  induction fits with
  | null => exact fun frames rest _ => rfl
  | bool => exact fun frames rest _ => rfl
  | int => exact fun frames rest _ => rfl
  | string room s =>
    intro frames rest _
    have text : Machine.step .full ⟨frames, .value⟩ (.text (some s.toList)) =
        Machine.place frames (.string s) := by
      simp [Machine.step, Machine.startValue, Care.fill]
    show (Machine.step .full ⟨frames, .value⟩ _ >>= _) = _
    rw [text]
    rfl
  | @array room items _ ih =>
    intro frames rest free
    -- the array stays open while its items are read: there is room for one less in it
    have shallow : frames.length < maxDepth := by omega
    have opened : Machine.step .full ⟨frames, .value⟩ .openArray =
        some ⟨.array [] :: frames, .valueOrEnd⟩ := Machine.enter_full shallow _ _
    cases items with
    | nil => exact Machine.run_cons opened _
    | cons item items =>
      have first := ih item List.mem_cons_self (.array [] :: frames) (itemTokens items ++ rest)
        (by rw [List.length_cons]; omega)
      have others := run_itemTokens (fun other h => ih other (List.mem_cons_of_mem item h)) [item]
        rest free
      rw [tokens, List.cons_append, List.append_assoc, Machine.run_cons opened, run_valueOrEnd,
        first]
      exact others
  | @object room members _ _ ih =>
    intro frames rest free
    have shallow : frames.length < maxDepth := by omega
    have opened : Machine.step .full ⟨frames, .value⟩ .openObject =
        some ⟨.object [] :: frames, .keyOrEnd⟩ := Machine.enter_full shallow _ _
    cases members with
    | nil => exact Machine.run_cons opened _
    | cons m members =>
      obtain ⟨key, value⟩ := m
      have name : Machine.step .full ⟨.object [] :: frames, .keyOrEnd⟩ (.text (some key.toList)) =
          some ⟨.member [] key :: frames, .colon⟩ := by
        simp [Machine.step, Machine.startMember, Care.fill]
      have colon : Machine.step .full ⟨.member [] key :: frames, .colon⟩ .colon =
          some ⟨.member [] key :: frames, .value⟩ := rfl
      have first := ih (key, value) List.mem_cons_self (.member [] key :: frames)
        (memberTokens members ++ rest) (by rw [List.length_cons]; omega)
      have others := run_memberTokens (fun other h => ih other (List.mem_cons_of_mem _ h))
        [(key, value)] rest free
      simp only [tokens, List.cons_append, List.append_assoc]
      rw [Machine.run_cons opened, Machine.run_cons name, Machine.run_cons colon, first]
      exact others

/-! ## Canonical form -/

theorem insertMember_last {key : String} (value : Json) {members : List (String × Json)}
    (before : ∀ m ∈ members, m.1 < key) :
    insertMember key value members = members ++ [(key, value)] := by
  induction members with
  | nil => rfl
  | cons m members ih =>
    have less : m.1 < key := before m List.mem_cons_self
    have later : ¬ key < m.1 := String.lt_asymm less
    have other : key ≠ m.1 := fun same => String.lt_irrefl m.1 (same ▸ less)
    have rest := ih fun m' h => before m' (List.mem_cons_of_mem m h)
    rw [insertMember, if_neg later, if_neg other, rest, List.cons_append]

theorem sortMembers_ascending {members : List (String × Json)}
    (ascending : members.Pairwise fun a b => a.1 < b.1) : sortMembers members = members := by
  have insert : ∀ (todo done : List (String × Json)),
      (done ++ todo).Pairwise (fun a b => a.1 < b.1) →
        todo.foldl (fun sorted m => insertMember m.1 m.2 sorted) done = done ++ todo := by
    intro todo
    induction todo with
    | nil => intro done _; simp
    | cons m todo ih =>
      intro done all
      have before : ∀ m' ∈ done, m'.1 < m.1 := fun m' h =>
        (List.pairwise_append.1 all).2.2 m' h m List.mem_cons_self
      rw [List.foldl_cons, insertMember_last m.2 before, ih _ (by simpa using all)]
      simp
  exact insert members [] ascending

theorem canonicalItems_eq {items : List Json} (each : ∀ item ∈ items, item.canonical = item) :
    canonicalItems items = items := by
  induction items with
  | nil => rfl
  | cons item items ih =>
    rw [canonicalItems, each item List.mem_cons_self,
      ih fun other h => each other (List.mem_cons_of_mem item h)]

theorem canonicalMembers_eq {members : List (String × Json)}
    (each : ∀ m ∈ members, m.2.canonical = m.2) : canonicalMembers members = members := by
  induction members with
  | nil => rfl
  | cons m members ih =>
    have first : m.2.canonical = m.2 := each m List.mem_cons_self
    rw [canonicalMembers, first, ih fun other h => each other (List.mem_cons_of_mem m h)]

theorem Fits.canonical {room : Nat} {j : Json} (fits : Fits room j) : j.canonical = j := by
  induction fits with
  | array _ ih => rw [Json.canonical, canonicalItems_eq ih]
  | object ascending _ ih =>
    rw [Json.canonical, canonicalMembers_eq ih, sortMembers_ascending ascending]
  | _ => rfl

theorem read?_compact {j : Json} (fits : Fits maxDepth j) : read? j.compact = some j := by
  have cut := fits.cuts [] fun _ none => nomatch none
  have built := fits.builds [] [] (Nat.le_of_eq (Nat.zero_add _))
  rw [List.append_nil] at cut built
  have written : readAsWritten? .full j.chars = some j := by
    rw [readAsWritten?, cut]
    show Machine.run .full ⟨[], .value⟩ (j.tokens ++ []) = some j
    rw [List.append_nil, built]
    rfl
  rw [read?, compact, String.toList_ofList, written, Option.map_some, fits.canonical]

end EntityStore.Json
