import EntityStore.Json.Reader
import Mathlib.Tactic.Common

/-!
# The length of a quoted text

A quoted text takes at least one character for each of its own, and two for the quotes. So a text
that is read as another text is longer than that one: no text is read as itself.
-/

namespace EntityStore.Json

/-! ## Tokens -/

/-- The characters that a token takes at least if it stands for a text. -/
def Token.size : Token → Nat
  | .text (some cs) => cs.length + 2
  | .scalar (some (.string s)) => s.length + 2
  | _ => 0

def sizes : List Token → Nat
  | [] => 0
  | token :: rest => token.size + sizes rest

theorem sizes_append (tokens tokens' : List Token) :
    sizes (tokens ++ tokens') = sizes tokens + sizes tokens' := by
  induction tokens with
  | nil => exact (Nat.zero_add _).symm
  | cons token rest ih => rw [List.cons_append, sizes, sizes, ih, Nat.add_assoc]

/-- The characters that have gone at least into a text which is not complete. -/
def Mode.held : Mode → Nat
  | .between | .word _ => 0
  | .quoted seen | .escape seen | .hex seen _ _ _ | .pair seen _ | .pairEscape seen _ =>
    (seen.map fun cs => cs.length + 1).getD 0

theorem size_float (x : Option Float) (f : Float → Float) :
    (Token.scalar (x.map fun y => .float (f y))).size = 0 := by
  cases x <;> rfl

theorem size_readNumber? {word : List Char} {j : Option Json} (read : readNumber? word = some j) :
    (Token.scalar j).size = 0 := by
  unfold readNumber? at read
  split at read
  rename_i negative unsigned _
  dsimp only at read
  split at read
  · cases read
  split at read
  · split at read
    · split at read <;> cases read
      · rfl
      · exact size_float _ _
    · split at read <;> cases read
      · rfl
      · exact size_float _ _
  · split at read
    · cases read
    · obtain ⟨exponent, -, made⟩ := Option.bind_eq_some_iff.1 read
      cases made
      exact size_float _ _
  · obtain ⟨exponent, -, made⟩ := Option.bind_eq_some_iff.1 read
    cases made
    exact size_float _ _

/-- A word stands for no text. -/
theorem size_readWord? {word : List Char} {token : Token} (read : readWord? word = some token) :
    token.size = 0 := by
  unfold readWord? at read
  split at read
  · cases read; rfl
  · cases read; rfl
  · cases read; rfl
  · obtain ⟨j, number, rfl⟩ := Option.map_eq_some_iff.1 read
    exact size_readNumber? number

/-! ## Reading character by character -/

/-- The characters that `tokens` take, together with those that `mode` holds. -/
def taken (tokens : List Token) (mode : Mode) : Nat := sizes tokens + mode.held

@[simp] theorem taken_nil (mode : Mode) : taken [] mode = mode.held := by simp [taken, sizes]

theorem taken_start (c : Char) : taken (Mode.start c).1 (Mode.start c).2 ≤ 1 := by
  unfold Mode.start Token.ofChar?
  split_ifs <;> simp [taken, sizes, Mode.held, Token.size]

theorem taken_inQuotes {seen : Option (List Char)} {c : Char} {done : List Token} {next : Mode}
    (step : Mode.inQuotes seen c = some (done, next)) :
    taken done next ≤ (Mode.quoted seen).held + 1 := by
  unfold Mode.inQuotes at step
  split_ifs at step <;> cases step <;> cases seen <;> simp [taken, sizes, Mode.held, Token.size]

theorem taken_afterBackslash {seen : Option (List Char)} {c : Char} {done : List Token}
    {next : Mode}
    (step : Mode.afterBackslash seen c = some (done, next)) :
    taken done next ≤ (Mode.escape seen).held + 1 := by
  unfold Mode.afterBackslash at step
  split_ifs at step
  · cases step
    simp [Mode.held]
  · obtain ⟨plain, -, made⟩ := Option.map_eq_some_iff.1 step
    cases made
    cases seen <;> simp [Mode.held]

theorem held_ofUnit (seen : Option (List Char)) (high : Option Nat) (unit : Nat) :
    (Mode.ofUnit seen high unit).held ≤ (Mode.quoted seen).held + 1 := by
  unfold Mode.ofUnit
  cases high <;> dsimp only <;> split_ifs <;> cases seen <;> simp [Mode.held]

/-- A character that is read adds one character at most. -/
theorem taken_step {mode next : Mode} {c : Char} {done : List Token}
    (step : mode.step c = some (done, next)) : taken done next ≤ mode.held + 1 := by
  cases mode with
  | between =>
    have start : Mode.start c = (done, next) := Option.some.inj step
    simpa [start, Mode.held] using taken_start c
  | word seen =>
    simp only [Mode.step] at step
    split_ifs at step with ends
    · obtain ⟨token, read, made⟩ := Option.bind_eq_some_iff.1 step
      cases made
      have start := taken_start c
      simpa [taken, sizes, Mode.held, size_readWord? read] using start
    · cases step
      exact Nat.zero_le _
  | quoted seen => exact taken_inQuotes step
  | escape seen => exact taken_afterBackslash step
  | hex seen high value count =>
    obtain ⟨digit, -, read⟩ := Option.bind_eq_some_iff.1 step
    split_ifs at read <;> cases read
    · simp [Mode.held]
    · rw [taken_nil]
      exact held_ofUnit seen high (value * 16 + digit)
  | pair seen high =>
    simp only [Mode.step] at step
    split_ifs at step with backslash
    · cases step
      simp [Mode.held]
    · exact Nat.le_trans (taken_inQuotes step) (by simp [Mode.held])
  | pairEscape seen high =>
    simp only [Mode.step] at step
    split_ifs at step with four
    · cases step
      simp [Mode.held]
    · exact Nat.le_trans (taken_afterBackslash step) (by simp [Mode.held])

/-- The tokens of `cs` take no more characters than there are. -/
theorem size_tokens {mode : Mode} {cs : List Char} {tokens : List Token}
    (read : mode.tokens cs = some tokens) :
    sizes tokens ≤ mode.held + cs.length := by
  induction cs generalizing mode tokens with
  | nil =>
    cases mode with
    | between => cases read; exact Nat.zero_le _
    | word seen =>
      obtain ⟨token, word, rfl⟩ := Option.map_eq_some_iff.1 read
      simp [sizes, size_readWord? word]
    | _ => cases read
  | cons c cs ih =>
    obtain ⟨⟨done, next⟩, step, rest⟩ := Option.bind_eq_some_iff.1 read
    obtain ⟨others, later, made⟩ := Option.bind_eq_some_iff.1 rest
    cases made
    have first := taken_step step
    have following := ih later
    simp only [taken] at first
    rw [sizes_append, List.length_cons]
    omega

/-! ## Values -/

namespace Machine

variable {frames : List Frame} {token : Token} {m next : Machine} {s : String}

theorem place_done {j k : Json} (placed : place frames j = some next)
    (ends : next.stage = .done k) : j = k := by
  unfold place at placed
  split at placed <;> cases placed <;> cases ends
  rfl

theorem enter_not_done {frame : Frame} {stage : Stage} (waits : ∀ j, stage ≠ .done j)
    (entered : enter .full frames frame stage = some next) (j : Json) : next.stage ≠ .done j := by
  obtain ⟨-, made⟩ := Option.ite_none_right_eq_some.1 entered
  cases made
  exact waits j

/-- A text is complete at once, with the token that stands for it. -/
theorem size_startValue (start : startValue .full frames token = some next)
    (ends : next.stage = .done (.string s)) : token.size = s.length + 2 := by
  unfold startValue at start
  split at start
  · exact absurd ends (enter_not_done (by nofun) start _)
  · exact absurd ends (enter_not_done (by nofun) start _)
  · rename_i cs
    obtain ⟨j, filled, placed⟩ := Option.bind_eq_some_iff.1 start
    cases cs with
    | none => cases filled
    | some cs =>
      cases filled
      obtain rfl : String.ofList cs = s := Json.string.inj (place_done placed ends)
      simp [Token.size]
  · rename_i value
    obtain ⟨j, filled, placed⟩ := Option.bind_eq_some_iff.1 start
    cases value with
    | none => cases filled
    | some value =>
      cases filled
      obtain rfl := place_done placed ends
      rfl
  · cases start

theorem close_ne_string (closed : close frames token = some next) :
    next.stage ≠ .done (.string s) := by
  intro ends
  unfold close at closed
  split at closed
  · cases place_done closed ends
  · cases place_done closed ends
  · cases closed

theorem startMember_not_done (start : startMember .full frames token = some next) (j : Json) :
    next.stage ≠ .done j := by
  unfold startMember at start
  split at start
  · split at start
    · obtain ⟨key, -, made⟩ := Option.bind_eq_some_iff.1 start
      cases made
      nofun
    · cases start
  · cases start

theorem size_step (step : m.step .full token = some next) (ends : next.stage = .done (.string s)) :
    token.size = s.length + 2 := by
  unfold Machine.step at step
  split at step
  · exact size_startValue step ends
  · exact absurd ends (close_ne_string step)
  · exact size_startValue step ends
  · exact absurd ends (startMember_not_done step _)
  · exact absurd ends (close_ne_string step)
  · exact absurd ends (startMember_not_done step _)
  · cases step
    cases ends
  · unfold Machine.continue at step
    split at step <;> cases step <;> cases ends
  · exact absurd ends (close_ne_string step)
  · cases step

theorem run_done {j k : Json} {tokens : List Token} (complete : m.stage = .done j)
    (run : m.run .full tokens = some k) : j = k := by
  cases tokens with
  | nil =>
    rw [Machine.run, complete] at run
    exact Option.some.inj run
  | cons token rest =>
    obtain ⟨next, step, -⟩ := Option.bind_eq_some_iff.1 run
    unfold Machine.step at step
    rw [complete] at step
    cases step

/-- A text `s` that is read is no longer than the `tokens` that it is read off. -/
theorem size_run {tokens : List Token} (waits : ∀ j, m.stage ≠ .done j)
    (run : m.run .full tokens = some (.string s)) :
    s.length + 2 ≤ sizes tokens := by
  induction tokens generalizing m with
  | nil =>
    unfold Machine.run at run
    split at run
    · exact absurd ‹_› (waits _)
    · cases run
  | cons token rest ih =>
    obtain ⟨next, step, later⟩ := Option.bind_eq_some_iff.1 run
    rw [sizes]
    by_cases complete : ∃ j, next.stage = .done j
    · obtain ⟨j, complete⟩ := complete
      obtain rfl := run_done complete later
      have size := size_step step complete
      omega
    · have following := ih (fun j ends => complete ⟨j, ends⟩) later
      omega

end Machine

/-- A text is longer, by the quotes at least, than the text `s` that is read off it. -/
theorem length_of_read? {text s : String} (read : read? text = some (.string s)) :
    s.length + 2 ≤ text.length := by
  obtain ⟨j, written, same⟩ := Option.map_eq_some_iff.1 read
  obtain rfl : j = .string s := by
    cases j <;> simp_all [canonical]
  obtain ⟨tokens, cut, run⟩ := Option.bind_eq_some_iff.1 written
  have tokens_le := size_tokens cut
  have text_le := Machine.size_run (m := ⟨[], .value⟩) nofun run
  simp only [Mode.held, String.length_toList] at tokens_le
  omega

theorem read?_ne_self (s : String) : read? s ≠ some (.string s) := by
  intro read
  have longer := length_of_read? read
  omega

end EntityStore.Json
