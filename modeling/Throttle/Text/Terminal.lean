/-!
# What a terminal shows

A text may hold control sequences, which begin with an escape character, and other control
characters.  `shown` leaves out both; only blanks stay of the control characters.  A blank that
stands inside a control sequence of the short kinds is shown and ends it.  Main statement: what is
shown has no escape character.
-/

namespace Throttle.Text.Terminal

inductive State where
  /-- Text that is shown. -/
  | ground
  /-- A sequence of which only the escape character was seen. -/
  | escape
  /-- A sequence with intermediate characters, which ends with any other character. -/
  | intermediate
  /-- A sequence with parameters, which ends with a letter or the like. -/
  | parameters
  /-- A string, which ends with a terminator. -/
  | string
  /-- A command for the operating system, which ends with a bell. -/
  | command
deriving DecidableEq, Repr, Inhabited

def isBlankControl (n : Nat) : Bool := n == 9 || n == 10 || n == 12 || n == 13

/-- Whether a byte of a character is the terminator of a string. -/
def hasTerminator (c : Char) : Bool := (String.singleton c).toUTF8.toList.contains 0x9C

def afterEscape (n : Nat) : State :=
  if n < 0x20 ∨ 0x7E < n then .escape
  else if n < 0x30 then .intermediate
  else if n = 0x5B then .parameters
  else if n = 0x5D then .command
  else if n = 0x50 ∨ n = 0x58 ∨ n = 0x5E ∨ n = 0x5F then .string
  else .ground

/-- The state after a character that is not shown, and neither begins nor breaks off a sequence. -/
def State.next (state : State) (c : Char) : State :=
  let n := c.toNat
  match state with
  | ground => ground
  | escape => afterEscape n
  | intermediate => if 0x30 ≤ n ∧ n ≤ 0x7E then ground else intermediate
  | parameters => if 0x40 ≤ n ∧ n ≤ 0x7E then ground else parameters
  | string => if hasTerminator c then ground else string
  | command => if n = 7 then ground else command

def State.shows (state : State) (c : Char) : Bool :=
  let n := c.toNat
  match state with
  | ground => (0x20 ≤ n && n != 0x7F) || isBlankControl n
  | escape | intermediate | parameters => isBlankControl n
  | string | command => false

def showChars : State → List Char → List Char
  | _, [] => []
  | state, c :: cs =>
    if c.toNat = 0x1B then showChars .escape cs
    else if c.toNat = 0x18 ∨ c.toNat = 0x1A then showChars .ground cs
    else if state.shows c then c :: showChars .ground cs
    else showChars (state.next c) cs

def shown (s : String) : String := String.ofList (showChars .ground s.toList)

theorem ne_escape_of_mem_showChars (state : State) (cs : List Char) :
    ∀ c ∈ showChars state cs, c.toNat ≠ 0x1B := by
  fun_induction showChars state cs with
  | case1 => simp
  | case2 _ _ _ _ ih => exact ih
  | case3 _ _ _ _ _ ih => exact ih
  | case4 _ c _ h _ _ ih =>
    intro d hd
    rcases List.mem_cons.1 hd with rfl | hd
    · exact h
    · exact ih d hd
  | case5 _ _ _ _ _ _ ih => exact ih

end Throttle.Text.Terminal
