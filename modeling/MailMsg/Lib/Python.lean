/-
Module: MailMsg.Lib.Python
Purpose: The parts of Python that a text parser rests on: strings as code points, white space and
  `strip`, decimal integers, and the limits at which the interpreter gives up.
Trusted boundary: human-reviewed embedding of the documented behaviour of CPython
Main exports: Python.Text, Python.strip, Python.decimal, Python.Interpreter, Python.parseInt
-/
import Mathlib.Data.List.DropRight

namespace Python

/-- A string as its code points.  A lone surrogate is a code point like any other. -/
abbrev Text := List Nat

/-- `str.isspace` of one code point, which is also what `\s` matches. -/
def isSpace (point : Nat) : Bool :=
  decide ((9 ≤ point ∧ point ≤ 13) ∨ (28 ≤ point ∧ point ≤ 32) ∨
    (0x2000 ≤ point ∧ point ≤ 0x200a)) ||
    [0x85, 0xa0, 0x1680, 0x2028, 0x2029, 0x202f, 0x205f, 0x3000].contains point

/-- `str.strip`. -/
def strip (text : Text) : Text := (text.dropWhile isSpace).rdropWhile isSpace

/-- An ASCII digit, `[0-9]`. -/
def isDigit (point : Nat) : Bool := decide (48 ≤ point ∧ point ≤ 57)

/-- The number that a text of digits denotes in decimal. -/
def decimal (digits : Text) : Nat := digits.foldl (fun number digit => 10 * number + (digit - 48)) 0

/-! ### The limits of the interpreter -/

/-- `sys.get_int_max_str_digits()`, where zero is no limit, and how deep a decoder may still
nest. -/
structure Interpreter where
  digitLimit : Nat
  nestingLimit : Nat

/-- The exceptions that the modelled calls raise. -/
inductive Raised where
  | jsonDecodeError
  /-- A plain `ValueError`. -/
  | valueError
  | recursionError
deriving DecidableEq

/-- The places at which a limit is tested. -/
inductive Event where
  /-- An integer literal of this many digits is converted. -/
  | integer (digits : Nat)
  /-- A container at this depth is entered. -/
  | enter (depth : Nat)

/-- What a test raises. -/
def Event.raises (interpreter : Interpreter) : Event → Option Raised
  | .integer digits =>
      if interpreter.digitLimit ≠ 0 ∧
        interpreter.digitLimit < digits then some .valueError else none
  | .enter depth => if interpreter.nestingLimit < depth then some .recursionError else none

/-- No limit ends in a `JSONDecodeError`. -/
theorem Event.raises_ne (interpreter : Interpreter) (event : Event) :
    event.raises interpreter ≠ some .jsonDecodeError := by
  cases event with
  | integer digits => simp [Event.raises]
  | enter depth => simp [Event.raises]

/-- `int(digits)` of a text of ASCII digits. -/
def parseInt (interpreter : Interpreter) (digits : Text) : Except Raised Nat :=
  match (Event.integer digits.length).raises interpreter with
  | some raised => .error raised
  | none => .ok (decimal digits)

/-- Stripping keeps the first visible code point. -/
theorem strip_head {spaces rest : Text} {point : Nat}
    (blank : ∀ other ∈ spaces, isSpace other = true)
    (visible : isSpace point = false) : (strip (spaces ++ point :: rest)).head? = some point := by
  have front : (spaces ++ point :: rest).dropWhile isSpace = point :: rest := by
    rw [List.dropWhile_append_of_pos blank]
    simp [visible]
  rw [strip, front]
  obtain ⟨dropped, whole⟩ := List.rdropWhile_prefix isSpace (point :: rest)
  cases kept : (point :: rest).rdropWhile isSpace with
  | nil =>
      have all := List.rdropWhile_eq_nil_iff.mp kept point List.mem_cons_self
      rw [visible] at all
      cases all
  | cons first others =>
      rw [kept, List.cons_append, List.cons.injEq] at whole
      rw [whole.1]
      rfl

end Python
