/-
Module: MailMsg.Lib.Json
Purpose: The JSON decoder of the Python standard library, as a recursive descent over the code
  points that also lists, in order, the places at which a limit of the interpreter is tested.
Trusted boundary: human-reviewed embedding of `json.loads` with its default arguments; a floating
  point number is kept as its literal, and a syntax error has no position
Main exports: Json.Value, Json.scanValue, Json.decode, Json.loads
-/
import MailMsg.Lib.Python

namespace Json

open Python

/-- What `json.loads` returns.  An object keeps one member for each key, as a `dict` does. -/
inductive Value where
  | null
  | bool (value : Bool)
  | integer (value : Int)
  | float (literal : Text)
  | string (contents : Text)
  | array (items : List Value)
  | object (members : List (Text × Value))

/-- `dict[key] = value`: the last member of a key is kept. -/
def setMember (members : List (Text × Value)) (key : Text) (value : Value) : List (Text × Value) :=
  if members.any fun member => member.1 == key then
    members.map fun member => if member.1 == key then (key, value) else member
  else members ++ [(key, value)]

/-! ### White space and delimiters -/

/-- What is left of a text when at least one code point of it has been read. -/
abbrev Behind (text : Text) := {rest : Text // rest.length < text.length}

/-- The white space of JSON: space, tab, line feed and carriage return. -/
def isBlank (point : Nat) : Bool := [32, 9, 10, 13].contains point

/-- `WHITESPACE.match(s, idx).end()`. -/
def skip (text : Text) : Text := text.dropWhile isBlank

theorem skip_length (text : Text) : (skip text).length ≤ text.length :=
  List.length_dropWhile_le isBlank text

/-- What is behind one code point, which white space may precede. -/
def delimiter (point : Nat) (text : Text) : Option (Behind text) :=
  match left : skip text with
  | [] => none
  | first :: rest =>
      if first = point then
        have shorter : rest.length < text.length := by
          have bound := skip_length text
          rw [left, List.length_cons] at bound
          exact bound
        some ⟨rest, shorter⟩
      else none

/-! ### Strings -/

/-- A hexadecimal digit. -/
def hexDigit (point : Nat) : Option Nat :=
  if 48 ≤ point ∧ point ≤ 57 then some (point - 48)
  else if 97 ≤ point ∧ point ≤ 102 then some (point - 87)
  else if 65 ≤ point ∧ point ≤ 70 then some (point - 55)
  else none

/-- The four digits of a `\u` escape, in front of a text. -/
def hexWord (text : Text) : Option Nat := do
  let first ← hexDigit (← text[0]?)
  let second ← hexDigit (← text[1]?)
  let third ← hexDigit (← text[2]?)
  let fourth ← hexDigit (← text[3]?)
  return ((first * 16 + second) * 16 + third) * 16 + fourth

/-- The escapes of one letter: quotation mark, both slashes, and the five control characters. -/
def simpleEscape (point : Nat) : Option Nat :=
  [(34, 34), (92, 92), (47, 47), (98, 8), (102, 12), (110, 10), (114, 13), (116, 9)].lookup point

/-- The second half of a surrogate pair, as a `\u` escape in front of a text. -/
def lowSurrogate (text : Text) : Option Nat :=
  if text.take 2 = [92, 117] then
    (hexWord (text.drop 2)).filter fun unit => 0xdc00 ≤ unit && unit ≤ 0xdfff
  else none

/-- The code point of a `\u` escape behind its `u`, and how much of the text it takes. -/
def unicodeEscape (text : Text) : Option (Nat × Nat) :=
  (hexWord text).map fun unit =>
    if 0xd800 ≤ unit ∧ unit ≤ 0xdbff then
      match lowSurrogate (text.drop 4) with
      | some low => (0x10000 + (unit - 0xd800) * 0x400 + (low - 0xdc00), 10)
      | none => (unit, 4)
    else (unit, 4)

/-- What is behind a part of a text is behind the text. -/
def Behind.within {part text : Text} (shorter : part.length ≤ text.length) (rest : Behind part) :
    Behind text :=
  ⟨rest.1, Nat.lt_of_lt_of_le rest.2 shorter⟩

/-- An escape behind its backslash, and how much of the text it takes. -/
def escape : Text → Option (Nat × Nat)
  | [] => none
  | letter :: rest =>
      if letter = 117 then (unicodeEscape rest).map fun (point, taken) => (point, taken + 1)
      else (simpleEscape letter).map fun point => (point, 1)

/-- `scanstring` behind the opening quotation mark, in strict mode: the contents, and the text
behind the closing quotation mark. -/
def scanString : (text : Text) → Option (Text × Behind text)
  | [] => none
  | point :: rest =>
      if point = 34 then some ([], ⟨rest, Nat.lt_succ_self rest.length⟩)
      else if point = 92 then
        match escape rest with
        | none => none
        | some (escaped, taken) =>
            (scanString (rest.drop taken)).map fun (contents, after) =>
              (escaped :: contents, after.within (by simp; omega))
      else if point < 32 then none
      else (scanString rest).map fun (contents, after) =>
        (point :: contents, after.within (by simp))
termination_by text => text.length
decreasing_by
  · simp only [List.length_drop, List.length_cons]
    omega
  · exact Nat.lt_succ_self rest.length

/-! ### Numbers -/

/-- A run of digits in front, and the text behind it. -/
def scanDigits (text : Text) : Text × Text := (text.takeWhile isDigit, text.dropWhile isDigit)

/-- The integer part of a number: zero, or digits that do not start with zero. -/
def integerPart : Text → Option (Text × Text)
  | [] => none
  | point :: rest =>
      if point = 48 then some ([48], rest)
      else if isDigit point then some (scanDigits (point :: rest))
      else none

/-- The fraction of a number: a point that a digit follows, with the digits; empty otherwise. -/
def fractionPart (text : Text) : Text × Text :=
  let digits := scanDigits text.tail
  if text.head? = some 46 ∧ digits.1.isEmpty = false then (46 :: digits.1, digits.2) else ([], text)

/-- The sign of an exponent. -/
def exponentSign (text : Text) : Text × Text :=
  if text.head? = some 43 ∨ text.head? = some 45 then (text.take 1, text.tail) else ([], text)

/-- The exponent of a number: its letter, a sign and digits; empty if the digits are missing. -/
def exponentPart (text : Text) : Text × Text :=
  match text with
  | [] => ([], text)
  | letter :: rest =>
      let signed := exponentSign rest
      let digits := scanDigits signed.2
      if (letter = 101 ∨ letter = 69) ∧ digits.1.isEmpty = false then
        (letter :: signed.1 ++ digits.1, digits.2)
      else ([], text)

/-- A number in front of a text.  An integer keeps its sign and its digits apart. -/
inductive Number where
  | integer (negative : Bool) (digits : Text)
  | float (literal : Text)

/-- `_match_number`: the number in front of a text, and the text behind it. -/
def matchNumber (text : Text) : Option (Number × Text) :=
  let (sign, unsigned) := if text.head? = some 45 then ([45], text.tail) else ([], text)
  (integerPart unsigned).map fun (digits, afterInteger) =>
    let (fraction, afterFraction) := fractionPart afterInteger
    let (exponent, afterExponent) := exponentPart afterFraction
    if fraction.isEmpty ∧ exponent.isEmpty then (.integer (sign = [45]) digits, afterExponent)
    else (.float (sign ++ digits ++ fraction ++ exponent), afterExponent)

theorem scanDigits_length (text : Text) : (scanDigits text).2.length ≤ text.length :=
  List.length_dropWhile_le isDigit text

theorem integerPart_length {text digits after : Text}
    (part : integerPart text = some (digits, after)) : after.length < text.length := by
  cases text with
  | nil => cases part
  | cons point rest =>
      simp only [integerPart] at part
      split at part
      · cases part
        exact Nat.lt_succ_self _
      · split at part
        next isDigit =>
          cases part
          have bound := List.length_dropWhile_le Python.isDigit rest
          simp only [List.dropWhile_cons_of_pos isDigit, List.length_cons]
          omega
        next => cases part

theorem fractionPart_length (text : Text) : (fractionPart text).2.length ≤ text.length := by
  have bound := scanDigits_length text.tail
  rw [List.length_tail] at bound
  unfold fractionPart
  dsimp only
  split
  · exact Nat.le_trans bound (Nat.sub_le text.length 1)
  · exact Nat.le_refl _

theorem exponentSign_length (text : Text) : (exponentSign text).2.length ≤ text.length := by
  unfold exponentSign
  split <;> simp

theorem exponentPart_length (text : Text) : (exponentPart text).2.length ≤ text.length := by
  unfold exponentPart
  split
  next => exact Nat.le_refl _
  next letter rest =>
    have signed := exponentSign_length rest
    have bound := scanDigits_length (exponentSign rest).2
    dsimp only
    split
    · simp only [List.length_cons]
      omega
    · exact Nat.le_refl _

/-- A number takes at least one code point. -/
theorem matchNumber_length {text after : Text} {number : Number}
    (matched : matchNumber text = some (number, after)) : after.length < text.length := by
  simp only [matchNumber, Option.map_eq_some_iff] at matched
  obtain ⟨⟨digits, afterInteger⟩, part, split⟩ := matched
  have read := integerPart_length part
  have fraction := fractionPart_length afterInteger
  have exponent := exponentPart_length (fractionPart afterInteger).2
  have unsigned : (if text.head? = some 45 then ([45], text.tail) else ([], text)).2.length ≤
      text.length := by
    split <;> simp
  have afterEq : after = (exponentPart (fractionPart afterInteger).2).2 := by
    simp only at split
    split at split <;> cases split <;> rfl
  rw [afterEq]
  omega

/-! ### Values -/

/-- What a scan tests on its way, and what it returns; nothing is a syntax error. -/
structure Scanned (α : Type) where
  events : List Event
  result : Option α

namespace Scanned

variable {α β : Type}

/-- A syntax error. -/
def fail : Scanned α := ⟨[], none⟩

/-- A token that is there, or a syntax error. -/
def ofOption (token : Option α) : Scanned α := ⟨[], token⟩

/-- A place at which a limit is tested. -/
def test (event : Event) : Scanned Unit := ⟨[event], some ()⟩

instance : Monad Scanned where
  pure value := ⟨[], some value⟩
  bind scanned next :=
    match scanned.result with
    | none => ⟨scanned.events, none⟩
    | some value => ⟨scanned.events ++ (next value).events, (next value).result⟩

end Scanned

/-- The words that are values, with the extensions `NaN`, `Infinity` and `-Infinity`. -/
def constants : List (Text × Value) :=
  [("null".toList.map Char.toNat, .null), ("true".toList.map Char.toNat, .bool true),
    ("false".toList.map Char.toNat, .bool false),
    ("NaN".toList.map Char.toNat, .float ("NaN".toList.map Char.toNat)),
    ("Infinity".toList.map Char.toNat, .float ("Infinity".toList.map Char.toNat)),
    ("-Infinity".toList.map Char.toNat, .float ("-Infinity".toList.map Char.toNat))]

/-- A constant in front of a text. -/
def scanConstant (text : Text) : Option (Value × Behind text) :=
  constants.findSome? fun (word, value) =>
    if shorter : word.isPrefixOf text ∧ (text.drop word.length).length < text.length then
      some (value, ⟨text.drop word.length, shorter.2⟩)
    else none

/-- A constant or a number in front of a text.  The digits of an integer are tested against the
limit. -/
def scanScalar (text : Text) : Scanned (Value × Behind text) :=
  match scanConstant text with
  | some constant => pure constant
  | none =>
      match matched : matchNumber text with
      | none => .fail
      | some (.float literal, after) => pure (.float literal, ⟨after, matchNumber_length matched⟩)
      | some (.integer negative digits, after) => do
          .test (.integer digits.length)
          return (.integer (if negative then -(decimal digits : Int) else decimal digits),
            ⟨after, matchNumber_length matched⟩)

mutual

/-- `scan_once`: the value in front of a text, inside `depth` containers. -/
def scanValue (depth : Nat) : (text : Text) → Scanned (Value × Behind text)
  | [] => .fail
  | 34 :: rest => do
      let (contents, after) ← .ofOption (scanString rest)
      return (.string contents, after.within (Nat.le_succ rest.length))
  | 123 :: rest => do
      .test (.enter (depth + 1))
      match delimiter 125 rest with
      | some after => return (.object [], after.within (Nat.le_succ rest.length))
      | none =>
          let (value, after) ← scanMembers (depth + 1) [] rest
          return (value, after.within (Nat.le_succ rest.length))
  | 91 :: rest => do
      .test (.enter (depth + 1))
      match delimiter 93 rest with
      | some after => return (.array [], after.within (Nat.le_succ rest.length))
      | none =>
          let (value, after) ← scanElements (depth + 1) [] rest
          return (value, after.within (Nat.le_succ rest.length))
  | first :: rest => scanScalar (first :: rest)
termination_by text => 2 * text.length

/-- `JSONObject` in front of a member, behind the members that have been read. -/
def scanMembers (depth : Nat) (members : List (Text × Value)) (text : Text) :
    Scanned (Value × Behind text) := do
  let ⟨quoted, quotedShorter⟩ ← .ofOption (delimiter 34 text)
  let (key, ⟨named, namedShorter⟩) ← .ofOption (scanString quoted)
  let ⟨separated, separatedShorter⟩ ← .ofOption (delimiter 58 named)
  have skipped := skip_length separated
  let (value, ⟨rest, restShorter⟩) ← scanValue depth (skip separated)
  match delimiter 125 rest with
  | some after => return (.object (setMember members key value), after.within (by omega))
  | none =>
      let ⟨next, nextShorter⟩ ← .ofOption (delimiter 44 rest)
      let (object, after) ← scanMembers depth (setMember members key value) next
      return (object, after.within (by omega))
termination_by 2 * text.length + 1

/-- `JSONArray` in front of an element, behind the elements that have been read. -/
def scanElements (depth : Nat) (items : List Value) (text : Text) :
    Scanned (Value × Behind text) := do
  have skipped := skip_length text
  let (value, ⟨rest, restShorter⟩) ← scanValue depth (skip text)
  match delimiter 93 rest with
  | some after => return (.array (items ++ [value]), after.within (by omega))
  | none =>
      let ⟨next, nextShorter⟩ ← .ofOption (delimiter 44 rest)
      let (array, after) ← scanElements depth (items ++ [value]) next
      return (array, after.within (by omega))
termination_by 2 * text.length + 1

end

/-- The decoder without limits: a value that fills the text, white space apart.  A text that starts
with a byte order mark is refused. -/
def decode (text : Text) : Scanned Value :=
  if text.head? = some 0xfeff then .fail
  else do
    let (value, after) ← scanValue 0 (skip text)
    if (skip after.1).isEmpty then return value else .fail

/-- `json.loads`: the first limit that the decoder meets ends it. -/
def loads (interpreter : Interpreter) (text : Text) : Except Raised Value :=
  match (decode text).events.findSome? fun event => event.raises interpreter with
  | some raised => .error raised
  | none =>
      match (decode text).result with
      | some value => .ok value
      | none => .error .jsonDecodeError

/-! ### What the decoder refuses -/

/-- The code points that a value can start with. -/
def startsValue (point : Nat) : Bool :=
  isDigit point || [34, 123, 91, 45, 110, 116, 102, 78, 73].contains point

theorem scanScalar_refuses {point : Nat} (rest : Text) (refused : startsValue point = false) :
    scanScalar (point :: rest) = .fail := by
  simp only [startsValue, Bool.or_eq_false_iff, List.contains_cons, List.contains_nil,
    beq_eq_false_iff_ne, ne_eq, isDigit, decide_eq_false_iff_not, not_and_or, Nat.not_le] at refused
  obtain ⟨notDigit, notQuote, notBrace, notBracket, notMinus, notN, notT, notF, notNaN,
    notI, _⟩ := refused
  have noConstant : scanConstant (point :: rest) = none := by
    simp [scanConstant, constants, Ne.symm notMinus, Ne.symm notN, Ne.symm notT, Ne.symm notF,
      Ne.symm notNaN, Ne.symm notI]
  have notZero : point ≠ 48 := by omega
  have noNumber : matchNumber (point :: rest) = none := by
    simp [matchNumber, integerPart, isDigit, notMinus, notZero]
    omega
  unfold scanScalar
  rw [noConstant]
  dsimp only
  split
  next => rfl
  next found =>
    rw [noNumber] at found
    cases found
  next found =>
    rw [noNumber] at found
    cases found

/-- A text that starts with neither white space nor a value is a syntax error, and no limit is
tested. -/
theorem decode_refuses {point : Nat} (rest : Text) (visible : isBlank point = false)
    (refused : startsValue point = false) : decode (point :: rest) = .fail := by
  have skipped : skip (point :: rest) = point :: rest := by simp [skip, visible]
  have scanned : scanValue 0 (skip (point :: rest)) = .fail := by
    have apart := refused
    simp only [startsValue, Bool.or_eq_false_iff, List.contains_cons, beq_eq_false_iff_ne,
      ne_eq] at apart
    rw [skipped, scanValue]
    · exact scanScalar_refuses rest refused
    · exact apart.2.1
    · exact apart.2.2.1
    · exact apart.2.2.2.1
  unfold decode
  split
  · rfl
  · rw [scanned]
    rfl

/-! ### The limits -/

/-- No limit ends the decoder before it has read the text. -/
def Fits (interpreter : Interpreter) (text : Text) : Prop :=
  ∀ event ∈ (decode text).events, event.raises interpreter = none

/-- Within the limits only the syntax decides. -/
theorem loads_of_fits {interpreter : Interpreter} {text : Text} (fits : Fits interpreter text) :
    loads interpreter text =
      match (decode text).result with
      | some value => .ok value
      | none => .error .jsonDecodeError := by
  unfold loads
  rw [List.findSome?_eq_none_iff.mpr fits]

/-- Beyond them the exception is not a `JSONDecodeError`. -/
theorem loads_of_not_fits {interpreter : Interpreter} {text : Text}
    (beyond : ¬ Fits interpreter text) :
    ∃ raised, raised ≠ .jsonDecodeError ∧ loads interpreter text = .error raised := by
  unfold loads
  cases found : (decode text).events.findSome? fun event => event.raises interpreter with
  | none => exact absurd (List.findSome?_eq_none_iff.mp found) beyond
  | some raised =>
      obtain ⟨event, _, raises⟩ := List.exists_of_findSome?_eq_some found
      refine ⟨raised, ?_, rfl⟩
      rintro rfl
      exact event.raises_ne interpreter raises

end Json
