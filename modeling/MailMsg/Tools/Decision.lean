/-
Module: MailMsg.Tools.Decision
Purpose: The decision parser of the agent: a native tool-call block and a JSON text in an optional
  wrapper reach one validator.  Within the limits of the interpreter it accepts exactly the
  allowlisted call and refuses everything else with an `AgentError`; beyond them another exception
  escapes.
Source: LZAMP/agent/mailmsg_agent.py (NATIVE_TOOL_CALL_RE, AgentError, _strict_object,
  parse_decision)
Trusted boundary: `str.strip`, `int`, `re` and `json.loads` behave as `Lib.Python`, `Lib.Pattern`
  and `Lib.Json` say; the line and column of a syntax error are left out
Main exports: parseDecision, Allowed, Exact, Within, parseDecision_exact_iff
-/
import MailMsg.Lib.Json
import MailMsg.Lib.Pattern

namespace MailMsg.Decision

open Python Json Pattern

/-- A string literal of the source. -/
def literal (characters : String) : Text := characters.toList.map Char.toNat

/-- `TOOL_NAME` -/
def toolName : Text := literal "zephyr_increment"

/-! ### Errors -/

/-- The details of an error. -/
inductive Details where
  | empty
  /-- Line and column of a syntax error. -/
  | position
  | fields (unknown : List Text)
  | name (name : Value)

structure AgentError where
  code : String
  message : String
  details : Details

/-- What `parse_decision` raises. -/
inductive Failure where
  | agent (error : AgentError)
  /-- An exception of the interpreter that no handler turns into an `AgentError`. -/
  | uncaught (raised : Raised)

/-! ### The validator

The checks behind both front ends, in the order of the source: the keys of the decision, the tool,
the keys of its arguments, and the value.
-/

/-- `dict.get` -/
def get (members : List (Text × Value)) (key : Text) : Value := (members.lookup key).getD .null

/-- `sorted` of a set of strings. -/
def sorted (texts : List Text) : List Text := texts.mergeSort fun left right => !right.lex left

/-- `_strict_object`: the members of an object without fields that are not allowed. -/
def strictObject (value : Value) (allowed : List Text) (label : String) :
    Except AgentError (List (Text × Value)) :=
  match value with
  | .object members =>
      let unknown := sorted ((members.map Prod.fst).filter fun key => !allowed.contains key)
      if unknown.isEmpty then .ok members
      else .error ⟨"invalid_decision", label ++ " contains unsupported fields", .fields unknown⟩
  | _ => .error ⟨"invalid_decision", label ++ " must be an object", .empty⟩

/-- The dictionary that `parse_decision` returns. -/
def toolCall (value : Int) : Value :=
  .object [(literal "name", .string toolName),
    (literal "arguments", .object [(literal "value", .integer value)])]

/-- `decision.get("name") != TOOL_NAME` -/
def isTool : Value → Bool
  | .string name => name == toolName
  | _ => false

/-- The checks of `parse_decision` behind its front ends. -/
def validate (decision : Value) : Except AgentError Value := do
  let members ← strictObject decision [literal "name", literal "arguments"] "decision"
  if isTool (get members (literal "name")) then
    let arguments ← strictObject (get members (literal "arguments")) [literal "value"] "arguments"
    match arguments.lookup (literal "value") with
    | none => .error ⟨"invalid_arguments", "value is required", .empty⟩
    | some (.integer value) =>
        if value < 0 ∨ value ≥ 0xffffffff then
          .error ⟨"invalid_arguments", "value must be between 0 and 4294967294", .empty⟩
        else .ok (toolCall value)
    | some _ => .error ⟨"invalid_arguments", "value must be an integer", .empty⟩
  else
    .error ⟨"tool_not_allowed", "tool is not registered", .name (get members (literal "name"))⟩

/-! ### The front ends -/

/-- `[A-Za-z_]` -/
def identifierStart (point : Nat) : Bool :=
  decide ((65 ≤ point ∧ point ≤ 90) ∨ (97 ≤ point ∧ point ≤ 122) ∨ point = 95)

/-- `[A-Za-z0-9_]` -/
def identifierRest (point : Nat) : Bool := identifierStart point || isDigit point

/-- `NATIVE_TOOL_CALL_RE`; its anchors add nothing to a full match. -/
def nativeToolCall : List (Piece Nat) :=
  [.literal (literal "<tool_call>"), .skip isSpace,
    .literal (literal "<function="), .capture identifierStart identifierRest,
    .literal (literal ">"), .skip isSpace,
    .literal (literal "<parameter="), .capture identifierStart identifierRest,
    .literal (literal ">"), .skip isSpace,
    .capture isDigit isDigit, .skip isSpace,
    .literal (literal "</parameter>"), .skip isSpace,
    .literal (literal "</function>"), .skip isSpace,
    .literal (literal "</tool_call>")]

/-- The groups `name`, `parameter` and `value` of a native block. -/
def nativeMatch (stripped : Text) : Option (Text × Text × Text) :=
  match fullmatch nativeToolCall stripped with
  | some [name, parameter, value] => some (name, parameter, value)
  | _ => none

/-- The text without its wrapper, if it has one. -/
def unwrap (stripped : Text) : Text :=
  if (literal "<tool_call>").isPrefixOf stripped &&
    (literal "</tool_call>").isSuffixOf stripped then
    strip ((stripped.take (stripped.length - (literal "</tool_call>").length)).drop
      (literal "<tool_call>").length)
  else stripped

/-- The decision that a stripped text holds. -/
def readDecision (interpreter : Interpreter) (stripped : Text) : Except Failure Value :=
  match nativeMatch stripped with
  | some (name, parameter, value) =>
      match parseInt interpreter value with
      | .ok number =>
          .ok (.object [(literal "name", .string name),
            (literal "arguments", .object [(parameter, .integer number)])])
      | .error raised => .error (.uncaught raised)
  | none =>
      match loads interpreter (unwrap stripped) with
      | .ok decision => .ok decision
      | .error .jsonDecodeError =>
          .error (.agent ⟨"invalid_json", "model output is not one exact JSON tool call", .position⟩)
      | .error raised => .error (.uncaught raised)

/-- `parse_decision` -/
def parseDecision (interpreter : Interpreter) (text : Text) : Except Failure Value :=
  match readDecision interpreter (strip text) with
  | .ok decision => (validate decision).mapError .agent
  | .error failure => .error failure

/-! ### The allowlisted call -/

/-- A native block that increments the number of `digits`. -/
def NativeBlock (stripped digits : Text) : Prop :=
  ∃ gap₁ gap₂ gap₃ gap₄ gap₅ gap₆ : Text,
    (∀ point ∈ gap₁ ++ gap₂ ++ gap₃ ++ gap₄ ++ gap₅ ++ gap₆, isSpace point = true) ∧
      digits ≠ [] ∧ (∀ digit ∈ digits, isDigit digit = true) ∧
      stripped = literal "<tool_call>" ++ gap₁ ++ literal "<function=zephyr_increment>" ++ gap₂ ++
        literal "<parameter=value>" ++ gap₃ ++ digits ++ gap₄ ++ literal "</parameter>" ++ gap₅ ++
        literal "</function>" ++ gap₆ ++ literal "</tool_call>"

/-- An object with exactly the members `name` and `arguments` of the call. -/
def IsCall (decision : Value) (value : Int) : Prop :=
  ∃ members arguments, decision = .object members ∧
    (∀ key, members.lookup key =
      if key = literal "name" then some (.string toolName)
      else if key = literal "arguments" then some (.object arguments)
      else none) ∧
    ∀ key, arguments.lookup key = if key = literal "value" then some (.integer value) else none

/-- A JSON text of the call, in one wrapper or without. -/
def JsonCall (stripped : Text) (value : Int) : Prop :=
  ∃ body decision,
    (body = stripped ∨
      ∃ inner, stripped = literal "<tool_call>" ++ inner ++ literal "</tool_call>" ∧
        body = strip inner) ∧
      (decode body).result = some decision ∧ IsCall decision value

/-- One of the two forms of the call. -/
def Describes (stripped : Text) (value : Int) : Prop :=
  (∃ digits, NativeBlock stripped digits ∧ (decimal digits : Int) = value) ∨ JsonCall stripped value

/-- The texts that ask for the increment of a value. -/
def Allowed (text : Text) (value : Int) : Prop :=
  Describes (strip text) value ∧ 0 ≤ value ∧ value ≤ 4294967294

/-- The parser returns the call exactly for the texts that are allowed, and raises an `AgentError`
for every other text. -/
structure Exact (interpreter : Interpreter) (text : Text) : Prop where
  accepts : ∀ value, parseDecision interpreter text = .ok (toolCall value) ↔ Allowed text value
  refuses : (¬ ∃ value, Allowed text value) →
    ∃ error, parseDecision interpreter text = .error (.agent error)

/-- Neither the digits of a native block nor what the decoder reads is beyond a limit of the
interpreter. -/
def Within (interpreter : Interpreter) (text : Text) : Prop :=
  match nativeMatch (strip text) with
  | some (_, _, digits) => (Event.integer digits.length).raises interpreter = none
  | none => Fits interpreter (unwrap (strip text))

/-! ### The validator accepts the call -/

theorem sorted_isEmpty (texts : List Text) : (sorted texts).isEmpty = texts.isEmpty := by
  have same := List.mergeSort_perm texts fun left right => !right.lex left
  rw [Bool.eq_iff_iff, List.isEmpty_iff, List.isEmpty_iff, sorted]
  constructor
  · intro empty
    rw [empty] at same
    exact same.symm.eq_nil
  · intro empty
    rw [empty] at same ⊢
    exact same.eq_nil

theorem lookup_cons_ite (name key : Text) (value : Value) (members : List (Text × Value)) :
    ((name, value) :: members).lookup key = if key = name then some value
      else members.lookup key := by
  rw [List.lookup_cons]
  cases same : key == name with
  | true => rw [if_pos (beq_iff_eq.mp same)]
  | false => rw [if_neg (beq_eq_false_iff_ne.mp same)]

/-- A key that a list of members knows is the key of one of them. -/
theorem lookup_isSome_iff (members : List (Text × Value)) (key : Text) :
    (members.lookup key).isSome = true ↔ key ∈ members.map Prod.fst := by
  induction members with
  | nil => simp
  | cons member members inductionHypothesis =>
      obtain ⟨name, value⟩ := member
      rw [lookup_cons_ite, List.map_cons, List.mem_cons, ← inductionHypothesis]
      split
      next same => simp [same]
      next apart => simp [apart]

theorem strictObject_ok_iff {value : Value} {allowed : List Text} {label : String}
    {members : List (Text × Value)} :
    strictObject value allowed label = .ok members ↔
      value = .object members ∧ ∀ key, key ∉ allowed → members.lookup key = none := by
  have noneUnknown (members : List (Text × Value)) :
      (sorted ((members.map Prod.fst).filter fun key => !allowed.contains key)).isEmpty = true ↔
        ∀ key, key ∉ allowed → members.lookup key = none := by
    rw [sorted_isEmpty, List.isEmpty_iff, List.filter_eq_nil_iff]
    constructor
    · intro known key unknown
      cases found : members.lookup key with
      | none => rfl
      | some value =>
          have member := (lookup_isSome_iff members key).mp (by rw [found]; rfl)
          exact absurd (by simpa using unknown) (known key member)
    · intro absent key member
      have present := (lookup_isSome_iff members key).mpr member
      by_contra unknown
      rw [absent key (by simpa using unknown)] at present
      cases present
  cases value with
  | object others =>
      simp only [strictObject, Value.object.injEq]
      split
      next empty =>
        constructor
        · rintro ⟨⟩
          exact ⟨rfl, (noneUnknown members).mp empty⟩
        · rintro ⟨rfl, _⟩
          rfl
      next unknown =>
        constructor
        · rintro ⟨⟩
        · rintro ⟨rfl, absent⟩
          exact absurd ((noneUnknown others).mpr absent) unknown
  | null | bool _ | integer _ | float _ | string _ | array _ => simp [strictObject]

theorem isTool_iff (value : Value) : isTool value = true ↔ value = .string toolName := by
  cases value with
  | string name => simp [isTool]
  | null | bool _ | integer _ | float _ | array _ | object _ => simp [isTool]

theorem lookup_of_get {members : List (Text × Value)} {key : Text} {value : Value}
    (found : get members key = value) (present : value ≠ .null) :
    members.lookup key = some value := by
  unfold get at found
  cases looked : members.lookup key with
  | none =>
      rw [looked] at found
      exact absurd found.symm present
  | some other =>
      rw [looked] at found
      exact congrArg some found

theorem get_of_lookup {members : List (Text × Value)} {key : Text} {value : Value}
    (found : members.lookup key = some value) : get members key = value := by
  rw [get, found]
  rfl

theorem literal_name_ne_arguments : literal "name" ≠ literal "arguments" := by decide

/-- What the validator returns is the call of its decision. -/
theorem call_of_validate {decision result : Value} (accepted : validate decision = .ok result) :
    ∃ value, IsCall decision value ∧ 0 ≤ value ∧ value ≤ 4294967294 ∧ result = toolCall value := by
  unfold validate at accepted
  cases outer : strictObject decision [literal "name", literal "arguments"] "decision" with
  | error error =>
      rw [outer] at accepted
      cases accepted
  | ok members =>
      rw [outer] at accepted
      obtain ⟨rfl, onlyMembers⟩ := strictObject_ok_iff.mp outer
      change (if isTool _ = true then _ else _) = _ at accepted
      split at accepted
      next tool =>
        have nameEq := lookup_of_get ((isTool_iff _).mp tool) nofun
        cases inner : strictObject (get members (literal "arguments")) [literal "value"]
          "arguments" with
        | error error =>
            rw [inner] at accepted
            cases accepted
        | ok arguments =>
            rw [inner] at accepted
            obtain ⟨object, onlyArguments⟩ := strictObject_ok_iff.mp inner
            have argumentsEq := lookup_of_get object nofun
            change (match arguments.lookup (literal "value") with
              | none => _
              | some (.integer value) => _
              | some _ => _) = _ at accepted
            split at accepted
            next => cases accepted
            next value valueEq =>
              split at accepted
              next => cases accepted
              next inRange =>
                cases accepted
                refine ⟨value, ⟨members, arguments, rfl, ?_, ?_⟩, by omega, by omega, rfl⟩
                · intro key
                  split
                  next same => rw [same, nameEq]
                  next notName =>
                    split
                    next same => rw [same, argumentsEq]
                    next notArguments => exact onlyMembers key (by simp [notName, notArguments])
                · intro key
                  split
                  next same => rw [same, valueEq]
                  next notValue => exact onlyArguments key (by simp [notValue])
            next => cases accepted
      next => cases accepted

/-- The call of a value in range is accepted. -/
theorem validate_of_call {decision : Value} {value : Int} (call : IsCall decision value)
    (nonnegative : 0 ≤ value) (bounded : value ≤ 4294967294) :
    validate decision = .ok (toolCall value) := by
  obtain ⟨members, arguments, rfl, membersEq, argumentsEq⟩ := call
  have outer : strictObject (.object members) [literal "name", literal "arguments"] "decision" =
      .ok members := by
    rw [strictObject_ok_iff]
    refine ⟨rfl, fun key unknown => ?_⟩
    rw [List.mem_cons, List.mem_singleton, not_or] at unknown
    rw [membersEq, if_neg unknown.1, if_neg unknown.2]
  have inner : strictObject (.object arguments) [literal "value"] "arguments" = .ok arguments := by
    rw [strictObject_ok_iff]
    refine ⟨rfl, fun key unknown => ?_⟩
    rw [List.mem_singleton] at unknown
    rw [argumentsEq, if_neg unknown]
  have nameEq : get members (literal "name") = .string toolName := by
    apply get_of_lookup
    rw [membersEq, if_pos rfl]
  have objectEq : get members (literal "arguments") = .object arguments := by
    apply get_of_lookup
    rw [membersEq, if_neg literal_name_ne_arguments.symm, if_pos rfl]
  have tool : isTool (.string toolName) = true := (isTool_iff _).mpr rfl
  have inRange : ¬(value < 0 ∨ value ≥ 0xffffffff) := by omega
  unfold validate
  rw [outer]
  change (if isTool (get members (literal "name")) = true then _ else _) = _
  rw [nameEq, if_pos tool, objectEq, inner]
  change (match arguments.lookup (literal "value") with
    | none => _
    | some (.integer value) => _
    | some _ => _) = _
  rw [argumentsEq, if_pos rfl]
  exact if_neg inRange

/-! ### The native block -/

theorem nativeToolCall_deterministic : Deterministic nativeToolCall := by
  simp [nativeToolCall, Deterministic, Starts, literal, isSpace, isDigit, identifierStart,
    identifierRest]
  constructor
  · intro letter isDigit
    omega
  · intro letter starts
    omega

theorem nativeMatch_iff {stripped name parameter digits : Text} :
    nativeMatch stripped = some (name, parameter, digits) ↔
      Matches nativeToolCall stripped [name, parameter, digits] := by
  rw [← fullmatch_iff nativeToolCall_deterministic, nativeMatch]
  constructor
  · intro found
    split at found
    next groups =>
      cases found
      exact groups
    next => cases found
  · intro found
    rw [found]

theorem toolName_split : ∃ start run, toolName = start :: run ∧ identifierStart start = true ∧
    ∀ point ∈ run, identifierRest point = true :=
  ⟨122, literal "ephyr_increment", rfl, rfl, by decide⟩

theorem value_split : ∃ start run, literal "value" = start :: run ∧ identifierStart start = true ∧
    ∀ point ∈ run, identifierRest point = true :=
  ⟨118, literal "alue", rfl, rfl, by decide⟩

/-- The groups of a native block are those of the call exactly in a `NativeBlock`. -/
theorem nativeBlock_iff {stripped digits : Text} :
    NativeBlock stripped digits ↔
      nativeMatch stripped = some (toolName, literal "value", digits) := by
  have functionWord : literal "<function=zephyr_increment>" = literal "<function=" ++
    (toolName ++ literal ">") := rfl
  have parameterWord : literal "<parameter=value>" = literal "<parameter=" ++
    (literal "value" ++ literal ">") := rfl
  rw [nativeMatch_iff]
  constructor
  · rintro ⟨gap₁, gap₂, gap₃, gap₄, gap₅, gap₆, blank, nonempty, areDigits, rfl⟩
    simp only [List.mem_append, or_imp, forall_and] at blank
    obtain ⟨⟨⟨⟨⟨blank₁, blank₂⟩, blank₃⟩, blank₄⟩, blank₅⟩, blank₆⟩ := blank
    obtain ⟨nameStart, nameRun, nameEq, nameFirst, nameRest⟩ := toolName_split
    obtain ⟨valueStart, valueRun, valueEq, valueFirst, valueRest⟩ := value_split
    rw [functionWord, parameterWord, nameEq, valueEq]
    cases digits with
    | nil => exact absurd rfl nonempty
    | cons digit digits =>
        rw [List.forall_mem_cons] at areDigits
        simp only [List.append_assoc]
        apply matches_literal
        apply matches_skip blank₁
        apply matches_literal
        apply matches_capture nameFirst nameRest
        apply matches_literal
        apply matches_skip blank₂
        apply matches_literal
        apply matches_capture valueFirst valueRest
        apply matches_literal
        apply matches_skip blank₃
        apply matches_capture areDigits.1 areDigits.2
        apply matches_skip blank₄
        apply matches_literal
        apply matches_skip blank₅
        apply matches_literal
        apply matches_skip blank₆
        exact ⟨[], (List.append_nil _).symm, rfl, rfl⟩
  · rintro ⟨_, rfl, gap₁, _, rfl, blank₁, _, rfl, nameStart, nameRun, _, _, rfl, _, _, nameEq, _,
      rfl, gap₂, _, rfl, blank₂, _, rfl, valueStart, valueRun, _, _, rfl, _, _, valueEq, _, rfl,
      gap₃, _, rfl, blank₃, digit, digitRun, _, _, rfl, isFirst, areDigits, digitsEq, gap₄, _, rfl,
      blank₄, _, rfl, gap₅, _, rfl, blank₅, _, rfl, gap₆, _, rfl, blank₆, _, rfl, rfl, rfl⟩
    subst digitsEq valueEq
    simp only [List.cons.injEq, and_true] at nameEq
    obtain ⟨nameEq, valueEq, digitsEq⟩ := nameEq
    refine ⟨gap₁, gap₂, gap₃, gap₄, gap₅, gap₆, ?_, ?_, ?_, ?_⟩
    · simp only [List.mem_append, or_imp, forall_and]
      exact ⟨⟨⟨⟨⟨blank₁, blank₂⟩, blank₃⟩, blank₄⟩, blank₅⟩, blank₆⟩
    · rw [digitsEq]
      exact List.cons_ne_nil digit digitRun
    · rw [digitsEq, List.forall_mem_cons]
      exact ⟨isFirst, areDigits⟩
    · rw [functionWord, parameterWord, nameEq, valueEq, digitsEq]
      simp only [List.append_assoc, List.append_nil]

/-- The call that a native block asks for. -/
theorem isCall_native_iff {name parameter : Text} {number value : Int} :
    IsCall (.object [(literal "name", .string name),
        (literal "arguments", .object [(parameter, .integer number)])]) value ↔
      name = toolName ∧ parameter = literal "value" ∧ number = value := by
  constructor
  · rintro ⟨members, arguments, same, membersEq, argumentsEq⟩
    cases same
    have nameEq := membersEq (literal "name")
    have objectEq := membersEq (literal "arguments")
    rw [if_pos rfl, List.lookup_cons_self, Option.some.injEq, Value.string.injEq] at nameEq
    rw [if_neg literal_name_ne_arguments.symm, if_pos rfl, lookup_cons_ite,
      if_neg literal_name_ne_arguments.symm, List.lookup_cons_self, Option.some.injEq,
      Value.object.injEq]
      at objectEq
    subst objectEq
    have valueEq := argumentsEq parameter
    rw [List.lookup_cons_self] at valueEq
    split at valueEq
    next same => exact ⟨nameEq, same, by simpa using valueEq⟩
    next => cases valueEq
  · rintro ⟨rfl, rfl, rfl⟩
    refine ⟨_, [(literal "value", .integer number)], rfl, fun key => ?_, fun key => ?_⟩
    · rw [lookup_cons_ite, lookup_cons_ite, List.lookup_nil]
    · rw [lookup_cons_ite, List.lookup_nil]

/-! ### The wrapper -/

theorem not_overlapping {shared : Text} (nonempty : shared ≠ [])
    (front : shared <:+ literal "<tool_call>")
    (back : shared <+: literal "</tool_call>") : False := by
  have bound : shared.length ≤ 11 := front.length_le
  have short : shared <+: (literal "</tool_call>").take 11 :=
    List.prefix_take_iff.mpr ⟨back, bound⟩
  have last : shared.getLast nonempty = 62 := front.getLast nonempty
  have member : 62 ∈ (literal "</tool_call>").take 11 := by
    rw [← last]
    exact short.subset (List.getLast_mem nonempty)
  revert member
  decide

/-- A text that starts and ends like a wrapper is one: the two tags share no code point. -/
theorem wrapper_split {stripped : Text} (front : literal "<tool_call>" <+: stripped)
    (back : literal "</tool_call>" <:+ stripped) :
    ∃ inner, stripped = literal "<tool_call>" ++ inner ++ literal "</tool_call>" := by
  obtain ⟨after, rfl⟩ := front
  obtain ⟨before, split⟩ := back
  rcases List.append_eq_append_iff.mp split.symm with ⟨inner, beforeEq, afterEq⟩
    | ⟨shared, frontEq, backEq⟩
  · exact ⟨inner, by rw [afterEq, List.append_assoc]⟩
  · cases shared with
    | nil =>
        exact ⟨[], by simp at backEq; rw [backEq, List.append_nil]⟩
    | cons first rest =>
        exact (not_overlapping (List.cons_ne_nil first rest) ⟨before, frontEq.symm⟩
          ⟨after, backEq.symm⟩).elim

/-- The wrapper of a text is taken off with the white space inside it. -/
theorem unwrap_wrapped (inner : Text) :
    unwrap (literal "<tool_call>" ++ inner ++ literal "</tool_call>") = strip inner := by
  have front : (literal "<tool_call>").isPrefixOf
      (literal "<tool_call>" ++ inner ++ literal "</tool_call>") = true := by
    rw [List.isPrefixOf_iff_prefix, List.append_assoc]
    exact List.prefix_append _ _
  have back : (literal "</tool_call>").isSuffixOf
      (literal "<tool_call>" ++ inner ++ literal "</tool_call>") = true := by
    rw [List.isSuffixOf_iff_suffix]
    exact List.suffix_append _ _
  have cut : (literal "<tool_call>" ++ inner ++ literal "</tool_call>").length -
      (literal "</tool_call>").length = (literal "<tool_call>" ++ inner).length := by
    rw [List.length_append, Nat.add_sub_cancel]
  rw [unwrap, front, back, Bool.and_self, if_pos rfl, cut, List.take_left, List.drop_left]

/-- A text without a wrapper is left as it is. -/
theorem unwrap_bare {stripped : Text}
    (bare : ¬ ∃ inner, stripped = literal "<tool_call>" ++ inner ++ literal "</tool_call>") :
    unwrap stripped = stripped := by
  unfold unwrap
  rw [if_neg]
  intro wrapped
  rw [Bool.and_eq_true, List.isPrefixOf_iff_prefix, List.isSuffixOf_iff_suffix] at wrapped
  exact bare (wrapper_split wrapped.1 wrapped.2)

/-- A tag is no JSON text. -/
theorem decode_tag (rest : Text) : decode (60 :: rest) = .fail := decode_refuses rest rfl rfl

/-- The body of a `JsonCall` is what the parser hands to the decoder. -/
theorem jsonCall_iff {stripped : Text} {value : Int} :
    JsonCall stripped value ↔
      ∃ decision, (decode (unwrap stripped)).result = some decision ∧ IsCall decision value := by
  by_cases wrapped : ∃ inner, stripped = literal "<tool_call>" ++ inner ++ literal "</tool_call>"
  · obtain ⟨inner, rfl⟩ := wrapped
    rw [unwrap_wrapped]
    constructor
    · rintro ⟨body, decision, rfl | ⟨other, same, rfl⟩, decoded, call⟩
      · have tag := decode_tag (literal "tool_call>" ++ inner ++ literal "</tool_call>")
        change (decode (60 :: (literal "tool_call>" ++ inner ++ literal "</tool_call>"))).result =
          _ at decoded
        rw [tag] at decoded
        cases decoded
      · rw [List.append_left_inj, List.append_right_inj] at same
        rw [same]
        exact ⟨decision, decoded, call⟩
    · rintro ⟨decision, decoded, call⟩
      exact ⟨strip inner, decision, Or.inr ⟨inner, rfl, rfl⟩, decoded, call⟩
  · rw [unwrap_bare wrapped]
    constructor
    · rintro ⟨body, decision, rfl | ⟨inner, split, _⟩, decoded, call⟩
      · exact ⟨decision, decoded, call⟩
      · exact absurd ⟨inner, split⟩ wrapped
    · rintro ⟨decision, decoded, call⟩
      exact ⟨stripped, decision, Or.inl rfl, decoded, call⟩

/-- The first tag of a native block is inside its wrapper: the closing tag is another one. -/
theorem function_tag_inside {gap rest inner : Text} (blank : ∀ point ∈ gap, isSpace point = true)
    (same : gap ++ (literal "<function=" ++ rest) = inner ++ literal "</tool_call>") :
    ∃ others, inner = gap ++ 60 :: others := by
  have apart : literal "<function=" ++ rest ≠ literal "</tool_call>" := nofun
  rcases List.append_eq_append_iff.mp same with ⟨behind, innerEq, tagEq⟩ | ⟨shared, gapEq, closing⟩
  · cases behind with
    | nil => exact absurd tagEq apart
    | cons first others =>
        have firstEq : 60 = first := (List.cons.inj tagEq).1
        exact ⟨others, by rw [innerEq, firstEq]⟩
  · cases shared with
    | nil => exact absurd closing.symm apart
    | cons first others =>
        have firstEq : 60 = first := (List.cons.inj closing).1
        have space := blank first (by simp [gapEq])
        rw [← firstEq] at space
        cases space

/-- The tags of a native block are no JSON text either. -/
theorem jsonCall_native {stripped name parameter digits : Text}
    (native : nativeMatch stripped = some (name, parameter, digits)) (value : Int) :
    ¬ JsonCall stripped value := by
  obtain ⟨_, rfl, gap, rest, rfl, blank, tags, split, _⟩ := nativeMatch_iff.mp native
  rw [jsonCall_iff]
  rintro ⟨decision, decoded, _⟩
  by_cases wrapped : ∃ inner, literal "<tool_call>" ++ (gap ++ rest) =
      literal "<tool_call>" ++ inner ++ literal "</tool_call>"
  · obtain ⟨inner, same⟩ := wrapped
    rw [same, unwrap_wrapped] at decoded
    rw [List.append_assoc, List.append_right_inj, split] at same
    obtain ⟨others, rfl⟩ := function_tag_inside blank same
    have head : (strip (gap ++ 60 :: others)).head? = some 60 := strip_head blank rfl
    cases stripped : strip (gap ++ 60 :: others) with
    | nil =>
        rw [stripped] at head
        cases head
    | cons first body =>
        rw [stripped, List.head?_cons, Option.some.injEq] at head
        rw [stripped, head, decode_tag] at decoded
        cases decoded
  · rw [unwrap_bare wrapped] at decoded
    change (decode (60 :: (literal "tool_call>" ++ (gap ++ rest)))).result = _ at decoded
    rw [decode_tag] at decoded
    cases decoded

/-! ### What the parser reads -/

/-- Within the limits the decision that the front ends read is the call of exactly the values that
the text describes, and a text that they refuse describes none. -/
theorem readDecision_of_within {interpreter : Interpreter} {text : Text}
    (within : Within interpreter text) :
    (∃ decision, readDecision interpreter (strip text) = .ok decision ∧
        ∀ value, IsCall decision value ↔ Describes (strip text) value) ∨
      ((∃ error, readDecision interpreter (strip text) = .error (.agent error)) ∧
        ∀ value, ¬ Describes (strip text) value) := by
  unfold Within at within
  unfold readDecision
  cases native : nativeMatch (strip text) with
  | some groups =>
      obtain ⟨name, parameter, digits⟩ := groups
      rw [native] at within
      dsimp only at within
      apply Or.inl
      simp only [parseInt, within]
      refine ⟨_, rfl, fun value => ?_⟩
      rw [isCall_native_iff]
      constructor
      · rintro ⟨rfl, rfl, number⟩
        exact Or.inl ⟨digits, nativeBlock_iff.mpr native, number⟩
      · rintro (⟨others, block, number⟩ | call)
        · rw [nativeBlock_iff, native] at block
          cases block
          exact ⟨rfl, rfl, number⟩
        · exact absurd call (jsonCall_native native value)
  | none =>
      rw [native] at within
      dsimp only at within ⊢
      have noBlock : ∀ digits, ¬ NativeBlock (strip text) digits := by
        intro digits block
        rw [nativeBlock_iff, native] at block
        cases block
      have described (value : Int) : Describes (strip text) value ↔
          JsonCall (strip text) value := by
        constructor
        · rintro (⟨digits, block, _⟩ | call)
          · exact absurd block (noBlock digits)
          · exact call
        · exact Or.inr
      rw [loads_of_fits within]
      cases decoded : (decode (unwrap (strip text))).result with
      | some decision =>
          refine Or.inl ⟨decision, rfl, fun value => ?_⟩
          rw [described, jsonCall_iff, decoded]
          simp
      | none =>
          refine Or.inr ⟨⟨_, rfl⟩, fun value => ?_⟩
          rw [described, jsonCall_iff, decoded]
          simp

/-- Beyond the limits the exception of the interpreter escapes. -/
theorem parseDecision_of_not_within {interpreter : Interpreter} {text : Text}
    (beyond : ¬ Within interpreter text) :
    ∃ raised, parseDecision interpreter text = .error (.uncaught raised) := by
  unfold Within at beyond
  unfold parseDecision readDecision
  cases native : nativeMatch (strip text) with
  | some groups =>
      obtain ⟨name, parameter, digits⟩ := groups
      rw [native] at beyond
      dsimp only at beyond
      cases raises : (Event.integer digits.length).raises interpreter with
      | none => exact absurd raises beyond
      | some raised => exact ⟨raised, by simp [parseInt, raises]⟩
  | none =>
      rw [native] at beyond
      obtain ⟨raised, uncaught, loaded⟩ := loads_of_not_fits beyond
      dsimp only
      rw [loaded]
      cases raised with
      | jsonDecodeError => exact absurd rfl uncaught
      | valueError => exact ⟨.valueError, rfl⟩
      | recursionError => exact ⟨.recursionError, rfl⟩

theorem toolCall_injective {left right : Int} (same : toolCall left = toolCall right) :
    left = right := by
  simpa [toolCall] using same

/-- The parser is exact for a text exactly where no limit of the interpreter is reached. -/
theorem parseDecision_exact_iff (interpreter : Interpreter) (text : Text) :
    Exact interpreter text ↔ Within interpreter text := by
  constructor
  · intro exact
    by_contra beyond
    obtain ⟨raised, escaped⟩ := parseDecision_of_not_within beyond
    by_cases allowed : ∃ value, Allowed text value
    · obtain ⟨value, allowed⟩ := allowed
      have returned := (exact.accepts value).mpr allowed
      rw [escaped] at returned
      cases returned
    · obtain ⟨error, refused⟩ := exact.refuses allowed
      rw [escaped] at refused
      cases refused
  · intro within
    rcases readDecision_of_within within with ⟨decision, read, calls⟩ | ⟨⟨error, read⟩, calls⟩
    · constructor
      · intro value
        rw [parseDecision, read, Allowed, ← calls]
        dsimp only
        constructor
        · intro returned
          cases validated : validate decision with
          | error error =>
              rw [validated] at returned
              cases returned
          | ok result =>
              rw [validated] at returned
              obtain ⟨other, call, nonnegative, bounded, resultEq⟩ := call_of_validate validated
              cases returned
              rw [toolCall_injective resultEq]
              exact ⟨call, nonnegative, bounded⟩
        · rintro ⟨call, nonnegative, bounded⟩
          rw [validate_of_call call nonnegative bounded]
          rfl
      · intro refused
        rw [parseDecision, read]
        dsimp only
        cases validated : validate decision with
        | error error => exact ⟨error, rfl⟩
        | ok result =>
            obtain ⟨value, call, nonnegative, bounded, _⟩ := call_of_validate validated
            exact absurd ⟨value, (calls value).mp call, nonnegative, bounded⟩ refused
    · constructor
      · intro value
        rw [parseDecision, read]
        constructor
        · intro returned
          cases returned
        · intro allowed
          exact absurd allowed.1 (calls value)
      · intro _
        rw [parseDecision, read]
        exact ⟨error, rfl⟩

/-- The JSON path, with a member that is given twice. -/
example :
    (parseDecision ⟨4300, 1000⟩ (literal
      " \x7b\"name\":1, \"arguments\":\x7b\"value\":41\x7d, \"name\":\"zephyr_increment\"\x7d\n")).isOk =
      true := by
  decide +kernel

/-! ### A number that is too long -/

/-- A native block of the call with the value zero, written with 4301 digits. -/
def overlongZero : Text :=
  literal "<tool_call><function=zephyr_increment><parameter=value>" ++ List.replicate 4301 48 ++
    literal "</parameter></function></tool_call>"

theorem decimal_zeros (count : Nat) : decimal (List.replicate count 48) = 0 := by
  unfold decimal
  induction count with
  | zero => rfl
  | succ count inductionHypothesis =>
      rw [List.replicate_succ, List.foldl_cons]
      exact inductionHypothesis

theorem overlongZero_block : NativeBlock overlongZero (List.replicate 4301 48) := by
  refine ⟨[], [], [], [], [], [], nofun, nofun, ?_, ?_⟩
  · intro digit member
    rw [List.eq_of_mem_replicate member]
    rfl
  · have front : literal "<tool_call><function=zephyr_increment><parameter=value>" =
        literal "<tool_call>" ++ (literal "<function=zephyr_increment>" ++
          literal "<parameter=value>") := rfl
    have back : literal "</parameter></function></tool_call>" =
        literal "</parameter>" ++ (literal "</function>" ++ literal "</tool_call>") := rfl
    rw [overlongZero, front, back]
    simp only [List.append_nil, List.append_assoc]

theorem overlongZero_strip : strip overlongZero = overlongZero := by
  have nonempty : literal "</parameter></function></tool_call>" ≠ [] := nofun
  have front : overlongZero.dropWhile isSpace = overlongZero := by
    rw [List.dropWhile_eq_self_iff]
    intro _ space
    cases space
  rw [strip, front, List.rdropWhile_eq_self_iff]
  intro filled space
  have last : overlongZero.getLast filled =
      (literal "</parameter></function></tool_call>").getLast nonempty :=
    List.getLast_append_of_ne_nil _ nonempty
  rw [last] at space
  cases space

/-- CPython reads at most 4300 digits by default, and no handler names the `ValueError` of a longer
number: it escapes for a text that is allowed. -/
theorem overlong_zero_escapes : ¬ ∀ interpreter text, Exact interpreter text := by
  intro exact
  have allowed : Allowed overlongZero 0 := by
    rw [Allowed, overlongZero_strip]
    exact ⟨Or.inl ⟨_, overlongZero_block, by rw [decimal_zeros]; rfl⟩, by decide, by decide⟩
  have beyond : ¬ Within ⟨4300, 1000⟩ overlongZero := by
    unfold Within
    rw [overlongZero_strip, nativeBlock_iff.mp overlongZero_block]
    dsimp only
    rw [Event.raises, List.length_replicate, if_pos (by decide)]
    exact Option.some_ne_none Raised.valueError
  obtain ⟨raised, escaped⟩ := parseDecision_of_not_within beyond
  have returned := ((exact ⟨4300, 1000⟩ overlongZero).accepts 0).mpr allowed
  rw [escaped] at returned
  cases returned

end MailMsg.Decision
