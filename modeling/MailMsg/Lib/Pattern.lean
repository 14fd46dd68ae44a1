/-
Module: MailMsg.Lib.Pattern
Purpose: Regular expressions that are a sequence of words, skipped runs and captured runs.  What
  such a pattern matches is a decomposition of the text; where no run can swallow the start of what
  follows it, the greedy scan finds the only one.
Trusted boundary: none
Main exports: Pattern.Matches, Pattern.fullmatch, Pattern.Deterministic, Pattern.fullmatch_iff
-/
import Mathlib.Data.List.TakeWhile

namespace Pattern

variable {α : Type} [DecidableEq α]

/-- One piece of a pattern over a class of letters `accepts`. -/
inductive Piece (α : Type) where
  | literal (word : List α)
  /-- `accepts*` -/
  | skip (accepts : α → Bool)
  /-- `(first accepts*)` -/
  | capture (first accepts : α → Bool)

/-- The pieces of a text that matches, with the captured runs in order. -/
def Matches : List (Piece α) → List α → List (List α) → Prop
  | [], text, groups => text = [] ∧ groups = []
  | .literal word :: pieces, text, groups => ∃ after, text = word ++ after ∧
      Matches pieces after groups
  | .skip accepts :: pieces, text, groups =>
      ∃ run after, text = run ++ after ∧ (∀ letter ∈ run, accepts letter = true) ∧
        Matches pieces after groups
  | .capture first accepts :: pieces, text, groups =>
      ∃ start run after others, text = start :: run ++ after ∧ first start = true ∧
        (∀ letter ∈ run, accepts letter = true) ∧ groups = (start :: run) :: others ∧
        Matches pieces after others

/-- The greedy scan, which never gives a letter back. -/
def fullmatch : List (Piece α) → List α → Option (List (List α))
  | [], text => if text.isEmpty then some [] else none
  | .literal word :: pieces, text =>
      if word.isPrefixOf text then fullmatch pieces (text.drop word.length) else none
  | .skip accepts :: pieces, text => fullmatch pieces (text.dropWhile accepts)
  | .capture _ _ :: _, [] => none
  | .capture first accepts :: pieces, start :: text =>
      if first start then
        (fullmatch pieces (text.dropWhile accepts)).map ((start :: text.takeWhile accepts) :: ·)
      else none

/-- The letters that a matching text can start with. -/
def Starts : List (Piece α) → α → Prop
  | [], _ => False
  | .literal [] :: pieces, letter => Starts pieces letter
  | .literal (first :: _) :: _, letter => letter = first
  | .skip accepts :: pieces, letter => accepts letter = true ∨ Starts pieces letter
  | .capture first _ :: _, letter => first letter = true

/-- No run accepts a letter that what follows it can start with. -/
def Deterministic : List (Piece α) → Prop
  | [] => True
  | .literal _ :: pieces => Deterministic pieces
  | .skip accepts :: pieces => (∀ letter, Starts pieces letter → accepts letter = false) ∧
      Deterministic pieces
  | .capture _ accepts :: pieces =>
      (∀ letter, Starts pieces letter → accepts letter = false) ∧ Deterministic pieces

omit [DecidableEq α] in
/-- A matching text is empty or starts with a letter of `Starts`. -/
theorem starts_of_matches {pieces : List (Piece α)} {letter : α} {text : List α}
    {groups : List (List α)}
    (matched : Matches pieces (letter :: text) groups) : Starts pieces letter := by
  induction pieces generalizing groups with
  | nil => cases matched.1
  | cons piece pieces inductionHypothesis =>
      cases piece with
      | literal word =>
          obtain ⟨after, split, matched⟩ := matched
          cases word with
          | nil =>
              rw [List.nil_append] at split
              subst split
              exact inductionHypothesis matched
          | cons first word =>
              rw [List.cons_append, List.cons.injEq] at split
              exact split.1
      | skip accepts =>
          obtain ⟨run, after, split, accepted, matched⟩ := matched
          cases run with
          | nil =>
              rw [List.nil_append] at split
              subst split
              exact Or.inr (inductionHypothesis matched)
          | cons first run =>
              rw [List.cons_append, List.cons.injEq] at split
              apply Or.inl
              rw [split.1]
              exact accepted first List.mem_cons_self
      | capture first accepts =>
          obtain ⟨start, run, after, others, split, isFirst, _, _, _⟩ := matched
          rw [List.cons_append, List.cons.injEq] at split
          rw [← split.1] at isFirst
          exact isFirst

section Build

variable {pieces : List (Piece α)} {first accepts : α → Bool} {word run after : List α} {start : α}
  {groups : List (List α)}

omit [DecidableEq α]

theorem matches_literal (matched : Matches pieces after groups) :
    Matches (.literal word :: pieces) (word ++ after) groups := ⟨after, rfl, matched⟩

theorem matches_skip (accepted : ∀ letter ∈ run, accepts letter = true)
    (matched : Matches pieces after groups) :
    Matches (.skip accepts :: pieces) (run ++ after) groups := ⟨run, after, rfl, accepted, matched⟩

theorem matches_capture (isFirst : first start = true)
    (accepted : ∀ letter ∈ run, accepts letter = true) (matched : Matches pieces after groups) :
    Matches (.capture first accepts :: pieces) (start :: run ++ after) ((start :: run) :: groups) :=
  ⟨start, run, after, groups, rfl, isFirst, accepted, rfl, matched⟩

end Build

section Runs

variable {accepts : α → Bool} {run after : List α}

omit [DecidableEq α] in
/-- A run ends where a letter is not accepted, so dropping greedily drops it and nothing else. -/
theorem dropWhile_run (accepted : ∀ letter ∈ run, accepts letter = true)
    (stops : ∀ letter rest, after = letter :: rest → accepts letter = false) :
    (run ++ after).dropWhile accepts = after := by
  rw [List.dropWhile_append_of_pos accepted]
  cases after with
  | nil => rfl
  | cons letter rest => simp [stops letter rest rfl]

omit [DecidableEq α] in
theorem takeWhile_run (accepted : ∀ letter ∈ run, accepts letter = true)
    (stops : ∀ letter rest, after = letter :: rest → accepts letter = false) :
    (run ++ after).takeWhile accepts = run := by
  rw [List.takeWhile_append_of_pos accepted]
  cases after with
  | nil => simp
  | cons letter rest => simp [stops letter rest rfl]

end Runs

/-- What the greedy scan finds is a match. -/
theorem matches_of_fullmatch {pieces : List (Piece α)} {text : List α} {groups : List (List α)}
    (found : fullmatch pieces text = some groups) : Matches pieces text groups := by
  induction pieces generalizing text groups with
  | nil =>
      simp only [fullmatch, Option.ite_none_right_eq_some, List.isEmpty_iff,
        Option.some.injEq] at found
      exact ⟨found.1, found.2.symm⟩
  | cons piece pieces inductionHypothesis =>
      cases piece with
      | literal word =>
          simp only [fullmatch, Option.ite_none_right_eq_some, List.isPrefixOf_iff_prefix] at found
          obtain ⟨after, split⟩ := found.1
          subst split
          refine ⟨after, rfl, inductionHypothesis ?_⟩
          simpa using found.2
      | skip accepts =>
          exact ⟨text.takeWhile accepts, text.dropWhile accepts,
            List.takeWhile_append_dropWhile.symm,
            fun letter member => List.mem_takeWhile_imp member, inductionHypothesis found⟩
      | capture first accepts =>
          cases text with
          | nil => cases found
          | cons start text =>
              simp only [fullmatch, Option.ite_none_right_eq_some, Option.map_eq_some_iff] at found
              obtain ⟨isFirst, others, found, rfl⟩ := found
              refine ⟨start, text.takeWhile accepts, text.dropWhile accepts, others, ?_, isFirst,
                fun letter member => List.mem_takeWhile_imp member, rfl, inductionHypothesis found⟩
              rw [List.cons_append, List.takeWhile_append_dropWhile]

/-- In a deterministic pattern the greedy scan finds every match. -/
theorem fullmatch_of_matches {pieces : List (Piece α)} (deterministic : Deterministic pieces)
    {text : List α} {groups : List (List α)} (matched : Matches pieces text groups) :
    fullmatch pieces text = some groups := by
  induction pieces generalizing text groups with
  | nil => simp [fullmatch, matched.1, matched.2]
  | cons piece pieces inductionHypothesis =>
      cases piece with
      | literal word =>
          obtain ⟨after, rfl, matched⟩ := matched
          simp [fullmatch, inductionHypothesis deterministic matched]
      | skip accepts =>
          obtain ⟨run, after, rfl, accepted, matched⟩ := matched
          have stops : ∀ letter rest, after = letter :: rest → accepts letter = false := by
            rintro letter rest rfl
            exact deterministic.1 letter (starts_of_matches matched)
          rw [fullmatch, dropWhile_run accepted stops]
          exact inductionHypothesis deterministic.2 matched
      | capture first accepts =>
          obtain ⟨start, run, after, others, rfl, isFirst, accepted, rfl, matched⟩ := matched
          have stops : ∀ letter rest, after = letter :: rest → accepts letter = false := by
            rintro letter rest rfl
            exact deterministic.1 letter (starts_of_matches matched)
          rw [List.cons_append, fullmatch, if_pos isFirst, dropWhile_run accepted stops,
            takeWhile_run accepted stops, inductionHypothesis deterministic.2 matched]
          rfl

/-- The greedy scan decides a deterministic pattern. -/
theorem fullmatch_iff {pieces : List (Piece α)} (deterministic : Deterministic pieces)
    {text : List α}
    {groups : List (List α)} : fullmatch pieces text = some groups ↔ Matches pieces text groups :=
  ⟨matches_of_fullmatch, fullmatch_of_matches deterministic⟩

end Pattern
