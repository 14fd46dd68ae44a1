/-
Module: MailMsg.Lib.Object
Purpose: Objects that answer calls, the answers of a whole sequence of calls, and refinement: two
  objects whose states stay related through every call answer every sequence of calls alike.
Trusted boundary: none
Main exports: Object, Object.answers, Object.after, Object.Simulation, Object.Simulation.answers
-/
import Mathlib.Logic.Basic

/-- Something that is called and answers, with a state behind it. -/
structure Object (State Call Answer : Type*) where
  call : State → Call → Answer × State

namespace Object

variable {State Call Answer : Type*}

/-- The answers to a sequence of calls. -/
def answers (object : Object State Call Answer) : State → List Call → List Answer
  | _, [] => []
  | state, call :: calls => (object.call state call).1 :: object.answers
      (object.call state call).2 calls

/-- The state behind a sequence of calls. -/
def after (object : Object State Call Answer) : State → List Call → State
  | state, [] => state
  | state, call :: calls => object.after (object.call state call).2 calls

@[simp] theorem answers_length (object : Object State Call Answer) (state : State)
    (calls : List Call) : (object.answers state calls).length = calls.length := by
  induction calls generalizing state with
  | nil => rfl
  | cons call calls inductionHypothesis => exact congrArg (· + 1) (inductionHypothesis _)

/-- Two objects answer alike for as long as their states are related. -/
structure Simulation {State' : Type*} (concrete : Object State Call Answer)
    (abstract : Object State' Call Answer) where
  Related : State → State' → Prop
  answer : ∀ {state state'} call, Related state state' →
    (concrete.call state call).1 = (abstract.call state' call).1
  preserved : ∀ {state state'} call, Related state state' →
    Related (concrete.call state call).2 (abstract.call state' call).2

namespace Simulation

variable {State' : Type*} {concrete : Object State Call Answer}
  {abstract : Object State' Call Answer}
  (simulation : Simulation concrete abstract)

/-- Related states answer every sequence of calls alike. -/
theorem answers {state : State} {state' : State'} (related : simulation.Related state state')
    (calls : List Call) : concrete.answers state calls = abstract.answers state' calls := by
  induction calls generalizing state state' with
  | nil => rfl
  | cons call calls inductionHypothesis =>
      have here := simulation.answer call related
      have later := inductionHypothesis (simulation.preserved call related)
      rw [Object.answers, Object.answers, here, later]

/-- Related states are related again behind every sequence of calls. -/
theorem after {state : State} {state' : State'} (related : simulation.Related state state')
    (calls : List Call) : simulation.Related (concrete.after state calls)
      (abstract.after state' calls) := by
  induction calls generalizing state state' with
  | nil => exact related
  | cons call calls inductionHypothesis =>
      exact inductionHypothesis (simulation.preserved call related)

end Simulation

end Object
