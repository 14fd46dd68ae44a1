/-
Module: MailMsg.Lib.Transition
Purpose: Executable labelled machines, their reachable states, runs over label lists, restriction of
  a machine to admissible steps, transfer of reachability along an abstraction map, and loops that
  end at the first round that stops them.
Trusted boundary: none
Main exports: Machine, Machine.Reachable, Machine.Reachable.invariant, Machine.run,
  Machine.exists_of_run_any, Machine.run_invariant, Machine.run_invariant_on, Machine.run_append,
  Machine.run_step, Machine.run_simulate, Machine.Reachable.run, Machine.restrict,
  Machine.Reachable.of_restrict, Machine.Reachable.simulate, Machine.restrict_step_iff,
  Machine.run_of_restrict, Machine.run_restrict_iff, Loop.runs_until, Loop.reaches_stop
-/
import Mathlib.Data.Nat.Find
import Mathlib.Logic.Basic

/-- A machine whose nondeterminism (scheduling, the environment's answers) is carried by the label
of each step.  `step s l = none` says that `l` is not enabled in `s`. -/
structure Machine (State : Type*) (Label : Type*) where
  init : State → Prop
  step : State → Label → Option State

namespace Machine

variable {State Label : Type*}

/-- States reached by finitely many enabled steps from an initial state. -/
inductive Reachable (machine : Machine State Label) : State → Prop where
  | init {state : State} (initial : machine.init state) : Reachable machine state
  | step {state next : State} {label : Label} (reached : Reachable machine state)
      (taken : machine.step state label = some next) : Reachable machine next

/-- Execute a list of labels; the whole run is refused when one label is not enabled. -/
def run (machine : Machine State Label) : State → List Label → Option State
  | state, [] => some state
  | state, label :: labels =>
      match machine.step state label with
      | none => none
      | some next => machine.run next labels

/-- A finite run whose last state passes an executable check. -/
theorem exists_of_run_any {machine : Machine State Label} {state : State} {labels : List Label}
    {check : State → Bool} (checked : (machine.run state labels).any check = true) :
    ∃ last, machine.run state labels = some last ∧ check last = true := by
  cases executed : machine.run state labels with
  | none => simp [executed] at checked
  | some last => exact ⟨last, rfl, by simpa [executed] using checked⟩

/-- The invariant rule for a run whose labels are all of one kind. -/
theorem run_invariant_on {machine : Machine State Label} (kind : Label → Prop) (Inv : State → Prop)
    (preserved : ∀ state label next, kind label → Inv state → machine.step state label =
      some next → Inv next)
    {labels : List Label} {state last : State} (only : ∀ label ∈ labels, kind label)
    (initial : Inv state) (executed : machine.run state labels = some last) : Inv last := by
  induction labels generalizing state with
  | nil =>
      have same : state = last := by simpa [Machine.run] using executed
      exact same ▸ initial
  | cons label labels inductionHypothesis =>
      simp only [Machine.run] at executed
      split at executed
      · cases executed
      · rename_i next taken
        have kept := preserved _ _ _ (only label List.mem_cons_self) initial taken
        exact inductionHypothesis (fun later member =>
          only later (List.mem_cons_of_mem _ member)) kept executed

/-- The invariant rule for a run that starts anywhere. -/
theorem run_invariant {machine : Machine State Label} (Inv : State → Prop)
    (preserved : ∀ state label next, Inv state → machine.step state label = some next → Inv next)
    {labels : List Label} {state last : State} (initial : Inv state)
    (executed : machine.run state labels = some last) : Inv last :=
  run_invariant_on (fun _ => True) Inv (fun state label next _ => preserved state label next)
    (fun _ _ => trivial) initial executed

/-- A run over two label lists is a run over the first and then one over the second. -/
theorem run_append {machine : Machine State Label} {first second : List Label}
    {state middle last : State} (earlier : machine.run state first = some middle)
    (later : machine.run middle second = some last) :
    machine.run state (first ++ second) = some last := by
  induction first generalizing state with
  | nil =>
      obtain rfl : state = middle := by simpa [run] using earlier
      exact later
  | cons label labels inductionHypothesis =>
      simp only [run] at earlier
      split at earlier
      · cases earlier
      · rename_i next taken
        rw [List.cons_append, run, taken]
        exact inductionHypothesis earlier

/-- A step in front of a run. -/
theorem run_step {machine : Machine State Label} {label : Label} {labels : List Label}
    {state next last : State} (taken : machine.step state label = some next)
    (later : machine.run next labels = some last) :
    machine.run state (label :: labels) = some last := by
  rw [run, taken]
  exact later

/-- The same machine with the steps outside `admissible` removed. -/
def restrict (machine : Machine State Label) (admissible : State → Label → Prop)
    [∀ state label, Decidable (admissible state label)] : Machine State Label where
  init := machine.init
  step state label := if admissible state label then machine.step state label else none

namespace Reachable

/-- The invariant rule: a property of the initial states that every step from a reachable state
keeps holds in every reachable state. -/
theorem invariant {machine : Machine State Label} {Inv : State → Prop}
    (initial : ∀ state, machine.init state → Inv state)
    (preserved : ∀ state label next, machine.Reachable state → Inv state →
      machine.step state label = some next → Inv next)
    {state : State} (reached : machine.Reachable state) : Inv state := by
  induction reached with
  | init start => exact initial _ start
  | step earlier taken inductionHypothesis =>
      exact preserved _ _ _ earlier inductionHypothesis taken

/-- Every state of a finite run is reachable. -/
theorem run {machine : Machine State Label} {labels : List Label} {state last : State}
    (reached : machine.Reachable state) (executed : machine.run state labels = some last) :
    machine.Reachable last :=
  run_invariant machine.Reachable (fun _ _ _ reached taken => reached.step taken) reached executed

/-- Restricting a machine adds no reachable state. -/
theorem of_restrict {machine : Machine State Label} {admissible : State → Label → Prop}
    [∀ state label, Decidable (admissible state label)] {state : State}
    (reached : (machine.restrict admissible).Reachable state) : machine.Reachable state := by
  induction reached with
  | init start => exact .init start
  | step _ taken inductionHypothesis =>
      simp only [restrict] at taken
      split at taken
      · exact inductionHypothesis.step taken
      · cases taken

/-- Forward simulation: when every concrete step is matched by finitely many abstract steps, the
image of a reachable concrete state is reachable in the abstract machine. -/
theorem simulate {State' Label' : Type*} {concrete : Machine State Label}
    {abstract : Machine State' Label'} {abstraction : State → State'}
    (initial : ∀ state, concrete.init state → abstract.Reachable (abstraction state))
    (matched : ∀ state label next, concrete.Reachable state →
      concrete.step state label = some next →
      ∃ labels, abstract.run (abstraction state) labels = some (abstraction next))
    {state : State} (reached : concrete.Reachable state) :
    abstract.Reachable (abstraction state) := by
  induction reached with
  | init start => exact initial _ start
  | step earlier taken inductionHypothesis =>
      obtain ⟨labels, executed⟩ := matched _ _ _ earlier taken
      exact inductionHypothesis.run executed

end Reachable

/-- A step of the restricted machine is an admissible step of the full one. -/
theorem restrict_step_iff {machine : Machine State Label} {admissible : State → Label → Prop}
    [∀ state label, Decidable (admissible state label)] {state next : State} {label : Label} :
    (machine.restrict admissible).step state label = some next ↔
      admissible state label ∧ machine.step state label = some next := by
  simp only [restrict]
  split <;> simp_all

/-- A run of the restricted machine is a run of the full one. -/
theorem run_of_restrict {machine : Machine State Label} {admissible : State → Label → Prop}
    [∀ state label, Decidable (admissible state label)] {labels : List Label} {state last : State}
    (executed : (machine.restrict admissible).run state labels = some last) :
    machine.run state labels = some last := by
  induction labels generalizing state with
  | nil => exact executed
  | cons label labels inductionHypothesis =>
      simp only [run] at executed ⊢
      split at executed
      · cases executed
      · rename_i next taken
        rw [(restrict_step_iff.mp taken).2]
        exact inductionHypothesis executed

/-- A property that a step keeps exactly when it is admissible holds at the end of a run exactly
when it held at the start and the run is one of the restricted machine. -/
theorem run_restrict_iff {machine : Machine State Label} {admissible : State → Label → Prop}
    [∀ state label, Decidable (admissible state label)] {Inv Good : State → Prop}
    (preserved : ∀ state label next, Inv state → machine.step state label = some next → Inv next)
    (kept : ∀ state label next, Inv state → machine.step state label = some next →
      (Good next ↔ Good state ∧ admissible state label))
    {labels : List Label} {state last : State} (initial : Inv state)
    (executed : machine.run state labels = some last) :
    Good last ↔ Good state ∧ (machine.restrict admissible).run state labels = some last := by
  induction labels generalizing state with
  | nil =>
      obtain rfl : state = last := by simpa [run] using executed
      simp [run]
  | cons label labels inductionHypothesis =>
      simp only [run] at executed
      split at executed
      · cases executed
      · rename_i next taken
        rw [inductionHypothesis (preserved _ _ _ initial taken) executed, kept _ _ _ initial taken]
        by_cases allowed : admissible state label
        · have same : (machine.restrict admissible).step state label = some next :=
            restrict_step_iff.mpr ⟨allowed, taken⟩
          simp only [run, same, allowed, and_true]
        · have refused : (machine.restrict admissible).step state label = none := by
            simp only [restrict, if_neg allowed]
          simp [run, refused, allowed]

end Machine

namespace Loop

variable {State : Type*} {state : Nat → State} {round : Nat → State → Prop} {stops : Nat → Prop}

/-- A loop goes on for as long as no round stops it. -/
theorem runs_until (start : round 0 (state 0))
    (advance : ∀ count, round count (state count) → ¬ stops count →
      round (count + 1) (state (count + 1)))
    {count : Nat} (running : ∀ earlier < count, ¬ stops earlier) : round count (state count) := by
  induction count with
  | zero => exact start
  | succ count inductionHypothesis =>
      have before := inductionHypothesis fun earlier below =>
        running earlier (Nat.lt_succ_of_lt below)
      exact advance count before (running count (Nat.lt_succ_self count))

/-- A loop that some round would stop reaches such a round. -/
theorem reaches_stop (start : round 0 (state 0))
    (advance : ∀ count, round count (state count) → ¬ stops count →
      round (count + 1) (state (count + 1)))
    (stopped : ∃ count, stops count) : ∃ count, round count (state count) ∧ stops count := by
  classical
  refine ⟨Nat.find stopped, ?_, Nat.find_spec stopped⟩
  apply runs_until start advance
  intro earlier below
  exact Nat.find_min stopped below

end Loop
