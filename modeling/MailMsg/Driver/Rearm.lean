/-
Module: MailMsg.Driver.Rearm
Purpose: When a rearm ends a session whose CPU_ON may still be taking effect.  `rearm_store` accepts
  any OFF answer, also one given before CPU3 was ever seen on; the runs without such an answer are
  safe.
Source: LZAMP/linux/drivers/lzamp_amp_mailmsg.c (rearm_store, r1_amp_refresh_affinity_locked,
  image_write)
Trusted boundary: none
Main exports: Observed, observedMachine, OffAnswerAdmissible, rearm_waits_for_evidence
-/
import MailMsg.Driver.Safety

namespace MailMsg

/-! ### Watching CPU3 come up -/

/-- A system with the record whether CPU3 may still be coming up: its CPU_ON succeeded and nothing
has shown it on since.  No operation reads the record, and a rearm does not clear it. -/
structure Observed where
  system : System
  comingUp : Bool

/-- The record after a step: raised by a successful CPU_ON, dropped by `affinity_seen_on`. -/
def Observed.after (state : Observed) (next : System) : Observed where
  system := next
  comingUp :=
    if state.system.driver.mailmsgState = .unarmed ∧ next.driver.mailmsgState = .starting then true
    else if next.driver.affinitySeenOn then false
    else state.comingUp

/-- The driver's machine with the record. -/
def observedMachine : Machine Observed DriverLabel where
  init state := driverMachine.init state.system ∧ state.comingUp = false
  step state label := (driverStep state.system label).map state.after

/-- AFFINITY_INFO does not answer OFF to a rearm while CPU_ON has succeeded and CPU3 was not seen
on. -/
def offAnswerAdmissible (state : Observed) : DriverLabel → Bool
  | .rearm _ _ affinity =>
      !(state.system.driver.cpuOnRet == 0 && !state.system.driver.affinitySeenOn &&
        affinity == affinityOff)
  | _ => true

/-- The runs in which every rearm meets this condition. -/
def patientMachine : Machine Observed DriverLabel :=
  observedMachine.restrict fun state label => offAnswerAdmissible state label = true

/-! ### The runs without an early OFF -/

theorem Observed.reachable_system {state : Observed} (reached : observedMachine.Reachable state) :
    driverMachine.Reachable state.system := by
  induction reached with
  | init start => exact .init start.1
  | step earlier taken inductionHypothesis =>
      obtain ⟨next, stepped, rfl⟩ := Option.map_eq_some_iff.mp taken
      exact inductionHypothesis.step stepped

/-- While CPU3 is coming up the session is open and CPU3 was not seen on. -/
def ComingUpOpen (state : Observed) : Prop :=
  state.comingUp = true →
    state.system.driver.mailmsgState ≠ .unarmed ∧ state.system.driver.affinitySeenOn = false

/-- In the admissible runs a rearm finds a failed CPU_ON or a CPU3 that was seen on. -/
theorem rearmed_evidence {state : Observed} {label : DriverLabel} {next : System}
    (admissible : offAnswerAdmissible state label = true)
    (rearmed : Rearmed state.system label next) :
    state.system.driver.cpuOnRet ≠ 0 ∨ state.system.driver.affinitySeenOn = true := by
  obtain ⟨count, rfl, -⟩ := rearmed.label
  by_contra neither
  rw [not_or, not_not] at neither
  simp [offAnswerAdmissible, neither.1, neither.2] at admissible

theorem comingUp_step {state : Observed} {label : DriverLabel} {next : System}
    (invariant : SessionInvariant state.system) (isOpen : ComingUpOpen state)
    (admissible : offAnswerAdmissible state label = true)
    (taken : driverStep state.system label = some next) : ComingUpOpen (state.after next) := by
  have lifecycle := driverStep_lifecycle invariant.bound invariant.control taken
  intro rising
  simp only [Observed.after] at rising ⊢
  split at rising
  · -- The step was a launch, which forgets what was seen before.
    rename_i launch
    obtain ⟨unarmed, starting⟩ := launch
    refine ⟨by simp [starting], ?_⟩
    cases lifecycle with
    | launched cpuOn launched => exact launched.seenOn
    | rearmed rearmed => exact rearmed.seenOn
    | quiet session state seen =>
        rw [state, unarmed] at starting
        cases starting
    | offline session answer poweredOn seenOn watched state =>
        rw [state] at starting
        cases starting
    | startTimeout session expired wasStarting state =>
        rw [state] at starting
        cases starting
    | stopTimeout session expired stopping state =>
        rw [state] at starting
        cases starting
    | ready response ready =>
        rw [ready.active] at starting
        cases starting
    | refused response refused =>
        rw [refused.active] at starting
        cases starting
    | stop issued =>
        rw [issued.active] at unarmed
        cases unarmed
  · split at rising
    · cases rising
    · rename_i unseen
      obtain ⟨armed, wasUnseen⟩ := isOpen rising
      refine ⟨?_, by simpa using unseen⟩
      cases lifecycle with
      | quiet session state seen => rwa [state]
      | offline session answer poweredOn seenOn watched state => simp [state]
      | startTimeout session expired starting state => simp [state]
      | stopTimeout session expired stopping state => simp [state]
      | ready response ready => simp [ready.active]
      | refused response refused => simp [refused.active]
      | stop issued => rcases issued.state with state | state <;> simp [state]
      | launched cpuOn launched => exact absurd (invariant.launched_unarmed launched) armed
      | rearmed rearmed =>
          rcases rearmed_evidence admissible rearmed with failed | seenOn
          · exact absurd (invariant.session armed).cpuOnRet failed
          · rw [wasUnseen] at seenOn
            cases seenOn

theorem comingUp_reachable {state : Observed} (reached : patientMachine.Reachable state) :
    ComingUpOpen state := by
  refine reached.invariant ?_ ?_
  · intro start initial rising
    rw [initial.2] at rising
    cases rising
  · intro earlier label next before isOpen taken
    obtain ⟨admissible, stepped⟩ := Machine.restrict_step_iff.mp taken
    obtain ⟨system, executed, rfl⟩ := Option.map_eq_some_iff.mp stepped
    have invariant := SessionInvariant.reachable (Observed.reachable_system before.of_restrict)
    exact comingUp_step invariant isOpen admissible executed

/-! ### The claim about rearm -/

/-- What a rearm has to rely on besides the OFF answer. -/
def RearmJustified (system : System) : Prop :=
  system.driver.cpuOnAttempted = true ∧
    (system.driver.cpuOnRet ≠ 0 ∨ system.driver.affinitySeenOn = true)

/-- In every run in which AFFINITY_INFO never answers OFF to a rearm between a successful CPU_ON and
the first sign of life, a rearm succeeds only on a failed CPU_ON or a CPU3 that was seen on, and
`image_write` and `start` stay closed while CPU3 may be coming up. -/
theorem rearm_waits_for_evidence {state : Observed} (reached : patientMachine.Reachable state) :
    (∀ accepted count affinity next,
      patientMachine.step state (.rearm accepted count affinity) = some next →
      (rearmStore state.system accepted count affinity).1 = count → RearmJustified state.system) ∧
      (state.comingUp = true →
        (∀ offset count bytes,
          imageWrite state.system offset count bytes = (-Errno.busy, state.system)) ∧
        ∀ accepted count affinity cpuOn,
          (startStore state.system accepted count affinity cpuOn).2 = state.system) := by
  have invariant := SessionInvariant.reachable (Observed.reachable_system reached.of_restrict)
  refine ⟨?_, ?_⟩
  · intro accepted count affinity next taken succeeded
    obtain ⟨admissible, stepped⟩ := Machine.restrict_step_iff.mp taken
    rcases rearmStore_cases state.system accepted count affinity with
      ⟨refused, -⟩ | ⟨rfl, attempted, -, rfl, -, -, -⟩
    · rw [succeeded] at refused
      exact absurd refused (by omega)
    · refine ⟨attempted, ?_⟩
      by_contra neither
      rw [not_or, not_not] at neither
      simp [offAnswerAdmissible, neither.1, neither.2] at admissible
  · intro rising
    obtain ⟨armed, -⟩ := comingUp_reachable reached rising
    have attempted := (invariant.session armed).attempted
    refine ⟨?_, ?_⟩
    · intro offset count bytes
      simp [imageWrite, attempted]
    · intro accepted count affinity cpuOn
      by_cases text : accepted = true
      · simp [startStore, text, attempted]
      · simp [startStore, text]

/-- Load and start, with CPU_ON successful. -/
def demoStart : List DriverLabel := [.imageWrite 0 1 (fun _ => 0), .start true 5 affinityOff 0]

/-- The theorem at a start whose CPU3 is seen on before it goes off and is rearmed. -/
theorem rearm_waits_for_evidence_demo :
    ∃ state, patientMachine.run ⟨demoProbed, false⟩
        (demoStart ++ [.affinityState affinityOn, .affinityWork affinityOff]) = some state ∧
      (rearmStore state.system true 6 affinityOff).1 = 6 ∧ RearmJustified state.system := by
  have checked : (patientMachine.run ⟨demoProbed, false⟩
      (demoStart ++ [.affinityState affinityOn, .affinityWork affinityOff])).any (fun state =>
        (rearmStore state.system true 6 affinityOff).1 = 6 ∧
          (patientMachine.step state (.rearm true 6 affinityOff)).isSome) = true := by
    decide +kernel
  obtain ⟨state, executed, passed⟩ := patientMachine.exists_of_run_any checked
  obtain ⟨succeeded, enabled⟩ := of_decide_eq_true passed
  obtain ⟨next, taken⟩ := Option.isSome_iff_exists.mp enabled
  have reached : patientMachine.Reachable state :=
    Machine.Reachable.run (.init ⟨demoProbed_init, rfl⟩) executed
  exact ⟨state, executed, succeeded,
    (rearm_waits_for_evidence reached).1 true 6 affinityOff next taken succeeded⟩

/-- Without the condition: right after a successful start, while AFFINITY_INFO still answers OFF, a
rearm succeeds although CPU3 was never seen on, and the next `image_write` is accepted while CPU3 is
coming up. -/
theorem rearm_ends_starting_session :
    ∃ state, observedMachine.run ⟨demoProbed, false⟩ demoStart = some state ∧
      observedMachine.Reachable state ∧ state.system.lock = .free ∧
      (rearmStore state.system true 6 affinityOff).1 = 6 ∧ ¬ RearmJustified state.system ∧
      ∃ next, observedMachine.step state (.rearm true 6 affinityOff) = some next ∧
        next.comingUp = true ∧ (imageWrite next.system 0 1 (fun _ => 0xff)).1 = 1 := by
  have checked : (observedMachine.run ⟨demoProbed, false⟩ demoStart).any (fun state =>
      state.system.lock = .free ∧ (rearmStore state.system true 6 affinityOff).1 = 6 ∧
        (state.system.driver.cpuOnRet = 0 ∧ state.system.driver.affinitySeenOn = false) ∧
        (observedMachine.step state (.rearm true 6 affinityOff)).any (fun next =>
          next.comingUp = true ∧ (imageWrite next.system 0 1 (fun _ => 0xff)).1 = 1)) = true := by
    decide +kernel
  obtain ⟨state, executed, passed⟩ := observedMachine.exists_of_run_any checked
  obtain ⟨free, succeeded, ⟨poweredOn, unseen⟩, afterwards⟩ := of_decide_eq_true passed
  refine ⟨state, executed, Machine.Reachable.run (.init ⟨demoProbed_init, rfl⟩) executed,
    free, succeeded, ?_, ?_⟩
  · rintro ⟨-, failed | seenOn⟩
    · exact failed poweredOn
    · rw [unseen] at seenOn
      cases seenOn
  · cases stepped : observedMachine.step state (.rearm true 6 affinityOff) with
    | none => simp [stepped] at afterwards
    | some next =>
        rw [stepped] at afterwards
        obtain ⟨rising, written⟩ := of_decide_eq_true afterwards
        exact ⟨next, rfl, rising, written⟩

end MailMsg
