/-
Module: MailMsg.Driver.Ownership
Purpose: Which entry point may touch the rings and the A2B registers in which lifecycle phase, and
  what the preflight of a controlled stop has checked when it passes.
Source: LZAMP/linux/drivers/lzamp_amp_mailmsg.c (r1_amp_mailmsg_data_gate_locked and its callers,
  r1_amp_mailmsg_stop_preflight_locked)
Trusted boundary: none
Main exports: DriverLabel.isSend, DriverLabel.isReceive, ForwardOwner, ConsumerOwner, phase_owner,
  SessionDrained, stopPreflightLocked_eq_zero_iff, stop_preflight_drained_iff
-/
import MailMsg.Driver.Safety

namespace MailMsg

/-! ### The owners

Who may write the forward rings and the A2B registers, and who may move the consumer indices of the
reverse rings, with the phase of the lifecycle in which it may.
-/

/-- The data-plane sends and the raw doorbell. -/
def DriverLabel.isSend : DriverLabel → Bool
  | .write .. | .mailmsgPing .. | .queuePush .. | .doorbell .. => true
  | _ => false

/-- The data-plane receives. -/
def DriverLabel.isReceive : DriverLabel → Bool
  | .read .. | .responseIterate => true
  | _ => false

/-- `start_store` initialised the region of an unarmed driver: zero rings under a fresh
generation. -/
structure Initialised (system : System) (label : DriverLabel) (next : System) : Prop where
  unarmed : system.driver.mailmsgState = .unarmed
  label : ∃ count cpuOn, label = .start true count affinityOff cpuOn
  region : next.hardware.shared = sessionRegion next.driver.sessionGeneration

/-- Who changes a forward ring or an A2B register. -/
inductive ForwardOwner (system : System) (label : DriverLabel) (next : System) : Prop where
  | dataPlane (active : system.driver.mailmsgState = .active) (send : label.isSend = true)
  /-- One STOP_REQUEST on p0, by a stop that ends in STOPPING. -/
  | stopRequest (active : system.driver.mailmsgState = .active)
      (label : ∃ accepted count, label = .stop accepted count)
      (stopping : next.driver.mailmsgState = .stopping) (slot : Message)
      (typed : slot.type = MessageType.stopRequest)
      (single : next.hardware.shared = system.hardware.shared.setRing .linux .critical
        ((system.hardware.shared.linuxToCpu3 .critical).publish slot))
  | start (initialised : Initialised system label next)

/-- Who moves the consumer index of a reverse ring. -/
inductive ConsumerOwner (system : System) (label : DriverLabel) (next : System)
    (priority : Priority) : Prop where
  | dataPlane (active : system.driver.mailmsgState = .active) (receive : label.isReceive = true)
  | control (pending : system.driver.mailmsgState.pendingReply = true)
      (label : label = .controlIterate)
      (critical : priority = .critical)
  | start (initialised : Initialised system label next)

/-- The phases in which nobody owns the rings. -/
def SessionState.unowned : SessionState → Bool
  | .unarmed | .startTimeout | .stopTimeout | .offline => true
  | .starting | .active | .stopping => false

/-! ### The A2B registers -/

section A2B

variable {system next : System}

/-- A send that fails rings no doorbell. -/
theorem linuxSend_a2b_refused (priority : Priority) (type : U32) (payload : Option (Nat → U8))
    (length : U32) (failed : (linuxSend system priority type payload length).1.ret ≠ .ok) :
    (linuxSend system priority type payload length).2.hardware.a2b = system.hardware.a2b := by
  have queueing := endpointSend_sameQueueing (fun priority system => notifyLocked system priority)
    system system.driver.endpoint system.hardware.shared priority type payload length .zero
  have refused : (endpointEnqueue system.driver.endpoint system.hardware.shared priority type payload
      length .zero).ret ≠ .ok := by
    rw [← queueing.ret]
    exact failed
  simp only [linuxSend, endpointSend, if_pos refused, System.store]

theorem doorbellStore_closed (closed : dataGateLocked system.driver ≠ 0)
    (numbers : Option (U32 × U32)) (count : Nat) :
    (doorbellStore system numbers count).2 = system := by
  cases numbers with
  | none => rfl
  | some pair =>
      simp only [doorbellStore, closed, ne_eq, not_false_eq_true, if_true]
      split <;> rfl

theorem userRead_closed (closed : dataGateLocked system.driver ≠ 0) (file : UserFile)
    (copied : Bool) : (userRead system file copied).2 = system := by
  simp only [userRead, closed, ne_eq, not_false_eq_true, if_true]
  repeat' split
  all_goals rfl

/-- With a closed gate a data-plane send and the raw doorbell change nothing. -/
theorem lockedStep_closed {label : DriverLabel} (closed : dataGateLocked system.driver ≠ 0)
    (send : label.isSend = true) (taken : lockedStep system label = some next) : next = system := by
  cases label with
  | write id count copied frame =>
      obtain ⟨file, -, rfl⟩ := Option.map_eq_some_iff.mp taken
      exact userWrite_closed closed file count copied frame
  | mailmsgPing numbers count corrupt =>
      cases taken
      exact sendPing_closed closed numbers count corrupt
  | queuePush numbers count =>
      cases taken
      exact queuePushStore_closed closed numbers count
  | doorbell numbers count =>
      cases taken
      exact doorbellStore_closed closed numbers count
  | _ => cases send

/-- Only the sends, the raw doorbell and the stop reach the A2B registers. -/
theorem LockedEffect.a2b {label : DriverLabel} (effect : LockedEffect system label next) :
    next.hardware.a2b = system.hardware.a2b ∨ label.isSend = true ∨
      ∃ accepted count, label = .stop accepted count := by
  cases effect with
  | unchanged | imageWritten | rearmed | opened | released | claimed | responding => exact .inl rfl
  | work work => exact .inl (congrArg Hardware.a2b work.record.hardware)
  | launched cpuOn launched unsent => exact .inl launched.a2b
  | @stopped count active passed => exact .inr (.inr ⟨true, count, rfl⟩)
  | data operation =>
      cases operation with
      | read copied found claimed =>
          left
          rw [userRead_system]
          split <;> rfl
      | write | mailmsgPing | queuePush | doorbell => exact .inr (.inl rfl)
      | notifyInject text count =>
          left
          simp only [notifyInjectStore]
          repeat' split
          all_goals rfl

/-- A stop leaves the rings and the A2B registers alone, or it queued its request from ACTIVE and
ends in STOPPING. -/
theorem stopStore_owner (accepted : Bool) (count : Nat)
    (bound : system.driver.endpoint.BoundBy .linux) :
    ((stopStore system accepted count).2.hardware.shared = system.hardware.shared ∧
        (stopStore system accepted count).2.hardware.a2b = system.hardware.a2b) ∨
      ForwardOwner system (.stop accepted count) (stopStore system accepted count).2 := by
  simp only [stopStore]
  split
  · exact .inl ⟨rfl, rfl⟩
  · split
    · exact .inl ⟨rfl, rfl⟩
    · split
      · exact .inl ⟨rfl, rfl⟩
      · rename_i active
        split
        · exact .inl ⟨rfl, rfl⟩
        · have requested := requestStop_spec system bound
          have sent := linuxSend_effect system.stopping .critical
            MessageType.stopRequest none 0 bound
          rcases requested.state with ⟨stopping, ok, -⟩ | ⟨stillActive, failed, same⟩
          · right
            obtain ⟨slot, typed, pushed⟩ := sent.pushed ok
            refine .stopRequest (not_not.mp active) ⟨accepted, count, rfl⟩ stopping slot typed ?_
            rw [requested.hardware]
            exact pushed
          · left
            refine ⟨same, ?_⟩
            rw [requested.hardware]
            exact linuxSend_a2b_refused .critical _ _ _ failed

end A2B

/-! ### One owner for each phase -/

section Owner

variable {system next : System} {label : DriverLabel}

theorem SessionInvariant.initialised (session : SessionInvariant system) {cpuOn : Int}
    (launched : Launched system label next cpuOn) : Initialised system label next where
  unarmed := session.launched_unarmed launched
  label := by
    obtain ⟨count, isStart⟩ := launched.label
    exact ⟨count, cpuOn, isStart⟩
  region := launched.region

/-- The labels of data-plane senders. -/
theorem Sender.isSend_or_stop {priority : Priority} {type length : U32}
    (sender : Sender system label priority type length) :
    label.isSend = true ∨ ∃ accepted count, label = .stop accepted count := by
  cases sender with
  | user | ping | queuePush => exact .inl rfl
  | stop => exact .inr ⟨_, _, rfl⟩

/-- A stop is a locked step. -/
theorem driverStep_stop {accepted : Bool} {count : Nat}
    (taken : driverStep system (.stop accepted count) = some next) :
    next = (stopStore system accepted count).2 := by
  cases driverStep_kind taken with
  | locked free taken => exact (Option.some.inj taken).symm

/-- A change of a forward ring. -/
theorem forward_owner (session : SessionInvariant system)
    (taken : driverStep system label = some next) (linux : label.isPeer = false)
    (changed : next.hardware.shared.linuxToCpu3 ≠ system.hardware.shared.linuxToCpu3) :
    ForwardOwner system label next := by
  cases driverStep_region session.bound taken with
  | same shared peerWrites => exact absurd (by rw [shared]) changed
  | peer write isPeer hardware peerWrites =>
      rw [isPeer] at linux
      cases linux
  | sent sender active effect peerWrites =>
      rcases sender.isSend_or_stop with send | ⟨accepted, count, rfl⟩
      · exact .dataPlane active send
      · rw [driverStep_stop taken] at changed ⊢
        rcases stopStore_owner accepted count session.bound with ⟨same, -⟩ | owner
        · exact absurd (by rw [same]) changed
        · exact owner
  | received receiver effect peerWrites => exact absurd effect.forward changed
  | initialised cpuOn launched => exact .start (session.initialised launched)

/-- A change of an A2B register. -/
theorem a2b_owner (session : SessionInvariant system) (taken : driverStep system label = some next)
    (linux : label.isPeer = false) (changed : next.hardware.a2b ≠ system.hardware.a2b) :
    ForwardOwner system label next := by
  cases driverStep_kind taken with
  | tick elapsed | b2aAcknowledge channel | rxCallback channel message | dequeue item =>
      exact absurd rfl changed
  | peer write => cases linux
  | control held =>
      refine absurd ?_ changed
      simp only [controlIterate, controlResponse]
      repeat' split
      all_goals rfl
  | response priority lines held =>
      refine absurd ?_ changed
      simp only [responseIterate]
      repeat' split
      all_goals rfl
  | locked free taken =>
      rcases (lockedStep_effect taken).a2b with same | send | ⟨accepted, count, rfl⟩
      · exact absurd same changed
      · by_cases isOpen : dataGateLocked system.driver = 0
        · exact .dataPlane ((dataGateLocked_eq_zero_iff _).mp isOpen) send
        · rw [lockedStep_closed isOpen send taken] at changed
          exact absurd rfl changed
      · cases taken
        rcases stopStore_owner accepted count session.bound with ⟨-, same⟩ | owner
        · exact absurd same changed
        · exact owner

/-- A move of a consumer index of the reverse rings. -/
theorem consumer_owner (session : SessionInvariant system)
    (taken : driverStep system label = some next)
    (linux : label.isPeer = false) {priority : Priority}
    (moved : (next.hardware.shared.cpu3ToLinux priority).consumer ≠
      (system.hardware.shared.cpu3ToLinux priority).consumer) :
    ConsumerOwner system label next priority := by
  cases driverStep_region session.bound taken with
  | same shared peerWrites => exact absurd (by rw [shared]) moved
  | peer write isPeer hardware peerWrites =>
      rw [isPeer] at linux
      cases linux
  | sent sender active effect peerWrites => exact absurd (by rw [effect.reverse]) moved
  | received receiver effect peerWrites =>
      cases receiver with
      | user found claimed =>
          rename_i id copied file
          refine .dataPlane ?_ rfl
          by_contra closed
          have unchanged : next = system := by
            cases driverStep_kind taken with
            | locked free taken =>
                obtain ⟨other, -, rfl⟩ := Option.map_eq_some_iff.mp taken
                exact userRead_closed (mt (dataGateLocked_eq_zero_iff _).mp closed) other copied
          rw [unchanged] at moved
          exact moved rfl
      | control held =>
          refine .control (session.control held) rfl ?_
          by_contra other
          refine moved ?_
          cases effect with
          | nothing same => rw [same]
          | popped released => simp [released, Shared.setRing, Function.update_of_ne other]
      | response held => exact .dataPlane (session.response _ _ held) rfl
  | initialised cpuOn launched => exact .start (session.initialised launched)

/-- A change of any ring in a phase without an owner. -/
theorem unowned_step (session : SessionInvariant system)
    (taken : driverStep system label = some next)
    (linux : label.isPeer = false) (unowned : system.driver.mailmsgState.unowned = true)
    (changed : next.hardware.shared ≠ system.hardware.shared) : Initialised system label next := by
  cases driverStep_region session.bound taken with
  | same shared peerWrites => exact absurd shared changed
  | peer write isPeer hardware peerWrites =>
      rw [isPeer] at linux
      cases linux
  | sent sender active effect peerWrites =>
      rw [active] at unowned
      cases unowned
  | initialised cpuOn launched => exact session.initialised launched
  | received receiver effect peerWrites =>
      have notActive : system.driver.mailmsgState ≠ .active := by
        intro active
        rw [active] at unowned
        cases unowned
      cases receiver with
      | user found claimed =>
          rename_i id copied file
          cases driverStep_kind taken with
          | locked free taken =>
              obtain ⟨other, -, rfl⟩ := Option.map_eq_some_iff.mp taken
              have same := userRead_closed (mt (dataGateLocked_eq_zero_iff _).mp notActive) other copied
              exact absurd (by rw [same]) changed
      | control held =>
          have pending := session.control held
          cases state : system.driver.mailmsgState <;>
            simp [state, SessionState.pendingReply, SessionState.unowned] at pending unowned
      | response held => exact absurd (session.response _ _ held) notActive

end Owner

/-- In every reachable state of the driver and for every entry point: a forward ring or an A2B
register changes only in ACTIVE by a data-plane send or the raw doorbell, or by the one STOP_REQUEST
of a stop that ends in STOPPING; the consumer index of a reverse ring moves only in ACTIVE by a read
or the response attribute, or on p0 by `control_work` while a reply is awaited; and in the phases
without an owner only the initialisation of a start changes a ring. -/
theorem phase_owner {system next : System} {label : DriverLabel}
    (reached : driverMachine.Reachable system) (taken : driverMachine.step system label = some next)
    (linux : label.isPeer = false) :
    ((next.hardware.shared.linuxToCpu3 ≠ system.hardware.shared.linuxToCpu3 ∨
        next.hardware.a2b ≠ system.hardware.a2b) → ForwardOwner system label next) ∧
      (∀ priority, (next.hardware.shared.cpu3ToLinux priority).consumer ≠
        (system.hardware.shared.cpu3ToLinux priority).consumer →
          ConsumerOwner system label next priority) ∧
      (system.driver.mailmsgState.unowned = true →
        (next.hardware.shared.linuxToCpu3 ≠ system.hardware.shared.linuxToCpu3 ∨
          next.hardware.shared.cpu3ToLinux ≠ system.hardware.shared.cpu3ToLinux) →
            Initialised system label next) := by
  have session := SessionInvariant.reachable reached
  refine ⟨?_, ?_, ?_⟩
  · rintro (changed | changed)
    · exact forward_owner session taken linux changed
    · exact a2b_owner session taken linux changed
  · intro priority moved
    exact consumer_owner session taken linux moved
  · intro unowned changed
    apply unowned_step session taken linux unowned
    intro same
    rw [same] at changed
    simp at changed

/-- A stop of an idle ACTIVE session is the owner of its request. -/
theorem phase_owner_demo :
    ∃ system next, driverMachine.run demoProbed demoActivation = some system ∧
      driverMachine.step system (.stop true 5) = some next ∧
      next.driver.mailmsgState = .stopping ∧ ForwardOwner system (.stop true 5) next := by
  have checked : (driverMachine.run demoProbed demoActivation).any (fun system =>
      (driverMachine.step system (.stop true 5)).any fun next =>
        next.driver.mailmsgState == .stopping && next.hardware.a2b.status 0 &&
          !system.hardware.a2b.status 0) = true := by
    decide +kernel
  obtain ⟨system, executed, stopped⟩ := driverMachine.exists_of_run_any checked
  cases stepped : driverMachine.step system (.stop true 5) with
  | none =>
      rw [stepped] at stopped
      cases stopped
  | some next =>
      rw [stepped] at stopped
      simp only [Option.any_some, Bool.and_eq_true, beq_iff_eq, Bool.not_eq_true'] at stopped
      obtain ⟨⟨stopping, pending⟩, quiet⟩ := stopped
      have owned := phase_owner (Machine.Reachable.run (.init demoProbed_init) executed) stepped rfl
      refine ⟨system, next, executed, stepped, stopping, owned.1 (.inr ?_)⟩
      intro same
      rw [same, quiet] at pending
      cases pending

/-! ### The preflight of a controlled stop -/

/-- Nothing is under way: no file is open, the eight rings are empty and no A2B bit is pending. -/
def SessionDrained (system : System) : Prop :=
  system.driver.userOpenCount = 0 ∧
    ∀ priority,
      (system.hardware.shared.cpu3ToLinux priority).producer =
        (system.hardware.shared.cpu3ToLinux priority).consumer ∧
      (system.hardware.shared.linuxToCpu3 priority).producer =
        (system.hardware.shared.linuxToCpu3 priority).consumer ∧
      system.hardware.a2b.status priority = false

/-- The three answers of `mailmsg_endpoint_has_received`, none of which is `MAILMSG_RING_EMPTY`. -/
theorem endpointHasReceived_cases (endpoint : Endpoint) (shared : Shared) (priority : Priority) :
    endpointHasReceived endpoint shared priority = 0 ∨
      endpointHasReceived endpoint shared priority = 1 ∨
      endpointHasReceived endpoint shared priority = RingResult.invalid.code := by
  unfold endpointHasReceived ringHasData
  repeat' split
  all_goals simp

/-- The preflight ends with its first look at a ring: it passes exactly when no file is open and
nothing waits in the p0 ring of a valid session. -/
theorem stopPreflightLocked_eq_zero_iff (system : System) :
    stopPreflightLocked system = 0 ↔
      system.driver.userOpenCount = 0 ∧
        endpointHasReceived system.driver.endpoint system.hardware.shared .critical = 0 := by
  have priorities : List.finRange priorityCount = Priority.critical :: [1, 2, 3] := rfl
  have notEmpty : ∀ answer : Int, answer = 0 ∨ answer = 1 ∨ answer = RingResult.invalid.code →
      answer ≠ RingResult.empty.code := by
    rintro answer (rfl | rfl | rfl) <;> decide
  have answers := endpointHasReceived_cases system.driver.endpoint system.hardware.shared .critical
  unfold stopPreflightLocked
  split
  · rename_i isOpen
    simp [isOpen, Errno.busy]
  · rename_i noFiles
    split
    · rename_i unbound
      have role : system.driver.endpoint.role = none := Option.isNone_iff_eq_none.mp unbound
      simp [endpointHasReceived, role, Errno.proto, RingResult.code]
    · rw [priorities, stopPreflightRings]
      simp only [if_pos (notEmpty _ answers)]
      rcases answers with answer | answer | answer
      · simp [answer, not_not.mp noFiles, ringResultToErrno, RingResult.code]
      · simp [answer, Errno.busy]
      · simp [answer, ringResultToErrno, RingResult.code, Errno.proto]

/-- A stop goes to STOPPING only through the preflight, and the preflight answers for a drained
session exactly when a file is open, when the p0 ring from CPU3 is not empty, or when the session is
drained. -/
theorem stop_preflight_drained_iff (system : System) :
    (∀ accepted count, system.driver.mailmsgState = .active →
        (stopStore system accepted count).2.driver.mailmsgState = .stopping →
          stopPreflightLocked system = 0) ∧
      ((stopPreflightLocked system = 0 → SessionDrained system) ↔
        (system.driver.userOpenCount ≠ 0 ∨
          endpointHasReceived system.driver.endpoint system.hardware.shared .critical ≠ 0 ∨
          SessionDrained system)) := by
  refine ⟨?_, ?_⟩
  · intro accepted count active stopping
    by_contra failed
    have refused : (stopStore system accepted count).2 = system := by
      simp only [stopStore]
      repeat' split
      all_goals rfl
    rw [refused, active] at stopping
    cases stopping
  · rw [stopPreflightLocked_eq_zero_iff]
    tauto

/-- A PING on p1 is queued and its doorbell is pending, and the preflight of the stop passes. -/
theorem stop_preflight_ignores_queues :
    ∃ system, driverMachine.run demoProbed
        (demoActivation ++ [.mailmsgPing (some (1, 7)) 4 false]) = some system ∧
      system.driver.mailmsgState = .active ∧ stopPreflightLocked system = 0 ∧
        ¬ SessionDrained system := by
  have checked : (driverMachine.run demoProbed
      (demoActivation ++ [.mailmsgPing (some (1, 7)) 4 false])).any (fun system =>
        system.driver.mailmsgState == .active && stopPreflightLocked system == 0 &&
          system.hardware.a2b.status 1) = true := by
    decide +kernel
  obtain ⟨system, executed, seen⟩ := driverMachine.exists_of_run_any checked
  simp only [Bool.and_eq_true, beq_iff_eq] at seen
  obtain ⟨⟨active, passed⟩, pending⟩ := seen
  refine ⟨system, executed, active, passed, ?_⟩
  rintro ⟨-, empty⟩
  have quiet := (empty 1).2.2
  rw [pending] at quiet
  cases quiet

end MailMsg
