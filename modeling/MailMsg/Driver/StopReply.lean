/-
Module: MailMsg.Driver.StopReply
Purpose: The CPU_OFF phase of a controlled stop: what every step can do to the state, the reply, the
  result and the deadline after STOP_READY was accepted, over all runs.
Source: LZAMP/linux/drivers/lzamp_amp_mailmsg.c
Trusted boundary: none
Main exports: System.nextControl, StopStep, driverStep_stopStep, stop_ready_irrevocable,
  stop_timeouts_agree
-/
import MailMsg.Driver.Draining

namespace MailMsg

/-! ### What the control loop meets next -/

/-- The frame that the control loop takes next, when it is a good one of this session. -/
def System.nextControl (system : System) : Option Message :=
  let ring := system.hardware.shared.ring .cpu3 .critical
  if ring.consumer ≠ ring.producer ∧ ring.head.commit = ring.head.sequence ∧ ¬ ring.head.malformed ∧
      ring.head.crc32 = frameCrc32 ring.head ∧
      ring.head.generation = system.driver.endpoint.generation then
    some ring.head
  else none

/-- The frame that the control loop takes next is damaged. -/
def System.damagedControl (system : System) : Bool :=
  let ring := system.hardware.shared.ring .cpu3 .critical
  ring.consumer ≠ ring.producer && ring.head.commit = ring.head.sequence &&
    (ring.head.malformed || ring.head.crc32 ≠ frameCrc32 ring.head)

/-- The frame that the control loop takes next answers the current STOP_REQUEST in time. -/
def System.repliesNext (system : System) : Bool :=
  system.nextControl.any (stopReplyAccepted system.driver) &&
    decide (system.jiffies < system.driver.lifecycleDeadline)

/-- The record of a stop: the reply, the result and the deadline. -/
def Driver.stopRecord (driver : Driver) : U32 × Int × Nat :=
  (driver.stopReplyType, driver.stopResult, driver.lifecycleDeadline)

/-! ### One step

A step ends a stop by OFF, by a reply, by a rearm or by a timeout, meets a damaged frame, or leaves
the stop alone.
-/

/-- What makes a stop time out. -/
inductive TimeoutCause (before : System) : DriverLabel → Prop where
  | control : TimeoutCause before .controlEnter
  | frame (met : before.nextControl.isSome) : TimeoutCause before .controlIterate
  | work (answer : Int)
      (asked : before.driver.stopReplyType = MessageType.stopReady →
        before.driver.affinitySeenOn = true → before.driver.cpuOnRet = 0 → answer ≠ affinityOff) :
      TimeoutCause before (.lifecycleTimeoutWork answer)

/-- Everything that one step can do to a stop that was requested, timed out or is over. -/
inductive StopStep (before : System) (label : DriverLabel) (after : System) : Prop where
  | same (state : after.driver.mailmsgState = before.driver.mailmsgState)
      (record : after.driver.stopRecord = before.driver.stopRecord)
      (epoch : after.epoch = before.epoch)
      (unasked : before.driver.mailmsgState = .stopping →
        before.driver.stopReplyType = MessageType.stopReady →
        before.driver.lifecycleDeadline ≤ before.jiffies → ∀ answer,
        label ≠ .lifecycleTimeoutWork answer)
  | offline (answer : label.affinityAnswer = some affinityOff)
      (state : after.driver.mailmsgState = .offline)
      (record : after.driver.stopRecord = before.driver.stopRecord)
      (epoch : after.epoch = before.epoch)
  | timedOut (stopping : before.driver.mailmsgState = .stopping)
      (expired : before.driver.lifecycleDeadline ≤ before.jiffies)
      (cause : TimeoutCause before label) (state : after.driver.mailmsgState = .stopTimeout)
      (reply : after.driver.stopReplyType = before.driver.stopReplyType)
      (deadline : after.driver.lifecycleDeadline = before.driver.lifecycleDeadline)
      (epoch : after.epoch = before.epoch)
  | damaged (iterates : label = .controlIterate) (stopping : before.driver.mailmsgState = .stopping)
      (met : before.damagedControl = true)
      (state : after.driver.mailmsgState = before.driver.mailmsgState)
      (reply : after.driver.stopReplyType = before.driver.stopReplyType)
      (deadline : after.driver.lifecycleDeadline = before.driver.lifecycleDeadline)
      (epoch : after.epoch = before.epoch)
  | replied (iterates : label = .controlIterate) (met : before.repliesNext = true)
      (state : after.driver.mailmsgState = .active ∨
        after.driver.mailmsgState = .stopping ∧ after.driver.stopResult = 0)
      (epoch : after.epoch = before.epoch)
  | rearmed (rearms : ∃ count, label = .rearm true count affinityOff)
      (state : after.driver.mailmsgState = .unarmed) (epoch : after.epoch = before.epoch + 1)

section Steps

variable {before after : System} {label : DriverLabel}

/-- A step that does not touch the lifecycle and is not the timeout work. -/
theorem StopStep.of_lifecycle (lifecycle : after.driver.toLifecycle = before.driver.toLifecycle)
    (epoch : after.epoch = before.epoch) (other : ∀ answer, label ≠ .lifecycleTimeoutWork answer) :
    StopStep before label after := by
  refine .same (congrArg Lifecycle.mailmsgState lifecycle) ?_ epoch fun _ _ _ => other
  have reply := congrArg Lifecycle.stopReplyType lifecycle
  have result := congrArg Lifecycle.stopResult lifecycle
  have deadline := congrArg Lifecycle.lifecycleDeadline lifecycle
  rw [Driver.stopRecord, Driver.stopRecord, reply, result, deadline]

/-- The data plane does not touch the stop. -/
theorem StopStep.of_data (step : DataStep before after)
    (other : ∀ answer, label ≠ .lifecycleTimeoutWork answer) : StopStep before label after :=
  .of_lifecycle step.lifecycle step.epoch other

/-- An affinity query changes nothing of the record, and ends the session or leaves the state. -/
theorem refreshAffinityLocked_stop (driver : Driver) (answer : Int) :
    (refreshAffinityLocked driver answer).stopRecord = driver.stopRecord ∧
      ((refreshAffinityLocked driver answer).mailmsgState = driver.mailmsgState ∨
        answer = affinityOff ∧ (refreshAffinityLocked driver answer).mailmsgState = .offline) := by
  rcases refreshAffinityLocked_cases driver answer with same | ⟨off, -, -, -, ended⟩
  · rw [same]
    exact ⟨rfl, .inl rfl⟩
  · rw [ended]
    exact ⟨rfl, .inr ⟨off, rfl⟩⟩

/-- An OFF answer ends a powered session in which CPU3 was seen on. -/
theorem refreshAffinityLocked_off {driver : Driver} (poweredOn : driver.cpuOnRet = 0)
    (seenOn : driver.affinitySeenOn = true) (watched : driver.mailmsgState.watched = true) :
    (refreshAffinityLocked driver affinityOff).mailmsgState = .offline := by
  have plain : ¬ (affinityOff = affinityOn ∨ affinityOff = affinityOnPending) := by decide
  simp [refreshAffinityLocked, plain, poweredOn, seenOn, markOfflineLocked, watched,
    Driver.wakeReaders]

/-- A step that only asks PSCI. -/
theorem StopStep.of_refresh (asked : Driver) {answer : Int}
    (isAsked : label.affinityAnswer = some answer)
    (other : ∀ answer, label ≠ .lifecycleTimeoutWork answer)
    (sameState : asked.mailmsgState = before.driver.mailmsgState)
    (sameRecord : asked.stopRecord = before.driver.stopRecord)
    (state : after.driver.mailmsgState = (refreshAffinityLocked asked answer).mailmsgState)
    (record : after.driver.stopRecord = (refreshAffinityLocked asked answer).stopRecord)
    (epoch : after.epoch = before.epoch) : StopStep before label after := by
  obtain ⟨kept, outcome⟩ := refreshAffinityLocked_stop asked answer
  have recorded := (record.trans kept).trans sameRecord
  rcases outcome with unchanged | ⟨off, ended⟩
  · exact .same ((state.trans unchanged).trans sameState) recorded epoch fun _ _ _ => other
  · refine .offline ?_ (state.trans ended) recorded epoch
    rw [isAsked, off]

/-- The sampler may find CPU3 off. -/
theorem affinityWork_stop (system : System) (answer : Int) :
    StopStep system (.affinityWork answer) (affinityWork system answer) := by
  simp only [affinityWork]
  split
  · exact .of_data (.refl system) (by simp)
  · refine .of_refresh
      { system.driver with
        affinityMonitorCount := system.driver.affinityMonitorCount + 1 } rfl (by simp)
      rfl rfl ?_ ?_ rfl
    · split <;> rfl
    · split <;> rfl

/-- A query from user space may find CPU3 off. -/
theorem affinityState_stop (system : System) (answer : Int) :
    StopStep system (.affinityState answer) (affinityStateShow system answer).2 := by
  simp only [affinityStateShow]
  split
  · exact .of_data (.refl system) (by simp)
  · exact .of_refresh system.driver rfl (by simp) rfl rfl rfl rfl rfl

/-- A timeout of STOPPING keeps the reply and the deadline. -/
theorem StopStep.of_timeout (driver : Driver) (stopping : before.driver.mailmsgState = .stopping)
    (expired : before.driver.lifecycleDeadline ≤ before.jiffies) (cause : TimeoutCause before label)
    (sameState : driver.mailmsgState = before.driver.mailmsgState)
    (sameRecord : driver.stopRecord = before.driver.stopRecord)
    (state : after.driver.mailmsgState = (setTimeoutLocked driver).mailmsgState)
    (reply : after.driver.stopReplyType = (setTimeoutLocked driver).stopReplyType)
    (deadline : after.driver.lifecycleDeadline = (setTimeoutLocked driver).lifecycleDeadline)
    (epoch : after.epoch = before.epoch) : StopStep before label after := by
  have inStopping : driver.mailmsgState = .stopping := sameState.trans stopping
  rw [setTimeoutLocked_stopping inStopping] at state
  have kept : (setTimeoutLocked driver).stopReplyType = driver.stopReplyType ∧
      (setTimeoutLocked driver).lifecycleDeadline = driver.lifecycleDeadline := by
    simp [setTimeoutLocked, inStopping, Driver.wakeReaders]
  have sameReply : driver.stopReplyType = before.driver.stopReplyType :=
    congrArg Prod.fst sameRecord
  have sameDeadline : driver.lifecycleDeadline = before.driver.lifecycleDeadline :=
    congrArg (fun record => record.2.2) sameRecord
  exact .timedOut stopping expired cause state ((reply.trans kept.1).trans sameReply)
    ((deadline.trans kept.2).trans sameDeadline) epoch

/-- The states of a stop. -/
def SessionState.halting : SessionState → Bool
  | .stopping | .stopTimeout | .offline => true
  | .unarmed | .starting | .startTimeout | .active => false

/-- A pending reply in one of these states is that of STOPPING. -/
theorem stopping_of_pending {state : SessionState} (halting : state.halting = true)
    (pending : state.pendingReply = true) : state = .stopping := by
  cases state <;> simp_all [SessionState.halting, SessionState.pendingReply]

/-- The head of `control_work` may find the deadline past. -/
theorem controlEnter_stop {system : System} (halting : system.driver.mailmsgState.halting = true) :
    StopStep system .controlEnter (controlEnter system) := by
  simp only [controlEnter]
  split
  · exact .of_data (.refl system) (by simp)
  · rename_i pending
    have stopping := stopping_of_pending halting (not_not.mp pending)
    split
    · rename_i expired
      exact .of_timeout system.driver stopping expired .control rfl rfl rfl rfl rfl rfl
    · exact .same rfl rfl rfl fun _ _ _ => by simp

/-- The watchdog may find CPU3 off or the deadline past. -/
theorem lifecycleTimeoutWork_stop {system : System} (answer : Int)
    (halting : system.driver.mailmsgState.halting = true) :
    StopStep system (.lifecycleTimeoutWork answer) (lifecycleTimeoutWork system answer) := by
  simp only [lifecycleTimeoutWork]
  split
  · rename_i idle
    refine .same rfl rfl rfl fun stopping => ?_
    simp [stopping, SessionState.pendingReply] at idle
  · rename_i pending
    have stopping := stopping_of_pending halting (not_not.mp pending)
    split
    · rename_i early
      refine .same rfl rfl rfl fun _ _ expired => ?_
      exact absurd early (Nat.not_lt.mpr expired)
    · rename_i late
      have expired : system.driver.lifecycleDeadline ≤ system.jiffies := Nat.le_of_not_lt late
      split
      · rename_i granted
        rcases refreshAffinityLocked_cases system.driver answer with same | ⟨off, -, -, -, ended⟩
        · have running : (refreshAffinityLocked system.driver answer).mailmsgState ≠ .offline := by
            rw [same]
            change system.driver.mailmsgState ≠ .offline
            simp [stopping]
          rw [if_neg running]
          refine .of_timeout (refreshAffinityLocked system.driver answer) stopping expired
            (.work answer ?_) (by rw [same]; rfl) (by rw [same]; rfl) rfl rfl rfl rfl
          rintro - seenOn poweredOn rfl
          apply running
          apply refreshAffinityLocked_off poweredOn seenOn
          simp [stopping, SessionState.watched]
        · have isOffline : (refreshAffinityLocked system.driver answer).mailmsgState = .offline := by
            rw [ended]
            rfl
          rw [if_pos isOffline]
          refine .offline (by rw [off]; rfl) isOffline ?_ rfl
          exact (refreshAffinityLocked_stop system.driver answer).1
      · rename_i ungranted
        refine .of_timeout system.driver stopping expired (.work answer ?_) rfl rfl rfl rfl rfl rfl
        intro reply
        exact absurd ⟨stopping, reply⟩ ungranted

/-- A reply to the current request takes the stop back or clears its result. -/
theorem controlResponse_stop {system : System} {response : Message}
    (stopping : system.driver.mailmsgState = .stopping)
    (accepted : stopReplyAccepted system.driver response = true) :
    ((controlResponse system response).driver.mailmsgState = .active ∨
      (controlResponse system response).driver.mailmsgState = .stopping ∧
        (controlResponse system response).driver.stopResult = 0) ∧
    (controlResponse system response).epoch = system.epoch := by
  by_cases ready : response.type = MessageType.stopReady
  · simp [controlResponse, stopping, accepted, ready]
  · simp [controlResponse, stopping, accepted, ready]

/-- A damaged frame overwrites the result and nothing else of the stop. -/
theorem controlIterate_stop_damaged {system : System} {result : RingResult}
    {received : ReceiveOutcome}
    {endpoint : Endpoint} {shared : Shared} (stopping : system.driver.mailmsgState = .stopping)
    (taken : linuxReceive system .critical = (received, system.store endpoint shared))
    (ret : received.ret = .ring result) (damaged : result = .badCrc ∨ result = .invalid)
    (met : system.damagedControl = true) :
    StopStep system .controlIterate (controlIterate system) := by
  obtain ⟨driver, iterated, -, state, -, -, deadline, reply⟩ :=
    controlIterate_damaged taken ret damaged
  rw [iterated]
  exact .damaged rfl stopping met state reply deadline rfl

/-- A good frame times the stop out, replies to it, or is dropped. -/
theorem controlIterate_stop_good {system : System} {received : ReceiveOutcome} {response : Message}
    {endpoint : Endpoint} {shared : Shared} (stopping : system.driver.mailmsgState = .stopping)
    (taken : linuxReceive system .critical = (received, system.store endpoint shared))
    (ret : received.ret = .ok) (copied : received.message = some response)
    (next : system.nextControl = some response) :
    StopStep system .controlIterate (controlIterate system) := by
  rw [controlIterate_good taken ret, copied, Option.getD_some]
  by_cases late : system.driver.lifecycleDeadline ≤ system.jiffies
  · have isLate : (system.store endpoint shared).driver.lifecycleDeadline ≤
        (system.store endpoint shared).jiffies := late
    rw [if_pos isLate]
    exact .of_timeout (system.store endpoint shared).driver stopping late
      (.frame (by rw [next]; rfl))
      rfl rfl rfl rfl rfl rfl
  · have isEarly : ¬ (system.store endpoint shared).driver.lifecycleDeadline ≤
        (system.store endpoint shared).jiffies := late
    rw [if_neg isEarly]
    have inStopping : (system.store endpoint shared).driver.mailmsgState = .stopping := stopping
    by_cases accepted : stopReplyAccepted (system.store endpoint shared).driver response = true
    · have replies : system.repliesNext = true := by
        have ours : stopReplyAccepted system.driver response = true := accepted
        simp [System.repliesNext, next, ours, Nat.lt_of_not_le late]
      obtain ⟨outcome, epoch⟩ := controlResponse_stop inStopping accepted
      exact .replied rfl replies outcome epoch
    · have refused : ¬ controlAccepts (system.store endpoint shared).driver response := by
        rw [controlAccepts, if_neg (by simp [inStopping])]
        exact accepted
      rw [controlResponse_ignores refused]
      exact .same rfl rfl rfl fun _ _ _ => by simp

/-- The loop accepts a reply to this stop, or drops the frame. -/
theorem controlIterate_stop {system : System} (session : OpenSession system)
    (stopping : system.driver.mailmsgState = .stopping) :
    StopStep system .controlIterate (controlIterate system) := by
  obtain ⟨ret, ring, message, found, received⟩ :=
    linuxReceive_found .critical session.role session.valid
  cases found with
  | empty nothing =>
      simp only [controlIterate, received]
      exact .same rfl rfl rfl fun _ _ _ => by simp
  | incomplete something pending =>
      simp only [controlIterate, received]
      exact .same rfl rfl rfl fun _ _ _ => by simp
  | invalid something committed malformed =>
      apply controlIterate_stop_damaged stopping received rfl (.inr rfl)
      simp [System.damagedControl, something, committed, malformed]
  | badCrc something committed wellFormed mismatch =>
      apply controlIterate_stop_damaged stopping received rfl (.inl rfl)
      simp [System.damagedControl, something, committed, mismatch]
  | stale something committed wellFormed matching old =>
      simp only [controlIterate, received]
      exact .same rfl rfl rfl fun _ _ _ => by simp
  | good something committed wellFormed matching fresh =>
      apply controlIterate_stop_good stopping received rfl rfl
      exact if_pos ⟨something, committed, wellFormed, matching, fresh⟩

/-- The work items together. -/
theorem LifecycleWork.stopStep {system next : System} (work : LifecycleWork system label next)
    (halting : system.driver.mailmsgState.halting = true) : StopStep system label next := by
  cases work with
  | affinityWork answer => exact affinityWork_stop system answer
  | lifecycleTimeoutWork answer => exact lifecycleTimeoutWork_stop answer halting
  | controlEnter => exact controlEnter_stop halting
  | affinityState answer => exact affinityState_stop system answer
  | startAsked answer cpuOn =>
      exact .of_refresh system.driver rfl (by simp) rfl rfl rfl rfl rfl
  | rearmAsked answer =>
      exact .of_refresh system.driver rfl (by simp) rfl rfl rfl rfl rfl

/-- During a stop CPU_ON has been called and the data plane is closed, so that no image is accepted,
nothing is launched, no second stop is issued and no file is opened. -/
theorem LockedEffect.stopStep {system next : System} (effect : LockedEffect system label next)
    (invariant : SessionInvariant system) (halting : system.driver.mailmsgState.halting = true) :
    StopStep system label next := by
  have armed : system.driver.mailmsgState ≠ .unarmed := by
    intro unarmed
    simp [unarmed, SessionState.halting] at halting
  have attempted := (invariant.session armed).attempted
  have inactive : system.driver.mailmsgState ≠ .active := by
    intro active
    simp [active, SessionState.halting] at halting
  cases effect with
  | unchanged settled => exact .of_data (.refl system) settled
  | work work => exact work.stopStep halting
  | imageWritten imageMemory free => simp [attempted] at free
  | launched cpuOn launched unsent =>
      have unattempted := launched.notAttempted
      simp [attempted] at unattempted
  | @rearmed count => exact .rearmed ⟨count, rfl⟩ rfl rfl
  | stopped active passed => exact absurd active inactive
  | opened active => exact absurd active inactive
  | responding active => exact absurd active inactive
  | released | claimed => exact .of_lifecycle rfl rfl (by simp)
  | data operation =>
      refine .of_data (operation.step invariant.bound) ?_
      cases operation <;> simp

/-- Everything that a step can do to a stop under way. -/
theorem driverStep_stopStep {system next : System} {label : DriverLabel}
    (invariant : SessionInvariant system) (halting : system.driver.mailmsgState.halting = true)
    (taken : driverStep system label = some next) : StopStep system label next := by
  cases driverStep_kind taken with
  | tick elapsed | b2aAcknowledge channel | rxCallback channel message | peer write =>
      exact .of_lifecycle rfl rfl (by simp)
  | dequeue item => cases item <;> exact .of_lifecycle rfl rfl (by simp)
  | control held =>
      have stopping := stopping_of_pending halting (invariant.control held)
      exact controlIterate_stop (invariant.session (by simp [stopping])) stopping
  | response priority lines held =>
      exact .of_data (responseIterate_step system priority lines invariant.bound).1 (by simp)
  | locked free taken => exact (lockedStep_effect taken).stopStep invariant halting

end Steps

/-! ### An accepted STOP_READY -/

/-- The session counter moves only forward. -/
theorem driverStep_epoch {system next : System} {label : DriverLabel}
    (invariant : SessionInvariant system)
    (taken : driverStep system label = some next) : system.epoch ≤ next.epoch := by
  cases driverStep_lifecycle invariant.bound invariant.control taken with
  | quiet session | offline session | startTimeout session | stopTimeout session =>
      rw [session.epoch]
  | ready response ready => exact Nat.le_of_eq ready.session.epoch.symm
  | refused response refused => rw [refused.session.epoch]
  | stop issued => exact Nat.le_of_eq issued.session.epoch.symm
  | launched cpuOn launched =>
      rw [launched.epoch]
      exact Nat.le_succ _
  | rearmed rearmed =>
      rw [rearmed.epoch]
      exact Nat.le_succ _

/-- The step is an iteration of the control loop. -/
def DriverLabel.iteratesControl : DriverLabel → Bool
  | .controlIterate => true
  | _ => false

/-- The control loop does not take a second reply to the current request in time. -/
def NoSecondReply (system : System) (label : DriverLabel) : Prop :=
  label.iteratesControl = true → system.driver.stopReplyType = MessageType.stopReady →
    system.repliesNext = false

instance (system : System) (label : DriverLabel) : Decidable (NoSecondReply system label) :=
  inferInstanceAs (Decidable (_ → _ → _))

/-- A stop whose STOP_READY was accepted with this deadline is not taken back and not prolonged. -/
structure Granted (deadline : Nat) (system : System) : Prop where
  state : system.driver.mailmsgState = .stopping ∨ system.driver.mailmsgState = .offline ∨
    system.driver.mailmsgState = .stopTimeout
  reply : system.driver.stopReplyType = MessageType.stopReady
  deadline : system.driver.lifecycleDeadline = deadline

/-- A granted stop is still under way. -/
theorem Granted.halting {deadline : Nat} {system : System} (granted : Granted deadline system) :
    system.driver.mailmsgState.halting = true := by
  rcases granted.state with state | state | state <;> rw [state] <;> rfl

/-- One step without a second reply keeps what was granted, or ends the session. -/
theorem Granted.step {deadline : Nat} {system next : System} {label : DriverLabel}
    (invariant : SessionInvariant system) (granted : Granted deadline system)
    (single : NoSecondReply system label) (taken : driverStep system label = some next) :
    next.epoch = system.epoch + 1 ∨ Granted deadline next := by
  cases driverStep_stopStep invariant granted.halting taken with
  | same state record epoch unasked =>
      refine .inr ⟨state ▸ granted.state, ?_, ?_⟩
      · exact (congrArg Prod.fst record).trans granted.reply
      · exact (congrArg (fun entry => entry.2.2) record).trans granted.deadline
  | offline answer state record epoch =>
      refine .inr ⟨.inr (.inl state), ?_, ?_⟩
      · exact (congrArg Prod.fst record).trans granted.reply
      · exact (congrArg (fun entry => entry.2.2) record).trans granted.deadline
  | timedOut stopping expired cause state reply deadline epoch =>
      exact .inr ⟨.inr (.inr state), reply.trans granted.reply, deadline.trans granted.deadline⟩
  | damaged iterates stopping met state reply deadline epoch =>
      exact .inr ⟨state ▸ granted.state, reply.trans granted.reply, deadline.trans granted.deadline⟩
  | replied iterates met state epoch =>
      have none := single (by rw [iterates]; rfl) granted.reply
      rw [met] at none
      cases none
  | rearmed rearms state epoch => exact .inl epoch

/-- For every run from a state in which STOP_READY was accepted, through any steps of CPU3, the work
items, PSCI and the clock, in which the control loop takes no second reply: as long as the session
lasts, STOPPING stays or becomes OFFLINE or STOP_TIMEOUT, and neither the reply nor the deadline
changes. -/
theorem stop_ready_irrevocable {start : System} (reached : driverMachine.Reachable start)
    (stopping : start.driver.mailmsgState = .stopping)
    (accepted : start.driver.stopReplyType = MessageType.stopReady) {labels : List DriverLabel}
    {last : System} (executed : (driverMachine.restrict NoSecondReply).run start labels = some last)
    (sameSession : last.epoch = start.epoch) :
    (last.driver.mailmsgState = .stopping ∨ last.driver.mailmsgState = .offline ∨
      last.driver.mailmsgState = .stopTimeout) ∧
    last.driver.stopReplyType = MessageType.stopReady ∧
    last.driver.lifecycleDeadline = start.driver.lifecycleDeadline := by
  have kept : driverMachine.Reachable last ∧ start.epoch ≤ last.epoch ∧
      (last.epoch = start.epoch → Granted start.driver.lifecycleDeadline last) := by
    refine Machine.run_invariant
      (fun system => driverMachine.Reachable system ∧ start.epoch ≤ system.epoch ∧
        (system.epoch = start.epoch → Granted start.driver.lifecycleDeadline system)) ?_
      ⟨reached, Nat.le_refl _, fun _ => ⟨.inl stopping, accepted, rfl⟩⟩ executed
    rintro system label next ⟨earlier, later, granted⟩ taken
    obtain ⟨single, stepped⟩ := Machine.restrict_step_iff.mp taken
    have invariant := SessionInvariant.reachable earlier
    have forward : system.epoch ≤ next.epoch := driverStep_epoch invariant stepped
    refine ⟨earlier.step stepped, Nat.le_trans later forward, ?_⟩
    intro same
    rcases (granted (by omega)).step invariant single stepped with ended | goesOn
    · omega
    · exact goesOn
  have granted := kept.2.2 sameSession
  exact ⟨granted.state, granted.reply, granted.deadline⟩

/-- The reply of CPU3 to the first request of the first session. -/
def stopReplyFrame (type sequence : U32) : Message :=
  (sendMessage 1 type sequence 8 (some (storePayloadU32 (fun _ => 0) 0 1))).frame.committed

/-- Activate, stop, and let CPU3 announce that it will turn itself off. -/
def demoStopReady : List DriverLabel :=
  demoActivation ++
    [.stop true 4, .peer (.slot .critical 1 (stopReplyFrame MessageType.stopReady 2)),
      .peer (.producer .critical 2), .controlEnter, .controlIterate]

/-- The theorem at a stop that ends when PSCI reports CPU3 off. -/
theorem stop_ready_irrevocable_demo :
    ∃ start last, driverMachine.run demoProbed demoStopReady = some start ∧
      start.driver.mailmsgState = .stopping ∧
      start.driver.stopReplyType = MessageType.stopReady ∧
      (driverMachine.restrict NoSecondReply).run start [.tick 7,
        .affinityWork affinityOff] = some last ∧
      last.driver.lifecycleDeadline = start.driver.lifecycleDeadline := by
  have checked : (driverMachine.run demoProbed demoStopReady).any (fun start =>
      start.driver.mailmsgState = .stopping ∧ start.driver.stopReplyType = MessageType.stopReady ∧
        ((driverMachine.restrict NoSecondReply).run start [.tick 7, .affinityWork affinityOff]).any
          (fun last => last.epoch = start.epoch) = true) = true := by
    decide +kernel
  obtain ⟨start, began, passed⟩ := driverMachine.exists_of_run_any checked
  obtain ⟨stopping, accepted, later⟩ := of_decide_eq_true passed
  obtain ⟨last, executed, same⟩ := Machine.exists_of_run_any later
  have granted := stop_ready_irrevocable (Machine.Reachable.run (.init demoProbed_init) began) stopping
    accepted executed (of_decide_eq_true same)
  exact ⟨start, last, began, stopping, accepted, executed, granted.2.2⟩

/-- Later replies to the same request are taken as well: a STOP_REFUSED reopens the data plane of a
session whose STOP_READY was accepted, and a second STOP_READY moves the deadline. -/
theorem second_reply_revokes :
    (∃ start last, driverMachine.run demoProbed demoStopReady = some start ∧
      start.driver.mailmsgState = .stopping ∧
      start.driver.stopReplyType = MessageType.stopReady ∧
      driverMachine.run start
        [.peer (.slot .critical 2 (stopReplyFrame MessageType.stopRefused 3)),
          .peer (.producer .critical 3), .controlEnter, .controlIterate] = some last ∧
      last.epoch = start.epoch ∧ last.driver.mailmsgState = .active ∧
      last.driver.stopReplyType = MessageType.stopRefused) ∧
    ∃ start last, driverMachine.run demoProbed demoStopReady = some start ∧
      start.driver.mailmsgState = .stopping ∧
      start.driver.stopReplyType = MessageType.stopReady ∧
      driverMachine.run start
        [.tick 7, .peer (.slot .critical 2 (stopReplyFrame MessageType.stopReady 3)),
          .peer (.producer .critical 3), .controlEnter, .controlIterate] = some last ∧
      last.epoch = start.epoch ∧
      last.driver.lifecycleDeadline = start.driver.lifecycleDeadline + 7 := by
  constructor
  · have checked : (driverMachine.run demoProbed demoStopReady).any (fun start =>
        start.driver.mailmsgState = .stopping ∧ start.driver.stopReplyType = MessageType.stopReady ∧
          (driverMachine.run start
            [.peer (.slot .critical 2 (stopReplyFrame MessageType.stopRefused 3)),
              .peer (.producer .critical 3), .controlEnter, .controlIterate]).any (fun last =>
            last.epoch = start.epoch ∧ last.driver.mailmsgState = .active ∧
              last.driver.stopReplyType = MessageType.stopRefused) = true) = true := by
      decide +kernel
    obtain ⟨start, began, passed⟩ := driverMachine.exists_of_run_any checked
    obtain ⟨stopping, accepted, later⟩ := of_decide_eq_true passed
    obtain ⟨last, executed, revoked⟩ := Machine.exists_of_run_any later
    exact ⟨start, last, began, stopping, accepted, executed, of_decide_eq_true revoked⟩
  · have checked : (driverMachine.run demoProbed demoStopReady).any (fun start =>
        start.driver.mailmsgState = .stopping ∧ start.driver.stopReplyType = MessageType.stopReady ∧
          (driverMachine.run start
            [.tick 7, .peer (.slot .critical 2 (stopReplyFrame MessageType.stopReady 3)),
              .peer (.producer .critical 3), .controlEnter, .controlIterate]).any (fun last =>
            last.epoch = start.epoch ∧
              last.driver.lifecycleDeadline = start.driver.lifecycleDeadline + 7) =
                true) = true := by
      decide +kernel
    obtain ⟨start, began, passed⟩ := driverMachine.exists_of_run_any checked
    obtain ⟨stopping, accepted, later⟩ := of_decide_eq_true passed
    obtain ⟨last, executed, moved⟩ := Machine.exists_of_run_any later
    exact ⟨start, last, began, stopping, accepted, executed, of_decide_eq_true moved⟩

/-! ### The deadline of the CPU_OFF phase

`control_work` and the watchdog both look at the deadline, but only the watchdog asks PSCI first.
The condition leaves the expired deadline to it.
-/

/-- The step is the entry of the control work. -/
def DriverLabel.entersControl : DriverLabel → Bool
  | .controlEnter => true
  | _ => false

/-- After STOP_READY the control work neither meets the expired deadline nor a damaged frame. -/
def DeadlineLeftToWork (system : System) (label : DriverLabel) : Prop :=
  system.driver.mailmsgState = .stopping → system.driver.stopReplyType = MessageType.stopReady →
    (label.entersControl = true → system.jiffies < system.driver.lifecycleDeadline) ∧
    (label.iteratesControl = true → system.damagedControl = false ∧
      (system.nextControl.isSome = true → system.jiffies < system.driver.lifecycleDeadline))

instance (system : System) (label : DriverLabel) : Decidable (DeadlineLeftToWork system label) :=
  inferInstanceAs (Decidable (_ → _ → (_ → _) ∧ (_ → _ ∧ (_ → _))))

/-- A stop request begins without a reply. -/
theorem stopStore_unreplied {system : System} {accepted : Bool} {count : Nat}
    (bound : system.driver.endpoint.BoundBy .linux) (active : system.driver.mailmsgState = .active)
    (stopping : (stopStore system accepted count).2.driver.mailmsgState = .stopping) :
    (stopStore system accepted count).2.driver.stopReplyType = 0#32 := by
  have unmoved : system.driver.mailmsgState ≠ .stopping := by simp [active]
  simp only [stopStore] at stopping ⊢
  split at stopping
  · exact absurd stopping unmoved
  · rename_i text
    rw [if_neg text]
    split at stopping
    · exact absurd stopping unmoved
    · rename_i online
      rw [if_neg online]
      split at stopping
      · exact absurd stopping unmoved
      · rename_i inactive
        rw [if_neg inactive]
        split at stopping
        · exact absurd stopping unmoved
        · rename_i passed
          rw [if_neg passed]
          have sent := linuxSend_effect system.stopping .critical
            MessageType.stopRequest none 0 bound
          have kept := congrArg Lifecycle.stopReplyType sent.data.lifecycle
          simp only [requestStop]
          split
          · exact kept
          · exact kept

/-- While STOPPING waits for CPU_OFF, its result is zero. -/
def ResultCleared (system : System) : Prop :=
  system.driver.mailmsgState = .stopping → system.driver.stopReplyType = MessageType.stopReady →
    system.driver.stopResult = 0

/-- STOPPING is entered only by a stop request, which has no reply yet. -/
theorem driverStep_enters_stopping {system next : System} {label : DriverLabel}
    (invariant : SessionInvariant system) (taken : driverStep system label = some next)
    (outside : system.driver.mailmsgState.halting = false)
    (stopping : next.driver.mailmsgState = .stopping) : next.driver.stopReplyType = 0#32 := by
  have notStopping : system.driver.mailmsgState ≠ .stopping := by
    intro already
    simp [already, SessionState.halting] at outside
  cases driverStep_lifecycle invariant.bound invariant.control taken with
  | quiet session state =>
      rw [state] at stopping
      exact absurd stopping notStopping
  | offline session answer poweredOn seenOn watched state =>
      rw [state] at stopping
      cases stopping
  | startTimeout session expired starting state =>
      rw [state] at stopping
      cases stopping
  | stopTimeout session expired already => exact absurd already notStopping
  | ready response ready =>
      rw [ready.active] at stopping
      cases stopping
  | refused response refused => exact absurd refused.stopping notStopping
  | stop issued =>
      obtain ⟨count, rfl⟩ := issued.label
      have executed := taken
      simp only [driverStep] at executed
      split at executed
      · cases executed
        exact stopStore_unreplied invariant.bound issued.active stopping
      · cases executed
  | launched cpuOn launched =>
      rw [launched.state] at stopping
      split at stopping <;> cases stopping
  | rearmed rearmed =>
      rw [rearmed.state] at stopping
      cases stopping

/-- The accepted reply clears the result, and no step of such a run writes another one while the
session is STOPPING. -/
theorem ResultCleared.step {system next : System} {label : DriverLabel}
    (invariant : SessionInvariant system) (cleared : ResultCleared system)
    (left : DeadlineLeftToWork system label) (taken : driverStep system label = some next) :
    ResultCleared next := by
  intro stopping reply
  cases halting : system.driver.mailmsgState.halting with
  | false =>
      have unreplied := driverStep_enters_stopping invariant taken halting stopping
      rw [unreplied] at reply
      exact absurd reply (by decide)
  | true =>
      cases driverStep_stopStep invariant halting taken with
      | same state record epoch unasked =>
          have sameReply : next.driver.stopReplyType = system.driver.stopReplyType :=
            congrArg Prod.fst record
          have sameResult : next.driver.stopResult = system.driver.stopResult :=
            congrArg (fun entry => entry.2.1) record
          rw [sameResult]
          exact cleared (state ▸ stopping) (sameReply ▸ reply)
      | offline answer state =>
          rw [state] at stopping
          cases stopping
      | timedOut already expired cause state =>
          rw [state] at stopping
          cases stopping
      | damaged iterates already met state sameReply =>
          have clean := (left already (sameReply ▸ reply)).2 (by rw [iterates]; rfl)
          rw [clean.1] at met
          cases met
      | replied iterates met outcome =>
          rcases outcome with active | ⟨-, result⟩
          · rw [active] at stopping
            cases stopping
          · exact result
      | rearmed rearms state =>
          rw [state] at stopping
          cases stopping

/-- In every run whose deadline is left to the watchdog. -/
theorem ResultCleared.reachable {system : System}
    (reached : (driverMachine.restrict DeadlineLeftToWork).Reachable system) :
    ResultCleared system := by
  induction reached with
  | init start =>
      obtain ⟨config, image, hardware, jiffies, rfl⟩ := start
      intro stopping
      cases stopping
  | step earlier taken inductionHypothesis =>
      obtain ⟨left, stepped⟩ := Machine.restrict_step_iff.mp taken
      exact inductionHypothesis.step (SessionInvariant.reachable earlier.of_restrict) left stepped

/-- For every run in which the control work leaves the expired deadline of an accepted STOP_READY to
the timeout work and meets no damaged frame before it: STOPPING times out only after a PSCI query in
the same critical section, at or after the deadline, did not answer OFF, and a CPU3 that is off when
the deadline is looked at ends the session without an error. -/
theorem stop_timeouts_agree {system next : System} {label : DriverLabel}
    (reached : (driverMachine.restrict DeadlineLeftToWork).Reachable system)
    (taken : (driverMachine.restrict DeadlineLeftToWork).step system label = some next)
    (stopping : system.driver.mailmsgState = .stopping)
    (accepted : system.driver.stopReplyType = MessageType.stopReady) :
    (next.driver.mailmsgState = .stopTimeout →
      ∃ answer, label = .lifecycleTimeoutWork answer ∧ answer ≠ affinityOff ∧
        system.driver.lifecycleDeadline ≤ system.jiffies) ∧
    (label = .lifecycleTimeoutWork affinityOff → system.driver.lifecycleDeadline ≤ system.jiffies →
      next.driver.mailmsgState = .offline ∧ next.driver.stopResult = 0) := by
  obtain ⟨left, stepped⟩ := Machine.restrict_step_iff.mp taken
  have invariant := SessionInvariant.reachable reached.of_restrict
  have session := invariant.session (by simp [stopping])
  obtain ⟨seenOn, -⟩ := invariant.announced (by simp [stopping, SessionState.announced])
  have cleared := ResultCleared.reachable reached stopping accepted
  have halting : system.driver.mailmsgState.halting = true := by
    rw [stopping]
    rfl
  cases driverStep_stopStep invariant halting stepped with
  | same state record epoch unasked =>
      constructor
      · intro timedOut
        rw [state, stopping] at timedOut
        cases timedOut
      · intro isWork expired
        exact absurd isWork (unasked stopping accepted expired affinityOff)
  | offline answer state record epoch =>
      constructor
      · intro timedOut
        rw [state] at timedOut
        cases timedOut
      · intro _ _
        exact ⟨state, (congrArg (fun entry => entry.2.1) record).trans cleared⟩
  | timedOut _ expired cause state reply deadline epoch =>
      cases cause with
      | control =>
          have early := (left stopping accepted).1 rfl
          exact absurd expired (Nat.not_le.mpr early)
      | frame met =>
          have early := ((left stopping accepted).2 rfl).2 met
          exact absurd expired (Nat.not_le.mpr early)
      | work answer asked =>
          have notOff := asked accepted seenOn session.cpuOnRet
          constructor
          · intro _
            exact ⟨answer, rfl, notOff, expired⟩
          · intro isOff
            cases isOff
            exact absurd rfl notOff
  | damaged iterates _ met =>
      have clean := (left stopping accepted).2 (by rw [iterates]; rfl)
      rw [clean.1] at met
      cases met
  | replied iterates met outcome epoch =>
      constructor
      · intro timedOut
        rcases outcome with state | ⟨state, -⟩
        · rw [state] at timedOut
          cases timedOut
        · rw [state] at timedOut
          cases timedOut
      · intro isWork
        rw [iterates] at isWork
        cases isWork
  | rearmed rearms state epoch =>
      obtain ⟨count, isRearm⟩ := rearms
      constructor
      · intro timedOut
        rw [state] at timedOut
        cases timedOut
      · intro isWork
        rw [isRearm] at isWork
        cases isWork

/-- The theorem at a CPU3 that is off when the timeout work looks at the deadline. -/
theorem stop_timeouts_agree_demo :
    ∃ system next,
      (driverMachine.restrict DeadlineLeftToWork).run demoProbed (demoStopReady ++ [.tick 1500]) =
        some system ∧
      (driverMachine.restrict DeadlineLeftToWork).step system (.lifecycleTimeoutWork affinityOff) =
        some next ∧
      next.driver.mailmsgState = .offline ∧ next.driver.stopResult = 0 := by
  have checked : ((driverMachine.restrict DeadlineLeftToWork).run demoProbed
      (demoStopReady ++ [.tick 1500])).any (fun system =>
        system.driver.mailmsgState = .stopping ∧
          system.driver.stopReplyType = MessageType.stopReady ∧
          system.driver.lifecycleDeadline ≤ system.jiffies ∧
          ((driverMachine.restrict DeadlineLeftToWork).run system
            [.lifecycleTimeoutWork affinityOff]).isSome) = true := by
    decide +kernel
  obtain ⟨system, executed, passed⟩ := Machine.exists_of_run_any checked
  obtain ⟨stopping, accepted, expired, enabled⟩ := of_decide_eq_true passed
  obtain ⟨next, ran⟩ := Option.isSome_iff_exists.mp enabled
  have taken : (driverMachine.restrict DeadlineLeftToWork).step system
      (.lifecycleTimeoutWork affinityOff) = some next := by
    simp only [Machine.run] at ran
    split at ran
    · cases ran
    · rename_i stepped
      cases ran
      exact stepped
  have start : (driverMachine.restrict DeadlineLeftToWork).Reachable demoProbed :=
    .init demoProbed_init
  have agreed := stop_timeouts_agree (start.run executed) taken stopping accepted
  exact ⟨system, next, executed, taken, agreed.2 rfl expired⟩

/-- The control work does not ask PSCI: from the same state, at the deadline, it reports a timeout
where the timeout work finds CPU3 off and ends the session with result 0. -/
theorem control_work_reports_timeout_unasked :
    ∃ system unasked asked, driverMachine.run demoProbed
      (demoStopReady ++ [.tick 1500]) = some system ∧
      system.driver.mailmsgState = .stopping ∧
      system.driver.stopReplyType = MessageType.stopReady ∧ system.driver.affinitySeenOn = true ∧
      driverMachine.run system [.controlEnter] = some unasked ∧
      unasked.driver.mailmsgState = .stopTimeout ∧ unasked.driver.stopResult = -Errno.timedout ∧
      unasked.driver.affinityQueried = system.driver.affinityQueried ∧
      DriverLabel.controlEnter.affinityAnswer = none ∧
      driverMachine.run system [.lifecycleTimeoutWork affinityOff] = some asked ∧
      asked.driver.mailmsgState = .offline ∧ asked.driver.stopResult = 0 := by
  have checked : (driverMachine.run demoProbed (demoStopReady ++ [.tick 1500])).any (fun system =>
      system.driver.mailmsgState = .stopping ∧ system.driver.stopReplyType = MessageType.stopReady ∧
        system.driver.affinitySeenOn = true ∧
        (driverMachine.run system [.controlEnter]).any (fun unasked =>
          unasked.driver.mailmsgState = .stopTimeout ∧ unasked.driver.stopResult = -Errno.timedout ∧
            unasked.driver.affinityQueried = system.driver.affinityQueried) = true ∧
        (driverMachine.run system [.lifecycleTimeoutWork affinityOff]).any (fun asked =>
          asked.driver.mailmsgState = .offline ∧ asked.driver.stopResult = 0) = true) = true := by
    decide +kernel
  obtain ⟨system, executed, passed⟩ := driverMachine.exists_of_run_any checked
  obtain ⟨stopping, accepted, seenOn, control, work⟩ := of_decide_eq_true passed
  obtain ⟨unasked, ranControl, timedOut⟩ := Machine.exists_of_run_any control
  obtain ⟨asked, ranWork, ended⟩ := Machine.exists_of_run_any work
  obtain ⟨state, result, queried⟩ := of_decide_eq_true timedOut
  obtain ⟨isOffline, clean⟩ := of_decide_eq_true ended
  exact ⟨system, unasked, asked, executed, stopping, accepted, seenOn, ranControl, state,
    result, queried, rfl, ranWork, isOffline, clean⟩

end MailMsg
