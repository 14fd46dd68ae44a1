/-
Module: MailMsg.Driver.Transitions
Purpose: The edges of the lifecycle, and which of them the lifecycle operations of the driver can
  take.
Source: LZAMP/linux/drivers/lzamp_amp_mailmsg.c
Trusted boundary: none
Main exports: SameSession, LifecycleStep, SameIdentity, startStore_cases, rearmStore_cases,
  requestStop_spec
-/
import MailMsg.Driver.Effects

namespace MailMsg

/-! ### Kinds of steps

`LifecycleStep` has a constructor for each edge of the lifecycle and one for steps that stay where
they are.  It names the guard of the edge and what else the edge writes.
-/

/-- The PSCI AFFINITY_INFO answer that a step carries, if it may ask for one. -/
def DriverLabel.affinityAnswer : DriverLabel → Option Int
  | .affinityWork affinity => some affinity
  | .lifecycleTimeoutWork affinity => some affinity
  | .affinityState affinity => some affinity
  | .start _ _ affinity _ => some affinity
  | .rearm _ _ affinity => some affinity
  | _ => none

/-- The identity of the session: what only start, rearm, stop and the lifecycle replies write. -/
structure SameSession (before after : System) : Prop where
  config : after.config = before.config
  attempted : after.driver.cpuOnAttempted = before.driver.cpuOnAttempted
  cpuOnRet : after.driver.cpuOnRet = before.driver.cpuOnRet
  sessionGeneration : after.driver.sessionGeneration = before.driver.sessionGeneration
  peerGeneration : after.driver.peerGeneration = before.driver.peerGeneration
  stopRequestSequence : after.driver.stopRequestSequence = before.driver.stopRequestSequence
  role : after.driver.endpoint.role = before.driver.endpoint.role
  generation : after.driver.endpoint.generation = before.driver.endpoint.generation
  magic : after.hardware.shared.magic = before.hardware.shared.magic
  version : after.hardware.shared.version = before.hardware.shared.version
  header : after.hardware.shared.generation = before.hardware.shared.generation
  epoch : after.epoch = before.epoch

/-- `affinity_seen_on` is only ever set by an ON or ON_PENDING answer. -/
def SeenStep (before : System) (label : DriverLabel) (after : System) : Prop :=
  after.driver.affinitySeenOn = before.driver.affinitySeenOn ∨
    after.driver.affinitySeenOn = true ∧
      (label.affinityAnswer = some affinityOn ∨ label.affinityAnswer = some affinityOnPending)

/-- A frame that `control_work` consumed as good: it passed pop's commit, range and CRC checks and
carries the endpoint's generation, and the deadline was not reached when it was looked at. -/
structure ControlFrame (before : System) (response : Message) : Prop where
  popped : ∃ ring, ringPop (before.hardware.shared.cpu3ToLinux .critical) =
    (.ok, ring, some response)
  generation : response.generation = before.driver.endpoint.generation
  inTime : before.jiffies < before.driver.lifecycleDeadline

/-- STARTING became ACTIVE. -/
structure ReadyAccepted (before : System) (label : DriverLabel) (after : System)
    (response : Message) : Prop where
  label : label = .controlIterate
  frame : ControlFrame before response
  accepted : sessionReadyAccepted before.driver response = true
  starting : before.driver.mailmsgState = .starting
  active : after.driver.mailmsgState = .active
  seenOn : after.driver.affinitySeenOn = true
  peerGeneration : after.driver.peerGeneration = before.driver.sessionGeneration
  session : SameSession before
    { after with driver := { after.driver with peerGeneration := before.driver.peerGeneration } }

/-- STOPPING became ACTIVE again. -/
structure RefusalAccepted (before : System) (label : DriverLabel) (after : System)
    (response : Message) : Prop where
  label : label = .controlIterate
  frame : ControlFrame before response
  accepted : stopReplyAccepted before.driver response = true
  refused : response.type = MessageType.stopRefused
  stopping : before.driver.mailmsgState = .stopping
  active : after.driver.mailmsgState = .active
  seenOn : after.driver.affinitySeenOn = before.driver.affinitySeenOn
  session : SameSession before after

/-- `mailmsg_stop_store` passed its preflight; the request is queued, or the send failed and ACTIVE
stays. -/
structure StopIssued (before : System) (label : DriverLabel) (after : System) : Prop where
  label : ∃ count, label = .stop true count
  active : before.driver.mailmsgState = .active
  noFiles : before.driver.userOpenCount = 0
  state : after.driver.mailmsgState = .stopping ∨ after.driver.mailmsgState = .active
  seenOn : after.driver.affinitySeenOn = before.driver.affinitySeenOn
  session : SameSession before
    { after with
      driver := { after.driver with stopRequestSequence := before.driver.stopRequestSequence } }

/-- `start_store` initialised the region and called CPU_ON. -/
structure Launched (before : System) (label : DriverLabel) (after : System)
    (cpuOn : Int) : Prop where
  label : ∃ count, label = .start true count affinityOff cpuOn
  notAttempted : before.driver.cpuOnAttempted = false
  config : after.config = before.config
  loaded : before.driver.imageWritten = before.config.imageSize
  attempted : after.driver.cpuOnAttempted = true
  cpuOnRet : after.driver.cpuOnRet = cpuOn
  state : after.driver.mailmsgState = if cpuOn = 0 then .starting else .unarmed
  monitored : cpuOn = 0 → after.driver.affinityQueued = true ∧
    after.driver.lifecycleTimeoutQueued = true
  seenOn : after.driver.affinitySeenOn = false
  sessionGeneration : after.driver.sessionGeneration = nextNonzero before.driver.sessionGeneration
  role : after.driver.endpoint.role = some .linux
  generation : after.driver.endpoint.generation = after.driver.sessionGeneration
  region : after.hardware.shared = sessionRegion after.driver.sessionGeneration
  a2b : after.hardware.a2b = before.hardware.a2b
  image : after.driver.image = before.driver.image
  imageMemory : after.driver.imageMemory = before.driver.imageMemory
  imageWritten : after.driver.imageWritten = before.driver.imageWritten
  epoch : after.epoch = before.epoch + 1
  peerWrites : after.peerWrites = []
  lock : after.lock = before.lock
  counts : after.driver.toUserCounts = before.driver.toUserCounts
  files : after.files = before.files
  nextFile : after.nextFile = before.nextFile

/-- `rearm_store` succeeded. -/
structure Rearmed (before : System) (label : DriverLabel) (after : System) : Prop where
  label : ∃ count, label = .rearm true count affinityOff ∧
    (rearmStore before true count affinityOff).1 = count
  wasAttempted : before.driver.cpuOnAttempted = true
  noFiles : before.driver.userOpenCount = 0
  quiet : before.hardware.a2b.anyPending = false
  config : after.config = before.config
  attempted : after.driver.cpuOnAttempted = false
  state : after.driver.mailmsgState = .unarmed
  seenOn : after.driver.affinitySeenOn = false
  sessionGeneration : after.driver.sessionGeneration = before.driver.sessionGeneration
  unbound : after.driver.endpoint.role = none
  hardware : after.hardware = before.hardware
  epoch : after.epoch = before.epoch + 1

/-- Everything that one step can do to the lifecycle. -/
inductive LifecycleStep (before : System) (label : DriverLabel) (after : System) : Prop where
  | quiet (session : SameSession before after)
      (state : after.driver.mailmsgState = before.driver.mailmsgState)
      (seen : SeenStep before label after)
  | offline (session : SameSession before after) (answer : label.affinityAnswer = some affinityOff)
      (poweredOn : before.driver.cpuOnRet = 0) (seenOn : before.driver.affinitySeenOn = true)
      (watched : before.driver.mailmsgState.watched = true)
      (state : after.driver.mailmsgState = .offline)
      (stillSeen : after.driver.affinitySeenOn = true)
  | startTimeout (session : SameSession before after)
      (expired : before.driver.lifecycleDeadline ≤ before.jiffies)
      (starting : before.driver.mailmsgState = .starting)
      (state : after.driver.mailmsgState = .startTimeout) (seen : SeenStep before label after)
  | stopTimeout (session : SameSession before after)
      (expired : before.driver.lifecycleDeadline ≤ before.jiffies)
      (stopping : before.driver.mailmsgState = .stopping)
      (state : after.driver.mailmsgState = .stopTimeout) (seen : SeenStep before label after)
  | ready (response : Message) (ready : ReadyAccepted before label after response)
  | refused (response : Message) (refused : RefusalAccepted before label after response)
  | stop (issued : StopIssued before label after)
  | launched (cpuOn : Int) (launched : Launched before label after cpuOn)
  | rearmed (rearmed : Rearmed before label after)

/-- The configuration never changes. -/
theorem LifecycleStep.sameConfig {system next : System} {label : DriverLabel}
    (step : LifecycleStep system label next) : next.config = system.config := by
  cases step with
  | quiet session state seen => exact session.config
  | offline session answer poweredOn seenOn watched state stillSeen => exact session.config
  | startTimeout session expired starting state seen => exact session.config
  | stopTimeout session expired stopping state seen => exact session.config
  | ready response ready => exact ready.session.config
  | refused response refused => exact refused.session.config
  | stop issued => exact issued.session.config
  | launched cpuOn launched => exact launched.config
  | rearmed rearmed => exact rearmed.config

namespace SameSession

/-- Nothing happened. -/
theorem refl (system : System) : SameSession system system :=
  ⟨rfl, rfl, rfl, rfl, rfl, rfl, rfl, rfl, rfl, rfl, rfl, rfl⟩

/-- The data plane does not touch the session. -/
theorem of_data {before after : System} (step : DataStep before after) :
    SameSession before after where
  config := step.config
  attempted := congrArg Lifecycle.cpuOnAttempted step.lifecycle
  cpuOnRet := congrArg Lifecycle.cpuOnRet step.lifecycle
  sessionGeneration := congrArg Lifecycle.sessionGeneration step.lifecycle
  peerGeneration := congrArg Lifecycle.peerGeneration step.lifecycle
  stopRequestSequence := congrArg Lifecycle.stopRequestSequence step.lifecycle
  role := step.role
  generation := step.generation
  magic := step.magic
  version := step.version
  header := step.header
  epoch := step.epoch

end SameSession

/-- A data-plane step leaves the lifecycle alone. -/
theorem LifecycleStep.of_data {before after : System} (step : DataStep before after)
    (label : DriverLabel) : LifecycleStep before label after :=
  .quiet (.of_data step) (congrArg Lifecycle.mailmsgState step.lifecycle)
    (.inl (congrArg Lifecycle.affinitySeenOn step.lifecycle))

/-! ### Affinity queries -/

/-- An answer that shows CPU3 on its way up or running. -/
def answersOn (answer : Int) : Bool := answer == affinityOn || answer == affinityOnPending

/-- The driver after an affinity query that does not end the session. -/
def Driver.watching (driver : Driver) (answer : Int) : Driver :=
  { driver with
    affinityState := answer
    affinityQueried := true
    affinitySeenOn := driver.affinitySeenOn || answersOn answer }

/-- Both outcomes of an affinity query. -/
theorem refreshAffinityLocked_cases (driver : Driver) (answer : Int) :
    (refreshAffinityLocked driver answer = driver.watching answer) ∨
      (answer = affinityOff ∧ driver.cpuOnRet = 0 ∧ driver.affinitySeenOn = true ∧
        driver.mailmsgState.watched = true ∧
        refreshAffinityLocked driver answer =
          Driver.wakeReaders
            { driver.watching answer with
              mailmsgState := .offline, lifecycleTimeoutQueued := false }) := by
  by_cases off : answer = affinityOff
  · subst off
    have notOn : answersOn affinityOff = false := by decide
    have plain : ¬ (affinityOff = affinityOn ∨ affinityOff = affinityOnPending) := by decide
    by_cases ended : driver.cpuOnRet = 0 ∧ driver.affinitySeenOn = true
    · by_cases watched : driver.mailmsgState.watched = true
      · exact .inr ⟨rfl, ended.1, ended.2, watched, by
          simp [refreshAffinityLocked, plain, ended.1, ended.2, markOfflineLocked, watched,
            Driver.watching]⟩
      · exact .inl (by
          simp [refreshAffinityLocked, plain, ended.1, ended.2, markOfflineLocked, watched,
            Driver.watching])
    · refine .inl ?_
      simp only [refreshAffinityLocked, plain, if_false, and_true, if_neg ended,
        Driver.watching, notOn, Bool.or_false]
  · refine .inl ?_
    by_cases isOn : answer = affinityOn ∨ answer = affinityOnPending
    · have value : answersOn answer = true := by simpa [answersOn] using isOn
      simp [refreshAffinityLocked, isOn, off, Driver.watching, value]
    · have value : answersOn answer = false := by simpa [answersOn] using isOn
      simp [refreshAffinityLocked, isOn, off, Driver.watching, value]

/-- The answer is remembered. -/
theorem refreshAffinityLocked_affinityState (driver : Driver) (answer : Int) :
    (refreshAffinityLocked driver answer).affinityState = answer := by
  rcases refreshAffinityLocked_cases driver answer with value | ⟨-, -, -, -, value⟩
  · rw [value]
    rfl
  · rw [value]
    rfl

/-- Recording an answer of ON or ON_PENDING. -/
theorem seenStep_watching {before after : System} {label : DriverLabel} {answer : Int}
    (asked : label.affinityAnswer = some answer)
    (value : after.driver.affinitySeenOn = (before.driver.affinitySeenOn || answersOn answer)) :
    SeenStep before label after := by
  by_cases isOn : answersOn answer
  · right
    refine ⟨by rw [value, isOn, Bool.or_true], ?_⟩
    have either : answer = affinityOn ∨ answer = affinityOnPending := by
      simpa [answersOn] using isOn
    rcases either with rfl | rfl
    · exact .inl asked
    · exact .inr asked
  · left
    rw [value, Bool.not_eq_true _ |>.mp isOn, Bool.or_false]

/-- A step that asks PSCI, does with the driver what an affinity query does, and otherwise touches
only fields outside the session. -/
theorem LifecycleStep.of_refresh {before after : System} {label : DriverLabel} {answer : Int}
    (asked : Driver) (carried : label.affinityAnswer = some answer)
    (cpuOnRet : asked.cpuOnRet = before.driver.cpuOnRet)
    (seenOn : asked.affinitySeenOn = before.driver.affinitySeenOn)
    (state : asked.mailmsgState = before.driver.mailmsgState)
    (session : SameSession before after)
    (stateAfter : after.driver.mailmsgState = (refreshAffinityLocked asked answer).mailmsgState)
    (seenAfter : after.driver.affinitySeenOn = (refreshAffinityLocked asked answer).affinitySeenOn) :
    LifecycleStep before label after := by
  rcases refreshAffinityLocked_cases asked answer with same | ⟨rfl, poweredOn, seen, watched, same⟩
  · rw [same] at stateAfter seenAfter
    refine .quiet session (stateAfter.trans state) (seenStep_watching carried ?_)
    rw [seenAfter, ← seenOn]
    rfl
  · rw [same] at stateAfter seenAfter
    refine .offline session carried (cpuOnRet ▸ poweredOn) (seenOn ▸ seen) (state ▸ watched)
      stateAfter ?_
    rw [seenAfter]
    simp [Driver.wakeReaders, Driver.watching, seen]

/-- An affinity query keeps the session. -/
structure SameIdentity (before after : Driver) : Prop where
  attempted : after.cpuOnAttempted = before.cpuOnAttempted
  cpuOnRet : after.cpuOnRet = before.cpuOnRet
  sessionGeneration : after.sessionGeneration = before.sessionGeneration
  peerGeneration : after.peerGeneration = before.peerGeneration
  stopRequestSequence : after.stopRequestSequence = before.stopRequestSequence
  endpoint : after.endpoint = before.endpoint
  imageWritten : after.imageWritten = before.imageWritten
  image : after.image = before.image
  imageMemory : after.imageMemory = before.imageMemory
  counts : after.toUserCounts = before.toUserCounts

/-- Nothing happened. -/
theorem SameIdentity.refl (driver : Driver) : SameIdentity driver driver :=
  ⟨rfl, rfl, rfl, rfl, rfl, rfl, rfl, rfl, rfl, rfl⟩

/-- One record after the other. -/
theorem SameIdentity.trans {first second third : Driver} (earlier : SameIdentity first second)
    (later : SameIdentity second third) : SameIdentity first third where
  attempted := later.attempted.trans earlier.attempted
  cpuOnRet := later.cpuOnRet.trans earlier.cpuOnRet
  sessionGeneration := later.sessionGeneration.trans earlier.sessionGeneration
  peerGeneration := later.peerGeneration.trans earlier.peerGeneration
  stopRequestSequence := later.stopRequestSequence.trans earlier.stopRequestSequence
  endpoint := later.endpoint.trans earlier.endpoint
  imageWritten := later.imageWritten.trans earlier.imageWritten
  image := later.image.trans earlier.image
  imageMemory := later.imageMemory.trans earlier.imageMemory
  counts := later.counts.trans earlier.counts

/-- Which work items are queued is not part of it. -/
theorem SameIdentity.requeue {before after : Driver} (same : SameIdentity before after)
    (queue : WorkQueue) : SameIdentity before { after with toWorkQueue := queue } :=
  ⟨same.attempted, same.cpuOnRet, same.sessionGeneration, same.peerGeneration,
    same.stopRequestSequence, same.endpoint, same.imageWritten, same.image, same.imageMemory,
    same.counts⟩

/-- Recording an answer of PSCI keeps the identity, whatever the answer moves. -/
theorem refreshAffinityLocked_identity (driver : Driver) (answer : Int) :
    SameIdentity driver (refreshAffinityLocked driver answer) := by
  rcases refreshAffinityLocked_cases driver answer with same | ⟨-, -, -, -, same⟩
  · rw [same]
    exact ⟨rfl, rfl, rfl, rfl, rfl, rfl, rfl, rfl, rfl, rfl⟩
  · rw [same]
    exact ⟨rfl, rfl, rfl, rfl, rfl, rfl, rfl, rfl, rfl, rfl⟩

/-- The identity includes the session. -/
theorem SameSession.of_identity {before : System} {driver : Driver}
    (same : SameIdentity before.driver driver) :
    SameSession before { before with driver := driver } where
  config := rfl
  attempted := same.attempted
  cpuOnRet := same.cpuOnRet
  sessionGeneration := same.sessionGeneration
  peerGeneration := same.peerGeneration
  stopRequestSequence := same.stopRequestSequence
  role := congrArg Endpoint.role same.endpoint
  generation := congrArg Endpoint.generation same.endpoint
  magic := rfl
  version := rfl
  header := rfl
  epoch := rfl

/-- A query from user space may find CPU3 off. -/
theorem affinityState_lifecycle (system : System) (answer : Int) :
    LifecycleStep system (.affinityState answer) (affinityStateShow system answer).2 := by
  simp only [affinityStateShow]
  split
  · exact .of_data (.refl system) _
  · exact .of_refresh system.driver rfl rfl rfl rfl
      (.of_identity (refreshAffinityLocked_identity _ _)) rfl rfl

/-- The sampler may find CPU3 off. -/
theorem affinityWork_lifecycle (system : System) (answer : Int) :
    LifecycleStep system (.affinityWork answer) (affinityWork system answer) := by
  simp only [affinityWork]
  split
  · exact .of_data (.refl system) _
  · have same := refreshAffinityLocked_identity
      { system.driver with affinityMonitorCount := system.driver.affinityMonitorCount + 1 } answer
    refine .of_refresh
      { system.driver with affinityMonitorCount := system.driver.affinityMonitorCount + 1 }
      rfl rfl rfl rfl (.of_identity ?_) ?_ ?_
    · split
      · exact ⟨same.attempted, same.cpuOnRet, same.sessionGeneration, same.peerGeneration,
          same.stopRequestSequence, same.endpoint, same.imageWritten, same.image, same.imageMemory,
    same.counts⟩
      · exact ⟨same.attempted, same.cpuOnRet, same.sessionGeneration, same.peerGeneration,
          same.stopRequestSequence, same.endpoint, same.imageWritten, same.image, same.imageMemory,
    same.counts⟩
    · split <;> rfl
    · split <;> rfl

/-! ### Timeouts and lifecycle replies -/

/-- A timeout is a record. -/
theorem setTimeoutLocked_identity (driver : Driver) :
    SameIdentity driver (setTimeoutLocked driver) := by
  unfold setTimeoutLocked Driver.wakeReaders
  cases driver.mailmsgState <;> exact ⟨rfl, rfl, rfl, rfl, rfl, rfl, rfl, rfl, rfl, rfl⟩

@[simp] theorem setTimeoutLocked_seenOn (driver : Driver) :
    (setTimeoutLocked driver).affinitySeenOn = driver.affinitySeenOn := by
  unfold setTimeoutLocked Driver.wakeReaders
  cases driver.mailmsgState <;> rfl

/-- STARTING ends in START_TIMEOUT. -/
theorem setTimeoutLocked_starting {driver : Driver} (starting : driver.mailmsgState = .starting) :
    (setTimeoutLocked driver).mailmsgState = .startTimeout := by
  simp [setTimeoutLocked, starting, Driver.wakeReaders]

/-- STOPPING ends in STOP_TIMEOUT. -/
theorem setTimeoutLocked_stopping {driver : Driver} (stopping : driver.mailmsgState = .stopping) :
    (setTimeoutLocked driver).mailmsgState = .stopTimeout := by
  simp [setTimeoutLocked, stopping, Driver.wakeReaders]

/-- A step that times the pending reply out. -/
theorem LifecycleStep.of_timeout {before after : System} {label : DriverLabel} (asked : Driver)
    (pending : before.driver.mailmsgState.pendingReply = true)
    (expired : before.driver.lifecycleDeadline ≤ before.jiffies)
    (state : asked.mailmsgState = before.driver.mailmsgState) (session : SameSession before after)
    (stateAfter : after.driver.mailmsgState = (setTimeoutLocked asked).mailmsgState)
    (seen : SeenStep before label after) : LifecycleStep before label after := by
  cases current : before.driver.mailmsgState with
  | starting =>
      rw [current] at state
      exact .startTimeout session expired current
        (stateAfter.trans (setTimeoutLocked_starting state)) seen
  | stopping =>
      rw [current] at state
      exact .stopTimeout session expired current
        (stateAfter.trans (setTimeoutLocked_stopping state)) seen
  | unarmed | startTimeout | active | stopTimeout | offline =>
      simp [current, SessionState.pendingReply] at pending

/-- The head of `control_work` may find the deadline past. -/
theorem controlEnter_lifecycle (system : System) :
    LifecycleStep system .controlEnter (controlEnter system) := by
  simp only [controlEnter]
  split
  · exact .of_data (.refl system) _
  · rename_i pending
    split
    · rename_i expired
      have same := setTimeoutLocked_identity system.driver
      refine .of_timeout system.driver (not_not.mp pending) expired rfl (.of_identity ?_) rfl
        (.inl (setTimeoutLocked_seenOn _))
      exact same.requeue _
    · exact .quiet ⟨rfl, rfl, rfl, rfl, rfl, rfl, rfl, rfl, rfl, rfl, rfl, rfl⟩ rfl (.inl rfl)

/-- The watchdog may find CPU3 off or the deadline past. -/
theorem lifecycleTimeoutWork_lifecycle (system : System) (answer : Int) :
    LifecycleStep system (.lifecycleTimeoutWork answer) (lifecycleTimeoutWork system answer) := by
  simp only [lifecycleTimeoutWork]
  split
  · exact .of_data (.refl system) _
  · rename_i pending
    split
    · exact .quiet ⟨rfl, rfl, rfl, rfl, rfl, rfl, rfl, rfl, rfl, rfl, rfl, rfl⟩ rfl (.inl rfl)
    · rename_i late
      have expired : system.driver.lifecycleDeadline ≤ system.jiffies := Nat.le_of_not_lt late
      split
      · have refreshed := refreshAffinityLocked_identity system.driver answer
        split
        · exact .of_refresh system.driver rfl rfl rfl rfl (.of_identity refreshed) rfl rfl
        · rename_i running
          -- The query did not end the session, so the state is still the pending one.
          rcases refreshAffinityLocked_cases system.driver answer with same | ⟨-, -, -, -, same⟩
          · have timed := setTimeoutLocked_identity (refreshAffinityLocked system.driver answer)
            refine .of_timeout (refreshAffinityLocked system.driver answer) (not_not.mp pending)
              expired (by rw [same]; rfl) (.of_identity ?_) rfl (seenStep_watching rfl ?_)
            · exact refreshed.trans timed
            · rw [setTimeoutLocked_seenOn, same]
              rfl
          · rw [same] at running
            exact absurd rfl running
      · exact .of_timeout system.driver (not_not.mp pending) expired rfl
          (.of_identity (setTimeoutLocked_identity _)) rfl (.inl (setTimeoutLocked_seenOn _))

/-- The session after a receive and a change of the driver that keeps its identity. -/
theorem SameSession.then_driver {before middle : System} (step : DataStep before middle)
    {driver : Driver} (same : SameIdentity middle.driver driver) (lock : LockOwner) :
    SameSession before { middle with driver := driver, lock := lock } where
  config := step.config
  attempted := same.attempted.trans (congrArg Lifecycle.cpuOnAttempted step.lifecycle)
  cpuOnRet := same.cpuOnRet.trans (congrArg Lifecycle.cpuOnRet step.lifecycle)
  sessionGeneration := same.sessionGeneration.trans
    (congrArg Lifecycle.sessionGeneration step.lifecycle)
  peerGeneration := same.peerGeneration.trans (congrArg Lifecycle.peerGeneration step.lifecycle)
  stopRequestSequence :=
    same.stopRequestSequence.trans (congrArg Lifecycle.stopRequestSequence step.lifecycle)
  role := (congrArg Endpoint.role same.endpoint).trans step.role
  generation := (congrArg Endpoint.generation same.endpoint).trans step.generation
  magic := step.magic
  version := step.version
  header := step.header
  epoch := step.epoch

/-- A reply that is accepted is SESSION_READY or an answer to the stop; every other one moves
nothing. -/
theorem controlResponse_lifecycle {before system : System} (step : DataStep before system)
    {response : Message} (frame : ControlFrame before response)
    (pending : before.driver.mailmsgState.pendingReply = true) :
    LifecycleStep before .controlIterate (controlResponse system response) := by
  have state : system.driver.mailmsgState = before.driver.mailmsgState :=
    congrArg Lifecycle.mailmsgState step.lifecycle
  have seen : system.driver.affinitySeenOn = before.driver.affinitySeenOn :=
    congrArg Lifecycle.affinitySeenOn step.lifecycle
  have generation : system.driver.sessionGeneration = before.driver.sessionGeneration :=
    congrArg Lifecycle.sessionGeneration step.lifecycle
  have stopSequence : system.driver.stopRequestSequence = before.driver.stopRequestSequence :=
    congrArg Lifecycle.stopRequestSequence step.lifecycle
  have same := SameSession.of_data step
  simp only [controlResponse]
  split
  · rename_i starting
    split
    · exact .of_data step _
    · rename_i accepted
      refine .ready response ⟨rfl, frame, ?_, state ▸ starting, rfl, rfl, generation, ?_⟩
      · have value : sessionReadyAccepted system.driver response =
            sessionReadyAccepted before.driver response := by
          simp only [sessionReadyAccepted, generation]
        exact value ▸ not_not.mp accepted
      · exact ⟨same.config, same.attempted, same.cpuOnRet, same.sessionGeneration, rfl,
          same.stopRequestSequence, same.role, same.generation, same.magic, same.version,
          same.header, same.epoch⟩
  · rename_i notStarting
    have stopping : before.driver.mailmsgState = .stopping := by
      rw [state] at notStarting
      cases current : before.driver.mailmsgState <;>
        simp_all [SessionState.pendingReply]
    split
    · exact .of_data step _
    · rename_i accepted
      have value : stopReplyAccepted system.driver response =
          stopReplyAccepted before.driver response := by
        simp only [stopReplyAccepted, stopSequence]
      have ours : stopReplyAccepted before.driver response = true := value ▸ not_not.mp accepted
      split
      · refine .quiet (.then_driver step ?_ .free) state (.inl seen)
        exact ⟨rfl, rfl, rfl, rfl, rfl, rfl, rfl, rfl, rfl, rfl⟩
      · rename_i notReady
        have refusal : response.type = MessageType.stopRefused := by
          simp only [stopReplyAccepted, Bool.and_eq_true, Bool.or_eq_true, beq_iff_eq] at ours
          exact ours.1.1.resolve_left notReady
        refine .refused response ⟨rfl, frame, ours, refusal, stopping, rfl, seen, ?_⟩
        exact ⟨same.config, same.attempted, same.cpuOnRet, same.sessionGeneration,
          same.peerGeneration, same.stopRequestSequence, same.role, same.generation, same.magic,
          same.version, same.header, same.epoch⟩

/-- An iteration without a good frame moves nothing or times out. -/
theorem controlIterate_lifecycle (system : System) (bound : system.driver.endpoint.BoundBy .linux)
    (pending : system.driver.mailmsgState.pendingReply = true) :
    LifecycleStep system .controlIterate (controlIterate system) := by
  obtain ⟨step, -, jiffies, -, delivered⟩ := linuxReceive_effect system .critical bound
  have state : (linuxReceive system .critical).2.driver.mailmsgState = system.driver.mailmsgState :=
    congrArg Lifecycle.mailmsgState step.lifecycle
  have seen : (linuxReceive system .critical).2.driver.affinitySeenOn = system.driver.affinitySeenOn :=
    congrArg Lifecycle.affinitySeenOn step.lifecycle
  have deadline : (linuxReceive system .critical).2.driver.lifecycleDeadline =
      system.driver.lifecycleDeadline := congrArg Lifecycle.lifecycleDeadline step.lifecycle
  simp only [controlIterate]
  split
  · exact .of_data (step.relock .free) _
  · split
    · exact .of_data step _
    · split
      · -- An error is recorded; the state stays.
        split
        · refine .quiet (.then_driver step ?_ .free) ?_ (.inl ?_)
          · split <;> exact ⟨rfl, rfl, rfl, rfl, rfl, rfl, rfl, rfl, rfl, rfl⟩
          · split <;> exact state
          · split <;> exact seen
        · refine .quiet (.then_driver step ?_ (linuxReceive system .critical).2.lock) ?_ (.inl ?_)
          · split <;> exact ⟨rfl, rfl, rfl, rfl, rfl, rfl, rfl, rfl, rfl, rfl⟩
          · split <;> exact state
          · split <;> exact seen
      · rename_i ok
        obtain ⟨response, copied, popped, current⟩ := delivered (not_not.mp ok)
        split
        · rename_i expired
          refine .of_timeout (linuxReceive system .critical).2.driver pending ?_ state
            (.then_driver step ((setTimeoutLocked_identity _).requeue _) .free) rfl (.inl ?_)
          · rw [← deadline, ← jiffies]
            exact expired
          · exact (setTimeoutLocked_seenOn _).trans seen
        · rename_i inTime
          rw [copied, Option.getD_some]
          refine controlResponse_lifecycle step ⟨⟨_, popped⟩, current, ?_⟩ pending
          rw [← deadline, ← jiffies]
          exact Nat.lt_of_not_le inTime

/-! ### Start, rearm and stop -/

/-- A fresh region always binds. -/
theorem endpointBind_sessionRegion (endpoint : Endpoint) {generation : U32}
    (nonzero : generation ≠ 0#32) (role : Role) :
    endpointBind endpoint (sessionRegion generation) role =
      (.ok, { role := some role, nextSequence := 0, generation := generation, stats := fun _ =>
        .zero }) := by
  simp [endpointBind, sessionRegion, nonzero]

/-- Everything that start can do: refuse, with or without an affinity query, or initialise the
region, bind an endpoint that has sent nothing, and call CPU_ON. -/
theorem startStore_cases (system : System) (accepted : Bool) (count : Nat) (affinity cpuOn : Int) :
    ((startStore system accepted count affinity cpuOn).2 = system ∨
      (startStore system accepted count affinity cpuOn).2 =
        { system with driver := refreshAffinityLocked system.driver affinity }) ∨
      Launched system (.start accepted count affinity cpuOn)
          (startStore system accepted count affinity cpuOn).2 cpuOn ∧
        (startStore system accepted count affinity cpuOn).2.driver.endpoint.nextSequence = 0#32 := by
  simp only [startStore]
  split
  · exact .inl (.inl rfl)
  · rename_i text
    split
    · exact .inl (.inl rfl)
    · rename_i notAttempted
      split
      · exact .inl (.inl rfl)
      · rename_i loaded
        split
        · exact .inl (.inl rfl)
        · have same := refreshAffinityLocked_identity system.driver affinity
          have answer := refreshAffinityLocked_affinityState system.driver affinity
          split
          · exact .inl (.inr rfl)
          · rename_i off
            have isOff : affinity = affinityOff := answer ▸ not_not.mp off
            have bind := endpointBind_sessionRegion
              (refreshAffinityLocked system.driver affinity).endpoint
              (nextNonzero_ne_zero (refreshAffinityLocked system.driver affinity).sessionGeneration)
                .linux
            split
            · rename_i failed
              simp [initialiseSession, bind] at failed
            · have yes : accepted = true := not_not.mp text
              refine .inr ⟨⟨⟨count, by rw [yes, isOff]⟩, by simpa using notAttempted, ?_,
                not_not.mp loaded, ?_, ?_, ?_, ?_, ?_, ?_, ?_, ?_, ?_, ?_, ?_, ?_, ?_, ?_,
                ?_, ?_, ?_, ?_, ?_⟩, ?_⟩
              all_goals simp only [launch, initialiseSession, bind]
              all_goals by_cases failedOn : cpuOn = 0
              all_goals simp [failedOn, same.sessionGeneration, same.counts, same.image,
                same.imageMemory, same.imageWritten]

/-- Everything that rearm can do: refuse, with or without an affinity query, or end the session. -/
theorem rearmStore_cases (system : System) (accepted : Bool) (count : Nat) (affinity : Int) :
    ((rearmStore system accepted count affinity).1 < 0 ∧
      ((rearmStore system accepted count affinity).2 = system ∨
        (rearmStore system accepted count affinity).2 =
          { system with driver := refreshAffinityLocked system.driver affinity })) ∨
      (accepted = true ∧ system.driver.cpuOnAttempted = true ∧ system.driver.userOpenCount = 0 ∧
        affinity = affinityOff ∧ system.hardware.a2b.anyPending = false ∧
        (rearmStore system accepted count affinity).1 = count ∧
        (rearmStore system accepted count affinity).2 =
          { system with
            driver := (refreshAffinityLocked system.driver affinity).rearmed
            epoch := system.epoch + 1 }) := by
  have answer := refreshAffinityLocked_affinityState system.driver affinity
  have inval : -Errno.inval < 0 := by decide
  have busy : -Errno.busy < 0 := by decide
  have opnotsupp : -Errno.opnotsupp < 0 := by decide
  simp only [rearmStore]
  split
  · exact .inl ⟨inval, .inl rfl⟩
  · rename_i text
    split
    · exact .inl ⟨inval, .inl rfl⟩
    · rename_i attempted
      split
      · exact .inl ⟨busy, .inl rfl⟩
      · rename_i noFiles
        split
        · exact .inl ⟨opnotsupp, .inl rfl⟩
        · split
          · exact .inl ⟨busy, .inr rfl⟩
          · rename_i off
            split
            · exact .inl ⟨busy, .inr rfl⟩
            · rename_i clear
              exact .inr ⟨not_not.mp text, not_not.mp attempted, not_not.mp noFiles,
                answer ▸ not_not.mp off, by simpa using clear, rfl, rfl⟩

/-- The preflight passes only when no file is open and the endpoint is bound. -/
theorem stopPreflightLocked_ok {system : System} (passed : stopPreflightLocked system = 0) :
    system.driver.userOpenCount = 0 ∧ system.driver.endpoint.role.isSome := by
  unfold stopPreflightLocked at passed
  split at passed
  · simp [Errno.busy] at passed
  · rename_i noFiles
    split at passed
    · simp [Errno.proto] at passed
    · rename_i bound
      exact ⟨not_not.mp noFiles,
        by simpa [Option.isNone_iff_eq_none, Option.isSome_iff_ne_none] using bound⟩

/-- What a stop that passed its preflight leaves behind. -/
structure StopRequested (system : System) (after : System) : Prop where
  step : DataStep system.stopping (linuxSend system.stopping .critical MessageType.stopRequest none 0).2
  lock : after.lock = system.lock
  hardware : after.hardware =
    (linuxSend system.stopping .critical MessageType.stopRequest none 0).2.hardware
  endpoint : after.driver.endpoint =
    (linuxSend system.stopping .critical MessageType.stopRequest none 0).2.driver.endpoint
  session : SameSession system
    { after with
      driver := { after.driver with stopRequestSequence := system.driver.stopRequestSequence } }
  seenOn : after.driver.affinitySeenOn = system.driver.affinitySeenOn
  counts : after.driver.toUserCounts = system.driver.toUserCounts
  files : after.files = system.files
  nextFile : after.nextFile = system.nextFile
  peerWrites : after.peerWrites = system.peerWrites
  /-- STOPPING under the sequence of the queued request, or ACTIVE with nothing queued. -/
  state :
    (after.driver.mailmsgState = .stopping ∧
      (linuxSend system.stopping .critical MessageType.stopRequest none 0).1.ret = .ok ∧
      after.driver.stopRequestSequence = endpointNextSequence system.driver.endpoint) ∨
    (after.driver.mailmsgState = .active ∧
      (linuxSend system.stopping .critical MessageType.stopRequest none 0).1.ret ≠ .ok ∧
      after.hardware.shared = system.hardware.shared)

/-- The call that `mailmsg_stop_store` makes behind its preflight. -/
theorem requestStop_spec (system : System) (bound : system.driver.endpoint.BoundBy .linux) :
    StopRequested system (requestStop system).2 := by
  have sent := linuxSend_effect system.stopping .critical MessageType.stopRequest none 0 bound
  simp only [requestStop]
  generalize outcomeEq : linuxSend system.stopping .critical MessageType.stopRequest
    none 0 = outcome
  rw [outcomeEq] at sent
  obtain ⟨step, lock, refused, accepted, -⟩ := sent
  have same := SameSession.of_data step
  have seen : outcome.2.driver.affinitySeenOn = system.driver.affinitySeenOn := by
    have kept := congrArg Lifecycle.affinitySeenOn step.lifecycle
    exact kept
  split
  · rename_i failed
    have notOk : outcome.1.ret ≠ .ok := by
      intro ok
      rw [ok] at failed
      exact failed rfl
    refine ⟨by rw [outcomeEq]; exact step, lock, by rw [outcomeEq], by rw [outcomeEq], ?_,
      seen, step.counts, step.files, step.nextFile, step.peerWrites,
      .inr ⟨rfl, by rw [outcomeEq]; exact notOk, refused notOk⟩⟩
    exact ⟨same.config, same.attempted, same.cpuOnRet, same.sessionGeneration,
      same.peerGeneration, rfl, same.role, same.generation, same.magic, same.version, same.header,
      same.epoch⟩
  · rename_i queued
    have ok : outcome.1.ret = .ok := outcome.1.ret.code_eq_zero_iff.mp (not_not.mp queued)
    refine ⟨by rw [outcomeEq]; exact step, lock, by rw [outcomeEq], by rw [outcomeEq], ?_,
      seen, step.counts, step.files, step.nextFile, step.peerWrites,
      .inl ⟨?_, by rw [outcomeEq]; exact ok, accepted ok⟩⟩
    · exact ⟨same.config, same.attempted, same.cpuOnRet, same.sessionGeneration,
        same.peerGeneration, rfl, same.role, same.generation, same.magic, same.version, same.header,
        same.epoch⟩
    · have kept := congrArg Lifecycle.mailmsgState step.lifecycle
      exact kept

end MailMsg
