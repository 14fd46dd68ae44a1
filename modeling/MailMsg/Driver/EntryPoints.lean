/-
Module: MailMsg.Driver.EntryPoints
Purpose: What each entry point of the driver can do while it holds the mutex, as one inversion lemma
  from which the inversions of the later modules are read off.
Source: LZAMP/linux/drivers/lzamp_amp_mailmsg.c
Trusted boundary: none
Main exports: RecordStep, LifecycleWork, DataOperation, LockedEffect, lockedStep_effect,
  LockedEffect.lifecycle, driverStep_lifecycle
-/
import MailMsg.Driver.Transitions

namespace MailMsg

/-! An entry point that takes the mutex does one of a few things.  It refuses, and leaves everything
as it was.  It writes the lifecycle's own records: the work items, and whatever asks PSCI for the
state of CPU3.  It moves the session on: an accepted image write, a launch, a rearm, a stop.  It
opens, claims or closes a file.  Or it sends, receives or rings on the data plane.

`LockedEffect` is that list, with the guards each entry point has passed.  The rings, the mutex, the
files, the image, the doorbells and the sequence counter are each followed by a case analysis on it,
so that a change of one entry point is a change of one constructor here.
-/

/-! ### Records of the lifecycle

The work items and the queries of AFFINITY_INFO write the lifecycle state, the records of what PSCI
answered, the work queue and the readers' wake-up counters.  Nothing else of the driver changes, and
nothing that CPU3 sees.
-/

/-- What a step that only writes records of the lifecycle leaves alone. -/
structure RecordStep (before after : System) : Prop where
  config : after.config = before.config
  identity : SameIdentity before.driver after.driver
  hardware : after.hardware = before.hardware
  files : after.files = before.files
  nextFile : after.nextFile = before.nextFile
  epoch : after.epoch = before.epoch
  peerWrites : after.peerWrites = before.peerWrites

/-- Writing such a record changes nothing that CPU3 sees. -/
theorem RecordStep.of_driver {system : System} {driver : Driver}
    (identity : SameIdentity system.driver driver) :
    RecordStep system { system with driver := driver } :=
  ⟨rfl, identity, rfl, rfl, rfl, rfl, rfl⟩

/-- The work items, the affinity attribute, and a start or a rearm that was refused only after it
had asked PSCI. -/
inductive LifecycleWork (system : System) : DriverLabel → System → Prop where
  | affinityWork (answer : Int) :
      LifecycleWork system (.affinityWork answer) (affinityWork system answer)
  | lifecycleTimeoutWork (answer : Int) :
      LifecycleWork system (.lifecycleTimeoutWork answer) (lifecycleTimeoutWork system answer)
  | controlEnter : LifecycleWork system .controlEnter (controlEnter system)
  | affinityState (answer : Int) :
      LifecycleWork system (.affinityState answer) (affinityStateShow system answer).2
  | startAsked {accepted : Bool} {count : Nat} (answer cpuOn : Int) :
      LifecycleWork system (.start accepted count answer cpuOn)
        { system with driver := refreshAffinityLocked system.driver answer }
  | rearmAsked {accepted : Bool} {count : Nat} (answer : Int) :
      LifecycleWork system (.rearm accepted count answer)
        { system with driver := refreshAffinityLocked system.driver answer }

/-- The query of the affinity work, on the driver that has counted it. -/
theorem affinityWork_identity (system : System) (answer : Int) :
    SameIdentity system.driver (affinityWork system answer).driver := by
  simp only [affinityWork]
  split
  · exact .refl _
  · have asked := refreshAffinityLocked_identity
      { system.driver with affinityMonitorCount := system.driver.affinityMonitorCount + 1 } answer
    have counted : SameIdentity system.driver
        { system.driver with affinityMonitorCount := system.driver.affinityMonitorCount + 1 } :=
      ⟨rfl, rfl, rfl, rfl, rfl, rfl, rfl, rfl, rfl, rfl⟩
    refine (counted.trans asked).trans ?_
    split <;> exact ⟨rfl, rfl, rfl, rfl, rfl, rfl, rfl, rfl, rfl, rfl⟩

/-- The watchdog writes records. -/
theorem lifecycleTimeoutWork_identity (system : System) (answer : Int) :
    SameIdentity system.driver (lifecycleTimeoutWork system answer).driver := by
  have asked := refreshAffinityLocked_identity system.driver answer
  simp only [lifecycleTimeoutWork]
  split
  · exact .refl _
  · split
    · exact (SameIdentity.refl _).requeue _
    · split
      · split
        · exact asked
        · exact asked.trans (setTimeoutLocked_identity _)
      · exact setTimeoutLocked_identity _

/-- The head of `control_work` writes records. -/
theorem controlEnter_identity (system : System) :
    SameIdentity system.driver (controlEnter system).driver := by
  simp only [controlEnter]
  split
  · exact .refl _
  · split
    · exact (setTimeoutLocked_identity _).requeue _
    · exact .refl _

/-- A query from user space writes records. -/
theorem affinityStateShow_identity (system : System) (answer : Int) :
    SameIdentity system.driver (affinityStateShow system answer).2.driver := by
  simp only [affinityStateShow]
  split
  · exact .refl _
  · exact refreshAffinityLocked_identity _ _

namespace LifecycleWork

variable {system next : System} {label : DriverLabel}

/-- All of them write records only. -/
theorem record (work : LifecycleWork system label next) : RecordStep system next := by
  cases work with
  | affinityWork answer =>
      refine ⟨?_, affinityWork_identity system answer, ?_, ?_, ?_, ?_, ?_⟩
      all_goals
        simp only [MailMsg.affinityWork]
        split <;> rfl
  | lifecycleTimeoutWork answer =>
      refine ⟨?_, lifecycleTimeoutWork_identity system answer, ?_, ?_, ?_, ?_, ?_⟩
      all_goals
        simp only [MailMsg.lifecycleTimeoutWork]
        repeat' split
        all_goals rfl
  | controlEnter =>
      refine ⟨?_, controlEnter_identity system, ?_, ?_, ?_, ?_, ?_⟩
      all_goals
        simp only [MailMsg.controlEnter]
        repeat' split
        all_goals rfl
  | affinityState answer =>
      refine ⟨?_, affinityStateShow_identity system answer, ?_, ?_, ?_, ?_, ?_⟩
      all_goals
        simp only [affinityStateShow]
        split <;> rfl
  | startAsked answer cpuOn => exact .of_driver (refreshAffinityLocked_identity _ _)
  | rearmAsked answer => exact .of_driver (refreshAffinityLocked_identity _ _)

/-- Only the control work keeps the mutex, and only while a reply is awaited. -/
theorem lock (work : LifecycleWork system label next) :
    next.lock = system.lock ∨
      next.lock = .control ∧ next.driver.mailmsgState.pendingReply = true := by
  cases work with
  | affinityWork answer =>
      left
      simp only [MailMsg.affinityWork]
      split <;> rfl
  | lifecycleTimeoutWork answer =>
      left
      simp only [MailMsg.lifecycleTimeoutWork]
      repeat' split
      all_goals rfl
  | controlEnter =>
      simp only [MailMsg.controlEnter]
      split
      · exact .inl rfl
      · rename_i pending
        split
        · exact .inl rfl
        · exact .inr ⟨rfl, not_not.mp pending⟩
  | affinityState answer =>
      left
      simp only [affinityStateShow]
      split <;> rfl
  | startAsked | rearmAsked => exact .inl rfl

/-- Each of them takes at most one edge of the lifecycle. -/
theorem lifecycle (work : LifecycleWork system label next) : LifecycleStep system label next := by
  cases work with
  | affinityWork answer => exact affinityWork_lifecycle system answer
  | lifecycleTimeoutWork answer => exact lifecycleTimeoutWork_lifecycle system answer
  | controlEnter => exact controlEnter_lifecycle system
  | affinityState answer => exact affinityState_lifecycle system answer
  | startAsked answer cpuOn =>
      exact .of_refresh system.driver rfl rfl rfl rfl
        (.of_identity (refreshAffinityLocked_identity _ _)) rfl rfl
  | rearmAsked answer =>
      exact .of_refresh system.driver rfl rfl rfl rfl
        (.of_identity (refreshAffinityLocked_identity _ _)) rfl rfl

end LifecycleWork

/-! ### Operations of the data plane

Each of them asks the gate first, so that it does something only in ACTIVE; what it then does is one
push, one pop or one doorbell.
-/

/-- The gate is open exactly in ACTIVE. -/
theorem dataGateLocked_eq_zero_iff (driver : Driver) :
    dataGateLocked driver = 0 ↔ driver.mailmsgState = .active := by
  unfold dataGateLocked
  cases driver.mailmsgState <;> decide

/-- The reads, the sends and the two doorbell attributes. -/
inductive DataOperation (system : System) : DriverLabel → System → Prop where
  | read {id : Nat} {file : UserFile} (copied : Bool) (found : system.file? id = some file)
      (claimed : file.readerClaimed = true) :
      DataOperation system (.read id copied) (userRead system file copied).2
  | write {id : Nat} {file : UserFile} (count : Nat) (copied : Bool) (frame : UserFrame)
      (found : system.file? id = some file) :
      DataOperation system (.write id count copied frame)
        (userWrite system file count copied frame).2
  | mailmsgPing (numbers : Option (U32 × U32)) (count : Nat) (corrupt : Bool) :
      DataOperation system (.mailmsgPing numbers count corrupt)
        (sendPing system numbers count corrupt).2
  | queuePush (numbers : Option (U32 × U32)) (count : Nat) :
      DataOperation system (.queuePush numbers count) (queuePushStore system numbers count).2
  | notifyInject (text : InjectText) (count : Nat) :
      DataOperation system (.notifyInject text count) (notifyInjectStore system text count).2
  | doorbell (numbers : Option (U32 × U32)) (count : Nat) :
      DataOperation system (.doorbell numbers count) (doorbellStore system numbers count).2

namespace DataOperation

variable {system next : System} {label : DriverLabel}

/-- The data plane keeps the lifecycle and the files. -/
theorem step (operation : DataOperation system label next)
    (bound : system.driver.endpoint.BoundBy .linux) : DataStep system next := by
  cases operation with
  | read copied found claimed => exact (userRead_step system _ copied bound).toDataStep
  | write count copied frame found =>
      exact (userWrite_step system _ count copied frame bound).toDataStep
  | mailmsgPing numbers count corrupt =>
      exact (sendPing_step system numbers count corrupt bound).toDataStep
  | queuePush numbers count => exact (queuePushStore_step system numbers count).toDataStep
  | notifyInject text count => exact (notifyInjectStore_step system text count).toDataStep
  | doorbell numbers count => exact (doorbellStore_step system numbers count).toDataStep

theorem lock (operation : DataOperation system label next)
    (bound : system.driver.endpoint.BoundBy .linux) : next.lock = system.lock := by
  cases operation with
  | read copied found claimed => exact (userRead_step system _ copied bound).lock
  | write count copied frame found => exact (userWrite_step system _ count copied frame bound).lock
  | mailmsgPing numbers count corrupt =>
      exact (sendPing_step system numbers count corrupt bound).lock
  | queuePush numbers count => exact (queuePushStore_step system numbers count).lock
  | notifyInject text count => exact (notifyInjectStore_step system text count).lock
  | doorbell numbers count => exact (doorbellStore_step system numbers count).lock

end DataOperation

/-! ### Everything under the mutex -/

/-- Everything that an entry point can do while it holds the mutex. -/
inductive LockedEffect (system : System) : DriverLabel → System → Prop where
  /-- A refusal, or an attribute that only reads. -/
  | unchanged {label : DriverLabel} (settled : ∀ answer, label ≠ .lifecycleTimeoutWork answer) :
      LockedEffect system label system
  | work {label : DriverLabel} {next : System} (work : LifecycleWork system label next) :
      LockedEffect system label next
  /-- The memory behind the image changes only with its last byte. -/
  | imageWritten {offset count : Nat} {bytes : Nat → U8} (imageMemory : Nat → U8)
      (free : system.driver.cpuOnAttempted = false) :
      LockedEffect system (.imageWrite offset count bytes)
        { system with
          driver :=
            { system.driver with
              image := copyBytes system.driver.image offset count bytes
              imageMemory := imageMemory
              imageWritten := system.driver.imageWritten + count } }
  | launched {label : DriverLabel} {next : System} (cpuOn : Int)
      (launched : Launched system label next cpuOn)
      (unsent : next.driver.endpoint.nextSequence = 0#32) : LockedEffect system label next
  | rearmed {count : Nat} (attempted : system.driver.cpuOnAttempted = true)
      (noFiles : system.driver.userOpenCount = 0) (quiet : system.hardware.a2b.anyPending = false)
      (ret : (rearmStore system true count affinityOff).1 = count) :
      LockedEffect system (.rearm true count affinityOff)
        { system with
          driver := (refreshAffinityLocked system.driver affinityOff).rearmed
          epoch := system.epoch + 1 }
  | stopped {count : Nat} (active : system.driver.mailmsgState = .active)
      (passed : stopPreflightLocked system = 0) :
      LockedEffect system (.stop true count) (requestStop system).2
  | opened {priority : Priority} {nonblock : Bool} (active : system.driver.mailmsgState = .active) :
      LockedEffect system (.openFile priority nonblock)
        { system with
          driver := { system.driver with userOpenCount := system.driver.userOpenCount + 1 }
          files := system.files ++
            [{ id := system.nextFile
               priority := priority
               readerClaimed := false
               nonblock := nonblock
               generation := system.driver.sessionGeneration
               epoch := system.epoch }]
          nextFile := system.nextFile + 1 }
  | released {id : Nat} {file : UserFile} (found : system.file? id = some file) :
      LockedEffect system (.release id) (userRelease system file)
  | claimed {id : Nat} {file : UserFile} (found : system.file? id = some file)
      (unclaimed : file.readerClaimed = false)
      (free : system.driver.readerOpenCount file.priority = 0) :
      LockedEffect system (.claim id)
        { system with
          driver :=
            { system.driver with
              readerOpenCount := Function.update system.driver.readerOpenCount file.priority
                (system.driver.readerOpenCount file.priority + 1) }
          files := system.files.map fun other =>
            if other.id = file.id then { other with readerClaimed := true } else other }
  | data {label : DriverLabel} {next : System} (operation : DataOperation system label next) :
      LockedEffect system label next
  /-- The response attribute takes the mutex for its loop. -/
  | responding (active : system.driver.mailmsgState = .active) :
      LockedEffect system .responseEnter { system with lock := .response 0 [] }

/-- `image_write` refuses or takes the bytes. -/
theorem imageWrite_effect (system : System) (offset count : Nat) (bytes : Nat → U8) :
    LockedEffect system (.imageWrite offset count bytes)
      (imageWrite system offset count bytes).2 := by
  simp only [imageWrite]
  split
  · exact .unchanged (by simp)
  · rename_i free
    split
    · exact .unchanged (by simp)
    · split
      · exact .unchanged (by simp)
      · exact .imageWritten _ (by simpa using free)

/-- `start` refuses, records an answer that forbids it, or launches. -/
theorem startStore_effect (system : System) (accepted : Bool) (count : Nat) (affinity cpuOn : Int) :
    LockedEffect system (.start accepted count affinity cpuOn)
      (startStore system accepted count affinity cpuOn).2 := by
  rcases startStore_cases system accepted count affinity cpuOn with
    (value | value) | ⟨launched, unsent⟩
  · rw [value]
    exact .unchanged (by simp)
  · rw [value]
    exact .work (.startAsked affinity cpuOn)
  · exact .launched cpuOn launched unsent

/-- `rearm` refuses, records an answer that forbids it, or takes the session back. -/
theorem rearmStore_effect (system : System) (accepted : Bool) (count : Nat) (affinity : Int) :
    LockedEffect system (.rearm accepted count affinity)
      (rearmStore system accepted count affinity).2 := by
  rcases rearmStore_cases system accepted count affinity with
    ⟨-, value | value⟩ | ⟨rfl, attempted, noFiles, rfl, quiet, ret, value⟩
  · rw [value]
    exact .unchanged (by simp)
  · rw [value]
    exact .work (.rearmAsked affinity)
  · rw [value]
    exact .rearmed attempted noFiles quiet ret

/-- `mailmsg_stop` refuses or asks CPU3 to stop. -/
theorem stopStore_effect (system : System) (accepted : Bool) (count : Nat) :
    LockedEffect system (.stop accepted count) (stopStore system accepted count).2 := by
  simp only [stopStore]
  split
  · exact .unchanged (by simp)
  · rename_i text
    obtain rfl : accepted = true := not_not.mp text
    split
    · exact .unchanged (by simp)
    · split
      · exact .unchanged (by simp)
      · rename_i active
        split
        · exact .unchanged (by simp)
        · rename_i passed
          exact .stopped (not_not.mp active) (not_not.mp passed)

/-- `open` refuses or adds a file. -/
theorem userOpen_effect (system : System) (priority : Priority) (nonblock : Bool) :
    LockedEffect system (.openFile priority nonblock) (userOpen system priority nonblock).2 := by
  simp only [userOpen]
  split
  · exact .unchanged (by simp)
  · rename_i isOpen
    exact .opened ((dataGateLocked_eq_zero_iff _).mp (not_not.mp isOpen))

/-- The claim is refused, was there before, or is given. -/
theorem userClaimReader_effect {system : System} {id : Nat} {file : UserFile}
    (found : system.file? id = some file) :
    LockedEffect system (.claim id) (userClaimReader system file).2 := by
  simp only [userClaimReader]
  split
  · exact .unchanged (by simp)
  · rename_i unclaimed
    split
    · exact .unchanged (by simp)
    · rename_i free
      exact .claimed found (by simpa using unclaimed) (not_not.mp free)

/-- `mailmsg_response` refuses or goes into its loop. -/
theorem responseEnter_effect (system : System) :
    LockedEffect system .responseEnter (responseEnter system) := by
  simp only [responseEnter]
  split
  · exact .unchanged (by simp)
  · split
    · exact .unchanged (by simp)
    · rename_i isOpen
      exact .responding ((dataGateLocked_eq_zero_iff _).mp (not_not.mp isOpen))

/-- One case for each entry point. -/
theorem lockedStep_effect {system next : System} {label : DriverLabel}
    (taken : lockedStep system label = some next) : LockedEffect system label next := by
  cases label with
  | affinityWork answer =>
      cases taken
      exact .work (.affinityWork answer)
  | lifecycleTimeoutWork answer =>
      cases taken
      exact .work (.lifecycleTimeoutWork answer)
  | controlEnter =>
      cases taken
      exact .work .controlEnter
  | affinityState answer =>
      cases taken
      exact .work (.affinityState answer)
  | imageWrite offset count bytes =>
      cases taken
      exact imageWrite_effect system offset count bytes
  | start accepted count affinity cpuOn =>
      cases taken
      exact startStore_effect system accepted count affinity cpuOn
  | rearm accepted count affinity =>
      cases taken
      exact rearmStore_effect system accepted count affinity
  | stop accepted count =>
      cases taken
      exact stopStore_effect system accepted count
  | openFile priority nonblock =>
      cases taken
      exact userOpen_effect system priority nonblock
  | release id =>
      obtain ⟨file, found, rfl⟩ := Option.map_eq_some_iff.mp taken
      exact .released found
  | claim id =>
      obtain ⟨file, found, rfl⟩ := Option.map_eq_some_iff.mp taken
      exact userClaimReader_effect found
  | read id copied =>
      obtain ⟨file, found, rfl⟩ := Option.map_eq_some_iff.mp taken
      obtain ⟨isOpen, claimed⟩ := Option.filter_eq_some_iff.mp found
      exact .data (.read copied isOpen claimed)
  | write id count copied frame =>
      obtain ⟨file, found, rfl⟩ := Option.map_eq_some_iff.mp taken
      exact .data (.write count copied frame found)
  | mailmsgPing numbers count corrupt =>
      cases taken
      exact .data (.mailmsgPing numbers count corrupt)
  | queuePush numbers count =>
      cases taken
      exact .data (.queuePush numbers count)
  | notifyInject text count =>
      cases taken
      exact .data (.notifyInject text count)
  | doorbell numbers count =>
      cases taken
      exact .data (.doorbell numbers count)
  | ping value count =>
      cases taken
      rw [(pingStore_refused system value count).1]
      exact .unchanged (by simp)
  | responseEnter =>
      cases taken
      exact responseEnter_effect system
  | poll id =>
      obtain ⟨file, -, rfl⟩ := Option.map_eq_some_iff.mp taken
      exact .unchanged (by simp)
  | mailmsgStats | status =>
      cases taken
      exact .unchanged (by simp)
  | tick | peer | b2aAcknowledge | rxCallback | dequeue | controlIterate | responseIterate =>
      cases taken

/-! ### The lifecycle, step by step

The first reading of the list: which of the edges of the lifecycle a step takes, if any.
-/

/-- Asking CPU3 to stop is the edge of `mailmsg_stop`, which leaves ACTIVE if the request finds
room. -/
theorem requestStop_lifecycle {system : System} {count : Nat}
    (active : system.driver.mailmsgState = .active) (passed : stopPreflightLocked system = 0)
    (bound : system.driver.endpoint.BoundBy .linux) :
    LifecycleStep system (.stop true count) (requestStop system).2 := by
  have requested := requestStop_spec system bound
  refine .stop
    ⟨⟨count, rfl⟩, active, (stopPreflightLocked_ok passed).1, ?_, requested.seenOn,
      requested.session⟩
  rcases requested.state with ⟨stopping, -⟩ | ⟨stillActive, -⟩
  · exact .inl stopping
  · exact .inr stillActive

/-- The edge that an entry point takes. -/
theorem LockedEffect.lifecycle {system next : System} {label : DriverLabel}
    (effect : LockedEffect system label next) (bound : system.driver.endpoint.BoundBy .linux) :
    LifecycleStep system label next := by
  cases effect with
  | unchanged => exact .of_data (.refl system) _
  | work work => exact work.lifecycle
  | imageWritten | opened | released | claimed | responding =>
      exact .quiet ⟨rfl, rfl, rfl, rfl, rfl, rfl, rfl, rfl, rfl, rfl, rfl, rfl⟩ rfl (.inl rfl)
  | launched cpuOn launched unsent => exact .launched cpuOn launched
  | rearmed attempted noFiles quiet ret =>
      exact .rearmed ⟨⟨_, rfl, ret⟩, attempted, noFiles, quiet, rfl, rfl, rfl, rfl,
        (refreshAffinityLocked_identity system.driver affinityOff).sessionGeneration, rfl, rfl, rfl⟩
  | stopped active passed => exact requestStop_lifecycle active passed bound
  | data operation => exact .of_data (operation.step bound) _

/-- Taking a work item out of the queue moves nothing. -/
theorem dequeue_lifecycle (system : System) (item : WorkItem) :
    LifecycleStep system (.dequeue item) { system with driver := dequeue system.driver item } := by
  cases item <;>
    exact .quiet ⟨rfl, rfl, rfl, rfl, rfl, rfl, rfl, rfl, rfl, rfl, rfl, rfl⟩ rfl (.inl rfl)

/-- The session header survives CPU3's writes. -/
theorem peerWrite_session (system : System) (write : PeerWrite) :
    SameSession system
      { system with
        hardware := write.apply system.hardware
        peerWrites := system.peerWrites ++ write.frames } := by
  cases write <;>
    exact ⟨rfl, rfl, rfl, rfl, rfl, rfl, rfl, rfl, by simp [PeerWrite.apply, Shared.updateRing],
      by simp [PeerWrite.apply, Shared.updateRing],
      by simp [PeerWrite.apply, Shared.updateRing], rfl⟩

/-- One step of the driver, from a state whose endpoint is Linux's and in which the loop of
`control_work` runs only while a reply is pending. -/
theorem driverStep_lifecycle {system next : System} {label : DriverLabel}
    (bound : system.driver.endpoint.BoundBy .linux)
    (pending : system.lock = .control → system.driver.mailmsgState.pendingReply = true)
    (taken : driverStep system label = some next) : LifecycleStep system label next := by
  cases driverStep_kind taken with
  | tick elapsed | b2aAcknowledge channel | rxCallback channel message =>
      exact .quiet ⟨rfl, rfl, rfl, rfl, rfl, rfl, rfl, rfl, rfl, rfl, rfl, rfl⟩ rfl (.inl rfl)
  | peer write => exact .quiet (peerWrite_session system write) rfl (.inl rfl)
  | dequeue item => exact dequeue_lifecycle system item
  | control held => exact controlIterate_lifecycle system bound (pending held)
  | response priority lines held =>
      exact .of_data (responseIterate_step system priority lines bound).1 _
  | locked free taken => exact (lockedStep_effect taken).lifecycle bound

end MailMsg
