/-
Module: MailMsg.Driver.PeerRecord
Purpose: The record of CPU3's writes is a ghost: no operation of Linux looks at it.
Source: LZAMP/linux/drivers/lzamp_amp_mailmsg.c
Trusted boundary: none
Main exports: System.recording, Unrecorded, driverStep_recording
-/
import MailMsg.Driver.Transitions

namespace MailMsg

/-- The system with another record of CPU3's writes. -/
def System.recording (system : System) (writes : List (Priority × Message)) : System :=
  { system with peerWrites := writes }

/-- An operation that carries the record along without looking at it. -/
def Unrecorded {α : Type} (operation : System → α × System) : Prop :=
  ∀ system writes, operation (system.recording writes) =
    ((operation system).1, (operation system).2.recording writes)

namespace System

variable (system : System) (writes : List (Priority × Message))

-- Not by `rfl`: as definitional rewrites they would leave the deciders of the conditions behind.
theorem recording_config : (system.recording writes).config = system.config := by
  cases system
  rfl

theorem recording_driver : (system.recording writes).driver = system.driver := by
  cases system
  rfl

theorem recording_hardware : (system.recording writes).hardware = system.hardware := by
  cases system
  rfl

theorem recording_jiffies : (system.recording writes).jiffies = system.jiffies := by
  cases system
  rfl

end System

/-! ### Doorbells, sends and receives

The calls that several entry points share.  Each rewrites the projections of the changed record
first, so that both sides take the same branch, and is then equal branch by branch.
-/

section Helpers

variable (priority : Priority)

/-- A doorbell looks at the driver and the mailbox. -/
theorem mboxDirectSendLocked_unrecorded (command value : U32) :
    Unrecorded fun system => mboxDirectSendLocked system priority command value := by
  intro system writes
  simp only [mboxDirectSendLocked, System.recording_driver, System.recording_hardware]
  split <;> rfl

/-- The injected failures and their counters are in the driver. -/
theorem notifyLocked_unrecorded : Unrecorded fun system => notifyLocked system priority := by
  intro system writes
  have sent := mboxDirectSendLocked_unrecorded priority
    (mailmsgDoorbell ||| BitVec.ofNat 32 priority.val)
    (BitVec.ofNat 32 priority.val) system writes
  simp only [notifyLocked, sent, System.recording_driver]
  repeat' split
  all_goals rfl

/-- A send is a push over the region and a doorbell. -/
theorem linuxSend_unrecorded (type : U32) (payload : Option (Nat → U8)) (length : U32) :
    Unrecorded fun system => linuxSend system priority type payload length := by
  intro system writes
  have rung (system : System) := notifyLocked_unrecorded priority system writes
  simp only [linuxSend, endpointSend, System.recording_driver, System.recording_hardware, rung]
  split <;> rfl

/-- A receive reads the region only. -/
theorem linuxReceive_unrecorded : Unrecorded fun system => linuxReceive system priority :=
  fun _ _ => rfl

/-- A push without its doorbell. -/
theorem testEnqueueLocked_unrecorded (value : U32) (corrupt : Bool) :
    Unrecorded fun system => testEnqueueLocked system priority value corrupt := by
  intro system writes
  simp only [testEnqueueLocked, System.recording_driver, System.recording_hardware]
  split <;> rfl

end Helpers

/-! ### The files

The operations of `r1_amp_mailmsg_fops`.  The file that an operation works on is looked up by its
caller, in a list that the record does not touch.
-/

/-- `open` looks at the state, the generation and the counts of the driver. -/
theorem userOpen_unrecorded (priority : Priority) (nonblock : Bool) :
    Unrecorded fun system => userOpen system priority nonblock := by
  intro system writes
  simp only [userOpen, System.recording_driver]
  split <;> rfl

/-- The claim of a reader is decided by the file and by the claims of its ring. -/
theorem userClaimReader_unrecorded (file : UserFile) :
    Unrecorded fun system => userClaimReader system file := by
  intro system writes
  simp only [userClaimReader, System.recording_driver]
  repeat' split
  all_goals rfl

/-- `read` receives for the ring of the file, if the file has the claim. -/
theorem userRead_unrecorded (file : UserFile) (copied : Bool) :
    Unrecorded fun system => userRead system file copied := by
  intro system writes
  have received := linuxReceive_unrecorded file.priority system writes
  simp only [userRead, received, System.recording_driver]
  repeat' split
  all_goals rfl

/-- `write` checks the record that it is given and sends it. -/
theorem userWrite_unrecorded (file : UserFile) (count : Nat) (copied : Bool) (frame : UserFrame) :
    Unrecorded fun system => userWrite system file count copied frame := by
  intro system writes
  have sent := linuxSend_unrecorded file.priority frame.type (some frame.payloadAt)
    frame.length system writes
  simp only [userWrite, sent, System.recording_driver]
  repeat' split
  all_goals rfl

/-! ### The test attributes

The operations of the sysfs attributes that send, ring or receive.  Only the two halves of
`mailmsg_response` are no pairs of an answer and a state, so they are stated as equations.
-/

/-- Both attributes that send a PING, with and without a damaged CRC. -/
theorem sendPing_unrecorded (numbers : Option (U32 × U32)) (count : Nat) (corrupt : Bool) :
    Unrecorded fun system => sendPing system numbers count corrupt := by
  intro system writes
  have queued (priority value corrupt) :=
    testEnqueueLocked_unrecorded priority value corrupt system writes
  have rung (priority) (system : System) := notifyLocked_unrecorded priority system writes
  have sent (priority type payload length) :=
    linuxSend_unrecorded priority type payload length system writes
  simp only [sendPing, queued, rung, sent, System.recording_driver]
  repeat' split
  all_goals rfl

/-- `mailmsg_queue_push` pushes without a doorbell. -/
theorem queuePushStore_unrecorded (numbers : Option (U32 × U32)) (count : Nat) :
    Unrecorded fun system => queuePushStore system numbers count := by
  intro system writes
  have queued (priority value corrupt) :=
    testEnqueueLocked_unrecorded priority value corrupt system writes
  simp only [queuePushStore, queued, System.recording_driver]
  repeat' split
  all_goals rfl

/-- `mailmsg_notify_inject` sets which doorbells fail. -/
theorem notifyInjectStore_unrecorded (text : InjectText) (count : Nat) :
    Unrecorded fun system => notifyInjectStore system text count := by
  intro system writes
  simp only [notifyInjectStore, System.recording_driver]
  repeat' split
  all_goals rfl

/-- `doorbell` rings without a frame. -/
theorem doorbellStore_unrecorded (numbers : Option (U32 × U32)) (count : Nat) :
    Unrecorded fun system => doorbellStore system numbers count := by
  intro system writes
  have rung (priority command value) :=
    mboxDirectSendLocked_unrecorded priority command value system writes
  simp only [doorbellStore, rung, System.recording_driver]
  repeat' split
  all_goals rfl

/-- `mailmsg_response` takes the mutex and decides whether it reads at all. -/
theorem responseEnter_recording (system : System) (writes : List (Priority × Message)) :
    responseEnter (system.recording writes) = (responseEnter system).recording writes := by
  simp only [responseEnter, System.recording_driver]
  repeat' split
  all_goals rfl

/-- Its loop receives from one ring after the other. -/
theorem responseIterate_recording (system : System) (writes : List (Priority × Message))
    (priority : Priority) (lines : List ResponseLine) :
    responseIterate (system.recording writes) priority lines =
      (responseIterate system priority lines).recording writes := by
  have received := linuxReceive_unrecorded priority system writes
  simp only [responseIterate, received]
  repeat' split
  all_goals rfl

/-! ### The lifecycle

Image, start, rearm and stop, and the work items behind them.  A start is the only operation that
writes the record, as it forgets it.
-/

/-- The upload looks at the image and its size. -/
theorem imageWrite_unrecorded (offset count : Nat) (bytes : Nat → U8) :
    Unrecorded fun system => imageWrite system offset count bytes := by
  intro system writes
  simp only [imageWrite, System.recording_driver, System.recording_config]
  repeat' split
  all_goals rfl

/-- `rearm` compares the image with memory and asks PSCI. -/
theorem rearmStore_unrecorded (accepted : Bool) (count : Nat) (affinity : Int) :
    Unrecorded fun system => rearmStore system accepted count affinity := by
  intro system writes
  simp only [rearmStore, System.recording_driver, System.recording_config,
    System.recording_hardware]
  repeat' split
  all_goals rfl

/-- The preflight looks at the forward rings, one after the other. -/
theorem stopPreflightRings_recording (system : System) (writes : List (Priority × Message))
    (priorities : List Priority) :
    stopPreflightRings (system.recording writes) priorities =
      stopPreflightRings system priorities := by
  induction priorities with
  | nil => rfl
  | cons priority priorities inductionHypothesis =>
      simp only [stopPreflightRings, System.recording_driver, System.recording_hardware,
        inductionHypothesis]

/-- `mailmsg_stop` sends a STOP_REQUEST when its preflight passes. -/
theorem stopStore_unrecorded (accepted : Bool) (count : Nat) :
    Unrecorded fun system => stopStore system accepted count := by
  intro system writes
  have preflight : stopPreflightLocked (system.recording writes) = stopPreflightLocked system := by
    simp only [stopPreflightLocked, stopPreflightRings_recording, System.recording_driver,
      System.recording_hardware]
  -- `stopping` commutes with the change of the record by computation.
  have sent : linuxSend (system.recording writes).stopping .critical
      MessageType.stopRequest none 0 = _ :=
    linuxSend_unrecorded .critical MessageType.stopRequest none 0 system.stopping writes
  simp only [stopStore, preflight, requestStop, sent, System.recording_driver]
  repeat' split
  all_goals rfl

/-- A start leaves the record or begins a new one. -/
theorem startStore_recording (system : System) (writes : List (Priority × Message))
    (accepted : Bool) (count : Nat) (affinity cpuOn : Int) :
    (startStore (system.recording writes) accepted count affinity cpuOn).2 =
        (startStore system accepted count affinity cpuOn).2.recording writes ∨
      (startStore (system.recording writes) accepted count affinity cpuOn).2 =
        (startStore system accepted count affinity cpuOn).2 := by
  have bind := endpointBind_sessionRegion (refreshAffinityLocked system.driver affinity).endpoint
    (nextNonzero_ne_zero (refreshAffinityLocked system.driver affinity).sessionGeneration) .linux
  simp only [startStore, initialiseSession, bind, System.recording_driver, System.recording_config]
  repeat' split
  all_goals first
    | exact .inl rfl
    | exact .inr rfl

/-- `affinity_state` asks PSCI and remembers the answer. -/
theorem affinityStateShow_unrecorded (affinity : Int) :
    Unrecorded fun system => affinityStateShow system affinity := by
  intro system writes
  simp only [affinityStateShow, System.recording_config]
  split <;> rfl

/-- The sampler asks PSCI and remembers the answer. -/
theorem affinityWork_recording (system : System) (writes : List (Priority × Message))
    (affinity : Int) :
    affinityWork (system.recording writes) affinity =
      (affinityWork system affinity).recording writes := by
  simp only [affinityWork, System.recording_driver]
  split <;> rfl

/-- The head of `control_work`: the deadline of the lifecycle. -/
theorem controlEnter_recording (system : System) (writes : List (Priority × Message)) :
    controlEnter (system.recording writes) = (controlEnter system).recording writes := by
  simp only [controlEnter, System.recording_driver, System.recording_jiffies]
  repeat' split
  all_goals rfl

/-- An iteration of its loop: one receive on the critical ring and its verdict. -/
theorem controlIterate_recording (system : System) (writes : List (Priority × Message)) :
    controlIterate (system.recording writes) = (controlIterate system).recording writes := by
  have received := linuxReceive_unrecorded .critical system writes
  simp only [controlIterate, controlResponse, received, System.recording_driver,
    System.recording_jiffies]
  repeat' split
  all_goals rfl

/-- The watchdog asks PSCI after the deadline. -/
theorem lifecycleTimeoutWork_recording (system : System) (writes : List (Priority × Message))
    (affinity : Int) :
    lifecycleTimeoutWork (system.recording writes) affinity =
      (lifecycleTimeoutWork system affinity).recording writes := by
  simp only [lifecycleTimeoutWork, System.recording_driver, System.recording_jiffies]
  repeat' split
  all_goals rfl

/-! ### One step

The record of the step's outcome is existential: a peer write adds to it and a start empties it.
-/

/-- The state after an operation that does not look at the record. -/
theorem Unrecorded.state {α : Type} {operation : System → α × System}
    (unrecorded : Unrecorded operation) (system : System) (writes : List (Priority × Message)) :
    (operation (system.recording writes)).2 = (operation system).2.recording writes :=
  congrArg Prod.snd (unrecorded system writes)

/-- Under the mutex.  The cases are the operations and not their effects: here the whole outcome of
an operation matters, its answer included. -/
theorem lockedStep_recording {system next : System} {label : DriverLabel}
    (taken : lockedStep system label = some next)
    (writes : List (Priority × Message)) :
    ∃ kept, lockedStep (system.recording writes) label = some (next.recording kept) := by
  cases label with
  | affinityWork affinity =>
      cases taken
      exact ⟨writes, congrArg some (affinityWork_recording system writes affinity)⟩
  | lifecycleTimeoutWork affinity =>
      cases taken
      exact ⟨writes, congrArg some (lifecycleTimeoutWork_recording system writes affinity)⟩
  | controlEnter =>
      cases taken
      exact ⟨writes, congrArg some (controlEnter_recording system writes)⟩
  | responseEnter =>
      cases taken
      exact ⟨writes, congrArg some (responseEnter_recording system writes)⟩
  | affinityState affinity =>
      cases taken
      exact ⟨writes, congrArg some ((affinityStateShow_unrecorded affinity).state system writes)⟩
  | imageWrite offset count bytes =>
      cases taken
      exact ⟨writes, congrArg some ((imageWrite_unrecorded offset count bytes).state system writes)⟩
  | start accepted count affinity cpuOn =>
      cases taken
      rcases startStore_recording system writes accepted count affinity cpuOn with same | same
      · exact ⟨writes, congrArg some same⟩
      · exact ⟨_, congrArg some same⟩
  | rearm accepted count affinity =>
      cases taken
      exact ⟨writes,
        congrArg some ((rearmStore_unrecorded accepted count affinity).state system writes)⟩
  | stop accepted count =>
      cases taken
      exact ⟨writes, congrArg some ((stopStore_unrecorded accepted count).state system writes)⟩
  | openFile priority nonblock =>
      cases taken
      exact ⟨writes, congrArg some ((userOpen_unrecorded priority nonblock).state system writes)⟩
  | mailmsgPing numbers count corrupt =>
      cases taken
      exact ⟨writes, congrArg some ((sendPing_unrecorded numbers count corrupt).state system writes)⟩
  | queuePush numbers count =>
      cases taken
      exact ⟨writes, congrArg some ((queuePushStore_unrecorded numbers count).state system writes)⟩
  | notifyInject text count =>
      cases taken
      exact ⟨writes, congrArg some ((notifyInjectStore_unrecorded text count).state system writes)⟩
  | doorbell numbers count =>
      cases taken
      exact ⟨writes, congrArg some ((doorbellStore_unrecorded numbers count).state system writes)⟩
  | ping value count =>
      cases taken
      rw [(pingStore_refused system value count).1]
      exact ⟨writes, congrArg some (pingStore_refused _ value count).1⟩
  | mailmsgStats | status =>
      cases taken
      exact ⟨writes, rfl⟩
  | release id =>
      obtain ⟨file, found, rfl⟩ := Option.map_eq_some_iff.mp taken
      exact ⟨writes, Option.map_eq_some_iff.mpr ⟨file, found, rfl⟩⟩
  | claim id =>
      obtain ⟨file, found, rfl⟩ := Option.map_eq_some_iff.mp taken
      exact ⟨writes, Option.map_eq_some_iff.mpr
        ⟨file, found, (userClaimReader_unrecorded file).state system writes⟩⟩
  | read id copied =>
      obtain ⟨file, found, rfl⟩ := Option.map_eq_some_iff.mp taken
      exact ⟨writes, Option.map_eq_some_iff.mpr
        ⟨file, found, (userRead_unrecorded file copied).state system writes⟩⟩
  | write id count copied frame =>
      obtain ⟨file, found, rfl⟩ := Option.map_eq_some_iff.mp taken
      exact ⟨writes, Option.map_eq_some_iff.mpr
        ⟨file, found, (userWrite_unrecorded file count copied frame).state system writes⟩⟩
  | poll id =>
      obtain ⟨file, found, rfl⟩ := Option.map_eq_some_iff.mp taken
      exact ⟨writes, Option.map_eq_some_iff.mpr ⟨file, found, rfl⟩⟩
  | tick | peer | b2aAcknowledge | rxCallback | dequeue | controlIterate | responseIterate =>
      cases taken

/-- An operation under the mutex, taken from a free one. -/
theorem driverStep_of_locked {system next : System} {label : DriverLabel}
    (free : system.lock = .free)
    (taken : lockedStep system label = some next) : driverStep system label = some next := by
  cases label with
  | tick | peer | b2aAcknowledge | rxCallback | dequeue | controlIterate
  | responseIterate => cases taken
  | _ => exact (if_pos free).trans taken

/-- No step looks at the record: whatever it holds, the same step leads to the same state up to the
record. -/
theorem driverStep_recording {system next : System} {label : DriverLabel}
    (taken : driverStep system label = some next) (writes : List (Priority × Message)) :
    ∃ kept, driverStep (system.recording writes) label = some (next.recording kept) := by
  cases driverStep_kind taken with
  | tick elapsed | b2aAcknowledge channel | rxCallback channel message | dequeue item =>
      exact ⟨writes, rfl⟩
  | peer write => exact ⟨writes ++ write.frames, rfl⟩
  | control held =>
      refine ⟨writes, ?_⟩
      have locked : (system.recording writes).lock = .control := held
      rw [driverStep, if_pos locked, controlIterate_recording]
  | response priority lines held =>
      refine ⟨writes, ?_⟩
      have locked : (system.recording writes).lock = .response priority lines := held
      rw [driverStep, locked]
      exact congrArg some (responseIterate_recording system writes priority lines)
  | locked free inside =>
      obtain ⟨kept, same⟩ := lockedStep_recording inside writes
      exact ⟨kept, driverStep_of_locked free same⟩

end MailMsg
