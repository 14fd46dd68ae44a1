/-
Module: MailMsg.Driver.Regions
Purpose: Everything that one step of the driver can do to the shared rings and to the owner of the
  mutex, as two inversion lemmas.
Source: LZAMP/linux/drivers/lzamp_amp_mailmsg.c
Trusted boundary: none
Main exports: Sender, Receiver, RegionStep, driverStep_region, LockStep, driverStep_lock
-/
import MailMsg.Driver.EntryPoints

namespace MailMsg

/-! ### Who sends and who receives

The labels of the steps that may push to a forward ring and pop from a reverse ring, with the guard
that each has passed.
-/

/-- The operations that offer a frame to a forward ring, with the frame's priority, type and
length. -/
inductive Sender (system : System) : DriverLabel → Priority → U32 → U32 → Prop where
  | user {id count : Nat} {copied : Bool} {frame : UserFrame} {file : UserFile}
      (found : system.file? id = some file) :
      Sender system (.write id count copied frame) file.priority frame.type frame.length
  | ping {numbers : Option (U32 × U32)} {count : Nat} {corrupt : Bool} :
      Sender system (.mailmsgPing numbers count corrupt) (namedPriority numbers) MessageType.ping 4
  | queuePush {numbers : Option (U32 × U32)} {count : Nat} :
      Sender system (.queuePush numbers count) (namedPriority numbers) MessageType.ping 4
  | stop {accepted : Bool} {count : Nat} :
      Sender system (.stop accepted count) .critical MessageType.stopRequest 0

/-- The operations that take a frame from a reverse ring. -/
inductive Receiver (system : System) : DriverLabel → Priority → Prop where
  | user {id : Nat} {copied : Bool} {file : UserFile} (found : system.file? id = some file)
      (claimed : file.readerClaimed = true) : Receiver system (.read id copied) file.priority
  | control (held : system.lock = .control) : Receiver system .controlIterate .critical
  | response {priority : Priority} {lines : List ResponseLine}
      (held : system.lock = .response priority lines) : Receiver system .responseIterate priority

/-- Everything that one step can do to the region. -/
inductive RegionStep (system : System) (label : DriverLabel) (next : System) : Prop where
  | same (shared : next.hardware.shared = system.hardware.shared)
      (peerWrites : next.peerWrites = system.peerWrites)
  | peer (write : PeerWrite) (isPeer : label = .peer write)
      (hardware : next.hardware = write.apply system.hardware)
      (peerWrites : next.peerWrites = system.peerWrites ++ write.frames)
  | sent {priority : Priority} {type length : U32}
      (sender : Sender system label priority type length)
      (active : system.driver.mailmsgState = .active)
      (effect : SendEffect system next priority type length)
      (peerWrites : next.peerWrites = system.peerWrites)
  | received {priority : Priority} (receiver : Receiver system label priority)
      (effect : ReceiveEffect system next priority)
      (peerWrites : next.peerWrites = system.peerWrites)
  | initialised (cpuOn : Int) (launched : Launched system label next cpuOn)

/-- A closed gate stops every data-plane operation before it touches anything. -/
theorem sendPing_closed {system : System} (closed : dataGateLocked system.driver ≠ 0)
    (numbers : Option (U32 × U32)) (count : Nat) (corrupt : Bool) :
    (sendPing system numbers count corrupt).2 = system := by
  cases numbers with
  | none => rfl
  | some pair =>
      simp only [sendPing, closed, ne_eq, not_false_eq_true, if_true]
      split <;> rfl

/-- `mailmsg_queue_push` asks the gate first. -/
theorem queuePushStore_closed {system : System} (closed : dataGateLocked system.driver ≠ 0)
    (numbers : Option (U32 × U32)) (count : Nat) :
    (queuePushStore system numbers count).2 = system := by
  cases numbers with
  | none => rfl
  | some pair =>
      simp only [queuePushStore, closed, ne_eq, not_false_eq_true, if_true]
      split <;> rfl

/-- `write` asks the gate first. -/
theorem userWrite_closed {system : System} (closed : dataGateLocked system.driver ≠ 0)
    (file : UserFile) (count : Nat) (copied : Bool) (frame : UserFrame) :
    (userWrite system file count copied frame).2 = system := by
  simp only [userWrite, closed, ne_eq, not_false_eq_true, if_true]
  repeat' split
  all_goals rfl

/-- A write that is no complete record of the file's own priority touches nothing. -/
theorem userWrite_refused {system : System} {file : UserFile} {count : Nat} {copied : Bool}
    {frame : UserFrame}
    (refused : ¬ (count = userFrameBytes ∧ copied = true ∧
      frame.priority = BitVec.ofNat 32 file.priority.val)) :
    (userWrite system file count copied frame).2 = system := by
  simp only [userWrite]
  split
  · rfl
  · rename_i complete
    split
    · rfl
    · rename_i readable
      split
      · rfl
      · rename_i own
        rw [not_or] at own
        exact absurd ⟨not_not.mp complete, not_not.mp readable, not_not.mp own.1⟩ refused

/-- A send with the gate open is a send step; with the gate closed nothing happens. -/
theorem RegionStep.of_send {system next : System} {label : DriverLabel} {priority : Priority}
    {type length : U32} (sender : Sender system label priority type length)
    (closed : dataGateLocked system.driver ≠ 0 → next = system)
    (sent : SendStep system next priority type length) : RegionStep system label next := by
  by_cases isOpen : dataGateLocked system.driver = 0
  · exact .sent sender ((dataGateLocked_eq_zero_iff _).mp isOpen) sent.effect sent.peerWrites
  · rw [closed isOpen]
    exact .same rfl rfl

/-- A doorbell does not touch the region. -/
theorem RegionStep.of_doorbell {system next : System} (label : DriverLabel)
    (rung : DoorbellStep system next) : RegionStep system label next :=
  .same rung.shared rung.peerWrites

/-- The data plane, one operation after the other. -/
theorem DataOperation.region {system next : System} {label : DriverLabel}
    (operation : DataOperation system label next) (bound : system.driver.endpoint.BoundBy .linux) :
    RegionStep system label next := by
  cases operation with
  | @read id file copied found claimed =>
      have received := userRead_step system file copied bound
      exact .received (.user found claimed) received.effect received.peerWrites
  | write count copied frame found =>
      exact .of_send (.user found) (fun closed => userWrite_closed closed _ count copied frame)
        (userWrite_step system _ count copied frame bound)
  | mailmsgPing numbers count corrupt =>
      exact .of_send .ping (fun closed => sendPing_closed closed numbers count corrupt)
        (sendPing_step system numbers count corrupt bound)
  | queuePush numbers count =>
      exact .of_send .queuePush (fun closed => queuePushStore_closed closed numbers count)
        (queuePushStore_step system numbers count)
  | notifyInject text count => exact .of_doorbell _ (notifyInjectStore_step system text count)
  | doorbell numbers count => exact .of_doorbell _ (doorbellStore_step system numbers count)

/-- A stop that passed its preflight sends its request, and nothing else. -/
theorem requestStop_region {system : System} {count : Nat}
    (active : system.driver.mailmsgState = .active)
    (bound : system.driver.endpoint.BoundBy .linux) :
    RegionStep system (.stop true count) (requestStop system).2 := by
  have requested := requestStop_spec system bound
  have sent := linuxSend_effect system.stopping .critical MessageType.stopRequest none 0 bound
  refine .sent .stop active ?_ requested.peerWrites
  cases sent.effect with
  | nothing same =>
      refine .nothing ?_
      rw [requested.hardware]
      exact same
  | pushed slot typed sized numbered committed space published =>
      refine .pushed slot typed sized numbered committed space ?_
      rw [requested.hardware]
      exact published

/-- Sends, receives and launches are the only effects on the region. -/
theorem LockedEffect.region {system next : System} {label : DriverLabel}
    (effect : LockedEffect system label next) (bound : system.driver.endpoint.BoundBy .linux) :
    RegionStep system label next := by
  cases effect with
  | unchanged | imageWritten | rearmed | opened | released | claimed
  | responding => exact .same rfl rfl
  | work work =>
      exact .same (congrArg Hardware.shared work.record.hardware) work.record.peerWrites
  | launched cpuOn launched unsent => exact .initialised cpuOn launched
  | stopped active passed => exact requestStop_region active bound
  | data operation => exact operation.region bound

/-- `control_work` receives on the critical ring, and only while it holds the mutex. -/
theorem controlIterate_region (system : System) (bound : system.driver.endpoint.BoundBy .linux)
    (held : system.lock = .control) :
    RegionStep system .controlIterate (controlIterate system) := by
  obtain ⟨step, -, -, effect, -⟩ := linuxReceive_effect system .critical bound
  have value : (controlIterate system).hardware = (linuxReceive system .critical).2.hardware ∧
      (controlIterate system).peerWrites = (linuxReceive system .critical).2.peerWrites := by
    simp only [controlIterate, controlResponse]
    repeat' split
    all_goals exact ⟨rfl, rfl⟩
  refine .received (.control held) ?_ (value.2.trans step.peerWrites)
  cases effect with
  | nothing same => exact .nothing ((congrArg Hardware.shared value.1).trans same)
  | popped released => exact .popped ((congrArg Hardware.shared value.1).trans released)

/-- Every step sends or receives on one ring, launches, writes for CPU3 or leaves the region
alone. -/
theorem driverStep_region {system next : System} {label : DriverLabel}
    (bound : system.driver.endpoint.BoundBy .linux) (taken : driverStep system label = some next) :
    RegionStep system label next := by
  cases driverStep_kind taken with
  | tick elapsed | b2aAcknowledge channel | rxCallback channel message => exact .same rfl rfl
  | peer write => exact .peer write rfl rfl rfl
  | dequeue item => exact .same rfl rfl
  | control held => exact controlIterate_region system bound held
  | response priority lines held =>
      obtain ⟨step, effect⟩ := responseIterate_step system priority lines bound
      exact .received (.response held) effect step.peerWrites
  | locked free taken => exact (lockedStep_effect taken).region bound

/-! ### The mutex -/

/-- Everything that one step can do to the owner of the mutex. -/
inductive LockStep (system next : System) : Prop where
  | released (free : next.lock = .free)
  | kept (lock : next.lock = system.lock)
      (state : next.driver.mailmsgState = system.driver.mailmsgState)
  | control (lock : next.lock = .control) (pending : next.driver.mailmsgState.pendingReply = true)
  | response {priority : Priority} {lines : List ResponseLine}
      (lock : next.lock = .response priority lines)
      (state : next.driver.mailmsgState = system.driver.mailmsgState)
      (earlier : system.driver.mailmsgState = .active ∨
        ∃ priority lines, system.lock = .response priority lines)

/-- The loop of `control_work` goes on only without a change of state. -/
theorem controlIterate_lock (system : System) (bound : system.driver.endpoint.BoundBy .linux) :
    LockStep system (controlIterate system) := by
  obtain ⟨step, lock, -, -, -⟩ := linuxReceive_effect system .critical bound
  have state : (linuxReceive system .critical).2.driver.mailmsgState = system.driver.mailmsgState :=
    congrArg Lifecycle.mailmsgState step.lifecycle
  simp only [controlIterate, controlResponse]
  repeat' split
  all_goals first
    | exact .released rfl
    | exact .kept lock state

/-- The outer loop of `mailmsg_response_show` never hands the mutex to `control_work`. -/
theorem responseNext_ne_control (priority : Priority) (lines : List ResponseLine) :
    responseNext priority lines ≠ .control := by
  unfold responseNext
  split <;> simp

/-- The loop goes on at the next ring or gives the mutex back. -/
theorem responseIterate_lock {system : System} {priority : Priority} {lines : List ResponseLine}
    (bound : system.driver.endpoint.BoundBy .linux)
    (held : system.lock = .response priority lines) :
    LockStep system (responseIterate system priority lines) := by
  have step := (linuxReceive_effect system priority bound).data
  have relocked : ∀ owner : LockOwner, owner ≠ .control →
      LockStep system { (linuxReceive system priority).2 with lock := owner } := by
    intro owner notControl
    cases owner with
    | free => exact .released rfl
    | control => exact absurd rfl notControl
    | response priority' lines' =>
        exact .response rfl (congrArg Lifecycle.mailmsgState step.lifecycle)
          (.inr ⟨priority, lines, held⟩)
  simp only [responseIterate]
  split
  · exact relocked _ (responseNext_ne_control priority _)
  · split
    · split
      · exact relocked _ (responseNext_ne_control priority _)
      · exact relocked _ (by simp)
    · exact relocked _ (by simp)

/-- An entry point gives the mutex back or leaves it to one of the two loops. -/
theorem LockedEffect.lock {system next : System} {label : DriverLabel}
    (effect : LockedEffect system label next) (bound : system.driver.endpoint.BoundBy .linux)
    (free : system.lock = .free) : LockStep system next := by
  cases effect with
  | unchanged | imageWritten | rearmed | opened | released | claimed => exact .released free
  | work work =>
      rcases work.lock with same | ⟨held, pending⟩
      · exact .released (same.trans free)
      · exact .control held pending
  | launched cpuOn launched unsent => exact .released (launched.lock.trans free)
  | stopped active passed => exact .released ((requestStop_spec system bound).lock.trans free)
  | data operation => exact .released ((operation.lock bound).trans free)
  | responding active => exact .response rfl rfl (.inl active)

/-- The mutex in one step. -/
theorem driverStep_lock {system next : System} {label : DriverLabel}
    (bound : system.driver.endpoint.BoundBy .linux) (taken : driverStep system label = some next) :
    LockStep system next := by
  cases driverStep_kind taken with
  | tick elapsed | b2aAcknowledge channel | rxCallback channel message | peer write =>
      exact .kept rfl rfl
  | dequeue item =>
      cases item <;> exact .kept rfl rfl
  | control held => exact controlIterate_lock system bound
  | response priority lines held => exact responseIterate_lock bound held
  | locked free taken => exact (lockedStep_effect taken).lock bound free

/-- `control_work` holds the mutex only while a reply is awaited. -/
theorem LockStep.control_pending {system next : System} (step : LockStep system next)
    (before : system.lock = .control → system.driver.mailmsgState.pendingReply = true) :
    next.lock = .control → next.driver.mailmsgState.pendingReply = true := by
  cases step with
  | released free => simp [free]
  | kept lock state =>
      rw [lock, state]
      exact before
  | control lock pending => exact fun _ => pending
  | response lock state earlier => simp [lock]

/-- No step binds the driver's endpoint to the other side. -/
theorem LifecycleStep.boundBy {system next : System} {label : DriverLabel}
    (step : LifecycleStep system label next) (bound : system.driver.endpoint.BoundBy .linux) :
    next.driver.endpoint.BoundBy .linux := by
  have same : next.driver.endpoint.role = system.driver.endpoint.role →
      next.driver.endpoint.BoundBy .linux := by
    intro role party hasRole
    exact bound party (role ▸ hasRole)
  cases step with
  | quiet session state seen => exact same session.role
  | offline session answer poweredOn seenOn watched state stillSeen => exact same session.role
  | startTimeout session expired starting state seen => exact same session.role
  | stopTimeout session expired stopping state seen => exact same session.role
  | ready response ready => exact same ready.session.role
  | refused response refused => exact same refused.session.role
  | stop issued => exact same issued.session.role
  | launched cpuOn launched =>
      intro party hasRole
      rw [launched.role] at hasRole
      exact (Option.some.inj hasRole).symm
  | rearmed rearmed =>
      intro party hasRole
      rw [rearmed.unbound] at hasRole
      cases hasRole

end MailMsg
