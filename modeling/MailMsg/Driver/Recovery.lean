/-
Module: MailMsg.Driver.Recovery
Purpose: The way back.  When the administrator can end a session by rearm without CPU3's help, and
  how every reachable state of the driver leads to a new session that is ACTIVE.
Source: LZAMP/linux/drivers/lzamp_amp_mailmsg.c (rearm_store, image_write, start_store,
  r1_amp_mailmsg_user_release, r1_amp_mailmsg_control_work, r1_amp_mbox_direct_send_locked)
Trusted boundary: none beyond the driver's model
Main exports: DoorbellsKept, driverStep_doorbells, releases_all, rearm_possible_iff,
  session_restarts
-/
import MailMsg.Driver.Files
import MailMsg.Driver.Geometry

namespace MailMsg

/-! ### Linux does not clear its own doorbells

A doorbell that CPU3 has not acknowledged keeps its A2B bit, and every way to end a session looks at
these bits.
-/

/-- Every A2B bit that was set is still set. -/
def DoorbellsKept (before after : System) : Prop :=
  ∀ channel, before.hardware.a2b.status channel = true → after.hardware.a2b.status channel = true

namespace DoorbellsKept

/-- The mailbox is as before. -/
theorem of_same {before after : System} (same : after.hardware.a2b = before.hardware.a2b) :
    DoorbellsKept before after := by
  intro channel set
  rw [same]
  exact set

/-- One operation after the other. -/
theorem trans {first second third : System} (earlier : DoorbellsKept first second)
    (later : DoorbellsKept second third) : DoorbellsKept first third :=
  fun channel set => later channel (earlier channel set)

end DoorbellsKept

section Sends

variable (system : System) (priority : Priority)

/-- A doorbell sets its bit and clears none. -/
theorem mboxDirectSendLocked_doorbells (command value : U32) :
    DoorbellsKept system (mboxDirectSendLocked system priority command value).2 := by
  unfold mboxDirectSendLocked
  split
  · exact .of_same rfl
  · intro channel set
    change Function.update system.hardware.a2b.status priority true channel = true
    rw [Function.update_apply]
    split
    · rfl
    · exact set

/-- A doorbell that fails clears none either. -/
theorem notifyLocked_doorbells : DoorbellsKept system (notifyLocked system priority).2 := by
  have sent := mboxDirectSendLocked_doorbells system priority
    (mailmsgDoorbell ||| BitVec.ofNat 32 priority.val) (BitVec.ofNat 32 priority.val)
  simp only [notifyLocked]
  split
  · exact .of_same rfl
  · split
    · exact sent
    · split <;> exact sent

/-- A send rings at most. -/
theorem linuxSend_doorbells (type : U32) (payload : Option (Nat → U8)) (length : U32) :
    DoorbellsKept system (linuxSend system priority type payload length).2 := by
  have rung := notifyLocked_doorbells system priority
  simp only [linuxSend, endpointSend]
  split
  · exact .of_same rfl
  · exact rung

/-- A push does not ring. -/
theorem testEnqueueLocked_doorbells (value : U32) (corrupt : Bool) :
    DoorbellsKept system (testEnqueueLocked system priority value corrupt).2 := by
  simp only [testEnqueueLocked]
  split
  · exact .of_same rfl
  · exact .of_same rfl

end Sends

/-- The PING attributes. -/
theorem sendPing_doorbells (system : System) (numbers : Option (U32 × U32)) (count : Nat)
    (corrupt : Bool) : DoorbellsKept system (sendPing system numbers count corrupt).2 := by
  simp only [sendPing]
  split
  · exact .of_same rfl
  · split
    · split
      · exact .of_same rfl
      · split
        · split
          · exact testEnqueueLocked_doorbells system _ _ _
          · exact (testEnqueueLocked_doorbells system _ _ _).trans (notifyLocked_doorbells _ _)
        · exact linuxSend_doorbells system _ _ _ _
    · exact .of_same rfl

/-- `mailmsg_queue_push` does not ring. -/
theorem queuePushStore_doorbells (system : System) (numbers : Option (U32 × U32)) (count : Nat) :
    DoorbellsKept system (queuePushStore system numbers count).2 := by
  simp only [queuePushStore]
  split
  · exact .of_same rfl
  · split
    · split
      · exact .of_same rfl
      · exact testEnqueueLocked_doorbells system _ _ _
    · exact .of_same rfl

/-- `doorbell`. -/
theorem doorbellStore_doorbells (system : System) (numbers : Option (U32 × U32)) (count : Nat) :
    DoorbellsKept system (doorbellStore system numbers count).2 := by
  simp only [doorbellStore]
  split
  · exact .of_same rfl
  · split
    · split
      · exact .of_same rfl
      · exact mboxDirectSendLocked_doorbells system _ _ _
    · exact .of_same rfl

/-- `write` is a send. -/
theorem userWrite_doorbells (system : System) (file : UserFile) (count : Nat) (copied : Bool)
    (frame : UserFrame) : DoorbellsKept system (userWrite system file count copied frame).2 := by
  simp only [userWrite]
  repeat' split
  all_goals first
    | exact .of_same rfl
    | exact linuxSend_doorbells system _ _ _ _

/-- A stop is a send. -/
theorem requestStop_doorbells (system : System) : DoorbellsKept system (requestStop system).2 := by
  have sent := linuxSend_doorbells system.stopping .critical MessageType.stopRequest none 0
  simp only [requestStop]
  split <;> exact sent

/-- The data plane. -/
theorem DataOperation.doorbells {system next : System} {label : DriverLabel}
    (operation : DataOperation system label next) : DoorbellsKept system next := by
  cases operation with
  | read copied found claimed =>
      rw [userRead_system]
      split <;> exact .of_same rfl
  | write count copied frame found => exact userWrite_doorbells system _ count copied frame
  | mailmsgPing numbers count corrupt => exact sendPing_doorbells system numbers count corrupt
  | queuePush numbers count => exact queuePushStore_doorbells system numbers count
  | notifyInject text count =>
      simp only [notifyInjectStore]
      repeat' split
      all_goals exact .of_same rfl
  | doorbell numbers count => exact doorbellStore_doorbells system numbers count

/-- Every entry point. -/
theorem LockedEffect.doorbells {system next : System} {label : DriverLabel}
    (effect : LockedEffect system label next) : DoorbellsKept system next := by
  cases effect with
  | unchanged | imageWritten | rearmed | opened | released | claimed
  | responding => exact .of_same rfl
  | work work => exact .of_same (congrArg Hardware.a2b work.record.hardware)
  | launched cpuOn launched unsent => exact .of_same launched.a2b
  | stopped active passed => exact requestStop_doorbells system
  | data operation => exact operation.doorbells

/-- No step of Linux clears an A2B bit; only CPU3 does. -/
theorem driverStep_doorbells {system next : System} {label : DriverLabel}
    (own : label.isPeer = false)
    (taken : driverStep system label = some next) : DoorbellsKept system next := by
  cases driverStep_kind taken with
  | tick elapsed | b2aAcknowledge channel | rxCallback channel message => exact .of_same rfl
  | peer write => cases own
  | dequeue item => cases item <;> exact .of_same rfl
  | control held =>
      simp only [controlIterate, controlResponse]
      repeat' split
      all_goals exact .of_same rfl
  | response priority lines held =>
      simp only [responseIterate]
      repeat' split
      all_goals exact .of_same rfl
  | locked free taken => exact (lockedStep_effect taken).doorbells

/-! ### Ending a session

Both directions: a rearm that goes through needs quiet A2B registers and no open file, and where
they are given, closing, querying and rearming is a run that ends the session.
-/

/-- Some A2B bit is set. -/
theorem anyPending_iff (doorbells : Doorbells) :
    doorbells.anyPending = true ↔ ∃ channel, doorbells.status channel = true := by
  simp [Doorbells.anyPending]

/-- A session that an A2B bit pins down: only rearm would end it, and rearm refuses. -/
structure Pinned (system : System) : Prop where
  session : SessionInvariant system
  attempted : system.driver.cpuOnAttempted = true
  pending : system.hardware.a2b.anyPending = true

/-- Linux clears no A2B bit, so the session stays pinned through all its steps. -/
theorem Pinned.step {system next : System} {label : DriverLabel} (pinned : Pinned system)
    (own : label.isPeer = false) (taken : driverStep system label = some next) : Pinned next where
  session := pinned.session.step taken
  attempted := by
    cases driverStep_lifecycle pinned.session.bound pinned.session.control taken with
    | quiet session state seen => exact session.attempted.trans pinned.attempted
    | offline session answer poweredOn seenOn watched state stillSeen =>
        exact session.attempted.trans pinned.attempted
    | startTimeout session expired starting state seen =>
        exact session.attempted.trans pinned.attempted
    | stopTimeout session expired stopping state seen =>
        exact session.attempted.trans pinned.attempted
    | ready response ready => exact ready.session.attempted.trans pinned.attempted
    | refused response refused => exact refused.session.attempted.trans pinned.attempted
    | stop issued => exact issued.session.attempted.trans pinned.attempted
    | launched cpuOn launched => exact launched.attempted
    | rearmed rearmed =>
        have pending := pinned.pending
        rw [rearmed.quiet] at pending
        cases pending
  pending := by
    obtain ⟨channel, set⟩ := (anyPending_iff _).mp pinned.pending
    exact (anyPending_iff _).mpr ⟨channel, driverStep_doorbells own taken channel set⟩

/-- What closing files leaves alone. -/
structure Closed (before after : System) : Prop where
  config : after.config = before.config
  lifecycle : after.driver.toLifecycle = before.driver.toLifecycle
  hardware : after.hardware = before.hardware
  jiffies : after.jiffies = before.jiffies
  lock : after.lock = before.lock
  files : after.files = []
  openCount : after.driver.userOpenCount = 0

/-- The open files can all be closed. -/
theorem releases_all {system : System} (reached : driverMachine.Reachable system)
    (free : system.lock = .free) :
    ∃ labels last, (∀ label ∈ labels, label.isPeer = false) ∧
      driverMachine.run system labels = some last ∧
      Closed system last := by
  induction counted : system.files.length using Nat.strongRecOn generalizing system with
  | ind size inductionHypothesis =>
      have invariant := FilesInvariant.reachable reached
      cases listed : system.files with
      | nil =>
          refine ⟨[], system, by simp, rfl, rfl, rfl, rfl, rfl, rfl, listed, ?_⟩
          rw [invariant.openCount, listed]
          rfl
      | cons file others =>
          have member : file ∈ system.files := by
            rw [listed]
            exact List.mem_cons_self
          have found : system.file? file.id = some file := by
            simp [System.file?, listed]
          have taken : driverMachine.step system (.release file.id) =
              some (userRelease system file) := by
            simp [driverMachine, driverStep, free, lockedStep, found]
          have shorter : (userRelease system file).files.length < size := by
            have split := (Keyed.perm_cons_filter invariant.distinct member).length_eq
            rw [List.length_cons] at split
            change (system.files.filter fun other => other.id ≠ file.id).length < size
            omega
          obtain ⟨labels, last, onlyOwn, executed, closed⟩ :=
            inductionHypothesis _ shorter (reached.step taken) free rfl
          refine ⟨.release file.id :: labels, last, ?_, ?_, ?_⟩
          · intro label listed
            rcases List.mem_cons.mp listed with rfl | later
            · rfl
            · exact onlyOwn label later
          · exact Machine.run_step taken executed
          · exact ⟨closed.config, closed.lifecycle, closed.hardware, closed.jiffies,
              closed.lock, closed.files, closed.openCount⟩

/-- Rearm from a state without open files or pending doorbells, once PSCI answers OFF. -/
theorem rearms {system : System} (free : system.lock = .free)
    (supported : system.config.hasAffinityInfo = true)
    (attempted : system.driver.cpuOnAttempted = true) (closed : system.driver.userOpenCount = 0)
    (quiet : system.hardware.a2b.anyPending = false) :
    driverMachine.step system (.rearm true 1 affinityOff) =
      some
        { system with
          driver := (refreshAffinityLocked system.driver affinityOff).rearmed
          epoch := system.epoch + 1 } := by
  have off := refreshAffinityLocked_affinityState system.driver affinityOff
  simp [driverMachine, driverStep, free, lockedStep, rearmStore, attempted, closed,
    supported, off, quiet]

/-- Linux can end a session without CPU3's help exactly when no A2B bit is pending: it closes the
files and rearms once PSCI answers OFF.  A pending bit it can neither clear nor pass. -/
theorem rearm_possible_iff {system : System} (reached : driverMachine.Reachable system)
    (free : system.lock = .free) (supported : system.config.hasAffinityInfo = true)
    (attempted : system.driver.cpuOnAttempted = true) :
    (∃ labels last, (∀ label ∈ labels, label.isPeer = false) ∧
      driverMachine.run system labels = some last ∧
      last.driver.cpuOnAttempted = false) ↔ system.hardware.a2b.anyPending = false := by
  constructor
  · rintro ⟨labels, last, onlyOwn, executed, ended⟩
    cases pending : system.hardware.a2b.anyPending with
    | false => rfl
    | true =>
        have pinned : Pinned system := ⟨SessionInvariant.reachable reached, attempted, pending⟩
        have still : Pinned last :=
          Machine.run_invariant_on (fun label => label.isPeer = false) Pinned
            (fun _ _ _ own pinned taken => pinned.step own taken) onlyOwn pinned executed
        rw [still.attempted] at ended
        cases ended
  · intro quiet
    obtain ⟨labels, closed, onlyOwn, executed, same⟩ := releases_all reached free
    have rearmed := rearms (same.lock.trans free) (same.config ▸ supported)
      ((congrArg Lifecycle.cpuOnAttempted same.lifecycle).trans attempted) same.openCount
        (same.hardware ▸ quiet)
    refine ⟨labels ++ [.rearm true 1 affinityOff], _, ?_,
      Machine.run_append executed (Machine.run_step rearmed rfl), rfl⟩
    intro label member
    rcases List.mem_append.mp member with earlier | last
    · exact onlyOwn label earlier
    · rw [List.mem_singleton.mp last]
      rfl

/-- The theorem at a running session whose doorbells are clear. -/
theorem rearm_possible_iff_demo :
    ∃ system, driverMachine.run demoProbed demoActivation = some system ∧
      system.driver.mailmsgState = .active ∧
      ∃ labels last, (∀ label ∈ labels, label.isPeer = false) ∧
        driverMachine.run system labels = some last ∧
        last.driver.cpuOnAttempted = false := by
  have checked : (driverMachine.run demoProbed demoActivation).any (fun system =>
      system.driver.mailmsgState = .active ∧ system.lock = .free ∧
        system.config.hasAffinityInfo = true ∧
        system.driver.cpuOnAttempted = true ∧ system.hardware.a2b.anyPending = false) = true := by
    decide +kernel
  obtain ⟨system, executed, passed⟩ := driverMachine.exists_of_run_any checked
  obtain ⟨active, free, supported, attempted, quiet⟩ := of_decide_eq_true passed
  have reached := Machine.Reachable.run (.init demoProbed_init) executed
  exact ⟨system, executed, active, (rearm_possible_iff reached free supported attempted).mpr quiet⟩

/-! ### Starting a session -/

/-- A driver that is ready for an image and a start. -/
structure Disarmed (system : System) : Prop where
  free : system.lock = .free
  attempted : system.driver.cpuOnAttempted = false
  room : system.driver.imageWritten ≤ system.config.imageSize
  files : system.files = []

/-- Every state without a session that an A2B bit pins down leads to one in which the driver is
disarmed. -/
theorem disarms {system : System} (reached : driverMachine.Reachable system)
    (free : system.lock = .free) (supported : system.config.hasAffinityInfo = true)
    (quiet : system.driver.cpuOnAttempted = true → system.hardware.a2b.anyPending = false) :
    ∃ labels last, driverMachine.run system labels = some last ∧ Disarmed last ∧
      last.config = system.config ∧
      last.driver.sessionGeneration = system.driver.sessionGeneration := by
  obtain ⟨labels, closed, -, executed, same⟩ := releases_all reached free
  have reachedClosed := Machine.Reachable.run reached executed
  have generation := congrArg Lifecycle.sessionGeneration same.lifecycle
  cases attempted : closed.driver.cpuOnAttempted with
  | false =>
      exact ⟨labels, closed, executed,
        ⟨same.lock.trans free, attempted, imageWritten_le reachedClosed, same.files⟩,
        same.config, generation⟩
  | true =>
      have was := (congrArg Lifecycle.cpuOnAttempted same.lifecycle).symm.trans attempted
      have rearmed := rearms (same.lock.trans free) (same.config ▸ supported) attempted
        same.openCount
        (same.hardware ▸ quiet was)
      refine ⟨labels ++ [.rearm true 1 affinityOff], _,
        Machine.run_append executed (Machine.run_step rearmed rfl), ?_, ?_, ?_⟩
      · exact ⟨same.lock.trans free, rfl, Nat.zero_le _, same.files⟩
      · exact same.config
      · exact (refreshAffinityLocked_identity closed.driver affinityOff).sessionGeneration.trans
          generation

/-- The rest of the image is accepted in one write. -/
theorem Disarmed.loads {system : System} (disarmed : Disarmed system) (bytes : Nat → U8) :
    ∃ next, driverMachine.step system
        (.imageWrite system.driver.imageWritten
          (system.config.imageSize - system.driver.imageWritten) bytes) =
          some next ∧ Disarmed next ∧ next.config = system.config ∧
      next.driver.sessionGeneration = system.driver.sessionGeneration ∧
      next.driver.imageWritten = system.config.imageSize ∧ next.hardware = system.hardware := by
  have taken : driverMachine.step system
      (.imageWrite system.driver.imageWritten
        (system.config.imageSize - system.driver.imageWritten) bytes) =
        some (imageWrite system system.driver.imageWritten
          (system.config.imageSize - system.driver.imageWritten) bytes).2 := by
    simp [driverMachine, driverStep, disarmed.free, lockedStep]
  simp only [imageWrite, disarmed.attempted, Bool.false_eq_true, if_false, ne_eq, not_true_eq_false,
    Nat.lt_irrefl] at taken
  have whole := Nat.add_sub_of_le disarmed.room
  exact ⟨_, taken, ⟨disarmed.free, rfl, whole.le, disarmed.files⟩, rfl, rfl, whole, rfl⟩

/-- A session whose CPU_ON has just been accepted. -/
structure Started (system : System) (generation : U32) : Prop where
  free : system.lock = .free
  starting : system.driver.mailmsgState = .starting
  sessionGeneration : system.driver.sessionGeneration = generation
  nonzero : generation ≠ 0#32
  role : system.driver.endpoint.role = some .linux
  bound : system.driver.endpoint.generation = generation
  region : system.hardware.shared = sessionRegion generation
  deadline : system.jiffies < system.driver.lifecycleDeadline
  files : system.files = []

/-- Start from a loaded image, once PSCI answers OFF and accepts CPU_ON. -/
theorem Disarmed.starts {system : System} (disarmed : Disarmed system)
    (supported : system.config.hasAffinityInfo = true) (cpuOn : system.config.hasCpuOn = true)
    (patient : 0 < system.config.lifecycleTimeout)
    (loaded : system.driver.imageWritten = system.config.imageSize) :
    ∃ next, driverMachine.step system (.start true 1 affinityOff 0) = some next ∧
      Started next (nextNonzero system.driver.sessionGeneration) ∧
        next.hardware.a2b = system.hardware.a2b := by
  have off := refreshAffinityLocked_affinityState system.driver affinityOff
  have same := refreshAffinityLocked_identity system.driver affinityOff
  have bind := endpointBind_sessionRegion (refreshAffinityLocked system.driver affinityOff).endpoint
    (nextNonzero_ne_zero (refreshAffinityLocked system.driver affinityOff).sessionGeneration) .linux
  have value : (startStore system true 1 affinityOff 0).2 =
      launch (initialiseSession { system with
        driver := refreshAffinityLocked system.driver affinityOff }).2 0 := by
    simp [startStore, disarmed.attempted, loaded, supported, cpuOn, off, initialiseSession, bind]
  have taken : driverMachine.step system (.start true 1 affinityOff 0) =
      some (launch (initialiseSession
        { system with driver := refreshAffinityLocked system.driver affinityOff }).2 0) := by
    rw [← value]
    simp [driverMachine, driverStep, disarmed.free, lockedStep]
  have generation : nextNonzero (refreshAffinityLocked system.driver affinityOff).sessionGeneration =
      nextNonzero system.driver.sessionGeneration := by
    rw [same.sessionGeneration]
  refine ⟨_, taken, ⟨disarmed.free, rfl, generation, nextNonzero_ne_zero _, ?_, ?_, ?_,
    Nat.lt_add_of_pos_right patient, disarmed.files⟩, rfl⟩
  · exact congrArg (fun bound => bound.2.role) bind
  · exact (congrArg (fun bound => bound.2.generation) bind).trans generation
  · exact congrArg sessionRegion generation

/-! ### Announcing a session -/

/-- The frame of a SESSION_READY. -/
def readyFrame (generation : U32) : Frame :=
  (sendMessage generation MessageType.sessionReady 1 8
    (some (storePayloadU32 (storePayloadU32 (fun _ => 0) 0 generation) 4 protocolVersion))).frame

/-- SESSION_READY passes the checks of the pop. -/
theorem readyFrame_valid {generation : U32} (nonzero : generation ≠ 0#32) : ¬
    (readyFrame generation).malformed :=
  sendMessage_wellFormed nonzero (by decide) (by decide)

/-- A word of the payload of a SESSION_READY. -/
theorem readyFrame_word (generation : U32) {offset : Nat} (inside : offset + 4 ≤ 8) :
    payloadU32 (readyFrame generation).committed.payloadAt offset =
      payloadU32 (storePayloadU32 (storePayloadU32 (fun _ => 0) 0 generation) 4 protocolVersion)
        offset := by
  apply payloadU32_congr
  intro byte below
  have short : offset + byte < 8 := by omega
  have fits : offset + byte < payloadBytes := Nat.lt_trans short (by decide)
  simp [readyFrame, Message.payloadAt, Frame.committed, Message.frame, sendMessage, short, fits]

/-- The driver of the session accepts its SESSION_READY. -/
theorem readyFrame_accepted (driver : Driver) :
    sessionReadyAccepted driver (readyFrame driver.sessionGeneration).committed = true := by
  simp only [sessionReadyAccepted, Bool.and_eq_true, beq_iff_eq, decide_eq_true_eq]
  refine ⟨⟨⟨rfl, ?_⟩, ?_⟩, ?_⟩
  · exact (by decide : sessionBytes ≤ (8#32).toNat)
  · rw [readyFrame_word _ (by decide), payloadU32_store_of_disjoint _ _ (Or.inl (by decide)),
      payloadU32_store]
  · rw [readyFrame_word _ (by decide), payloadU32_store]

/-- A session of a start that CPU3 has announced. -/
structure Announced (system : System) (generation : U32) : Prop where
  free : system.lock = .free
  starting : system.driver.mailmsgState = .starting
  sessionGeneration : system.driver.sessionGeneration = generation
  role : system.driver.endpoint.role = some .linux
  bound : system.driver.endpoint.generation = generation
  session : endpointSessionValid system.driver.endpoint system.hardware.shared = .ok
  deadline : system.jiffies < system.driver.lifecycleDeadline
  ready : (system.hardware.shared.ring .cpu3 .critical).Holds [readyFrame generation]

/-- The driver once the control work has accepted the announcement. -/
def Driver.activated (driver : Driver) : Driver :=
  { driver with
    endpoint := driver.endpoint.updateStats .critical fun stats => stats.received .ok
    peerGeneration := driver.sessionGeneration
    sessionResult := 0
    mailmsgState := .active
    affinitySeenOn := true
    lifecycleTimeoutQueued := false }

/-- The control work takes the announcement and opens the session. -/
theorem Announced.activates {system : System} {generation : U32}
    (announced : Announced system generation) :
    ∃ ring : Ring, ring.Holds [] ∧
      driverMachine.run system [.controlEnter, .controlIterate] =
        some
          { system with
            driver := system.driver.activated
            hardware :=
              { system.hardware with shared := system.hardware.shared.setRing .cpu3 .critical ring }
            lock := .free } := by
  obtain ⟨rest, taken⟩ := endpointReceive_cons .critical announced.role announced.session
    announced.ready
    (announced.bound.symm : (readyFrame generation).generation = system.driver.endpoint.generation)
  have waits : ¬ system.driver.lifecycleDeadline ≤ system.jiffies :=
    Nat.not_le_of_lt announced.deadline
  have accepted (endpoint : Endpoint) :
      sessionReadyAccepted { system.driver with endpoint := endpoint }
        (readyFrame generation).committed = true := by
    have same := readyFrame_accepted system.driver
    rw [announced.sessionGeneration] at same
    exact same
  refine ⟨_, rest, ?_⟩
  simp [driverMachine, Machine.run, driverStep, announced.free, lockedStep, controlEnter,
    announced.starting, SessionState.pendingReply, waits, controlIterate, linuxReceive, taken,
    System.store, controlResponse, accepted]
  exact ⟨rfl, rfl⟩

/-- What CPU3 writes to announce its session. -/
def announcement (generation : U32) : List DriverLabel :=
  [.peer (.slot .critical 0 (readyFrame generation).committed), .peer (.producer .critical 1)]

/-- The region with CPU3's SESSION_READY in it. -/
def announcedRegion (generation : U32) : Shared :=
  (sessionRegion generation).setRing .cpu3 .critical
    (Ring.zero.publish (readyFrame generation).committed)

/-- CPU3 announces a session that has just started. -/
theorem Started.announces {system : System} {generation : U32}
    (started : Started system generation) :
    ∃ next, driverMachine.run system (announcement generation) = some next ∧
      Announced next generation ∧
      next.hardware.shared = announcedRegion generation ∧ next.files = [] := by
  have region : ((system.hardware.shared.updateRing .cpu3 .critical fun ring =>
        { ring with slot := Function.update ring.slot 0 (readyFrame generation).committed
          }).updateRing .cpu3
          .critical fun ring => { ring with producer := 1 }) = announcedRegion generation := by
    rw [started.region]
    simp [announcedRegion, Shared.updateRing, Shared.setRing, Shared.ring, sessionRegion,
      Shared.zero, Ring.publish, Ring.zero]
    rfl
  refine ⟨
    { system with
      hardware := { system.hardware with shared := announcedRegion generation }
      peerWrites := system.peerWrites ++ [(.critical, (readyFrame generation).committed)]
        }, ?_, ?_, rfl,
    started.files⟩
  · simp [driverMachine, announcement, Machine.run, driverStep, PeerWrite.apply, PeerWrite.frames]
    exact region
  · refine ⟨started.free, started.starting, started.sessionGeneration, started.role,
      started.bound, ?_, started.deadline, ?_⟩
    · rw [announcedRegion, endpointSessionValid_setRing, endpointSessionValid_ok_iff, started.role,
        started.bound]
      exact ⟨rfl, started.nonzero, rfl, rfl, rfl⟩
    · rw [announcedRegion, Shared.ring_setRing_self]
      exact Ring.Holds.zero.publish (by decide) (readyFrame_valid started.nonzero)

/-- The region of a session whose only frame was taken is empty. -/
theorem sessionRegion_emptied (generation : U32) (full : Ring) {ring : Ring} (empty : ring.Holds [])
    (sender : Role) (priority : Priority) :
    ((((sessionRegion generation).setRing .cpu3 .critical full).setRing
      .cpu3 .critical ring).ring sender
      priority).Holds [] := by
  by_cases popped : sender = .cpu3 ∧ priority = .critical
  · obtain ⟨rfl, rfl⟩ := popped
    rw [Shared.ring_setRing_self]
    exact empty
  · have different : sender ≠ .cpu3 ∨ priority ≠ .critical := not_and_or.mp popped
    rw [Shared.ring_setRing_of_ne _ _ _ _ different, Shared.ring_setRing_of_ne _ _ _ _ different]
    cases sender <;> exact Ring.Holds.zero

/-- From every state of the driver in which nobody holds the mutex and no A2B bit pins a session
down, some run of the administrator and of CPU3 leads to a new session that is ACTIVE, with the next
generation, no open file and empty rings. -/
theorem session_restarts {system : System} (reached : driverMachine.Reachable system)
    (free : system.lock = .free) (supported : system.config.hasAffinityInfo = true)
    (cpuOn : system.config.hasCpuOn = true) (patient : 0 < system.config.lifecycleTimeout)
    (quiet : system.driver.cpuOnAttempted = true → system.hardware.a2b.anyPending = false) :
    ∃ labels last, driverMachine.run system labels = some last ∧
      last.driver.mailmsgState = .active ∧
      last.lock = .free ∧ last.driver.sessionGeneration =
        nextNonzero system.driver.sessionGeneration ∧
      last.files = [] ∧ ∀ sender priority,
        (last.hardware.shared.ring sender priority).contents = [] := by
  obtain ⟨disarming, disarmedSystem, toDisarmed, disarmed, config, generation⟩ :=
    disarms reached free supported quiet
  obtain ⟨loadedSystem, load, ready, loadedConfig, loadedGeneration, loaded, -⟩ :=
    disarmed.loads fun _ => 0
  have same : loadedSystem.config = system.config := loadedConfig.trans config
  obtain ⟨startedSystem, start, started, -⟩ :=
    ready.starts (same ▸ supported) (same ▸ cpuOn) (same ▸ patient)
    (loaded.trans (congrArg Config.imageSize loadedConfig.symm))
  obtain ⟨announcedSystem, announce, announced, region, closed⟩ := started.announces
  obtain ⟨ring, empty, activate⟩ := announced.activates
  refine ⟨_, _, Machine.run_append toDisarmed (Machine.run_step load (Machine.run_step start
    (Machine.run_append announce activate))), rfl, rfl, ?_, closed, ?_⟩
  · exact announced.sessionGeneration.trans (by rw [loadedGeneration, generation])
  · intro sender priority
    have emptied :
      (((announcedRegion (nextNonzero loadedSystem.driver.sessionGeneration)).setRing .cpu3 .critical
        ring).ring sender priority).Holds [] := sessionRegion_emptied _ _ empty sender priority
    rw [← region] at emptied
    exact emptied.contents

/-- The theorem at an ACTIVE session with an open file: the file is closed, CPU3 rearmed, and the
next session has generation 2. -/
theorem session_restarts_demo :
    ∃ system, driverMachine.run demoProbed demoOpened = some system ∧
      system.driver.mailmsgState = .active ∧ system.driver.cpuOnAttempted = true ∧
      system.files.length = 1 ∧
      ∃ labels last, driverMachine.run system labels = some last ∧
        last.driver.mailmsgState = .active ∧
        last.lock = .free ∧ last.driver.sessionGeneration = 2 ∧ last.files = [] ∧
        ∀ sender priority, (last.hardware.shared.ring sender priority).contents = [] := by
  have checked : (driverMachine.run demoProbed demoOpened).any (fun system =>
      decide (system.driver.mailmsgState = .active ∧ system.driver.cpuOnAttempted = true ∧
        system.files.length = 1 ∧ system.lock = .free ∧ system.driver.sessionGeneration = 1 ∧
        system.config.hasAffinityInfo = true ∧ system.config.hasCpuOn = true ∧
        0 < system.config.lifecycleTimeout ∧ system.hardware.a2b.anyPending = false)) = true := by
    decide +kernel
  obtain ⟨system, executed, passed⟩ := driverMachine.exists_of_run_any checked
  obtain ⟨active, attempted, opened, free, first, supported, cpuOn, patient, quiet⟩ :=
    of_decide_eq_true passed
  obtain ⟨labels, last, restarted, again, released, next, closed, empty⟩ :=
    session_restarts (Machine.Reachable.run (.init demoProbed_init) executed) free supported cpuOn
      patient (fun _ => quiet)
  have second : last.driver.sessionGeneration = 2 := by
    rw [next, first]
    decide
  exact ⟨system, executed, active, attempted, opened, labels, last, restarted, again,
    released, second, closed, empty⟩

end MailMsg
