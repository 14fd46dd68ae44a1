/-
Module: MailMsg.Amp.Cycle
Purpose: Both sides of the board through a whole life: a drained session can always be stopped, CPU3
  powers itself off, and a new session can always be started.
Source: LZAMP/linux/drivers/lzamp_amp_mailmsg.c, LZAMP/firmware/zephyr/app/src/main.c
Trusted boundary: PSCI as in the model of the board
Main exports: Quiet, Parked, Quiet.parks, Parked.restarts, Lives, lifecycle_repeats
-/
import MailMsg.Amp.Refinement
import MailMsg.Driver.Recovery
import MailMsg.Driver.StopReply

namespace MailMsg

/-! ### The request of a stop -/

/-- What `mailmsg_stop_store` leaves behind when it has queued its request in a ring. -/
structure StopUnderway (before : System) (ring : Ring) (after : System) : Prop where
  config : after.config = before.config
  jiffies : after.jiffies = before.jiffies
  free : after.lock = .free
  stopping : after.driver.mailmsgState = .stopping
  sequence : after.driver.stopRequestSequence = endpointNextSequence before.driver.endpoint
  deadline : after.driver.lifecycleDeadline = before.jiffies + before.config.lifecycleTimeout
  attempted : after.driver.cpuOnAttempted = before.driver.cpuOnAttempted
  cpuOnRet : after.driver.cpuOnRet = before.driver.cpuOnRet
  seenOn : after.driver.affinitySeenOn = before.driver.affinitySeenOn
  sessionGeneration : after.driver.sessionGeneration = before.driver.sessionGeneration
  openCount : after.driver.userOpenCount = before.driver.userOpenCount
  binding : before.driver.endpoint.SameBinding after.driver.endpoint
  hardware : after.hardware =
    { before.hardware with
      shared := before.hardware.shared.setRing .linux .critical ring
      a2b := before.hardware.a2b.write .critical mailmsgDoorbell 0 }

/-- A session that `mailmsg_stop_store` finds drained on priority 0. -/
structure Stoppable (system : System) : Prop where
  free : system.lock = .free
  active : system.driver.mailmsgState = .active
  closed : system.driver.userOpenCount = 0
  role : system.driver.endpoint.role = some .linux
  session : endpointSessionValid system.driver.endpoint system.hardware.shared = .ok
  rings : ∀ sender, (system.hardware.shared.ring sender .critical).Holds []
  silent : ∀ channel, system.hardware.a2b.status channel = false

/-- The frame of a STOP_REQUEST. -/
def stopRequestFrame (generation sequence : U32) : Frame :=
  (sendMessage generation MessageType.stopRequest sequence 0 none).frame

theorem Stoppable.preflight {system : System}
    (drained : Stoppable system) : stopPreflightLocked system = 0 := by
  have same := (drained.rings .cpu3).empty_iff.mpr rfl
  have nothing : endpointHasReceived system.driver.endpoint system.hardware.shared
      .critical = 0 := by
    simp [endpointHasReceived, drained.role, drained.session, ringHasData, Role.peer, same]
  have first : stopPreflightRings system (List.finRange priorityCount) = some 0 := by
    change stopPreflightRings system (.critical :: _) = some 0
    rw [stopPreflightRings, nothing]
    rfl
  simp [stopPreflightLocked, drained.closed, drained.role, first]

/-- A doorbell past the fault injection on a channel whose bit is clear. -/
theorem notifyLocked_rings {system : System} {priority : Priority}
    (bypass : system.driver.lifecycleNotifyBypass = true)
    (silent : system.hardware.a2b.status priority = false) :
    ∃ mbox, notifyLocked system priority =
      (notifySent,
        { system with
          driver := { system.driver with mbox := mbox, mailmsgLastNotifyResult := notifySent }
          hardware :=
            { system.hardware with
              a2b := system.hardware.a2b.write priority
                (mailmsgDoorbell ||| BitVec.ofNat 32 priority.val)
                (BitVec.ofNat 32 priority.val) } }) := by
  have notBusy : (0 : Int) ≠ -Errno.busy := by decide
  simp only [notifyLocked, mboxDirectSendLocked, bypass, silent, notBusy, not_true_eq_false,
    false_and, if_false, Bool.false_eq_true, Int.lt_irrefl]
  exact ⟨_, rfl⟩

/-- The send of the request. -/
theorem Stoppable.sends {system : System} (drained : Stoppable system) :
    ∃ ring outcome mbox, ring.Holds [stopRequestFrame system.driver.endpoint.generation
        (endpointNextSequence system.driver.endpoint)] ∧
      outcome.ret = .ok ∧ outcome.result.sequence = endpointNextSequence system.driver.endpoint ∧
      system.driver.endpoint.SameBinding outcome.endpoint ∧
      linuxSend system.stopping .critical MessageType.stopRequest none 0 =
        (outcome,
          { system.stopping with
            driver :=
              { system.stopping.driver with
                mbox := mbox
                mailmsgLastNotifyResult := notifySent
                endpoint := outcome.endpoint }
            hardware :=
              { system.hardware with
                shared := system.hardware.shared.setRing .linux .critical ring
                a2b := system.hardware.a2b.write .critical mailmsgDoorbell 0 } }) := by
  have arguments : sendArgumentsValid system.driver.endpoint none 0 := by
    simp [sendArgumentsValid, drained.role]
  obtain ⟨ring, endpoint, report, holds, binding, -, sequence, enqueued⟩ :=
    endpointEnqueue_room .critical MessageType.stopRequest .zero drained.role
      drained.session arguments
      (drained.rings .linux) (by decide)
  obtain ⟨mbox, rung⟩ : ∃ mbox, notifyLocked system.stopping .critical = _ :=
    notifyLocked_rings rfl (drained.silent .critical)
  have same : endpointEnqueue system.stopping.driver.endpoint
    system.stopping.hardware.shared .critical
      MessageType.stopRequest none 0 .zero =
        ⟨.ok, report, endpoint, system.hardware.shared.setRing .linux .critical ring⟩ := enqueued
  refine ⟨ring, _, mbox, holds, ?_, ?_, ?_, by simp only [linuxSend, endpointSend, same, rung]; rfl⟩
  · rfl
  · exact sequence
  · exact ⟨binding.role, binding.generation⟩

/-- A drained session takes the request of a stop. -/
theorem Stoppable.stops {system : System} (drained : Stoppable system) :
    ∃ ring next, ring.Holds [stopRequestFrame system.driver.endpoint.generation
        (endpointNextSequence system.driver.endpoint)] ∧
      driverStep system (.stop true 1) = some next ∧ StopUnderway system ring next := by
  have taken : driverStep system (.stop true 1) = some (requestStop system).2 := by
    simp [driverStep, drained.free, lockedStep, stopStore, drained.active, drained.preflight]
  obtain ⟨ring, outcome, mbox, holds, accepted, sequence, binding, sent⟩ := drained.sends
  refine ⟨ring, _, holds, taken, ?_⟩
  simp only [requestStop, sent, accepted]
  exact ⟨rfl, rfl, drained.free, rfl, sequence, rfl, rfl, rfl, rfl, rfl, rfl, binding, rfl⟩

/-! ### CPU3 takes the request -/

/-- CPU3 waits for a doorbell. -/
structure Attentive (firmware : Firmware) : Prop where
  waiting : firmware.worker = .waiting
  idle : firmware.isr = .idle
  enabled : firmware.irqEnabled = true
  gate : firmware.serviceOpen = true
  settled : firmware.pendingPriorities = fun _ => false

/-- A call of the service for priority 0 alone, about to drain it. -/
def criticalVisit : Visit :=
  ⟨.start (Function.update (fun _ => false) .critical true), .critical, 0⟩

/-- The worker at the drain loop of priority 0, after its doorbell. -/
def Firmware.summoned (firmware : Firmware) : Firmware :=
  { firmware with
    isr := .idle
    irqEnabled := true
    pendingPriorities := fun _ => false
    irqCount := firmware.irqCount + 1
    workSem := false
    wakeCount := firmware.wakeCount + 1
    drainCount := firmware.drainCount + 1
    worker := .draining criticalVisit }

/-- The handler of a doorbell, and the worker from its semaphore to the drain loop of priority 0. -/
def criticalDoorbell : List FirmwareLabel :=
  [.interrupt .critical, .isr, .isr, .isr, .worker, .worker, .worker, .worker]

/-- The doorbell of priority 0 brings the worker to its drain loop. -/
theorem Attentive.summons {build : Build} {amp : Amp} (attentive : Attentive amp.firmware)
    (on : amp.power = .on)
    (serves : amp.firmware.build.skipPriority ≠ some .critical)
    (rung : amp.system.hardware.a2b.status .critical = true)
    (command : amp.system.hardware.a2b.command .critical = mailmsgDoorbell) :
    (ampMachine build).run amp (criticalDoorbell.map .cpu3) =
      some
        { amp with
          firmware := amp.firmware.summoned
          system :=
            { amp.system with
              hardware := { amp.system.hardware with
                a2b := amp.system.hardware.a2b.acknowledge .critical } } } := by
  have protocol : protocolDoorbell mailmsgDoorbell = true := by decide
  have any : anyPriority (Function.update (fun _ => false) Priority.critical true) = true := by
    decide
  have called : (Round.start (Function.update (fun _ => false) Priority.critical true)).pending
    0 = true := rfl
  have served : amp.firmware.build.skipPriority ≠ some 0 := serves
  have gate := attentive.gate
  simp only [Firmware.serviceOpen] at gate
  simp [ampMachine, criticalDoorbell, Machine.run, ampStep, firmwareStep, Amp.board, on,
    Board.deliverable, attentive.waiting, attentive.idle, attentive.enabled, gate,
    attentive.settled, rung, command, isrStep, Isr.isIdle, Worker.isOff, protocol, isrPost,
    wakingDoorbell, workerStep, any, Firmware.serviceOpen, Board.work, called, served]
  rfl

/-- The running board with another state of CPU3 and of the shared hardware. -/
def Amp.onBoard (amp : Amp) (board : Board) : Amp where
  system := { amp.system with hardware := board.hardware }
  firmware := board.firmware
  power := .on

/-- A step of the worker on the running board. -/
theorem Amp.works {build : Build} {amp : Amp} {board after : Board}
    (idle : board.firmware.isr = .idle)
    (stepped : workerStep board = some after) (stays : after.firmware.worker.isOff = false) :
    (ampMachine build).step (amp.onBoard board) (.cpu3 .worker) = some (amp.onBoard after) := by
  simp [ampMachine, ampStep, firmwareStep, Amp.board, Amp.onBoard, idle, Isr.isIdle, stepped, stays]

/-- A step of the worker that moves it and may write one ring. -/
structure Onward (before after : Board) (shared : Shared) (worker : Worker) : Prop where
  build : after.firmware.build = before.firmware.build
  isr : after.firmware.isr = before.firmware.isr
  binding : before.firmware.endpoint.SameBinding after.firmware.endpoint
  shared : after.hardware.shared = shared
  a2b : after.hardware.a2b = before.hardware.a2b
  worker : after.firmware.worker = worker

/-- The reply to a request. -/
def stopReply (sequence : U32) : Reply := feedbackReply MessageType.stopReady sequence 0

/-- The frame of the STOP_READY for a request. -/
def stopReadyFrame (generation number request : U32) : Frame :=
  (sendMessage generation MessageType.stopReady number 8 (some (stopReply request).payload)).frame

/-- The STOP_READY names the request it answers. -/
theorem stopReadyFrame_request (generation number request : U32) :
    payloadU32 (stopReadyFrame generation number request).committed.payloadAt 0 = request := by
  have same : payloadU32 (stopReadyFrame generation number request).committed.payloadAt 0 =
      payloadU32 (stopReply request).payload 0 := by
    apply payloadU32_congr
    intro byte below
    have short : byte < 8 := Nat.lt_trans below (by decide)
    have fits : byte < payloadBytes := Nat.lt_trans short (by decide)
    simp [stopReadyFrame, Message.payloadAt, Frame.committed, Message.frame,
      sendMessage, short, fits]
  rw [same, stopReply, feedbackReply, payloadU32_store_of_disjoint _ _ (Or.inl (by decide)),
    payloadU32_store]

/-- The driver that waits for the request accepts its STOP_READY. -/
theorem stopReadyFrame_accepted (driver : Driver) (generation number : U32) :
    stopReplyAccepted driver (stopReadyFrame generation number
      driver.stopRequestSequence).committed = true := by
  simp only [stopReplyAccepted, Bool.and_eq_true, beq_iff_eq, decide_eq_true_eq]
  refine ⟨⟨?_, ?_⟩, stopReadyFrame_request ..⟩
  · rfl
  · exact (by decide : feedbackBytes ≤ (8#32).toNat)

/-- The worker at its drain loop with the request of a stop in front of it. -/
structure Requested (board : Board) (generation sequence : U32) : Prop where
  draining : board.firmware.worker = .draining criticalVisit
  control : board.firmware.build.stopControl = true
  role : board.firmware.endpoint.role = some .cpu3
  bound : board.firmware.endpoint.generation = generation
  session : endpointSessionValid board.firmware.endpoint board.hardware.shared = .ok
  request : (board.hardware.shared.ring .linux .critical).Holds
    [stopRequestFrame generation sequence]

/-- The worker takes the request. -/
theorem Requested.drains {board : Board} {generation sequence : U32}
    (requested : Requested board generation sequence) :
    ∃ (forward : Ring) (after : Board), forward.Holds [] ∧ workerStep board = some after ∧
      Onward board after (board.hardware.shared.setRing .linux .critical forward)
        (.replying criticalVisit.next (stopReply sequence)
          (.cpuOff (stopRequestFrame generation sequence).committed)) := by
  obtain ⟨rest, taken⟩ :=
    endpointReceive_cons .critical requested.role requested.session requested.request
      requested.bound.symm
  have typed : (stopRequestFrame generation sequence).committed.type = MessageType.stopRequest :=
    rfl
  have short : (stopRequestFrame generation sequence).committed.length = 0#32 := rfl
  have visited : 0 < drainQuota := by decide
  have stepped : workerStep board = some (drain board criticalVisit) := by
    simp only [workerStep, requested.draining]
  refine ⟨_, _, rest, stepped, ?_⟩
  simp only [drain, criticalVisit, visited, if_true, taken, answer, Visit.next, typed, short,
    requested.control, and_self, ne_eq, not_true_eq_false, if_false]
  exact ⟨rfl, rfl, ⟨rfl, rfl⟩, rfl, rfl, rfl⟩

/-- The worker pushes a reply into an empty ring. -/
theorem workerStep_replies {board : Board} {visit : Visit} {reply : Reply} {next : Continuation}
    (replying : board.firmware.worker = .replying visit reply next)
    (role : board.firmware.endpoint.role = some .cpu3)
    (session : endpointSessionValid board.firmware.endpoint board.hardware.shared = .ok)
    (room : (board.hardware.shared.ring .cpu3 visit.priority).Holds []) :
    ∃ (reverse : Ring) (number : U32) (report : SendResult) (after : Board),
      reverse.Holds [(sendMessage board.firmware.endpoint.generation reply.type number reply.length
        (some reply.payload)).frame] ∧
      workerStep board = some after ∧
      Onward board after (board.hardware.shared.setRing .cpu3 visit.priority reverse)
        (.ringing visit report next) := by
  have arguments : sendArgumentsValid board.firmware.endpoint
      (some reply.payload) reply.length := by
    simp [sendArgumentsValid, role, reply.fits]
  obtain ⟨reverse, sent, report, holds, binding, -, -, enqueued⟩ :=
    endpointEnqueue_room visit.priority reply.type .pending role session arguments room (by decide)
  have stepped : workerStep board = some (sendReply board visit reply next) := by
    simp only [workerStep, replying]
  refine ⟨reverse, _, report, _, holds, stepped, ?_⟩
  simp only [sendReply, Board.enqueue, enqueued, ne_eq, not_true_eq_false, if_false]
  exact ⟨rfl, rfl, binding, rfl, rfl, rfl⟩

/-- The doorbell of a reply is accepted. -/
theorem workerStep_rings {board : Board} {visit : Visit} {report : SendResult} {next : Continuation}
    (ringing : board.firmware.worker = .ringing visit report next) :
    ∃ after, workerStep board = some after ∧
      Onward board after board.hardware.shared (next.resume visit true) := by
  have stepped : workerStep board = some (ringReply board visit report next) := by
    simp only [workerStep, ringing]
  obtain ⟨rung, frame, value⟩ := ringReply_spec board visit report next
  refine ⟨_, stepped, ?_⟩
  have isr : rung.firmware.isr = board.firmware.isr := by rw [frame.firmware]
  rw [value]
  exact ⟨frame.sameImage.build, isr, frame.binding, frame.shared, frame.hardware.a2b, rfl⟩

/-- The worker from the drain loop to the last instruction before CPU_OFF. -/
def takeRequest : List FirmwareLabel := List.replicate 6 .worker ++ [.cpuOff false]

/-- The worker takes the request, answers with STOP_READY and powers CPU3 off. -/
theorem Requested.powersOff {build : Build} {amp : Amp} {board : Board} {generation sequence : U32}
    (requested : Requested board generation sequence) (idle : board.firmware.isr = .idle)
    (room : (board.hardware.shared.ring .cpu3 .critical).Holds []) :
    ∃ (forward reverse : Ring) (number : U32) (after : Board),
      forward.Holds [] ∧
      reverse.Holds [stopReadyFrame generation number sequence] ∧
      after.firmware.build = board.firmware.build ∧
      after.hardware.shared =
        (board.hardware.shared.setRing .linux .critical forward).setRing .cpu3 .critical reverse ∧
      (∀ channel, after.hardware.a2b.status channel = false) ∧
      (ampMachine build).run (amp.onBoard board) (takeRequest.map .cpu3) =
        some { amp.onBoard after with power := .off } := by
  obtain ⟨forward, served, emptied, drained, onDrained⟩ := requested.drains
  have role := onDrained.binding.role.trans requested.role
  have session : endpointSessionValid served.firmware.endpoint served.hardware.shared = .ok := by
    rw [onDrained.shared, endpointSessionValid_setRing, onDrained.binding.session]
    exact requested.session
  have space : (served.hardware.shared.ring .cpu3 .critical).Holds [] := by
    rw [onDrained.shared, Shared.ring_setRing_of_ne _ _ _ _ (Or.inl (by decide))]
    exact room
  obtain ⟨reverse, number, report, queued, holds, replied, onQueued⟩ :=
    workerStep_replies onDrained.worker role session space
  obtain ⟨rung, rang, onRung⟩ := workerStep_rings onQueued.worker
  rw [onDrained.binding.generation, requested.bound] at holds
  have drainedIdle := onDrained.isr.trans idle
  have queuedIdle := onQueued.isr.trans drainedIdle
  have rungIdle := onRung.isr.trans queuedIdle
  have stopping : rung.firmware.worker =
    .stopping (stopRequestFrame generation sequence).committed := onRung.worker
  refine ⟨forward, reverse, number,
    { firmware := { rung.firmware with irqEnabled := false, worker := .off }
      hardware :=
        { rung.hardware with
          a2b :=
            { rung.hardware.a2b with
              status := fun channel => rung.hardware.a2b.status channel && !rung.hardware.a2b.status
                channel } } },
    emptied, holds, ?_, ?_, ?_, ?_⟩
  · exact onRung.build.trans (onQueued.build.trans onDrained.build)
  · refine (onRung.shared.trans onQueued.shared).trans ?_
    rw [onDrained.shared]
    rfl
  · intro channel
    exact Bool.and_not_self _
  · refine Machine.run_step (Amp.works idle drained (by rw [onDrained.worker]; rfl)) ?_
    refine Machine.run_step (Amp.works drainedIdle replied (by rw [onQueued.worker]; rfl)) ?_
    refine Machine.run_step (Amp.works queuedIdle rang (by rw [stopping]; rfl)) ?_
    simp [ampMachine, Machine.run, ampStep, Amp.onBoard, Amp.board, firmwareStep,
      rungIdle, Isr.isIdle, workerStep, stopping, Worker.isOff, Board.work, cpuOffStep]

/-! ### Linux beside a session -/

/-- Steps of Linux that cannot end a session. -/
def DriverLabel.keeps : DriverLabel → Bool
  | .rearm .. | .peer _ => false
  | _ => true

/-- An attempted session stays one. -/
theorem keeps_attempted {system next : System} {label : DriverLabel}
    (bound : system.driver.endpoint.BoundBy .linux)
    (pending : system.lock = .control → system.driver.mailmsgState.pendingReply = true)
    (attempted : system.driver.cpuOnAttempted = true) (keeps : label.keeps = true)
    (taken : driverStep system label = some next) : next.driver.cpuOnAttempted = true := by
  cases driverStep_lifecycle bound pending taken with
  | quiet session state seen => exact session.attempted.trans attempted
  | offline session answer poweredOn seenOn watched state stillSeen =>
      exact session.attempted.trans attempted
  | startTimeout session expired starting state seen => exact session.attempted.trans attempted
  | stopTimeout session expired stopping state seen => exact session.attempted.trans attempted
  | ready response ready => exact ready.session.attempted.trans attempted
  | refused response refused => exact refused.session.attempted.trans attempted
  | stop issued => exact issued.session.attempted.trans attempted
  | launched cpuOn launched => exact launched.attempted
  | rearmed rearmed =>
      obtain ⟨count, isRearm, -⟩ := rearmed.label
      rw [isRearm] at keeps
      cases keeps

/-- A step of Linux that PSCI can answer. -/
theorem Amp.linuxStep {build : Build} {amp : Amp} {label : DriverLabel} {next : System}
    (own : label.isPeer = false) (answered : amp.power.answers label = true)
    (taken : driverStep amp.system label = some next) :
    (ampMachine build).step amp (.linux label) =
      some { amp with system := next, power := if amp.system.poweredOn next then .pending
        else amp.power } := by
  simp [ampMachine, ampStep, own, answered, taken]

/-- No power comes on inside an attempted session. -/
theorem poweredOn_attempted {before after : System}
    (attempted : before.driver.cpuOnAttempted = true) : before.poweredOn after = false := by
  simp [System.poweredOn, attempted]

/-- No power comes on when nothing was attempted. -/
theorem poweredOn_unattempted {before after : System}
    (unattempted : after.driver.cpuOnAttempted = false) : before.poweredOn after = false := by
  simp [System.poweredOn, unattempted]

/-- On the board such steps leave CPU3 and its power alone. -/
theorem Amp.drives {build : Build} {amp : Amp} {last : System} {labels : List DriverLabel}
    (bound : amp.system.driver.endpoint.BoundBy .linux)
    (pending : amp.system.lock = .control → amp.system.driver.mailmsgState.pendingReply = true)
    (attempted : amp.system.driver.cpuOnAttempted = true)
    (keeps : ∀ label ∈ labels, label.keeps = true ∧ amp.power.answers label = true)
    (executed : driverMachine.run amp.system labels = some last) :
    (ampMachine build).run amp (labels.map .linux) = some { amp with system := last } := by
  induction labels generalizing amp with
  | nil =>
      cases executed
      rfl
  | cons label labels inductionHypothesis =>
      simp only [Machine.run] at executed
      cases taken : driverMachine.step amp.system label with
      | none =>
          rw [taken] at executed
          cases executed
      | some next =>
          rw [taken] at executed
          obtain ⟨own, answered⟩ := keeps label List.mem_cons_self
          have stepped : driverStep amp.system label = some next := taken
          have still := keeps_attempted bound pending attempted own stepped
          have lifecycle := driverStep_lifecycle bound pending stepped
          have lock := driverStep_lock bound stepped
          have notPeer : label.isPeer = false := by
            cases label <;> first | rfl | cases own
          have moved : (ampMachine build).step amp (.linux label) =
              some { amp with system := next } := by
            rw [Amp.linuxStep notPeer answered stepped, poweredOn_attempted attempted]
            rfl
          refine Machine.run_step moved ?_
          exact inductionHypothesis (lifecycle.boundBy bound) (lock.control_pending pending) still
            (fun other member => keeps other (List.mem_cons_of_mem _ member)) executed

/-- The same while nobody holds the mutex. -/
theorem Amp.drives_free {build : Build} {amp : Amp} {last : System} {labels : List DriverLabel}
    (free : amp.system.lock = .free) (role : amp.system.driver.endpoint.role = some .linux)
    (attempted : amp.system.driver.cpuOnAttempted = true)
    (keeps : ∀ label ∈ labels, label.keeps = true ∧ amp.power.answers label = true)
    (executed : driverMachine.run amp.system labels = some last) :
    (ampMachine build).run amp (labels.map .linux) = some { amp with system := last } := by
  refine Amp.drives ?_ ?_ attempted keeps executed
  · intro party hasRole
    exact (Option.some.inj (role.symm.trans hasRole)).symm
  · intro held
    rw [free] at held
    cases held

/-! ### Linux sees the end of the session -/

/-- STOP_READY lies in front of the control work, and CPU3 is off. -/
structure ReplyDue (system : System) (generation number : U32) : Prop where
  free : system.lock = .free
  stopping : system.driver.mailmsgState = .stopping
  role : system.driver.endpoint.role = some .linux
  bound : system.driver.endpoint.generation = generation
  session : endpointSessionValid system.driver.endpoint system.hardware.shared = .ok
  deadline : system.jiffies < system.driver.lifecycleDeadline
  poweredOn : system.driver.cpuOnRet = 0
  seenOn : system.driver.affinitySeenOn = true
  supported : system.config.hasAffinityInfo = true
  reply : (system.hardware.shared.ring .cpu3 .critical).Holds
    [stopReadyFrame generation number system.driver.stopRequestSequence]

/-- The session that Linux has seen to its end. -/
structure WentOffline (before : System) (ring : Ring) (after : System) : Prop where
  config : after.config = before.config
  free : after.lock = .free
  offline : after.driver.mailmsgState = .offline
  attempted : after.driver.cpuOnAttempted = before.driver.cpuOnAttempted
  openCount : after.driver.userOpenCount = before.driver.userOpenCount
  sessionGeneration : after.driver.sessionGeneration = before.driver.sessionGeneration
  hardware : after.hardware =
    { before.hardware with shared := before.hardware.shared.setRing .cpu3 .critical ring }

/-- The driver once the control work has accepted STOP_READY. -/
def Driver.granted (driver : Driver) (deadline : Nat) : Driver :=
  { driver with
    mailmsgState := .stopping
    endpoint := driver.endpoint.updateStats .critical fun stats => stats.received .ok
    stopReplyType := MessageType.stopReady
    stopResult := 0
    lifecycleDeadline := deadline
    lifecycleTimeoutQueued := true }

/-- The control work takes the reply. -/
theorem ReplyDue.grants {system : System} {generation number : U32}
    (due : ReplyDue system generation number) :
    ∃ ring : Ring, ring.Holds [] ∧
      driverMachine.run system [.controlEnter, .controlIterate] =
        some
          { system with
            driver := system.driver.granted (system.jiffies + system.config.lifecycleTimeout)
            hardware :=
              { system.hardware with shared := system.hardware.shared.setRing .cpu3 .critical ring }
            lock := .free } := by
  obtain ⟨rest, taken⟩ := endpointReceive_cons .critical due.role due.session due.reply
    due.bound.symm
  have waits : ¬ system.driver.lifecycleDeadline ≤ system.jiffies := Nat.not_le_of_lt due.deadline
  have accepted (endpoint : Endpoint) :
      stopReplyAccepted { system.driver with endpoint := endpoint }
        (stopReadyFrame generation number system.driver.stopRequestSequence).committed = true :=
    stopReadyFrame_accepted { system.driver with endpoint := endpoint } generation number
  have typed : (stopReadyFrame generation number system.driver.stopRequestSequence).committed.type =
      MessageType.stopReady := rfl
  refine ⟨_, rest, ?_⟩
  simp [driverMachine, Machine.run, driverStep, due.free, lockedStep, controlEnter, due.stopping,
    SessionState.pendingReply, waits, controlIterate, linuxReceive, taken, System.store,
    controlResponse, accepted, typed]
  exact ⟨rfl, rfl⟩

/-- What Linux does between the reply and OFFLINE. -/
def seeOff : List DriverLabel := [.controlEnter, .controlIterate] ++ [.affinityState affinityOff]

/-- The control work takes the reply, and the affinity shows CPU3 off. -/
theorem ReplyDue.goesOffline {system : System} {generation number : U32}
    (due : ReplyDue system generation number) :
    ∃ ring next, ring.Holds [] ∧ driverMachine.run system seeOff = some next ∧
      WentOffline system ring next := by
  obtain ⟨ring, empty, granted⟩ := due.grants
  let driver := system.driver.granted (system.jiffies + system.config.lifecycleTimeout)
  have off : (refreshAffinityLocked driver affinityOff).mailmsgState = .offline :=
    refreshAffinityLocked_off due.poweredOn due.seenOn rfl
  have same := refreshAffinityLocked_identity driver affinityOff
  let hardware := { system.hardware with shared := system.hardware.shared.setRing .cpu3 .critical ring }
  have asked : driverMachine.step
      { system with driver := driver, hardware := hardware, lock := .free }
      (.affinityState affinityOff) =
        some
          { system with
            driver := refreshAffinityLocked driver affinityOff
            hardware := hardware
            lock := .free } := by
    simp [driverMachine, driverStep, lockedStep, affinityStateShow, due.supported]
  exact ⟨ring, _, empty, Machine.run_append granted (Machine.run_step asked rfl),
    ⟨rfl, rfl, off, same.attempted, congrArg UserCounts.userOpenCount same.counts,
      same.sessionGeneration, rfl⟩⟩

/-! ### From a session at rest to its end

The stages of a stop, put one behind the other: each is a run of a few named steps, and what it
leaves is what the next one starts from.
-/

/-- An ACTIVE session at rest: no open file, empty rings, no doorbell on its way to CPU3, and CPU3
waiting. -/
structure Quiet (amp : Amp) : Prop where
  active : amp.system.driver.mailmsgState = .active
  free : amp.system.lock = .free
  on : amp.power = .on
  files : amp.system.files = []
  rings : ∀ sender priority, (amp.system.hardware.shared.ring sender priority).Holds []
  silent : ∀ channel, amp.system.hardware.a2b.status channel = false
  attentive : Attentive amp.firmware

/-- A session at its end: OFFLINE, and CPU3 without power. -/
structure Parked (amp : Amp) : Prop where
  offline : amp.system.driver.mailmsgState = .offline
  free : amp.system.lock = .free
  off : amp.power = .off
  attempted : amp.system.driver.cpuOnAttempted = true
  files : amp.system.files = []
  silent : ∀ channel, amp.system.hardware.a2b.status channel = false

/-- The count of open files on the board. -/
theorem openCount_iff {build : Build} {amp : Amp} (reached : (ampMachine build).Reachable amp) :
    amp.system.driver.userOpenCount = 0 ↔ amp.system.files = [] := by
  obtain ⟨writes, shadow⟩ := reachable_driver reached
  have counted : amp.system.driver.userOpenCount = amp.system.files.length :=
    (FilesInvariant.reachable shadow).openCount
  rw [counted, Int.natCast_eq_zero, List.length_eq_zero_iff]

/-- The driver of a powered session on the board. -/
theorem open_session {build : Build} {amp : Amp} (reached : (ampMachine build).Reachable amp)
    (armed : amp.system.driver.mailmsgState ≠ .unarmed) : OpenSession amp.system := by
  obtain ⟨writes, shadow⟩ := reachable_driver reached
  obtain ⟨attempted, cpuOnRet, nonzero, role, generation, magic, version, header⟩ :=
    (SessionInvariant.reachable shadow).session armed
  exact ⟨attempted, cpuOnRet, nonzero, role, generation, magic, version, header⟩

section Parking

variable {build : Build} {amp : Amp} {stopping : System} {forward : Ring}

/-- Linux queues its request and rings. -/
theorem Quiet.requests (quiet : Quiet amp) (reached : (ampMachine build).Reachable amp) :
    ∃ forward stopping,
      forward.Holds [stopRequestFrame amp.system.driver.endpoint.generation
        (endpointNextSequence amp.system.driver.endpoint)] ∧
      StopUnderway amp.system forward stopping ∧
      (ampMachine build).run amp [.linux (.stop true 1)] =
        some { amp with system := stopping } := by
  have linked := active_linked reached quiet.on quiet.active
  have session := open_session reached (by simp [quiet.active])
  have drained : Stoppable amp.system :=
    ⟨quiet.free, quiet.active, (openCount_iff reached).mpr quiet.files, linked.linux,
      linked.linuxSession,
      fun sender => quiet.rings sender .critical, quiet.silent⟩
  obtain ⟨forward, stopping, request, stepped, underway⟩ := drained.stops
  refine ⟨forward, stopping, request, underway,
    Machine.run_step ((Amp.linuxStep rfl ?_ stepped).trans ?_) rfl⟩
  · rw [quiet.on]
    rfl
  · rw [poweredOn_attempted session.attempted]
    rfl

/-- The request is in the ring of priority 0, and nothing else changed in the region. -/
theorem StopUnderway.shared {before : System} (underway : StopUnderway before forward stopping) :
    stopping.hardware.shared = before.hardware.shared.setRing .linux .critical forward := by
  rw [underway.hardware]

/-- The doorbell of the request brings CPU3 to its drain loop. -/
theorem Quiet.summoned (quiet : Quiet amp) (underway : StopUnderway amp.system forward stopping)
    (serves : amp.firmware.build.skipPriority ≠ some .critical) :
    (ampMachine build).run { amp with system := stopping } (criticalDoorbell.map .cpu3) =
      some (Amp.onBoard { amp with system := stopping } ⟨amp.firmware.summoned,
        { stopping.hardware with a2b := stopping.hardware.a2b.acknowledge .critical }⟩) := by
  have rung : stopping.hardware.a2b.status .critical = true ∧
      stopping.hardware.a2b.command .critical = mailmsgDoorbell := by
    rw [underway.hardware]
    simp [Doorbells.write]
  have summoned :=
    @Attentive.summons build { amp with system := stopping } quiet.attentive quiet.on
      serves rung.1 rung.2
  rw [summoned, quiet.on]
  rfl

/-- CPU3 answers the request and powers itself off. -/
theorem Quiet.answers (quiet : Quiet amp) (reached : (ampMachine build).Reachable amp)
    (underway : StopUnderway amp.system forward stopping)
    (request : forward.Holds [stopRequestFrame amp.system.driver.endpoint.generation
      (endpointNextSequence amp.system.driver.endpoint)])
    (control : amp.firmware.build.stopControl = true)
    (serves : amp.firmware.build.skipPriority ≠ some .critical) :
    ∃ (emptied reverse : Ring) (number : U32) (after : Board),
      reverse.Holds [stopReadyFrame amp.system.driver.endpoint.generation number
        stopping.driver.stopRequestSequence] ∧
      after.hardware.shared =
        (stopping.hardware.shared.setRing .linux .critical emptied).setRing .cpu3
          .critical reverse ∧
      (∀ channel, after.hardware.a2b.status channel = false) ∧
      (ampMachine build).run { amp with system := stopping }
        (criticalDoorbell.map .cpu3 ++ takeRequest.map .cpu3) =
        some { Amp.onBoard { amp with system := stopping } after with power := .off } := by
  have linked := active_linked reached quiet.on quiet.active
  let board : Board :=
    ⟨amp.firmware.summoned, { stopping.hardware with
      a2b := stopping.hardware.a2b.acknowledge .critical }⟩
  have requested : Requested board amp.system.driver.endpoint.generation
      (endpointNextSequence amp.system.driver.endpoint) := by
    refine ⟨rfl, control, linked.cpu3, linked.generation, ?_, ?_⟩
    · change endpointSessionValid amp.firmware.endpoint stopping.hardware.shared = .ok
      rw [underway.shared, endpointSessionValid_setRing]
      exact linked.cpu3Session
    · change (stopping.hardware.shared.ring .linux .critical).Holds _
      rw [underway.shared, Shared.ring_setRing_self]
      exact request
  have room : (board.hardware.shared.ring .cpu3 .critical).Holds [] := by
    change (stopping.hardware.shared.ring .cpu3 .critical).Holds _
    rw [underway.shared, Shared.ring_setRing_of_ne _ _ _ _ (Or.inl (by decide))]
    exact quiet.rings .cpu3 .critical
  obtain ⟨emptied, reverse, number, after, -, holds, -, written, silent, off⟩ :=
    @Requested.powersOff build { amp with system := stopping } board _ _ requested rfl room
  exact ⟨emptied, reverse, number, after, underway.sequence ▸ holds, written, silent,
    Machine.run_append (quiet.summoned underway serves) off⟩

/-- Linux takes the answer and sees CPU3 off. -/
theorem ReplyDue.ends {after : Board} {generation number : U32}
    (due : ReplyDue { stopping with hardware := after.hardware } generation number)
    (attempted : stopping.driver.cpuOnAttempted = true) :
    ∃ ring ended, WentOffline { stopping with hardware := after.hardware } ring ended ∧
      (ampMachine build).run { Amp.onBoard { amp with system := stopping } after with
        power := .off }
        (seeOff.map .linux) = some ⟨ended, after.firmware, .off⟩ := by
  obtain ⟨ring, ended, -, executed, offline⟩ := due.goesOffline
  refine ⟨ring, ended, offline, Amp.drives_free due.free due.role attempted ?_ executed⟩
  intro label member
  exact ⟨by simp [seeOff] at member; rcases member with rfl | rfl | rfl <;> rfl, rfl⟩

end Parking

/-- CPU3 right after power-on, over a region that start has just initialised. -/
structure Booted (board : Board) (generation : U32) : Prop where
  image : board.firmware = .boot board.firmware.build
  talks : board.firmware.build.skipSessionReady = false
  region : board.hardware.shared = sessionRegion generation
  nonzero : generation ≠ 0#32

/-- CPU3 bound to its session, before the announcement. -/
def Firmware.attached (build : Build) (generation : U32) : Firmware :=
  { Firmware.boot build with
    endpoint :=
      { role := some .cpu3, nextSequence := 0, generation := generation, stats := fun _ => .zero }
    endpointReady := true
    irqEnabled := true
    main := .polling }

/-- The announcement is in the ring, its doorbell due. -/
def Firmware.announcing (build : Build) (generation : U32) (endpoint : Endpoint)
    (report : SendResult) : Firmware :=
  { Firmware.attached build generation with
    endpoint := endpoint
    main := .queued report }

section Booted

variable {build : Build} {amp : Amp} {board : Board} {generation : U32}

/-- A step of the main thread on the running board. -/
theorem Amp.advances (idle : board.firmware.isr = .idle)
    (blocked : board.firmware.workerBlocked = true)
    (stays : (mainStep board).firmware.worker.isOff = false) :
    (ampMachine build).step (amp.onBoard board) (.cpu3 .main) =
      some (amp.onBoard (mainStep board)) := by
  simp [ampMachine, ampStep, firmwareStep, Amp.board, Amp.onBoard, idle, Isr.isIdle, blocked, stays]

/-- The bind and the interrupts. -/
theorem Booted.binds (booted : Booted board generation) :
    (ampMachine build).run (amp.onBoard board) [.cpu3 .main, .cpu3 .main] =
      some (amp.onBoard ⟨.attached board.firmware.build generation, board.hardware⟩) := by
  have bind := endpointBind_sessionRegion .zero booted.nonzero .cpu3
  obtain ⟨firmware, hardware⟩ := board
  have image : firmware = .boot firmware.build := booted.image
  have region : hardware.shared = sessionRegion generation := booted.region
  rw [image]
  simp [Machine.run, ampMachine, ampStep, firmwareStep, Amp.board, Amp.onBoard,
    Firmware.boot, Isr.isIdle, Firmware.workerBlocked, mainStep, Worker.isOff, region, bind,
    Firmware.attached]

/-- The push of SESSION_READY. -/
theorem Booted.pushes (booted : Booted board generation) :
    ∃ ring endpoint report, ring.Holds [readyFrame generation] ∧
      (ampMachine build).run (amp.onBoard ⟨.attached board.firmware.build generation, board.hardware⟩)
          [.cpu3 .main] =
        some (amp.onBoard ⟨.announcing board.firmware.build generation endpoint report,
          { board.hardware with shared := board.hardware.shared.setRing .cpu3 .critical ring }⟩) := by
  have session : endpointSessionValid (Firmware.attached board.firmware.build generation).endpoint
      board.hardware.shared = .ok := by
    rw [booted.region, endpointSessionValid_ok_iff]
    exact ⟨rfl, booted.nonzero, rfl, rfl, rfl⟩
  have empty : (board.hardware.shared.ring .cpu3 .critical).Holds [] := by
    rw [booted.region]
    exact Ring.Holds.zero
  have arguments : sendArgumentsValid (Firmware.attached board.firmware.build generation).endpoint
      (some (sessionReadyReply generation).payload) (sessionReadyReply generation).length := by
    simp [sendArgumentsValid, Firmware.attached, (sessionReadyReply generation).fits]
  obtain ⟨ring, endpoint, report, holds, -, -, -, enqueued⟩ :=
    endpointEnqueue_room .critical (sessionReadyReply generation).type .pending rfl session
      arguments empty
      (by decide)
  have sent : Board.enqueue ⟨.attached board.firmware.build generation, board.hardware⟩ .critical
      (sessionReadyReply generation) =
        (⟨.ok, report, endpoint, board.hardware.shared.setRing .cpu3 .critical ring⟩,
          ⟨{ Firmware.attached board.firmware.build generation with endpoint := endpoint },
            { board.hardware with shared := board.hardware.shared.setRing .cpu3 .critical ring }⟩) := by
    simp only [Board.enqueue, enqueued]
  have offered : mainStep ⟨.attached board.firmware.build generation, board.hardware⟩ =
      ⟨.announcing board.firmware.build generation endpoint report,
        { board.hardware with shared := board.hardware.shared.setRing .cpu3 .critical ring }⟩ := by
    have polling : (Firmware.attached board.firmware.build generation).main = .polling := rfl
    have due : ¬ ((Firmware.attached board.firmware.build generation).build.skipSessionReady ∨
        ¬ (Firmware.attached board.firmware.build generation).endpointReady ∨
        (Firmware.attached board.firmware.build generation).sessionReadyPublished) := by
      simp [Firmware.attached, Firmware.boot, booted.talks]
    have uncommitted : ¬ (Firmware.attached board.firmware.build generation).sessionReadyCommitted := by
      simp [Firmware.attached, Firmware.boot]
    have own : (Firmware.attached board.firmware.build generation).endpoint.generation =
      generation := rfl
    simp only [mainStep, polling, if_neg due, if_neg uncommitted, own, sent]
    rfl
  refine ⟨ring, endpoint, report, holds, Machine.run_step ((Amp.advances rfl rfl ?_).trans ?_) rfl⟩
  · rw [offered]
    rfl
  · rw [offered]

/-- The doorbell of SESSION_READY and the flags. -/
theorem announcing_publishes (image : Build) (endpoint : Endpoint) (report : SendResult)
    (hardware : Hardware) :
    ∃ after : Board, Attentive after.firmware ∧ after.hardware.shared = hardware.shared ∧
      after.hardware.a2b = hardware.a2b ∧
      (ampMachine build).run (amp.onBoard ⟨.announcing image generation endpoint report, hardware⟩)
          [.cpu3 .main, .cpu3 .main, .cpu3 .main] = some (amp.onBoard after) := by
  let board : Board := ⟨.announcing image generation endpoint report, hardware⟩
  obtain ⟨frame, accepted⟩ := board.ring_spec .critical report
  let rung := board.ring .critical report
  let published : Board :=
    { rung.2 with
      firmware :=
        { rung.2.firmware with
          sessionReadyCommitted := true
          sessionReadyPublished := notifyAccepted rung.1
          main := .polling } }
  have opened : published.firmware.serviceOpen = true := by
    change (true && (image.skipSessionReady || notifyAccepted rung.1)) = true
    rw [Bool.true_and, accepted, Bool.or_true]
  exact ⟨published, ⟨rfl, rfl, rfl, opened, rfl⟩, frame.shared, frame.hardware.a2b, rfl⟩

/-- CPU3 from power-on to the end of its announcement. -/
theorem Booted.announces (booted : Booted board generation) :
    ∃ ring after, ring.Holds [readyFrame generation] ∧ Attentive after.firmware ∧
      after.hardware.shared = (sessionRegion generation).setRing .cpu3 .critical ring ∧
      after.hardware.a2b = board.hardware.a2b ∧
      (ampMachine build).run (amp.onBoard board) (List.replicate 6 (.cpu3 .main)) =
        some (amp.onBoard after) := by
  obtain ⟨ring, endpoint, report, holds, pushed⟩ := @Booted.pushes build amp _ _ booted
  obtain ⟨after, attentive, shared, a2b, published⟩ :=
    @announcing_publishes build amp generation board.firmware.build endpoint report
      { board.hardware with shared := board.hardware.shared.setRing .cpu3 .critical ring }
  refine ⟨ring, after, holds, attentive, ?_, a2b,
    Machine.run_append booted.binds (Machine.run_append pushed published)⟩
  rw [shared, booted.region]

end Booted

/-! ### From the end of a session to the next at rest -/

section Restarting

variable {build : Build} {amp : Amp}

/-- Rearm and a whole image. -/
theorem Parked.loads (parked : Parked amp) (reached : (ampMachine build).Reachable amp)
    (supported : amp.system.config.hasAffinityInfo = true) :
    ∃ labels loaded, (ampMachine build).run amp labels = some { amp with system := loaded } ∧
      Disarmed loaded ∧
      loaded.config = amp.system.config ∧
      loaded.driver.sessionGeneration = amp.system.driver.sessionGeneration ∧
      loaded.driver.imageWritten = loaded.config.imageSize ∧
        loaded.hardware = amp.system.hardware := by
  have silent : amp.system.hardware.a2b.anyPending = false := by
    simp [Doorbells.anyPending, parked.silent]
  let bare : System :=
    { amp.system with
      driver := (refreshAffinityLocked amp.system.driver affinityOff).rearmed
      epoch := amp.system.epoch + 1 }
  have rearm : driverStep amp.system (.rearm true 1 affinityOff) = some bare :=
    rearms parked.free supported parked.attempted ((openCount_iff reached).mpr parked.files) silent
  have rearmed : (ampMachine build).step amp (.linux (.rearm true 1 affinityOff)) =
      some { amp with system := bare } := by
    refine (Amp.linuxStep rfl ?_ rearm).trans ?_
    · rw [parked.off]
      rfl
    · rw [poweredOn_attempted parked.attempted]
      rfl
  have disarmed : Disarmed bare := ⟨parked.free, rfl, Nat.zero_le _, parked.files⟩
  obtain ⟨loaded, load, ready, config, generation, full, hardware⟩ := disarmed.loads fun _ => 0
  have write : driverStep bare (.imageWrite bare.driver.imageWritten
      (bare.config.imageSize - bare.driver.imageWritten) fun _ => 0) = some loaded := load
  have filled : (ampMachine build).step { amp with system := bare }
      (.linux (.imageWrite bare.driver.imageWritten
        (bare.config.imageSize - bare.driver.imageWritten) fun _ => 0)) =
        some { amp with system := loaded } := by
    refine (Amp.linuxStep rfl ?_ write).trans ?_
    · change amp.power.answers _ = true
      rw [parked.off]
      rfl
    · rw [poweredOn_unattempted ready.attempted]
      rfl
  have whole : (ampMachine build).run amp [_, _] = some { amp with system := loaded } :=
    Machine.run_step rearmed (Machine.run_step filled rfl)
  exact ⟨_, loaded, whole, ready, config,
    generation.trans (refreshAffinityLocked_identity amp.system.driver affinityOff).sessionGeneration,
    full.trans (congrArg Config.imageSize config.symm), hardware⟩

end Restarting

/-! ### Any number of sessions -/

/-- The image and the configuration never change. -/
structure SameSetup (before after : Amp) : Prop where
  config : after.system.config = before.system.config
  build : after.firmware.build = before.firmware.build

theorem SameSetup.step {amp next : Amp} {label : AmpLabel} (invariant : LinkInvariant amp)
    (taken : ampStep amp label = some next) : SameSetup amp next := by
  cases label with
  | linux label =>
      obtain ⟨-, -, system, stepped, rfl⟩ := ampStep_linux taken
      exact ⟨(driverStep_lifecycle invariant.linux invariant.held stepped).sameConfig, rfl⟩
  | cpu3 label =>
      obtain ⟨-, board, stepped, rfl⟩ := ampStep_cpu3 taken
      exact ⟨rfl, (firmwareStep_sameImage invariant.cpu3 stepped).build⟩
  | boot =>
      simp only [ampStep] at taken
      split at taken
      · cases taken
        exact ⟨rfl, rfl⟩
      · cases taken

/-- Over a run. -/
theorem SameSetup.run {build : Build} {amp last : Amp} {labels : List AmpLabel}
    (reached : (ampMachine build).Reachable amp)
    (executed : (ampMachine build).run amp labels = some last) : SameSetup amp last := by
  have kept : (ampMachine build).Reachable last ∧ SameSetup amp last := by
    refine Machine.run_invariant (fun next => (ampMachine build).Reachable next ∧
      SameSetup amp next) ?_
      ⟨reached, rfl, rfl⟩ executed
    rintro state label next ⟨earlier, same⟩ taken
    have step := SameSetup.step (.reachable earlier) taken
    exact ⟨earlier.step taken, step.config.trans same.config, step.build.trans same.build⟩
  exact kept.2

end MailMsg
