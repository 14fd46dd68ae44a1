/-
Module: MailMsg.Firmware.Service
Purpose: The CPU3 firmware as one labelled machine: the A2B interrupt handler, the worker with its
  ping-pong service, the main thread that announces the session, and the way to CPU_OFF.
Source: LZAMP/firmware/zephyr/app/src/main.c
Trusted boundary: one core, so threads stand still while the handler runs and the main thread runs
  only while the worker blocks; a ring call and a doorbell are one step each; the observation lines,
  the legacy request lines and the heartbeat are left out
Main exports: Build, Firmware, Board, Worker, MainThread, firmwareStep
-/
import MailMsg.Platform.Hardware

namespace MailMsg

/-! ### Data -/

/-- The build options of the image that change what the service does. -/
structure Build where
  /-- `MAILMSG_ENABLE_STOP_CONTROL`. -/
  stopControl : Bool
  /-- `MAILMSG_TEST_SELF_OFF_VALUE`, when defined. -/
  selfOffValue : Option U32
  /-- `MAILMSG_TEST_SKIP_PRIORITY`; absent for its default, which no priority equals. -/
  skipPriority : Option Priority
  /-- `MAILMSG_TEST_SKIP_SESSION_READY`. -/
  skipSessionReady : Bool
deriving DecidableEq

/-- `MAILMSG_WORKER_DRAIN_QUOTA`. -/
def drainQuota : Nat := ringSlots - 1

/-- The locals of one call of `mailmsg_pingpong_test_service`. -/
structure Round where
  pending : Priority → Bool
  reschedule : Priority → Bool
  messages : U32

/-- A round at one priority, after `handled` frames. -/
structure Visit where
  round : Round
  priority : Priority
  handled : Nat

/-- The arguments of one send; the buffers of the source fit a frame. -/
structure Reply where
  type : U32
  payload : Nat → U8
  length : U32
  fits : length.toNat ≤ payloadBytes

/-- What the service does after a reply. -/
inductive Continuation where
  /-- Back to the head of the drain loop. -/
  | drain
  /-- Out of the drain loop, after a bad frame. -/
  | leave
  /-- The PONG that follows an ACK. -/
  | pong (request : Message)
  /-- `mailmsg_cpu_off_after_ready`, if the reply and its doorbell were accepted. -/
  | cpuOff (request : Message)

/-- Where the worker thread stands. -/
inductive Worker where
  /-- In `k_sem_take`. -/
  | waiting
  /-- The semaphore is taken and the mask not yet read. -/
  | woken
  /-- At the gate of the service, with the mask that was swapped out. -/
  | entering (pending : Priority → Bool)
  /-- At the head of the loop over priorities. -/
  | scanning (round : Round) (priority : Nat)
  /-- At the head of the drain loop. -/
  | draining (visit : Visit)
  /-- About to push a reply. -/
  | replying (visit : Visit) (reply : Reply) (next : Continuation)
  /-- The reply is in the ring and its doorbell is due. -/
  | ringing (visit : Visit) (result : SendResult) (next : Continuation)
  /-- Behind the drain loop, about to compare with the quota. -/
  | checking (visit : Visit)
  /-- The service returned. -/
  | reporting (round : Round)
  /-- The reschedule bits are posted and the semaphore is not yet given. -/
  | posting
  /-- Entered `mailmsg_cpu_off_after_ready` for this request. -/
  | stopping (request : Message)
  /-- Interrupts are locked and disabled. -/
  | quiescing (request : Message)
  /-- The pending A2B bits are read and not yet written back. -/
  | acknowledging (request : Message) (pending : Priority → Bool)
  /-- About to call `pm_cpu_off`. -/
  | poweringOff (request : Message)
  /-- CPU_OFF did not return. -/
  | off
  /-- CPU_OFF returned: the `wfe` loop with interrupts locked. -/
  | halted

/-- Where `mailmsg_mailbox_a2b_matrix_isr` stands. -/
inductive Isr where
  | idle
  /-- CMD and DAT are read. -/
  | entered (channel : Priority) (command data : U32)
  /-- The echo of a raw probe is out. -/
  | echoed (channel : Priority) (command : U32)
  /-- The status bit is cleared and the mask not yet posted. -/
  | cleared (channel : Priority) (command : U32)

/-- No handler is running. -/
def Isr.isIdle : Isr → Bool
  | .idle => true
  | _ => false

/-- Where the main thread stands. -/
inductive MainThread where
  /-- Before `mailmsg_endpoint_bind`. -/
  | entry
  /-- Before the A2B interrupts are enabled. -/
  | bound
  /-- About to call `mailmsg_service_session_ready`. -/
  | polling
  /-- SESSION_READY is in the ring and its doorbell is due. -/
  | queued (result : SendResult)
  /-- The send returned; no flag is written yet. -/
  | sent (notifyResult : Int)
  /-- `mailmsg_session_ready_committed` is written. -/
  | committed (notifyResult : Int)
  /-- The doorbell of a committed SESSION_READY was repeated. -/
  | retried (notifyResult : Int)

/-- The statics of `main.c` and the positions of its three activities. -/
structure Firmware where
  build : Build
  endpoint : Endpoint
  endpointReady : Bool
  sessionReadyCommitted : Bool
  sessionReadyPublished : Bool
  pendingPriorities : Priority → Bool
  /-- `mailmsg_work_sem`, whose limit is one. -/
  workSem : Bool
  irqEnabled : Bool
  isr : Isr
  worker : Worker
  main : MainThread
  irqCount : U32
  wakeCount : U32
  drainCount : U32
  messageCount : U32
  emptyWakeCount : U32
  rxErrorCount : U32
  txFullCount : U32

/-- The image right after CPU_ON. -/
def Firmware.boot (build : Build) : Firmware where
  build := build
  endpoint := .zero
  endpointReady := false
  sessionReadyCommitted := false
  sessionReadyPublished := false
  pendingPriorities := fun _ => false
  workSem := false
  irqEnabled := false
  isr := .idle
  worker := .waiting
  main := .entry
  irqCount := 0
  wakeCount := 0
  drainCount := 0
  messageCount := 0
  emptyWakeCount := 0
  rxErrorCount := 0
  txFullCount := 0

/-- CPU3 and the hardware that it shares with Linux. -/
structure Board where
  firmware : Firmware
  hardware : Hardware

/-- Move the worker. -/
def Board.work (board : Board) (worker : Worker) : Board :=
  { board with firmware := { board.firmware with worker := worker } }

/-- Move the main thread. -/
def Board.proceed (board : Board) (main : MainThread) : Board :=
  { board with firmware := { board.firmware with main := main } }

/-! ### Sends -/

/-- `mailmsg_cpu3_notify`. -/
def cpu3Notify (hardware : Hardware) (priority : Priority) : Int × Hardware :=
  if hardware.b2a.status priority then (notifyCoalesced, hardware)
  else
    (notifySent,
      { hardware with
        b2a := hardware.b2a.write priority (0xb2a10000#32 ||| BitVec.ofNat 32 priority.val)
          (BitVec.ofNat 32 priority.val) })

/-- `mailmsg_record_tx_full`, without the observation line. -/
def recordTxFull (firmware : Firmware) (result : SendResult) : Firmware :=
  if result.queueResult = .full then { firmware with txFullCount := firmware.txFullCount + 1 }
  else firmware

/-- The part of a reply's `mailmsg_endpoint_send` that ends with the frame in the ring. -/
def Board.enqueue (board : Board) (priority : Priority) (reply : Reply) : SendOutcome × Board :=
  let outcome := endpointEnqueue board.firmware.endpoint board.hardware.shared priority reply.type
    (some reply.payload) reply.length .pending
  (outcome,
    { firmware := { board.firmware with endpoint := outcome.endpoint }
      hardware := { board.hardware with shared := outcome.shared } })

/-- The doorbell of a send and its accounting. -/
def Board.ring (board : Board) (priority : Priority) (result : SendResult) : Int × Board :=
  let answered := cpu3Notify board.hardware priority
  let outcome := endpointNotified priority answered.1
    ⟨.ok, result, board.firmware.endpoint, board.hardware.shared⟩
  (outcome.result.notifyResult,
    { firmware := { board.firmware with endpoint := outcome.endpoint }
      hardware := answered.2 })

/-! ### The interrupt handler -/

/-- A doorbell of the protocol: `(command & 0xfffffff0U) == AMP_MBOX_PROTOCOL_CMD`. -/
def protocolDoorbell (command : U32) : Bool := (command &&& 0xfffffff0#32) == 0xa2b10000#32

/-- The doorbells that wake the worker. -/
def wakingDoorbell (channel : Priority) (command : U32) : Bool :=
  protocolDoorbell command || command == (0xa2b00000#32 ||| BitVec.ofNat 32 channel.val)

/-- `atomic_or`, `atomic_inc` and `k_sem_give` at the end of the handler. -/
def isrPost (firmware : Firmware) (channel : Priority) (command : U32) : Firmware :=
  if wakingDoorbell channel command then
    { firmware with
      pendingPriorities := Function.update firmware.pendingPriorities channel true
      irqCount := firmware.irqCount + 1
      workSem := true }
  else firmware

/-- One step of `mailmsg_mailbox_a2b_matrix_isr` after its entry. -/
def isrStep (board : Board) : Option Board :=
  match board.firmware.isr with
  | .idle => none
  | .entered channel command data =>
      let hardware :=
        -- Raw matrix probes get an immediate echo.
        if protocolDoorbell command then board.hardware
        else
          { board.hardware with
            b2a := board.hardware.b2a.write channel (0xb2a00000#32 ||| BitVec.ofNat 32 channel.val)
              data }
      some
        { firmware := { board.firmware with isr := .echoed channel command }
          hardware := hardware }
  | .echoed channel command =>
      some
        { firmware := { board.firmware with isr := .cleared channel command }
          hardware := { board.hardware with a2b := board.hardware.a2b.acknowledge channel } }
  | .cleared channel command =>
      some { board with firmware := { isrPost board.firmware channel command with isr := .idle } }

/-! ### The service -/

/-- The payload of ACK, NACK and the STOP replies: the peer sequence, then a status. -/
def feedbackReply (type peerSequence status : U32) : Reply where
  type := type
  payload := storePayloadU32 (storePayloadU32 (fun _ => 0) 0 peerSequence) 4 status
  length := 8
  fits := by decide

/-- `mailmsg_send_pong`: a PONG for a PING and a NOP for anything else, with the first word of the
request plus one. -/
def pongReply (request : Message) : Reply where
  type := if request.type = MessageType.ping then MessageType.pong else MessageType.nop
  payload := storePayloadU32 (fun _ => 0) 0 (payloadU32 request.payloadAt 0 + 1)
  length := 4
  fits := by decide

/-- The test of `MAILMSG_TEST_SELF_OFF_VALUE`. -/
def Build.selfOff (build : Build) (priority : Priority) (request : Message) : Bool :=
  build.selfOffValue.any fun value =>
    priority == .critical && request.type == MessageType.ping && request.length == 4#32 &&
      payloadU32 request.payloadAt 0 == value

/-- What the drain loop does with a good frame. -/
def answer (build : Build) (visit : Visit) (request : Message) : Worker :=
  if visit.priority = .critical ∧ request.type = MessageType.stopRequest then
    if request.length ≠ 0#32 then
      .replying visit
        (feedbackReply MessageType.stopRefused request.sequence stopRefusedInvalidRequest) .drain
    else if build.stopControl then
      .replying visit (feedbackReply MessageType.stopReady request.sequence 0) (.cpuOff request)
    else
      .replying visit (feedbackReply MessageType.stopRefused request.sequence stopRefusedBusy) .drain
  else if build.selfOff visit.priority request then .stopping request
  else if priorityIsReliable visit.priority then
    .replying visit (feedbackReply MessageType.ack request.sequence 0) (.pong request)
  else .replying visit (pongReply request) .drain

/-- One more frame handled. -/
def Visit.next (visit : Visit) : Visit :=
  { visit with
    round := { visit.round with messages := visit.round.messages + 1 }
    handled := visit.handled + 1 }

/-- What the drain loop does with a frame that fails its checks. -/
def reject (visit : Visit) (request : Message) (reason : U32) : Worker :=
  if priorityIsReliable visit.priority then
    .replying visit (feedbackReply MessageType.nack request.sequence reason) .leave
  else .checking visit

/-- The board after a receive. -/
def Board.received (board : Board) (outcome : ReceiveOutcome) : Board where
  firmware := { board.firmware with endpoint := outcome.endpoint }
  hardware := { board.hardware with shared := outcome.shared }

/-- `mailmsg_rx_error_count++`. -/
def Board.countRxError (board : Board) : Board :=
  { board with
    firmware := { board.firmware with rxErrorCount := board.firmware.rxErrorCount + 1 } }

/-- One iteration of the drain loop. -/
def drain (board : Board) (visit : Visit) : Board :=
  if visit.handled < drainQuota then
    let outcome := endpointReceive board.firmware.endpoint board.hardware.shared visit.priority
    let received := board.received outcome
    match outcome.ret, outcome.message with
    | .ring .ok, some request => received.work (answer board.firmware.build visit.next request)
    | .ring .badCrc, some request =>
        received.countRxError.work (reject visit.next request nackBadCrc)
    | .ring .invalid, some request =>
        received.countRxError.work (reject visit.next request nackInvalidFrame)
    | _, _ => received.work (.checking visit)
  else board.work (.checking visit)

/-- Where the worker goes after a reply; `accepted` says that the frame is in the ring and its
doorbell was accepted. -/
def Continuation.resume (visit : Visit) (accepted : Bool) : Continuation → Worker
  | .drain => .draining visit
  | .leave => .checking visit
  | .pong request => .replying visit (pongReply request) .drain
  | .cpuOff request => if accepted then .stopping request else .draining visit

/-- The push of a reply.  A send that fails is recorded and otherwise ignored. -/
def sendReply (board : Board) (visit : Visit) (reply : Reply) (next : Continuation) : Board :=
  let sent := board.enqueue visit.priority reply
  if sent.1.ret ≠ .ok then
    { sent.2 with firmware := recordTxFull sent.2.firmware sent.1.result }.work
      (next.resume visit false)
  else sent.2.work (.ringing visit sent.1.result next)

/-- The doorbell of a reply. -/
def ringReply (board : Board) (visit : Visit) (result : SendResult) (next : Continuation) : Board :=
  let rung := board.ring visit.priority result
  rung.2.work (next.resume visit (notifyAccepted rung.1))

/-- The test behind the drain loop. -/
def check (board : Board) (visit : Visit) : Board :=
  let again := decide (visit.handled = drainQuota) &&
    endpointHasReceived board.firmware.endpoint board.hardware.shared visit.priority == 1
  let round :=
    if again then
      { visit.round with
        reschedule := Function.update visit.round.reschedule visit.priority true }
    else visit.round
  board.work (.scanning round (visit.priority.val + 1))

/-- The gate of the service. -/
def Firmware.serviceOpen (firmware : Firmware) : Bool :=
  firmware.endpointReady && (firmware.build.skipSessionReady || firmware.sessionReadyPublished)

/-- The locals of a service call at its start. -/
def Round.start (pending : Priority → Bool) : Round where
  pending := pending
  reschedule := fun _ => false
  messages := 0

/-- Some bit of a mask is set. -/
def anyPriority (mask : Priority → Bool) : Bool := decide (∃ priority, mask priority)

theorem anyPriority_eq_true {mask : Priority → Bool} {priority : Priority} (set : mask priority) :
    anyPriority mask := decide_eq_true ⟨priority, set⟩

/-- One step of `mailmsg_worker` and of the service that it calls. -/
def workerStep (board : Board) : Option Board :=
  let firmware := board.firmware
  match firmware.worker with
  | .waiting =>
      if firmware.workSem then
        some
          { board with
            firmware :=
              { firmware with
                workSem := false
                wakeCount := firmware.wakeCount + 1
                worker := .woken } }
      else none
  | .woken =>
      let pending := firmware.pendingPriorities
      let firmware := { firmware with pendingPriorities := fun _ => false }
      if anyPriority pending then
        some
          { board with
            firmware :=
              { firmware with drainCount := firmware.drainCount + 1, worker := .entering pending } }
      else
        some
          { board with
            firmware :=
              { firmware with
                emptyWakeCount := firmware.emptyWakeCount + 1
                worker := .waiting } }
  | .entering pending =>
      if firmware.serviceOpen then some (board.work (.scanning (.start pending) 0))
      else some (board.work (.reporting (.start pending)))
  | .scanning round priority =>
      if inRange : priority < priorityCount then
        if ¬ round.pending ⟨priority, inRange⟩ ∨
            firmware.build.skipPriority = some ⟨priority, inRange⟩ then
          some (board.work (.scanning round (priority + 1)))
        else some (board.work (.draining ⟨round, ⟨priority, inRange⟩, 0⟩))
      else some (board.work (.reporting round))
  | .draining visit => some (drain board visit)
  | .replying visit reply next => some (sendReply board visit reply next)
  | .ringing visit result next => some (ringReply board visit result next)
  | .checking visit => some (check board visit)
  | .reporting round =>
      let firmware := { firmware with messageCount := firmware.messageCount + round.messages }
      if anyPriority round.reschedule then
        some
          { board with
            firmware :=
              { firmware with
                pendingPriorities := fun priority =>
                  firmware.pendingPriorities priority || round.reschedule priority
                worker := .posting } }
      else some { board with firmware := { firmware with worker := .waiting } }
  | .posting =>
      some { board with firmware := { firmware with workSem := true, worker := .waiting } }
  | .stopping request =>
      some
        { board with firmware := { firmware with irqEnabled := false, worker := .quiescing request } }
  | .quiescing request => some (board.work (.acknowledging request board.hardware.a2b.status))
  | .acknowledging request pending =>
      some
        { firmware := { firmware with worker := .poweringOff request }
          hardware :=
            { board.hardware with
              a2b :=
                { board.hardware.a2b with
                  status := fun channel =>
                    board.hardware.a2b.status channel && !pending channel } } }
  | .poweringOff _ | .off | .halted => none

/-- `pm_cpu_off`: it returns only when it fails. -/
def cpuOffStep (board : Board) (returned : Bool) : Option Board :=
  match board.firmware.worker with
  | .poweringOff _ => some (board.work (if returned then .halted else .off))
  | _ => none

/-! ### The main thread -/

/-- The arguments of the SESSION_READY that `mailmsg_service_session_ready` sends. -/
def sessionReadyReply (generation : U32) : Reply where
  type := MessageType.sessionReady
  payload := storePayloadU32 (storePayloadU32 (fun _ => 0) 0 generation) 4 protocolVersion
  length := 8
  fits := by decide

/-- One step of `main`, and of `mailmsg_service_session_ready` that its loop calls. -/
def mainStep (board : Board) : Board :=
  let firmware := board.firmware
  match firmware.main with
  | .entry =>
      let bound := endpointBind firmware.endpoint board.hardware.shared .cpu3
      { board with
        firmware :=
          { firmware with
            endpoint := bound.2
            endpointReady := bound.1 = .ok
            main := .bound } }
  | .bound => { board with firmware := { firmware with irqEnabled := true, main := .polling } }
  | .polling =>
      if firmware.build.skipSessionReady ∨ ¬ firmware.endpointReady ∨
          firmware.sessionReadyPublished then
        board
      else if firmware.sessionReadyCommitted then
        -- The frame is in the ring already: repeat the doorbell only.
        let answered := cpu3Notify board.hardware .critical
        { board with hardware := answered.2 }.proceed (.retried answered.1)
      else
        let sent := board.enqueue .critical (sessionReadyReply firmware.endpoint.generation)
        if sent.1.ret ≠ .ok then
          { sent.2 with firmware := recordTxFull sent.2.firmware sent.1.result }
        else sent.2.proceed (.queued sent.1.result)
  | .queued result =>
      let rung := board.ring .critical result
      rung.2.proceed (.sent rung.1)
  | .sent notifyResult =>
      { board with
        firmware :=
          { firmware with sessionReadyCommitted := true, main := .committed notifyResult } }
  | .committed notifyResult =>
      { board with
        firmware :=
          { firmware with
            sessionReadyPublished := notifyAccepted notifyResult
            main := .polling } }
  | .retried notifyResult =>
      { board with
        firmware :=
          { firmware with
            sessionReadyPublished :=
              firmware.sessionReadyPublished || notifyAccepted notifyResult
            main := .polling } }

/-! ### The machine -/

/-- One step of CPU3. -/
inductive FirmwareLabel where
  /-- The level interrupt of a channel is taken. -/
  | interrupt (channel : Priority)
  | isr
  | worker
  /-- PSCI CPU_OFF; `returned` is its failure. -/
  | cpuOff (returned : Bool)
  | main
deriving DecidableEq

/-- The worker is blocked on an empty semaphore. -/
def Firmware.workerBlocked (firmware : Firmware) : Bool :=
  match firmware.worker with
  | .waiting => !firmware.workSem
  | _ => false

/-- The interrupt of a channel can be taken: its bit is set, interrupts are enabled, and no handler
runs. -/
def Board.deliverable (board : Board) (channel : Priority) : Bool :=
  board.firmware.isr.isIdle && board.firmware.irqEnabled && board.hardware.a2b.status channel

/-- The transition function of CPU3. -/
def firmwareStep (board : Board) : FirmwareLabel → Option Board
  | .interrupt channel =>
      if board.deliverable channel then
        some
          { board with
            firmware :=
              { board.firmware with
                isr := .entered channel (board.hardware.a2b.command channel)
                  (board.hardware.a2b.data channel) } }
      else none
  | .isr => isrStep board
  | .worker => if board.firmware.isr.isIdle then workerStep board else none
  | .cpuOff returned => if board.firmware.isr.isIdle then cpuOffStep board returned else none
  | .main =>
      if board.firmware.isr.isIdle ∧
        board.firmware.workerBlocked then some (mainStep board) else none

end MailMsg
