/-
Module: MailMsg.Driver.User
Purpose: The data plane of the Linux driver: the four device files (open, release, reader claim,
  read, write, poll) and the sysfs attributes that touch rings or doorbells.
Source: LZAMP/linux/drivers/lzamp_amp_mailmsg.c, LZAMP/protocol/mailmsg/mailmsg_user.h
Trusted boundary: human-reviewed embedding of the source; the numbers that sscanf and kstrtou32 find
  in a text are arguments
Main exports: userOpen, userRelease, userClaimReader, userRead, userWrite, userPoll,
  mailmsgStatsShow, statusShow, sendPing, queuePushStore, notifyInjectStore, doorbellStore,
  pingStore, responseEnter, responseIterate
-/
import MailMsg.Driver.Lifecycle

namespace MailMsg

/-! ### Device files -/

/-- `MAILMSG_USER_PAYLOAD_BYTES`. -/
abbrev userPayloadBytes : Nat := 32

/-- `struct mailmsg_user_frame`. -/
structure UserFrame where
  priority : U32
  type : U32
  sequence : U32
  length : U32
  payload : Fin userPayloadBytes → U8

/-- `sizeof(struct mailmsg_user_frame)`. -/
abbrev userFrameBytes : Nat := 48

/-- The payload of a user frame as a byte buffer. -/
def UserFrame.payloadAt (frame : UserFrame) (index : Nat) : U8 :=
  if inside : index < userPayloadBytes then frame.payload ⟨index, inside⟩ else 0

/-- The open file with an identifier. -/
def System.file? (system : System) (id : Nat) : Option UserFile :=
  system.files.find? fun file => file.id == id

/-- `r1_amp_mailmsg_user_open` of one priority device. -/
def userOpen (system : System) (priority : Priority) (nonblock : Bool) : Int × System :=
  let gate := dataGateLocked system.driver
  if gate ≠ 0 then (gate, system)
  else
    let file : UserFile :=
      { id := system.nextFile
        priority := priority
        readerClaimed := false
        nonblock := nonblock
        generation := system.driver.sessionGeneration
        epoch := system.epoch }
    (0,
      { system with
        driver := { system.driver with userOpenCount := system.driver.userOpenCount + 1 }
        files := system.files ++ [file]
        nextFile := system.nextFile + 1 })

/-- `r1_amp_mailmsg_user_release`. -/
def userRelease (system : System) (file : UserFile) : System :=
  let driver := system.driver
  let readers :=
    if file.readerClaimed then
      Function.update driver.readerOpenCount file.priority
        (driver.readerOpenCount file.priority - 1)
    else driver.readerOpenCount
  { system with
    driver :=
      { driver with userOpenCount := driver.userOpenCount - 1, readerOpenCount := readers }
    files := system.files.filter fun other => other.id ≠ file.id }

/-- `r1_amp_mailmsg_user_claim_reader`. -/
def userClaimReader (system : System) (file : UserFile) : Int × System :=
  let driver := system.driver
  if file.readerClaimed then (0, system)
  else if driver.readerOpenCount file.priority ≠ 0 then (-Errno.busy, system)
  else
    (0,
      { system with
        driver :=
          { driver with
            readerOpenCount := Function.update driver.readerOpenCount file.priority
              (driver.readerOpenCount file.priority + 1) }
        files := system.files.map fun other =>
          if other.id = file.id then { other with readerClaimed := true } else other })

/-- What one iteration of `r1_amp_mailmsg_user_read` ends with: the record handed to the user, a
return value, or sleeping until the channel's `rx_generation` moves. -/
inductive ReadOutcome where
  | delivered (frame : UserFrame)
  | returned (value : Int)
  | sleeps

/-- The record that a read hands out: the frame's fields and the first `length` payload bytes. -/
def userFrameOf (priority : Priority) (message : Message) : UserFrame where
  priority := BitVec.ofNat 32 priority.val
  type := message.type
  sequence := message.sequence
  length := message.length
  payload := fun index => if index.val < message.length.toNat then message.payloadAt
    index.val else 0

/-- One iteration of `r1_amp_mailmsg_user_read` after the claim.  `copied` says whether
`copy_to_user` succeeds. -/
def userRead (system : System) (file : UserFile) (copied : Bool) : ReadOutcome × System :=
  let gate := dataGateLocked system.driver
  let received := linuxReceive system file.priority
  let ret := if gate ≠ 0 then gate else received.1.ret.code
  let system := if gate ≠ 0 then system else received.2
  if ret = 0 then
    if copied then (.delivered (userFrameOf file.priority (received.1.message.getD .zero)), system)
    else (.returned (-Errno.fault), system)
  else if ret = -Errno.again then (.returned ret, system)
  else if ret = -Errno.nolink ∨ ret = -Errno.shutdown then (.returned ret, system)
  else if ret ≠ RingResult.empty.code then (.returned (ringResultToErrno ret), system)
  else if file.nonblock then (.returned (-Errno.again), system)
  else (.sleeps, system)

/-- `r1_amp_mailmsg_user_write` of `count` bytes. -/
def userWrite (system : System) (file : UserFile) (count : Nat) (copied : Bool)
    (frame : UserFrame) : Int × System :=
  if count ≠ userFrameBytes then (-Errno.inval, system)
  else if ¬ copied then (-Errno.fault, system)
  else if frame.priority ≠ BitVec.ofNat 32 file.priority.val ∨
    payloadBytes < frame.length.toNat then
    (-Errno.inval, system)
  else
    let gate := dataGateLocked system.driver
    if gate ≠ 0 then
      (if gate = -Errno.again ∨ gate = -Errno.nolink ∨ gate = -Errno.shutdown then gate
        else if gate ≤ EndpointResult.invalid.code then ringResultToErrno gate
        else ringResultToErrno SendResult.zero.queueResult.code, system)
    else
      let sent := linuxSend system file.priority frame.type (some frame.payloadAt) frame.length
      let ret := sent.1.ret.code
      (if ret = 0 then userFrameBytes
        else if ret ≤ EndpointResult.invalid.code then ringResultToErrno ret
        else ringResultToErrno sent.1.result.queueResult.code, sent.2)

/-- The event masks of `r1_amp_mailmsg_user_poll`. -/
inductive PollMask where
  | none
  | readable
  | error
  | hangup
deriving DecidableEq, Repr

/-- `r1_amp_mailmsg_user_poll` after its claim succeeded. -/
def userPoll (system : System) (file : UserFile) : PollMask :=
  match system.driver.mailmsgState with
  | .offline | .stopping => .hangup
  | .starting => .error
  | .active =>
      if 0 < endpointHasReceived system.driver.endpoint system.hardware.shared file.priority then
        .readable
      else .none
  | .unarmed | .startTimeout | .stopTimeout => .none

/-! ### Attributes that only read -/

/-- One line of `mailmsg_stats`. -/
structure StatsLine where
  priority : Priority
  stats : PriorityStats
  txDepth : Int
  rxDepth : Int

/-- `mailmsg_stats_show`: the counters of every priority with the depths of its two rings. -/
def mailmsgStatsShow (system : System) : List StatsLine × System :=
  let shared := system.hardware.shared
  let depths (priority : Priority) : Int × Int :=
    match system.driver.endpoint.role with
    | none => (-1, -1)
    | some role =>
        (ringCount (shared.ring role priority), ringCount (shared.ring role.peer priority))
  ((List.finRange priorityCount).map fun priority =>
    ⟨priority, system.driver.endpoint.stats priority, (depths priority).1,
      (depths priority).2⟩, system)

/-- `status_show` without the lines that CPU3 publishes: the driver's record and A2B_STATUS. -/
def statusShow (system : System) : (Driver × (Priority → Bool)) × System :=
  ((system.driver, system.hardware.a2b.status), system)

/-! ### Test attributes -/

/-- `mailmsg_linux_ring_push`: push, with the first payload byte flipped after the CRC is computed
when `corrupt` is set. -/
def linuxRingPush (ring : Ring) (message : Message) (corrupt : Bool) : Int × Ring :=
  let producer := ring.producer
  let next := ringNext producer
  if message.malformed then (-Errno.inval, ring)
  else if next = ring.consumer then (-Errno.nospc, ring)
  else
    let slot := { message with commit := 0 }
    let slot := { slot with crc32 := frameCrc32 slot }
    let slot :=
      if corrupt then
        { slot with payload := Function.update slot.payload 0 (slot.payload 0 ^^^ 0xff#8) }
      else slot
    let slot := { slot with commit := message.sequence }
    (0, { ring with slot := Function.update ring.slot producer slot, producer := next })

/-- `mailmsg_test_enqueue_locked`. -/
def testEnqueueLocked (system : System) (priority : Priority) (value : U32) (corrupt : Bool) :
    Int × System :=
  let shared := system.hardware.shared
  let endpoint := system.driver.endpoint
  if shared.magic ≠ protocolMagic ∨ shared.version ≠ protocolVersion ∨
      shared.generation ≠ endpoint.generation then
    (-Errno.proto, system)
  else
    let sequence := endpointNextSequence endpoint
    let request := sendMessage endpoint.generation MessageType.ping sequence 4
      (some (storePayloadU32 (fun _ => 0) 0 value))
    let pushed := linuxRingPush (shared.linuxToCpu3 priority) request corrupt
    (pushed.1, system.store { endpoint with nextSequence := sequence }
      (shared.setRing .linux priority pushed.2))

/-- `mailmsg_send_ping`: `mailmsg_ping` and, with `corrupt`, `mailmsg_crc_inject`.  The numbers are
those that sscanf finds in the text, if it finds two. -/
def sendPing (system : System) (numbers : Option (U32 × U32)) (count : Nat) (corrupt : Bool) :
    Int × System :=
  match numbers with
  | none => (-Errno.inval, system)
  | some (number, value) =>
      if inRange : number.toNat < priorityCount then
        let priority : Priority := ⟨number.toNat, inRange⟩
        let gate := dataGateLocked system.driver
        if gate ≠ 0 then (gate, system)
        else if corrupt then
          let queued := testEnqueueLocked system priority value true
          if queued.1 ≠ 0 then queued
          else (count, (notifyLocked queued.2 priority).2)
        else
          let sent := linuxSend system priority MessageType.ping
            (some (storePayloadU32 (fun _ => 0) 0 value)) 4
          let ret := sent.1.ret.code
          (if ret = 0 then count
            else if ret ≤ EndpointResult.invalid.code then ringResultToErrno ret
            else ringResultToErrno sent.1.result.queueResult.code, sent.2)
      else (-Errno.inval, system)

/-- `mailmsg_queue_push_store`: a frame without a doorbell. -/
def queuePushStore (system : System) (numbers : Option (U32 × U32)) (count : Nat) : Int × System :=
  match numbers with
  | none => (-Errno.inval, system)
  | some (number, value) =>
      if inRange : number.toNat < priorityCount then
        let gate := dataGateLocked system.driver
        if gate ≠ 0 then (gate, system)
        else
          let queued := testEnqueueLocked system ⟨number.toNat, inRange⟩ value false
          (storeResult queued.1 count, queued.2)
      else (-Errno.inval, system)

/-- The text of `mailmsg_notify_inject`. -/
inductive InjectText where
  | clear
  | numbers (priority : U32) (errno : Int) (remaining : U32)
  | other
deriving DecidableEq

/-- `mailmsg_notify_inject_store`. -/
def notifyInjectStore (system : System) (text : InjectText) (count : Nat) : Int × System :=
  match text with
  | .clear => (count, { system with driver := { system.driver with notifyInjectRemaining := 0 } })
  | .other => (-Errno.inval, system)
  | .numbers priority errno remaining =>
      if priorityCount ≤ priority.toNat ∨ 0 ≤ errno ∨ errno < -Errno.max ∨ remaining = 0#32 ∨
          1000 < remaining.toNat then
        (-Errno.inval, system)
      else
        let gate := dataGateLocked system.driver
        if gate ≠ 0 then (gate, system)
        else
          (count,
            { system with
              driver :=
                { system.driver with
                  notifyInjectPriority := priority
                  notifyInjectErrno := errno
                  notifyInjectRemaining := remaining } })

/-- `doorbell_store`: a raw doorbell without a frame. -/
def doorbellStore (system : System) (numbers : Option (U32 × U32)) (count : Nat) : Int × System :=
  match numbers with
  | none => (-Errno.inval, system)
  | some (number, value) =>
      if inRange : number.toNat < priorityCount then
        let gate := dataGateLocked system.driver
        if gate ≠ 0 then (gate, system)
        else
          let sent := mboxDirectSendLocked system ⟨number.toNat, inRange⟩
            (0xa2b00000#32 ||| number) value
          (if sent.1 < 0 then sent.1 else count, sent.2)
      else (-Errno.inval, system)

/-- `ping_store`, the legacy one-shot request on channel 3, for a text that kstrtou32 accepts.  The
legacy request lines are outside the message region and are left out. -/
def pingStore (system : System) (value : U32) (count : Nat) : Int × System :=
  if system.driver.mailmsgState ≠ .unarmed then (-Errno.opnotsupp, system)
  else
    let gate := dataGateLocked system.driver
    if gate ≠ 0 then (gate, system)
    else
      let sequence := system.driver.nextSequence + 1
      let sequence := if sequence = 0 then sequence + 1 else sequence
      let system := { system with driver := { system.driver with nextSequence := sequence } }
      let sent := mboxDirectSendLocked system 3 1 value
      (if sent.1 < 0 then sent.1 else count, sent.2)

/-- `mailmsg_response_show` up to its loops; the refusals only print a reason. -/
def responseEnter (system : System) : System :=
  if system.driver.endpoint.role.isNone then system
  else if dataGateLocked system.driver ≠ 0 then system
  else { system with lock := .response 0 [] }

/-- The line that `mailmsg_response_show` prints for a good frame. -/
def responseLine (priority : Priority) (response : Message) : ResponseLine :=
  if (response.type = MessageType.ack ∨ response.type = MessageType.nack) ∧
      feedbackBytes ≤ response.length.toNat then
    .feedback priority response.type response.sequence (payloadU32 response.payloadAt 0)
      (payloadU32 response.payloadAt 4).toInt
  else
    .value priority response.type response.sequence
      (if 4 ≤ response.length.toNat then payloadU32 response.payloadAt 0 else 0)

/-- The next priority of the outer loop, or the end. -/
def responseNext (priority : Priority) (lines : List ResponseLine) : LockOwner :=
  if next : priority.val + 1 < priorityCount then .response ⟨priority.val + 1, next⟩
    lines else .free

/-- One iteration of the inner loop of `mailmsg_response_show`. -/
def responseIterate (system : System) (priority : Priority) (lines : List ResponseLine) : System :=
  let received := linuxReceive system priority
  let ret := received.1.ret
  let system := received.2
  if ret = .ring .empty then { system with lock := responseNext priority lines }
  else if ret ≠ .ok then
    let lines := lines ++ [.failed priority ret.code]
    if ret = .ring .incomplete ∨ ret.code ≤ EndpointResult.invalid.code then
      { system with lock := responseNext priority lines }
    else { system with lock := .response priority lines }
  else
    { system with
      lock := .response priority
        (lines ++ [responseLine priority (received.1.message.getD .zero)]) }

end MailMsg
