/-
Module: MailMsg.Driver.State
Purpose: The Linux driver's private data, the open device files, and the helpers that run with its
  mutex held: the data-plane gate, affinity refresh, timeouts and doorbells.
Source: LZAMP/linux/drivers/lzamp_amp_mailmsg.c
Trusted boundary: human-reviewed embedding of the source; jiffies do not wrap
Main exports: SessionState, Driver, System, dataGateLocked, refreshAffinityLocked, setTimeoutLocked,
  notifyLocked, linuxSend, linuxReceive
-/
import MailMsg.Platform.Hardware

namespace MailMsg

/-! ### Error numbers -/

namespace Errno

def io : Int := 5
def again : Int := 11
def fault : Int := 14
def busy : Int := 16
def inval : Int := 22
def fbig : Int := 27
def nospc : Int := 28
def spipe : Int := 29
def nodata : Int := 61
def nolink : Int := 67
def proto : Int := 71
def badmsg : Int := 74
def opnotsupp : Int := 95
def shutdown : Int := 108
def timedout : Int := 110
def already : Int := 114
def inprogress : Int := 115
def stale : Int := 116
def canceled : Int := 125
/-- `MAX_ERRNO`. -/
def max : Int := 4095

end Errno

/-- `mailmsg_ring_result_to_errno`, over the integer codes that ring and endpoint calls share. -/
def ringResultToErrno (result : Int) : Int :=
  if result = RingResult.ok.code then 0
  else if result = RingResult.empty.code then -Errno.nodata
  else if result = RingResult.full.code then -Errno.nospc
  else if result = RingResult.incomplete.code then -Errno.again
  else if result = RingResult.badCrc.code then -Errno.badmsg
  else if result = RingResult.invalid.code then -Errno.proto
  else if result = EndpointResult.invalid.code then -Errno.inval
  else if result = EndpointResult.protocolMismatch.code then -Errno.proto
  else if result = EndpointResult.staleSession.code then -Errno.stale
  else if result = EndpointResult.staleFrame.code then -Errno.stale
  else -Errno.io

/-! ### Data -/

/-- `enum r1_amp_mailmsg_session_state`. -/
inductive SessionState where
  | unarmed
  | starting
  | startTimeout
  | active
  | stopping
  | stopTimeout
  | offline
deriving DecidableEq, Repr

/-- The states in which CPU3 may be running: those that the affinity monitor watches and that
`r1_amp_mailmsg_mark_offline_locked` ends. -/
def SessionState.watched : SessionState → Bool
  | .unarmed | .offline => false
  | .starting | .startTimeout | .active | .stopping | .stopTimeout => true

/-- The states in which the lifecycle plane owns p0. -/
def SessionState.pendingReply : SessionState → Bool
  | .starting | .stopping => true
  | .unarmed | .startTimeout | .active | .stopTimeout | .offline => false

/-- `PSCI_0_2_AFFINITY_LEVEL_*`. -/
def affinityOn : Int := 0
def affinityOff : Int := 1
def affinityOnPending : Int := 2

/-- The lifecycle fields of `struct r1_amp_cpu_on_data`, with the carveout bytes that the image goes
to: as Linux wrote them, and as they were last cleaned to memory. -/
structure Lifecycle where
  image : Nat → U8
  imageMemory : Nat → U8
  imageWritten : Nat
  affinityState : Int
  affinityQueried : Bool
  affinitySeenOn : Bool
  cpuOnRet : Int
  cpuOnAttempted : Bool
  mailmsgState : SessionState
  affinityMonitorCount : U32
  affinityMonitorErrorCount : U32
  sessionGeneration : U32
  peerGeneration : U32
  sessionResult : Int
  stopRequestSequence : U32
  stopReplyType : U32
  stopResult : Int
  stopNotifyResult : Int
  lifecycleDeadline : Nat

/-- The counters of open files and readers. -/
structure UserCounts where
  userOpenCount : Int
  readerOpenCount : Priority → Int

/-- Which work items are queued and have not been picked up by a worker. -/
structure WorkQueue where
  affinityQueued : Bool
  controlQueued : Bool
  lifecycleTimeoutQueued : Bool

/-- `struct r1_amp_mbox_channel`, without the handles of the mailbox framework. -/
structure MboxChannel where
  rxCount : U32
  rxLastCmd : U32
  rxLastData : U32
  txCmd : U32
  txData : U32
  txRet : Int
  txCount : U32
  notifyResult : Int
  notifySentCount : U32
  notifyCoalescedCount : U32
  notifyFailedCount : U32
deriving DecidableEq

/-- `struct r1_amp_cpu_on_data`.  `mailmsg_user_removing` is never written by the driver and is left
out together with the refusals that it guards. -/
structure Driver extends Lifecycle, UserCounts, WorkQueue where
  mbox : Priority → MboxChannel
  notifyInjectPriority : U32
  notifyInjectErrno : Int
  notifyInjectRemaining : U32
  lifecycleNotifyBypass : Bool
  nextSequence : BitVec 64
  mailmsgLastNotifyResult : Int
  endpoint : Endpoint
  rxGeneration : Priority → U32

/-- What the device tree, the kernel configuration and the firmware fix for the driver's
lifetime. -/
structure Config where
  imageSize : Nat
  hasAffinityInfo : Bool
  hasCpuOn : Bool
  /-- `msecs_to_jiffies(R1_AMP_LIFECYCLE_TIMEOUT_MS)`. -/
  lifecycleTimeout : Nat
deriving DecidableEq

/-- `struct r1_amp_mailmsg_user_file` of an open file.  `generation` and `epoch` record what was
current when it was opened; no operation reads them. -/
structure UserFile where
  id : Nat
  priority : Priority
  readerClaimed : Bool
  nonblock : Bool
  generation : U32
  epoch : Nat
deriving DecidableEq

/-- One line of the `mailmsg_response` attribute. -/
inductive ResponseLine where
  | failed (priority : Priority) (ret : Int)
  | feedback (priority : Priority) (type sequence peerSequence : U32) (status : Int)
  | value (priority : Priority) (type sequence value : U32)
deriving DecidableEq, Repr

/-- Who holds `data->lock` between two steps.  Operations without a loop over the reverse rings take
and release it within one step; the two that loop hold it while CPU3 and the clock go on. -/
inductive LockOwner where
  | free
  | control
  | response (priority : Priority) (lines : List ResponseLine)
deriving DecidableEq

/-- The driver, the hardware it shares with CPU3, the clock, and the open files.  `epoch` counts the
session boundaries so far and `peerWrites` the slots that CPU3 wrote into the reverse rings since
the last region initialisation; no operation reads these two. -/
structure System where
  config : Config
  driver : Driver
  hardware : Hardware
  jiffies : Nat
  lock : LockOwner
  files : List UserFile
  nextFile : Nat
  epoch : Nat
  peerWrites : List (Priority × Message)

/-- The channel record that probe leaves. -/
def MboxChannel.probed : MboxChannel := ⟨0, 0, 0, 0, 0, -Errno.again, 0, -Errno.again, 0, 0, 0⟩

/-- `r1_amp_cpu_on_probe`: the zeroed record with its initial values. -/
def Driver.probed (image : Nat → U8) : Driver where
  image := image
  imageMemory := image
  imageWritten := 0
  affinityState := 0
  affinityQueried := false
  affinitySeenOn := false
  cpuOnRet := -Errno.again
  cpuOnAttempted := false
  mailmsgState := .unarmed
  affinityMonitorCount := 0
  affinityMonitorErrorCount := 0
  sessionGeneration := 0
  peerGeneration := 0
  sessionResult := -Errno.again
  stopRequestSequence := 0
  stopReplyType := 0
  stopResult := -Errno.again
  stopNotifyResult := -Errno.again
  lifecycleDeadline := 0
  userOpenCount := 0
  readerOpenCount := fun _ => 0
  affinityQueued := false
  controlQueued := false
  lifecycleTimeoutQueued := false
  mbox := fun _ => .probed
  notifyInjectPriority := 0
  notifyInjectErrno := -Errno.io
  notifyInjectRemaining := 0
  lifecycleNotifyBypass := false
  nextSequence := 0
  mailmsgLastNotifyResult := -Errno.again
  endpoint := .zero
  rxGeneration := fun _ => 0

/-! ### Helpers that run under the mutex -/

/-- `r1_amp_mailmsg_data_gate_locked`. -/
def dataGateLocked (driver : Driver) : Int :=
  match driver.mailmsgState with
  | .active => 0
  | .starting => -Errno.again
  | .startTimeout => -Errno.timedout
  | .stopping => -Errno.shutdown
  | .stopTimeout => -Errno.timedout
  | .offline | .unarmed => -Errno.nolink

/-- Every reader is told to look again. -/
def Driver.wakeReaders (driver : Driver) : Driver :=
  { driver with rxGeneration := fun priority => driver.rxGeneration priority + 1 }

/-- `r1_amp_mailmsg_mark_offline_locked`. -/
def markOfflineLocked (driver : Driver) : Driver :=
  if driver.mailmsgState.watched then
    Driver.wakeReaders { driver with mailmsgState := .offline, lifecycleTimeoutQueued := false }
  else driver

/-- `r1_amp_refresh_affinity_locked`, given what PSCI AFFINITY_INFO answers. -/
def refreshAffinityLocked (driver : Driver) (answer : Int) : Driver :=
  let driver := { driver with affinityState := answer, affinityQueried := true }
  let driver :=
    if answer = affinityOn ∨ answer = affinityOnPending then { driver with affinitySeenOn := true }
    else driver
  if driver.cpuOnRet = 0 ∧ driver.affinitySeenOn ∧
    answer = affinityOff then markOfflineLocked driver
  else driver

/-- `r1_amp_mailmsg_set_timeout_locked`. -/
def setTimeoutLocked (driver : Driver) : Driver :=
  let driver :=
    match driver.mailmsgState with
    | .starting => { driver with sessionResult := -Errno.timedout, mailmsgState := .startTimeout }
    | .stopping => { driver with stopResult := -Errno.timedout, mailmsgState := .stopTimeout }
    | .unarmed | .startTimeout | .active | .stopTimeout | .offline => driver
  driver.wakeReaders

/-- `R1_AMP_MAILMSG_DOORBELL`. -/
def mailmsgDoorbell : U32 := 0xa2b10000

/-- `r1_amp_mbox_direct_send_locked`. -/
def mboxDirectSendLocked (system : System) (channel : Priority) (command value : U32) :
    Int × System :=
  let record := system.driver.mbox channel
  if system.hardware.a2b.status channel then
    let record := { record with txRet := -Errno.busy }
    (-Errno.busy,
      { system with
        driver := { system.driver with mbox := Function.update system.driver.mbox channel record } })
  else
    let record :=
      { record with txCmd := command, txData := value, txRet := 0, txCount := record.txCount + 1 }
    (0,
      { system with
        driver := { system.driver with mbox := Function.update system.driver.mbox channel record }
        hardware :=
          { system.hardware with a2b := system.hardware.a2b.write channel command value } })

/-- The record of a notification in the channel and in the driver. -/
def Driver.notified (driver : Driver) (priority : Priority) (result : Int)
    (count : MboxChannel → MboxChannel) : Driver :=
  { driver with
    mbox := Function.update driver.mbox priority
      { count (driver.mbox priority) with notifyResult := result }
    mailmsgLastNotifyResult := result }

/-- `mailmsg_notify_locked`: a doorbell that is still pending counts as coalesced, and the fault
injection of the test attribute answers in the hardware's place. -/
def notifyLocked (system : System) (priority : Priority) : Int × System :=
  let driver := system.driver
  if ¬ driver.lifecycleNotifyBypass ∧ driver.notifyInjectRemaining ≠ 0#32 ∧
      driver.notifyInjectPriority = BitVec.ofNat 32 priority.val then
    let result := driver.notifyInjectErrno
    let driver := { driver with notifyInjectRemaining := driver.notifyInjectRemaining - 1 }
    (result,
      { system with
        driver := driver.notified priority result fun channel =>
          { channel with
            txRet := result
            notifyFailedCount := channel.notifyFailedCount + 1 } })
  else
    let sent := mboxDirectSendLocked system priority
      (mailmsgDoorbell ||| BitVec.ofNat 32 priority.val) (BitVec.ofNat 32 priority.val)
    if sent.1 = -Errno.busy then
      (notifyCoalesced,
        { sent.2 with
          driver := sent.2.driver.notified priority notifyCoalesced fun channel =>
            { channel with notifyCoalescedCount := channel.notifyCoalescedCount + 1 } })
    else if sent.1 < 0 then
      (sent.1,
        { sent.2 with
          driver := sent.2.driver.notified priority sent.1 fun channel =>
            { channel with notifyFailedCount := channel.notifyFailedCount + 1 } })
    else
      (notifySent,
        { sent.2 with
          driver := sent.2.driver.notified priority notifySent fun channel =>
            { channel with notifySentCount := channel.notifySentCount + 1 } })

/-- `struct mailmsg_send_result send_result = { }`. -/
def SendResult.zero : SendResult where
  queueResult := .ok
  notifyResult := 0
  notifyAttempted := false
  sequence := 0

/-- Put an endpoint and a region back. -/
def System.store (system : System) (endpoint : Endpoint) (shared : Shared) : System :=
  { system with
    driver := { system.driver with endpoint := endpoint }
    hardware := { system.hardware with shared := shared } }

/-- `mailmsg_endpoint_send` on the driver's endpoint with `mailmsg_linux_notify` as its backend. -/
def linuxSend (system : System) (priority : Priority) (type : U32) (payload : Option (Nat → U8))
    (length : U32) : SendOutcome × System :=
  let sent := endpointSend (fun priority system => notifyLocked system priority) system
    system.driver.endpoint system.hardware.shared priority type payload length .zero
  (sent.1, sent.2.store sent.1.endpoint sent.1.shared)

/-- `mailmsg_endpoint_receive` on the driver's endpoint. -/
def linuxReceive (system : System) (priority : Priority) : ReceiveOutcome × System :=
  let received := endpointReceive system.driver.endpoint system.hardware.shared priority
  (received, system.store received.endpoint received.shared)

end MailMsg
