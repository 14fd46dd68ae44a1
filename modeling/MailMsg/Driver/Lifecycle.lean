/-
Module: MailMsg.Driver.Lifecycle
Purpose: The driver's lifecycle operations: loading an image, start, controlled stop, rearm, the
  affinity queries, the mailbox callback and the three work items.
Source: LZAMP/linux/drivers/lzamp_amp_mailmsg.c
Trusted boundary: human-reviewed embedding of the source; PSCI answers, the clock and the texts
  accepted by sysfs_streq are arguments
Main exports: imageWrite, startStore, rearmStore, stopStore, affinityStateShow, rxCallback,
  controlEnter, controlIterate, lifecycleTimeoutWork, affinityWork
-/
import MailMsg.Driver.State

namespace MailMsg

/-- The value of a sysfs store: `ret ? ret : count`. -/
def storeResult (ret : Int) (count : Nat) : Int := if ret ≠ 0 then ret else count

/-! ### Image, start and rearm -/

/-- The carveout after `count` bytes were copied to `offset`. -/
def copyBytes (image : Nat → U8) (offset count : Nat) (bytes : Nat → U8) (index : Nat) : U8 :=
  if offset ≤ index ∧ index < offset + count then bytes (index - offset) else image index

/-- The memory below the caches after the first `count` bytes were cleaned. -/
def cleanBytes (memory image : Nat → U8) (count : Nat) (index : Nat) : U8 :=
  if index < count then image index else memory index

/-- `image_write` of `count` bytes at `offset`.  The write that completes the image cleans it to
memory. -/
def imageWrite (system : System) (offset count : Nat) (bytes : Nat → U8) : Int × System :=
  let driver := system.driver
  if driver.cpuOnAttempted then (-Errno.busy, system)
  else if offset ≠ driver.imageWritten then (-Errno.spipe, system)
  else if system.config.imageSize - driver.imageWritten < count then (-Errno.fbig, system)
  else
    let image := copyBytes driver.image offset count bytes
    let written := driver.imageWritten + count
    (count,
      { system with
        driver :=
          { driver with
            image := image
            imageMemory :=
              if written = system.config.imageSize then
                cleanBytes driver.imageMemory image system.config.imageSize
              else driver.imageMemory
            imageWritten := written } })

/-- The region and the endpoint as `start_store` initialises them, before it calls CPU_ON. -/
def initialiseSession (system : System) : EndpointResult × System :=
  let generation := nextNonzero system.driver.sessionGeneration
  let shared := sessionRegion generation
  let bound := endpointBind system.driver.endpoint shared .linux
  (bound.1,
    { system with
      driver := { system.driver with sessionGeneration := generation, endpoint := bound.2 }
      hardware := { system.hardware with shared := shared }
      epoch := system.epoch + 1
      peerWrites := [] })

/-- `start_store` from the CPU_ON call on. -/
def launch (system : System) (cpuOn : Int) : System :=
  let driver :=
    { system.driver with
      peerGeneration := 0
      sessionResult := -Errno.inprogress
      stopRequestSequence := 0
      stopReplyType := 0
      stopResult := -Errno.again
      stopNotifyResult := -Errno.again
      mailmsgState := .starting
      lifecycleNotifyBypass := false
      affinitySeenOn := false
      cpuOnAttempted := true
      cpuOnRet := cpuOn }
  if cpuOn ≠ 0 then
    { system with driver := { driver with mailmsgState := .unarmed, sessionResult := cpuOn } }
  else
    { system with
      driver :=
        { driver with
          lifecycleDeadline := system.jiffies + system.config.lifecycleTimeout
          affinityQueued := true
          lifecycleTimeoutQueued := true } }

/-- `start_store`.  `affinity` and `cpuOn` are what PSCI answers if it is asked. -/
def startStore (system : System) (accepted : Bool) (count : Nat) (affinity cpuOn : Int) :
    Int × System :=
  if ¬ accepted then (-Errno.inval, system)
  else if system.driver.cpuOnAttempted then (-Errno.already, system)
  else if system.driver.imageWritten ≠ system.config.imageSize then (-Errno.nodata, system)
  else if ¬ system.config.hasAffinityInfo ∨ ¬ system.config.hasCpuOn then (-Errno.opnotsupp, system)
  else
    let system := { system with driver := refreshAffinityLocked system.driver affinity }
    if system.driver.affinityState ≠ affinityOff then (-Errno.busy, system)
    else
      let initialised := initialiseSession system
      if initialised.1 ≠ .ok then (-Errno.proto, initialised.2)
      else (storeResult cpuOn count, launch initialised.2 cpuOn)

/-- The driver after a successful `rearm_store`. -/
def Driver.rearmed (driver : Driver) : Driver :=
  { driver with
    endpoint := .zero
    lifecycleTimeoutQueued := false
    imageWritten := 0
    cpuOnAttempted := false
    cpuOnRet := -Errno.again
    affinitySeenOn := false
    mailmsgState := .unarmed
    peerGeneration := 0
    sessionResult := -Errno.again
    nextSequence := 0
    mailmsgLastNotifyResult := -Errno.again
    stopRequestSequence := 0
    stopReplyType := 0
    stopResult := -Errno.again
    stopNotifyResult := -Errno.again
    notifyInjectRemaining := 0
    lifecycleNotifyBypass := false }

/-- `A2B_STATUS` is not zero. -/
def Doorbells.anyPending (doorbells : Doorbells) : Bool :=
  (List.finRange priorityCount).any doorbells.status

/-- `rearm_store`. -/
def rearmStore (system : System) (accepted : Bool) (count : Nat) (affinity : Int) : Int × System :=
  if ¬ accepted then (-Errno.inval, system)
  else if ¬ system.driver.cpuOnAttempted then (-Errno.inval, system)
  else if system.driver.userOpenCount ≠ 0 then (-Errno.busy, system)
  else if ¬ system.config.hasAffinityInfo then (-Errno.opnotsupp, system)
  else
    let system := { system with driver := refreshAffinityLocked system.driver affinity }
    if system.driver.affinityState ≠ affinityOff then (-Errno.busy, system)
    else if system.hardware.a2b.anyPending then (-Errno.busy, system)
    else
      (count, { system with driver := system.driver.rearmed, epoch := system.epoch + 1 })

/-! ### Controlled stop -/

/-- The loop of `r1_amp_mailmsg_stop_preflight_locked` over the remaining priorities.  Both calls
answer 0 or 1 for a valid ring, while the loop compares with `MAILMSG_RING_EMPTY`, which is -1. -/
def stopPreflightRings (system : System) : List Priority → Option Int
  | [] => none
  | priority :: priorities =>
      let received := endpointHasReceived system.driver.endpoint system.hardware.shared priority
      if received ≠ RingResult.empty.code then
        some (if 0 < received then -Errno.busy else ringResultToErrno received)
      else
        let queued := ringHasData (system.hardware.shared.linuxToCpu3 priority)
        if queued ≠ RingResult.empty.code then
          some (if 0 < queued then -Errno.busy else ringResultToErrno queued)
        else stopPreflightRings system priorities

/-- `r1_amp_mailmsg_stop_preflight_locked`. -/
def stopPreflightLocked (system : System) : Int :=
  if system.driver.userOpenCount ≠ 0 then -Errno.busy
  else if system.driver.endpoint.role.isNone then -Errno.proto
  else
    match stopPreflightRings system (List.finRange priorityCount) with
    | some ret => ret
    | none => if system.hardware.a2b.anyPending then -Errno.busy else 0

/-- The state in which `mailmsg_stop_store` sends its request: STOPPING, with the fault injection of
the test attribute bypassed. -/
def System.stopping (system : System) : System :=
  { system with
    driver :=
      { system.driver with
        mailmsgState := .stopping
        stopRequestSequence := 0
        stopReplyType := 0
        stopResult := -Errno.inprogress
        stopNotifyResult := -Errno.inprogress
        lifecycleNotifyBypass := true } }

/-- `mailmsg_stop_store` once the preflight passed: enter STOPPING and queue STOP_REQUEST on p0. -/
def requestStop (system : System) : Int × System :=
  let sent := linuxSend system.stopping .critical MessageType.stopRequest none 0
  let ret := sent.1.ret.code
  let driver := { sent.2.driver with lifecycleNotifyBypass := false }
  if ret ≠ 0 then
    -- No frame was committed when the send reports a queue error.
    let result :=
      if ret ≤ EndpointResult.invalid.code then ringResultToErrno ret
      else ringResultToErrno sent.1.result.queueResult.code
    (result, { sent.2 with driver := { driver with mailmsgState := .active, stopResult := result } })
  else
    let driver :=
      { driver with
        stopRequestSequence := sent.1.result.sequence
        stopNotifyResult := sent.1.result.notifyResult
        lifecycleDeadline := system.jiffies + system.config.lifecycleTimeout
        lifecycleTimeoutQueued := true }
    -- Queue admission is durable: STOPPING stays even if the doorbell failed.
    let notify := sent.1.result.notifyResult
    (if ¬ notifyAccepted notify ∧ notify < 0 then notify else 0, { sent.2 with driver := driver })

/-- `mailmsg_stop_store`. -/
def stopStore (system : System) (accepted : Bool) (count : Nat) : Int × System :=
  if ¬ accepted then (-Errno.inval, system)
  else if system.driver.mailmsgState = .offline then (-Errno.nolink, system)
  else if system.driver.mailmsgState ≠ .active then (-Errno.busy, system)
  else
    let preflight := stopPreflightLocked system
    if preflight ≠ 0 then (preflight, system)
    else
      let requested := requestStop system
      (storeResult requested.1 count, requested.2)

/-! ### Affinity, callbacks and work items -/

/-- `affinity_state_show`: the PSCI state that it prints, or an error. -/
def affinityStateShow (system : System) (affinity : Int) : Int × System :=
  if ¬ system.config.hasAffinityInfo then (-Errno.opnotsupp, system)
  else (affinity, { system with driver := refreshAffinityLocked system.driver affinity })

/-- `r1_amp_mbox_rx_callback` with the controller's message, which may be null.  It runs without the
mutex. -/
def rxCallback (system : System) (channel : Priority) (message : Option (U32 × U32)) : System :=
  let driver := system.driver
  let record := driver.mbox channel
  let record :=
    match message with
    | none => record
    | some (command, data) => { record with rxLastCmd := command, rxLastData := data }
  { system with
    driver :=
      { driver with
        mbox := Function.update driver.mbox channel { record with rxCount := record.rxCount + 1 }
        rxGeneration :=
          Function.update driver.rxGeneration channel (driver.rxGeneration channel + 1)
        controlQueued := driver.controlQueued || driver.mailmsgState.pendingReply } }

/-- `r1_amp_affinity_work`. -/
def affinityWork (system : System) (affinity : Int) : System :=
  if ¬ system.driver.mailmsgState.watched then system
  else
    let driver :=
      { system.driver with affinityMonitorCount := system.driver.affinityMonitorCount + 1 }
    let driver := refreshAffinityLocked driver affinity
    let driver :=
      if affinity < 0 then
        { driver with affinityMonitorErrorCount := driver.affinityMonitorErrorCount + 1 }
      else driver
    { system with
      driver :=
        { driver with
          controlQueued := driver.controlQueued || driver.mailmsgState.pendingReply
          affinityQueued := driver.affinityQueued || driver.mailmsgState.watched } }

/-- `r1_amp_mailmsg_control_work` up to its loop. -/
def controlEnter (system : System) : System :=
  if ¬ system.driver.mailmsgState.pendingReply then system
  else if system.driver.lifecycleDeadline ≤ system.jiffies then
    { system with
      driver := { setTimeoutLocked system.driver with lifecycleTimeoutQueued := false } }
  else { system with lock := .control }

/-- The SESSION_READY that STARTING waits for. -/
def sessionReadyAccepted (driver : Driver) (response : Message) : Bool :=
  response.type == MessageType.sessionReady && decide (sessionBytes ≤ response.length.toNat) &&
    payloadU32 response.payloadAt 0 == driver.sessionGeneration &&
    payloadU32 response.payloadAt 4 == protocolVersion

/-- A reply to the current STOP_REQUEST. -/
def stopReplyAccepted (driver : Driver) (response : Message) : Bool :=
  (response.type == MessageType.stopReady || response.type == MessageType.stopRefused) &&
    decide (feedbackBytes ≤ response.length.toNat) &&
    payloadU32 response.payloadAt 0 == driver.stopRequestSequence

/-- What the loop of `r1_amp_mailmsg_control_work` does with a good frame before the deadline.  The
mutex is released exactly when the loop ends. -/
def controlResponse (system : System) (response : Message) : System :=
  let driver := system.driver
  if driver.mailmsgState = .starting then
    if ¬ sessionReadyAccepted driver response then system
    else
      { system with
        driver :=
          { driver with
            peerGeneration := driver.sessionGeneration
            sessionResult := 0
            affinitySeenOn := true
            mailmsgState := .active
            lifecycleTimeoutQueued := false }
        lock := .free }
  else if ¬ stopReplyAccepted driver response then system
  else if response.type = MessageType.stopReady then
    -- STOP_READY ends the reply phase and gives PSCI CPU_OFF its own interval.
    { system with
      driver :=
        { driver with
          stopReplyType := response.type
          stopResult := 0
          lifecycleDeadline := system.jiffies + system.config.lifecycleTimeout
          lifecycleTimeoutQueued := true }
      lock := .free }
  else
    { system with
      driver :=
        { driver with
          stopReplyType := response.type
          stopResult := -Errno.canceled
          mailmsgState := .active
          lifecycleTimeoutQueued := false }
      lock := .free }

/-- One iteration of the loop of `r1_amp_mailmsg_control_work`. -/
def controlIterate (system : System) : System :=
  let received := linuxReceive system .critical
  let ret := received.1.ret
  let system := received.2
  let driver := system.driver
  if ret = .ring .empty ∨ ret = .ring .incomplete then { system with lock := .free }
  else if ret = .staleFrame then system
  else if ret ≠ .ok then
    let errno := ringResultToErrno ret.code
    let driver :=
      if driver.mailmsgState = .starting then { driver with sessionResult := errno }
      else { driver with stopResult := errno }
    -- Endpoint and session errors consume no ring entry, so the loop must end.
    if ret.code ≤ EndpointResult.invalid.code then { system with driver := driver, lock := .free }
    else { system with driver := driver }
  else if driver.lifecycleDeadline ≤ system.jiffies then
    { system with
      driver := { setTimeoutLocked driver with lifecycleTimeoutQueued := false }
      lock := .free }
  else controlResponse system (received.1.message.getD .zero)

/-- `r1_amp_mailmsg_lifecycle_timeout_work`. -/
def lifecycleTimeoutWork (system : System) (affinity : Int) : System :=
  let driver := system.driver
  if ¬ driver.mailmsgState.pendingReply then system
  else if system.jiffies < driver.lifecycleDeadline then
    { system with driver := { driver with lifecycleTimeoutQueued := true } }
  else if driver.mailmsgState = .stopping ∧ driver.stopReplyType = MessageType.stopReady then
    let driver := refreshAffinityLocked driver affinity
    if driver.mailmsgState = .offline then { system with driver := driver }
    else { system with driver := setTimeoutLocked driver }
  else { system with driver := setTimeoutLocked driver }

end MailMsg
