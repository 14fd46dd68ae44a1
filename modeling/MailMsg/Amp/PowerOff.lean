/-
Module: MailMsg.Amp.PowerOff
Purpose: When CPU3 powers itself off: which STOP_REQUEST it answers, and what Linux knows of it.
Source: LZAMP/firmware/zephyr/app/src/main.c (mailmsg_pingpong_test_service,
  mailmsg_cpu_off_after_ready), LZAMP/linux/drivers/lzamp_amp_mailmsg.c
Trusted boundary: none beyond the models of the two sides
Main exports: Driver.Awaits, Answering, stopAdmissible, cpu_off_inside_stop
-/
import MailMsg.Amp.Session

namespace MailMsg

/-! ### Requests on their way

A STOP_REQUEST on p0 is in the forward ring or in the hands of the worker, and its refusal is the
worker's next reply or is in the reverse ring.  `Answering` follows both until Linux consumes the
refusal or CPU3 is gone.
-/

/-- The states of a stop that Linux began, and the state after it. -/
def SessionState.stopped : SessionState → Bool
  | .stopping | .stopTimeout | .offline => true
  | .unarmed | .starting | .startTimeout | .active => false

/-- What Linux knows of a STOP_REQUEST on p0.  An empty one is the request of its own stop; a longer
one, which CPU3 refuses, is not the request that STOPPING waits for. -/
structure Driver.Awaits (driver : Driver) (request : Message) : Prop where
  own : request.length = 0#32 →
    driver.mailmsgState.stopped ∧ request.sequence = driver.stopRequestSequence
  foreign : request.length ≠ 0#32 → driver.mailmsgState = .stopping →
    request.sequence ≠ driver.stopRequestSequence

/-- The STOP_REQUEST that CPU3 is about to power off for. -/
def Worker.stopRequest? : Worker → Option Message
  | .replying _ _ (.cpuOff request) | .ringing _ _ (.cpuOff request) => some request
  | .stopping request | .quiescing request | .acknowledging request _ | .poweringOff request =>
      some request
  | _ => none

/-- The request sequence of a STOP_REFUSED that is about to be pushed on p0. -/
def Worker.refusal? : Worker → Option U32
  | .replying visit reply _ =>
      if visit.priority = .critical ∧ reply.type = MessageType.stopRefused then
        some (payloadU32 reply.bytes 0)
      else none
  | _ => none

/-- Every STOP_REQUEST and every STOP_REFUSED on p0, in a ring or in the worker's hands, while CPU3
runs. -/
structure Answering (driver : Driver) (shared : Shared) (worker : Worker) : Prop where
  forward : (shared.linuxToCpu3 .critical).WellFormed
  reverse : (shared.cpu3ToLinux .critical).WellFormed
  queued : ∀ message ∈ (shared.linuxToCpu3 .critical).contents,
    message.type = MessageType.stopRequest → driver.Awaits message
  taken : ∀ request, worker.stopRequest? = some request →
    request.type = MessageType.stopRequest ∧ request.length = 0#32 ∧ driver.Awaits request
  refusals : driver.mailmsgState = .stopping →
    ∀ message ∈ (shared.cpu3ToLinux .critical).contents, message.type = MessageType.stopRefused →
      payloadU32 message.payloadAt 0 ≠ driver.stopRequestSequence
  refusal : driver.mailmsgState = .stopping →
    ∀ sequence, worker.refusal? = some sequence → sequence ≠ driver.stopRequestSequence

/-- What holds in every state of a run that meets the condition. -/
structure StopInvariant (amp : Amp) : Prop where
  control : amp.firmware.build.stopControl = true
  plain : amp.firmware.build.selfOffValue = none
  linux : amp.system.driver.endpoint.BoundBy .linux
  held : amp.system.lock = .control → amp.system.driver.mailmsgState.pendingReply = true
  cpu3 : amp.firmware.endpoint.BoundBy .cpu3
  pending : amp.power = .pending → Silent amp.system.driver amp.system.hardware.shared
  on : amp.power = .on →
    Answering amp.system.driver amp.system.hardware.shared amp.firmware.worker
  gone : amp.power ≠ .on → amp.firmware.worker.stopRequest? = none

/-! ### The condition -/

/-- A STOP_REQUEST on p0 or its refusal, not yet consumed, that carries this sequence. -/
def Amp.names (amp : Amp) (sequence : U32) : Bool :=
  (amp.system.hardware.shared.linuxToCpu3 .critical).contents.any (fun message =>
      message.type == MessageType.stopRequest && message.sequence == sequence) ||
    amp.firmware.worker.refusal? == some sequence ||
    (amp.system.hardware.shared.cpu3ToLinux .critical).contents.any (fun message =>
      message.type == MessageType.stopRefused && payloadU32 message.payloadAt 0 == sequence)

/-- A write to an open p0 file that `r1_amp_mailmsg_user_write` passes on as an empty
STOP_REQUEST. -/
def System.writesStop (system : System) (file : UserFile) (count : Nat) (copied : Bool)
    (frame : UserFrame) : Bool :=
  file.priority == .critical && count == userFrameBytes && copied && frame.priority == 0#32 &&
    frame.type == MessageType.stopRequest && frame.length == 0#32 &&
    system.driver.mailmsgState == .active

/-- No process writes an empty STOP_REQUEST on p0 in ACTIVE, and no stop draws a sequence that a
STOP_REQUEST on p0 or its refusal still carries. -/
def stopAdmissible (amp : Amp) : AmpLabel → Bool
  | .linux (.write id count copied frame) =>
      match amp.system.file? id with
      | none => true
      | some file => !amp.system.writesStop file count copied frame
  | .linux (.stop _ _) => !amp.names (endpointNextSequence amp.system.driver.endpoint)
  | _ => true

/-! ### Steps of Linux

Requests are measured by two facts, the state and the sequence of the stop.  Only `mailmsg_stop` and
`write` push a STOP_REQUEST, and the condition speaks of both; every other step keeps the two facts
or leaves a state in which none is measured by them.
-/

section Linux

variable {system next : System} {label : DriverLabel} {worker : Worker}

/-- What a step other than a stop does to the two facts that a STOP_REQUEST is measured by. -/
structure KeepsStop (before after : Driver) : Prop where
  awaits : ∀ request, before.Awaits request → after.Awaits request
  stopping : after.mailmsgState = .stopping →
    before.mailmsgState = .stopping ∧ after.stopRequestSequence = before.stopRequestSequence

theorem KeepsStop.of_same {before after : Driver} (state : after.mailmsgState = before.mailmsgState)
    (sequence : after.stopRequestSequence = before.stopRequestSequence) :
    KeepsStop before after where
  awaits := by
    intro request awaits
    constructor
    · rw [state, sequence]
      exact awaits.own
    · rw [state, sequence]
      exact awaits.foreign
  stopping := by
    intro stopping
    exact ⟨state ▸ stopping, sequence⟩

/-- Leaving a state in which no empty request is expected. -/
theorem KeepsStop.of_not_stopped {before after : Driver}
    (notStopped : before.mailmsgState.stopped = false)
    (notStopping : after.mailmsgState ≠ .stopping) : KeepsStop before after where
  awaits := by
    intro request awaits
    constructor
    · intro empty
      have stopped := (awaits.own empty).1
      rw [notStopped] at stopped
      cases stopped
    · intro _ stopping
      exact absurd stopping notStopping
  stopping := fun stopping => absurd stopping notStopping

/-- While CPU3 runs, only its refusal of the very request could bring STOPPING back to ACTIVE. -/
theorem Answering.keepsStop (answering : Answering system.driver system.hardware.shared worker)
    (step : LifecycleStep system label next)
    (notStop : ∀ accepted count, label ≠ .stop accepted count)
    (running : label.affinityAnswer ≠ some affinityOff) : KeepsStop system.driver next.driver := by
  cases step with
  | quiet session state seen => exact .of_same state session.stopRequestSequence
  | offline session answer poweredOn seenOn watched state stillSeen => exact absurd answer running
  | startTimeout session expired starting state seen =>
      apply KeepsStop.of_not_stopped
      · rw [starting]
        rfl
      · simp [state]
  | stopTimeout session expired stopping state seen =>
      constructor
      · intro request awaits
        constructor
        · intro empty
          rw [state, session.stopRequestSequence]
          exact ⟨rfl, (awaits.own empty).2⟩
        · intro _ still
          simp [state] at still
      · intro still
        simp [state] at still
  | ready response ready =>
      apply KeepsStop.of_not_stopped
      · rw [ready.starting]
        rfl
      · simp [ready.active]
  | refused response refused =>
      obtain ⟨ring, popped⟩ := refused.frame.popped
      have member := answering.reverse.popped_mem (congrArg (fun result => result.2.2) popped)
      have named := refused.accepted
      simp only [stopReplyAccepted, Bool.and_eq_true, beq_iff_eq] at named
      exact absurd named.2 (answering.refusals refused.stopping response member refused.refused)
  | stop issued =>
      obtain ⟨count, same⟩ := issued.label
      exact absurd same (notStop true count)
  | launched cpuOn launched =>
      obtain ⟨count, same⟩ := launched.label
      exact absurd (congrArg DriverLabel.affinityAnswer same) running
  | rearmed rearmed =>
      obtain ⟨count, same, -⟩ := rearmed.label
      exact absurd (congrArg DriverLabel.affinityAnswer same) running

/-- Linux adds only requests that it knows of to the forward ring, and only removes from the reverse
one. -/
theorem Answering.transfer {driver after : Driver} {shared region : Shared}
    (answering : Answering driver shared worker) (keeps : KeepsStop driver after)
    (forward : (region.linuxToCpu3 .critical).WellFormed)
    (reverse : (region.cpu3ToLinux .critical).WellFormed)
    (queued : ∀ message ∈ (region.linuxToCpu3 .critical).contents,
      message ∈ (shared.linuxToCpu3 .critical).contents ∨
        (message.type = MessageType.stopRequest → after.Awaits message))
    (removed : ∀ message ∈ (region.cpu3ToLinux .critical).contents,
      message ∈ (shared.cpu3ToLinux .critical).contents) : Answering after region worker where
  forward := forward
  reverse := reverse
  queued := by
    intro message member isStop
    rcases queued message member with old | new
    · exact keeps.awaits message (answering.queued message old isStop)
    · exact new isStop
  taken := by
    intro request held
    obtain ⟨isStop, empty, awaits⟩ := answering.taken request held
    exact ⟨isStop, empty, keeps.awaits request awaits⟩
  refusals := by
    intro stopping message member isRefusal
    obtain ⟨before, sequence⟩ := keeps.stopping stopping
    rw [sequence]
    exact answering.refusals before message (removed message member) isRefusal
  refusal := by
    intro stopping sequence held
    obtain ⟨before, same⟩ := keeps.stopping stopping
    rw [same]
    exact answering.refusal before sequence held

/-- A frame pushed on a forward ring, seen from p0. -/
theorem Answering.pushed (answering : Answering system.driver system.hardware.shared worker)
    (keeps : KeepsStop system.driver next.driver) {priority : Priority} {type length : U32}
    (effect : SendEffect system next priority type length)
    (known : ∀ message : Message, priority = .critical → message.type = type →
      message.length = length → message.type = MessageType.stopRequest →
        next.driver.Awaits message) :
    Answering next.driver next.hardware.shared worker := by
  obtain ⟨forward, members⟩ := effect.forward answering.forward
  refine answering.transfer keeps forward ?_ ?_ ?_
  · rw [effect.reverse]
    exact answering.reverse
  · intro message member
    rcases members message member with old | ⟨critical, typed, sized, -⟩
    · exact .inl old
    · exact .inr (known message critical.symm typed sized)
  · rw [effect.reverse]
    exact fun _ => id

/-- A receive on a reverse ring, seen from p0. -/
theorem Answering.received (answering : Answering system.driver system.hardware.shared worker)
    (keeps : KeepsStop system.driver next.driver) {priority : Priority}
    (effect : ReceiveEffect system next priority) :
    Answering next.driver next.hardware.shared worker := by
  obtain ⟨reverse, members⟩ := effect.reverse answering.reverse
  refine answering.transfer keeps ?_ reverse ?_ members
  · rw [effect.forward]
    exact answering.forward
  · rw [effect.forward]
    exact fun _ => .inl

/-- A stop from ACTIVE: nothing empty is on its way, and the condition keeps the new number apart
from what is. -/
theorem Answering.stop (answering : Answering system.driver system.hardware.shared worker)
    (bound : system.driver.endpoint.BoundBy .linux) (active : system.driver.mailmsgState = .active)
    (unnamed : ∀ message ∈ (system.hardware.shared.linuxToCpu3 .critical).contents,
      message.type = MessageType.stopRequest →
        message.sequence ≠ endpointNextSequence system.driver.endpoint)
    (unrefused : ∀ message ∈ (system.hardware.shared.cpu3ToLinux .critical).contents,
      message.type = MessageType.stopRefused →
        payloadU32 message.payloadAt 0 ≠ endpointNextSequence system.driver.endpoint)
    (unanswered : ∀ sequence, worker.refusal? = some sequence →
      sequence ≠ endpointNextSequence system.driver.endpoint) :
    Answering (requestStop system).2.driver (requestStop system).2.hardware.shared worker := by
  have requested := requestStop_spec system bound
  have sent := (linuxSend_effect system.stopping .critical MessageType.stopRequest none 0 bound).effect
  have longer : ∀ message, system.driver.Awaits message → message.length ≠ 0#32 := by
    intro message awaits empty
    have stopped := (awaits.own empty).1
    rw [active] at stopped
    cases stopped
  have unheld : ∀ request, worker.stopRequest? ≠ some request := by
    intro request held
    obtain ⟨-, empty, awaits⟩ := answering.taken request held
    exact longer request awaits empty
  generalize (requestStop system).2 = after at *
  rcases requested.state with ⟨stopping, accepted, sequence⟩ | ⟨stillActive, -, same⟩
  · rw [congrArg Hardware.shared requested.hardware]
    obtain ⟨forward, members⟩ := sent.forward answering.forward
    refine ⟨forward, ?_, ?_, fun request held => absurd held (unheld request), ?_, ?_⟩
    · rw [sent.reverse]
      exact answering.reverse
    · intro message member isStop
      rcases members message member with old | ⟨-, -, sized, numbered⟩
      · constructor
        · intro empty
          exact absurd empty (longer message (answering.queued message old isStop))
        · intro _ _
          rw [sequence]
          exact unnamed message old isStop
      · -- The request of this stop.
        constructor
        · intro _
          rw [stopping, sequence]
          exact ⟨rfl, numbered⟩
        · intro nonempty
          exact absurd sized nonempty
    · rw [sent.reverse, sequence]
      exact fun _ => unrefused
    · rw [sequence]
      exact fun _ => unanswered
  · rw [same]
    refine ⟨answering.forward, answering.reverse, ?_, fun request held =>
      absurd held (unheld request), ?_, ?_⟩
    · intro message member isStop
      constructor
      · intro empty
        exact absurd empty (longer message (answering.queued message member isStop))
      · intro _ stopping
        simp [stillActive] at stopping
    · intro stopping
      simp [stillActive] at stopping
    · intro stopping
      simp [stillActive] at stopping

/-- The text and the preflight decide whether a stop does anything. -/
theorem stopStore_cases (system : System) (accepted : Bool) (count : Nat) :
    (stopStore system accepted count).2 = system ∨
      (system.driver.mailmsgState = .active ∧
        (stopStore system accepted count).2 = (requestStop system).2) := by
  simp only [stopStore]
  split
  · exact .inl rfl
  · split
    · exact .inl rfl
    · split
      · exact .inl rfl
      · rename_i active
        split
        · exact .inl rfl
        · exact .inr ⟨not_not.mp active, rfl⟩

/-- A step of Linux while CPU3 runs. -/
theorem Answering.linux {amp : Amp}
    (answering : Answering amp.system.driver amp.system.hardware.shared
      amp.firmware.worker)
    (bound : amp.system.driver.endpoint.BoundBy .linux) (notPeer : label.isPeer = false)
    (running : label.affinityAnswer ≠ some affinityOff)
    (admissible : stopAdmissible amp (.linux label))
    (taken : driverStep amp.system label = some next)
    (lifecycle : LifecycleStep amp.system label next) :
    Answering next.driver next.hardware.shared amp.firmware.worker := by
  by_cases still : next = amp.system
  · rw [still]
    exact answering
  have complete : ∀ id count copied frame file, label = .write id count copied frame →
      amp.system.file? id = some file → count = userFrameBytes ∧ copied = true ∧
        frame.priority = BitVec.ofNat 32 file.priority.val := by
    intro id count copied frame file isWrite found
    by_contra refused
    apply still
    subst isWrite
    cases driverStep_kind taken with
    | locked free taken =>
        simp only [lockedStep, found, Option.map_some] at taken
        rw [← Option.some.inj taken, userWrite_refused refused]
  by_cases isStop : ∃ accepted count, label = .stop accepted count
  · obtain ⟨accepted, count, rfl⟩ := isStop
    have executed : (stopStore amp.system accepted count).2 = next := by
      cases driverStep_kind taken with
      | locked free taken => exact Option.some.inj taken
    rcases stopStore_cases amp.system accepted count with same | ⟨active, requested⟩
    · rw [← executed, same]
      exact answering
    · rw [← executed, requested]
      simp only [stopAdmissible, Amp.names, Bool.not_eq_true', Bool.or_eq_false_iff,
        List.any_eq_false, Bool.and_eq_true, beq_iff_eq, not_and] at admissible
      obtain ⟨⟨unnamed, unanswered⟩, unrefused⟩ := admissible
      apply answering.stop bound active unnamed unrefused
      intro sequence held same
      rw [held, same] at unanswered
      simp at unanswered
  · have notStop : ∀ accepted count, label ≠ .stop accepted count := by
      intro accepted count same
      exact isStop ⟨accepted, count, same⟩
    have keeps := answering.keepsStop lifecycle notStop running
    cases driverStep_region bound taken with
    | same shared peerWrites =>
        rw [shared]
        exact answering.transfer keeps answering.forward answering.reverse
          (fun _ => .inl) fun _ => id
    | peer write isPeer hardware peerWrites =>
        rw [isPeer] at notPeer
        cases notPeer
    | sent sender active effect peerWrites =>
        apply answering.pushed keeps effect
        intro message critical typed sized stopType
        constructor
        · intro empty
          cases sender with
          | user found =>
              simp only [stopAdmissible, found] at admissible
              simp [System.writesStop, complete _ _ _ _ _ rfl found, critical, ← typed,
                stopType, ← sized, empty, active] at admissible
          | ping =>
              rw [stopType] at typed
              exact absurd typed (by decide)
          | queuePush =>
              rw [stopType] at typed
              exact absurd typed (by decide)
          | stop => exact absurd rfl (notStop _ _)
        · intro _ stopping
          have before := (keeps.stopping stopping).1
          rw [active] at before
          cases before
    | received receiver effect peerWrites => exact answering.received keeps effect
    | initialised cpuOn launched =>
        obtain ⟨count, same⟩ := launched.label
        exact absurd (congrArg DriverLabel.affinityAnswer same) running

end Linux

/-! ### Steps of CPU3 -/

section Cpu3

variable {driver : Driver} {board after : Board}

/-- The answer to an ordinary request is no refusal. -/
theorem pongReply_not_refusal (request : Message) :
    (pongReply request).type ≠ MessageType.stopRefused := by
  simp only [pongReply]
  split <;> decide

/-- What the worker holds after a good frame: the request itself, or the refusal of a longer one. -/
theorem answer_holds {build : Build} (control : build.stopControl = true)
    (plain : build.selfOffValue = none) (visit : Visit) (message : Message) :
    (∀ request, (answer build visit message).stopRequest? = some request →
        request = message ∧ visit.priority = .critical ∧ message.type = MessageType.stopRequest ∧
          message.length = 0#32) ∧
      ∀ sequence, (answer build visit message).refusal? = some sequence →
        sequence = message.sequence ∧ visit.priority = .critical ∧
          message.type = MessageType.stopRequest ∧ message.length ≠ 0#32 := by
  have notSelf : build.selfOff visit.priority message = false := by
    simp [Build.selfOff, plain]
  unfold answer
  split
  · rename_i isStop
    split
    · rename_i longer
      refine ⟨fun _ held => by simp [Worker.stopRequest?] at held, ?_⟩
      intro sequence held
      simp only [Worker.refusal?, isStop.1, feedbackReply, true_and, if_true] at held
      refine ⟨?_, isStop.1, isStop.2, longer⟩
      rw [← Option.some.inj held]
      exact feedbackReply_sequence _ _ _
    · rename_i empty
      refine ⟨?_, fun _ held => by
        simp [Worker.refusal?, feedbackReply, MessageType.stopReady,
          MessageType.stopRefused] at held⟩
      intro request held
      exact ⟨(Option.some.inj held).symm, isStop.1, isStop.2, not_not.mp empty⟩
  · rw [notSelf, if_neg Bool.false_ne_true]
    split
    · refine ⟨fun _ held => by simp [Worker.stopRequest?] at held, fun _ held => ?_⟩
      simp [Worker.refusal?, feedbackReply, MessageType.ack, MessageType.stopRefused] at held
    · refine ⟨fun _ held => by simp [Worker.stopRequest?] at held, fun _ held => ?_⟩
      simp [Worker.refusal?, pongReply_not_refusal] at held

/-- A rejected frame leaves neither. -/
theorem reject_holds (visit : Visit) (message : Message) (reason : U32) :
    (reject visit message reason).stopRequest? = none ∧
      (reject visit message reason).refusal? = none := by
  unfold reject
  split
  · simp [Worker.stopRequest?, Worker.refusal?, feedbackReply, MessageType.nack,
      MessageType.stopRefused]
  · exact ⟨rfl, rfl⟩

/-- Going on after a reply adds nothing. -/
theorem resume_holds (visit : Visit) (accepted : Bool) (next : Continuation) :
    (∀ request, (next.resume visit accepted).stopRequest? = some request → next = .cpuOff request) ∧
      (next.resume visit accepted).refusal? = none := by
  cases next with
  | drain => exact ⟨fun _ held => by simp [Continuation.resume, Worker.stopRequest?] at held, rfl⟩
  | leave => exact ⟨fun _ held => by simp [Continuation.resume, Worker.stopRequest?] at held, rfl⟩
  | pong message =>
      refine ⟨fun _ held => by simp [Continuation.resume, Worker.stopRequest?] at held, ?_⟩
      simp [Continuation.resume, Worker.refusal?, pongReply_not_refusal]
  | cpuOff message =>
      cases accepted with
      | true =>
          refine ⟨fun request held => ?_, rfl⟩
          rw [Option.some.inj held]
      | false => exact ⟨fun _ held => by simp [Continuation.resume, Worker.stopRequest?] at held, rfl⟩

/-- The worker moves on with what it holds, or with less. -/
theorem Answering.rework {shared : Shared} {worker moved : Worker}
    (answering : Answering driver shared worker)
    (taken : ∀ request, moved.stopRequest? = some request → worker.stopRequest? = some request)
    (refusal : moved.refusal? = none) : Answering driver shared moved where
  forward := answering.forward
  reverse := answering.reverse
  queued := answering.queued
  taken := fun request held => answering.taken request (taken request held)
  refusals := answering.refusals
  refusal := by
    intro _ sequence held
    rw [refusal] at held
    cases held

/-- A pop from a forward ring, seen from p0. -/
theorem Answering.popped (answering : Answering driver board.hardware.shared board.firmware.worker)
    (priority : Priority) (endpoint : Endpoint) :
    Answering driver (board.popped priority endpoint).hardware.shared board.firmware.worker := by
  have ring : ((board.popped priority endpoint).hardware.shared.linuxToCpu3 .critical).WellFormed ∧
      ∀ message ∈ ((board.popped priority endpoint).hardware.shared.linuxToCpu3 .critical).contents,
        message ∈ (board.hardware.shared.linuxToCpu3 .critical).contents := by
    by_cases critical : Priority.critical = priority
    · subst critical
      simp only [Board.popped, Shared.setRing, Function.update_self]
      exact ⟨answering.forward.pop, fun _ => answering.forward.mem_pop⟩
    · simp only [Board.popped, Shared.setRing, Function.update_of_ne critical]
      exact ⟨answering.forward, fun _ => id⟩
  refine ⟨ring.1, answering.reverse, ?_, answering.taken, answering.refusals, answering.refusal⟩
  intro message member
  exact answering.queued message (ring.2 message member)

/-- A push into a reverse ring, seen from p0. -/
theorem Answering.published {shared : Shared} {worker : Worker}
    (answering : Answering driver shared worker) {priority : Priority} (slot : Message)
    (space : ringNext (shared.cpu3ToLinux priority).producer ≠ (shared.cpu3ToLinux priority).consumer)
    (known : priority = .critical → slot.type = MessageType.stopRefused →
      driver.mailmsgState = .stopping → payloadU32 slot.payloadAt 0 ≠ driver.stopRequestSequence) :
    Answering driver
      (shared.setRing .cpu3 priority ((shared.cpu3ToLinux priority).publish slot)) worker := by
  by_cases critical : Priority.critical = priority
  · subst critical
    refine ⟨answering.forward, ?_, answering.queued, answering.taken, ?_, answering.refusal⟩
    · simpa [Shared.setRing] using answering.reverse.publish slot
    · intro stopping message member isRefusal
      simp only [Shared.setRing, Function.update_self] at member
      rcases answering.reverse.mem_publish space member with old | rfl
      · exact answering.refusals stopping message old isRefusal
      · exact known rfl isRefusal stopping
  · have same : (shared.setRing .cpu3 priority ((shared.cpu3ToLinux priority).publish slot)).cpu3ToLinux
        .critical = shared.cpu3ToLinux .critical := by
      simp [Shared.setRing, Function.update_of_ne critical]
    refine ⟨answering.forward, ?_, answering.queued, answering.taken, ?_, answering.refusal⟩
    · rw [same]
      exact answering.reverse
    · rw [same]
      exact answering.refusals

/-- One iteration of the drain loop. -/
theorem Answering.drained (answering : Answering driver board.hardware.shared board.firmware.worker)
    (control : board.firmware.build.stopControl = true)
    (plain : board.firmware.build.selfOffValue = none)
    (bound : board.firmware.endpoint.BoundBy .cpu3) (visit : Visit) :
    Answering driver (drain board visit).hardware.shared (drain board visit).firmware.worker := by
  cases drain_spec board visit bound with
  | untouched moved =>
      rw [moved]
      exact answering.rework (fun _ held => by cases held) rfl
  | idle endpoint binding moved =>
      rw [moved]
      exact (answering.popped visit.priority endpoint).rework (fun _ held => by cases held) rfl
  | rejected endpoint binding request reason moved =>
      rw [moved]
      obtain ⟨noRequest, noRefusal⟩ := reject_holds visit.next request reason
      refine (answering.popped visit.priority endpoint).rework ?_ noRefusal
      intro other held
      exact absurd held (by simp [Board.work, noRequest])
  | served endpoint binding request head moved =>
      rw [moved]
      have rest := answering.popped visit.priority endpoint
      obtain ⟨requests, refusals⟩ := answer_holds control plain visit.next request
      have member : visit.next.priority = .critical →
          request ∈ (board.hardware.shared.linuxToCpu3 .critical).contents := by
        intro critical
        rw [show visit.priority = .critical from critical] at head
        exact answering.forward.popped_mem head
      refine ⟨rest.forward, rest.reverse, rest.queued, ?_, rest.refusals, ?_⟩
      · intro other held
        obtain ⟨rfl, critical, isStop, empty⟩ := requests other held
        exact ⟨isStop, empty, answering.queued other (member critical) isStop⟩
      · intro stopping sequence held
        obtain ⟨rfl, critical, isStop, longer⟩ := refusals sequence held
        exact (answering.queued request (member critical) isStop).foreign longer stopping

/-- The push of a reply. -/
theorem Answering.replied (answering : Answering driver board.hardware.shared board.firmware.worker)
    (bound : board.firmware.endpoint.BoundBy .cpu3) {visit : Visit} {reply : Reply}
    {next : Continuation} (position : board.firmware.worker = .replying visit reply next) :
    Answering driver (sendReply board visit reply next).hardware.shared
      (sendReply board visit reply next).firmware.worker := by
  have held : ∀ request, next = .cpuOff request →
      board.firmware.worker.stopRequest? = some request := by
    intro request same
    rw [position, same]
    rfl
  obtain ⟨requests, noRefusal⟩ := resume_holds visit false next
  cases sendReply_spec board visit reply next bound with
  | refused noted frame hardware cause moved =>
      rw [moved]
      simp only [Board.work, hardware]
      exact answering.rework (fun request held' => held request (requests request held')) noRefusal
  | queued pushed result frame space valid published moved =>
      rw [moved]
      simp only [Board.work, published]
      refine (answering.published _ space ?_).rework ?_ rfl
      · intro critical isRefusal stopping
        rw [Board.frameOf_payloadAt]
        apply answering.refusal stopping
        rw [position]
        simp only [Worker.refusal?]
        exact if_pos ⟨critical, isRefusal⟩
      · intro request taken
        cases next with
        | cpuOff message => exact held request (by rw [Option.some.inj taken])
        | drain | leave | pong => cases taken

/-- One step of the worker. -/
theorem Answering.worked (answering : Answering driver board.hardware.shared board.firmware.worker)
    (control : board.firmware.build.stopControl = true)
    (plain : board.firmware.build.selfOffValue = none)
    (bound : board.firmware.endpoint.BoundBy .cpu3) (stepped : workerStep board = some after) :
    Answering driver after.hardware.shared after.firmware.worker := by
  cases workerStep_turn stepped with
  | @drained visit position => exact answering.drained control plain bound visit
  | replied position => exact answering.replied bound position
  | @rung visit result next position =>
      obtain ⟨rung, frame, moved⟩ := ringReply_spec board visit result next
      obtain ⟨requests, noRefusal⟩ := resume_holds visit true next
      rw [moved]
      simp only [Board.work, frame.shared]
      refine answering.rework ?_ noRefusal
      intro request held
      rw [position, requests request held]
      rfl
  | muted position | observed position | acknowledged position =>
      exact answering.rework (fun _ held => by rw [position]; exact held) rfl
  | woke | swapped | spurious | admitted | dismissed | skipped | visited | finished | checked
  | rescheduled | returned | posted => exact answering.rework (fun _ held => by cases held) rfl

/-- One step of the main thread: SESSION_READY is no refusal. -/
theorem Answering.advanced (answering : Answering driver board.hardware.shared board.firmware.worker)
    (bound : board.firmware.endpoint.BoundBy .cpu3) :
    Answering driver (mainStep board).hardware.shared (mainStep board).firmware.worker := by
  cases mainStep_spec board bound with
  | bind start moved | flags irqEnabled committed published main moved =>
      rw [moved]
      exact answering
  | refused noted frame hardware moved =>
      rw [moved, hardware, frame.firmware]
      exact answering
  | announced start uncommitted unpublished pushed result frame space valid published moved =>
      rw [moved]
      simp only [Board.proceed, published]
      rw [frame.firmware]
      apply answering.published _ space
      intro _ isRefusal
      have typed : MessageType.sessionReady = MessageType.stopRefused := isRefusal
      exact absurd typed (by decide)
  | rung rung frame main moved =>
      rw [moved]
      simp only [Board.proceed, frame.shared]
      rw [frame.firmware]
      exact answering

/-- One step of CPU3. -/
theorem Answering.cpu3 (answering : Answering driver board.hardware.shared board.firmware.worker)
    (control : board.firmware.build.stopControl = true)
    (plain : board.firmware.build.selfOffValue = none)
    (bound : board.firmware.endpoint.BoundBy .cpu3) {label : FirmwareLabel}
    (stepped : firmwareStep board label = some after) :
    Answering driver after.hardware.shared after.firmware.worker := by
  cases firmwareStep_activity stepped with
  | handler shared firmware =>
      rw [shared, firmware]
      exact answering
  | worker turn stepped => exact answering.worked control plain bound stepped
  | cpuOff request position returned moved =>
      rw [moved]
      refine answering.rework ?_ ?_
      · cases returned <;> exact fun _ held => by cases held
      · cases returned <;> rfl
  | main turn moved =>
      rw [moved]
      exact answering.advanced bound

end Cpu3

/-! ### The invariant -/

namespace StopInvariant

variable {amp next : Amp}

theorem initial {build : Build} (control : build.stopControl = true)
    (plain : build.selfOffValue = none)
    (start : (ampMachine build).init amp) : StopInvariant amp := by
  obtain ⟨config, image, hardware, jiffies, rfl⟩ := start
  refine ⟨control, plain, ?_, ?_, ?_, ?_, ?_, fun _ => rfl⟩
  · intro party bound
    cases bound
  · intro held
    cases held
  · intro party bound
    cases bound
  · intro pending
    cases pending
  · intro running
    cases running

/-- One step of Linux. -/
theorem linux_step (invariant : StopInvariant amp) {label : DriverLabel}
    (admissible : stopAdmissible amp (.linux label))
    (taken : ampStep amp (.linux label) = some next) : StopInvariant next := by
  obtain ⟨notPeer, answers, system, stepped, rfl⟩ := ampStep_linux taken
  have lifecycle := driverStep_lifecycle invariant.linux invariant.held stepped
  have region := driverStep_region invariant.linux stepped
  have lock := driverStep_lock invariant.linux stepped
  refine ⟨invariant.control, invariant.plain, lifecycle.boundBy invariant.linux,
    lock.control_pending invariant.held, invariant.cpu3, ?_, ?_, ?_⟩
  · intro pending
    by_cases powered : amp.system.poweredOn system
    · exact .launched (poweredOn_launched lifecycle powered)
    · simp only [powered, Bool.false_eq_true, if_false] at pending
      exact (invariant.pending pending).linux notPeer lifecycle region
  · intro running
    by_cases powered : amp.system.poweredOn system
    · simp [powered] at running
    · simp only [powered, Bool.false_eq_true, if_false] at running
      simp only [running, Power.answers, Bool.and_eq_true, decide_eq_true_eq] at answers
      exact (invariant.on running).linux invariant.linux notPeer answers.2 admissible
        stepped lifecycle
  · intro notOn
    apply invariant.gone
    intro running
    have unpowered : amp.system.poweredOn system = false := by
      by_contra powered
      have launched := poweredOn_launched lifecycle (Bool.not_eq_false _ ▸ powered)
      obtain ⟨count, rfl⟩ := launched.label
      simp [running, Power.answers, DriverLabel.cpuOnAnswer] at answers
    simp [unpowered, running] at notOn

/-- One step of CPU3. -/
theorem cpu3_step (invariant : StopInvariant amp) {label : FirmwareLabel}
    (taken : ampStep amp (.cpu3 label) = some next) : StopInvariant next := by
  obtain ⟨running, board, stepped, rfl⟩ := ampStep_cpu3 taken
  have image := firmwareStep_sameImage invariant.cpu3 stepped
  have answering : Answering amp.system.driver amp.board.hardware.shared amp.board.firmware.worker :=
    invariant.on running
  refine ⟨?_, ?_, invariant.linux, invariant.held, image.side invariant.cpu3, ?_, ?_, ?_⟩
  · rw [image.build]
    exact invariant.control
  · rw [image.build]
    exact invariant.plain
  · intro pending
    simp only at pending
    split at pending <;> cases pending
  · intro _
    exact answering.cpu3 invariant.control invariant.plain invariant.cpu3 stepped
  · intro notOn
    cases position : board.firmware.worker with
    | off => rfl
    | _ => simp [position, Worker.isOff] at notOn

theorem step (invariant : StopInvariant amp) {label : AmpLabel}
    (admissible : stopAdmissible amp label)
    (taken : ampStep amp label = some next) : StopInvariant next := by
  cases label with
  | linux label => exact invariant.linux_step admissible taken
  | cpu3 label => exact invariant.cpu3_step taken
  | boot =>
      simp only [ampStep] at taken
      split at taken
      · rename_i pending
        cases taken
        have silent := invariant.pending pending
        refine ⟨invariant.control, invariant.plain, invariant.linux, invariant.held, ?_, ?_, ?_,
          fun _ => rfl⟩
        · intro party bound
          cases bound
        · intro still
          cases still
        · intro _
          refine ⟨silent.forward.wellFormed, silent.reverse.wellFormed, ?_, ?_, ?_, ?_⟩
          · rw [silent.forward.contents]
            simp
          · intro request held
            cases held
          · rw [silent.reverse.contents]
            simp
          · intro _ sequence held
            cases held
      · cases taken

end StopInvariant

/-! ### CPU_OFF inside a stop -/

/-- The board under the condition. -/
def stopMachine (build : Build) : Machine Amp AmpLabel :=
  (ampMachine build).restrict fun amp label => stopAdmissible amp label = true

theorem StopInvariant.reachable {build : Build} (control : build.stopControl = true)
    (plain : build.selfOffValue = none) {amp : Amp} (reached : (stopMachine build).Reachable amp) :
    StopInvariant amp := by
  induction reached with
  | init start => exact .initial control plain start
  | step _ taken inductionHypothesis =>
      obtain ⟨admissible, stepped⟩ := Machine.restrict_step_iff.mp taken
      exact inductionHypothesis.step admissible stepped

end MailMsg
