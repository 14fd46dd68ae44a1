/-
Module: MailMsg.Amp.Agent
Purpose: The command line tool that asks CPU3 to increment a number: whose answers it accepts when
  earlier runs gave up before they had read theirs.
Source: LZAMP/agent/mailmsg_agent.py (pack_frame, unpack_frame, execute_zephyr_increment)
Trusted boundary: a system call of the tool is one step of the driver; its deadline may pass at any
  time
Main exports: Agent, AgentLabel, agentStep, agentMachine, Agent.repeats, AgentOutcome.Own,
  accepted_answers_own
-/
import MailMsg.Amp.Window

namespace MailMsg

/-! ### Frames of the tool -/

/-- The errors that end a run.  An errno of `os.read` other than EAGAIN is not caught and ends it as
an OSError. -/
inductive AgentError where
  | mailmsgOpenFailed (errno : Int)
  | queueFull
  | mailmsgWriteFailed (errno : Int)
  | shortWrite (actual : Int)
  | timeout (ackReceived pongReceived : Bool)
  | mailmsgOffline
  | wrongPriority (priority : U32)
  | invalidFrame
  | invalidAck
  | ackFailed (status : U32)
  | nack (reason : Option U32)
  | unexpectedResult (expected : Nat) (actual : U32)
  | unexpectedFrame (type : U32)
  | osError (errno : Int)
deriving DecidableEq

/-- `MAILMSG_PRIORITY_CONTROL`. -/
abbrev agentPriority : Priority := 1

/-- `MAILMSG_PAYLOAD_LIMIT`. -/
abbrev agentPayloadLimit : Nat := 28

/-- `pack_frame`. -/
def packFrame (priority : Priority) (type value : U32) : UserFrame where
  priority := BitVec.ofNat 32 priority.val
  type := type
  sequence := 0
  length := 4
  payload := fun index => storePayloadU32 (fun _ => 0) 0 value index.val

/-- The checks of `unpack_frame` on a complete record. -/
def unpackFrame (record : UserFrame) : Except AgentError UserFrame :=
  if record.priority ≠ BitVec.ofNat 32 agentPriority.val
    then .error (.wrongPriority record.priority)
  else if agentPayloadLimit < record.length.toNat then .error .invalidFrame
  else .ok record

/-- `_read_u32` of the payload of a record, which ends at its length. -/
def readU32 (frame : UserFrame) (offset : Nat) : Except AgentError U32 :=
  if frame.length.toNat < offset + 4 then .error .invalidFrame
  else .ok (payloadU32 frame.payloadAt offset)

/-- The ACK that a run noted, with its position among the frames read on the priority. -/
structure AckSeen where
  frame : Nat
  sequence : U32
  peerSequence : U32
deriving DecidableEq

/-- The PONG that a run noted, with its position among the frames read on the priority. -/
structure PongSeen where
  frame : Nat
  sequence : U32
  value : U32
deriving DecidableEq

/-- A run whose request is written.  `own` is the number of that request among the requests written
on the priority. -/
structure AgentRun where
  file : Nat
  value : U32
  own : Nat
  ack : Option AckSeen
  pong : Option PongSeen
deriving DecidableEq

/-- What the loop of `execute_zephyr_increment` does with a record that it read. -/
def AgentRun.consume (run : AgentRun) (position : Nat) (record : UserFrame) :
    Except AgentError AgentRun := do
  let frame ← unpackFrame record
  if frame.type = MessageType.ack then
    if frame.length.toNat < 8 then .error .invalidAck
    else
      let status ← readU32 frame 4
      if status ≠ 0 then .error (.ackFailed status)
      else
        let peerSequence ← readU32 frame 0
        return { run with ack := some ⟨position, frame.sequence, peerSequence⟩ }
  else if frame.type = MessageType.nack then
    if 8 ≤ frame.length.toNat then
      let reason ← readU32 frame 4
      .error (.nack (some reason))
    else .error (.nack none)
  else if frame.type = MessageType.pong then
    let result ← readU32 frame 0
    if result.toNat ≠ run.value.toNat + 1 then
      .error (.unexpectedResult (run.value.toNat + 1) result)
    else return { run with pong := some ⟨position, frame.sequence, result⟩ }
  else .error (.unexpectedFrame frame.type)

/-! ### Runs of the tool -/

/-- What a run of the tool ends with. -/
inductive AgentOutcome where
  | ok (run : AgentRun) (ack : AckSeen) (pong : PongSeen)
  | failed (error : AgentError)
deriving DecidableEq

/-- Where the tool is.  `waiting` is the head of its loop, `polling` is inside `poll` after the
claim, and `readable` is before `os.read`. -/
inductive AgentPhase where
  | idle
  | opened (file : Nat) (value : U32)
  | waiting (run : AgentRun)
  | polling (run : AgentRun)
  | readable (run : AgentRun)
  | closing (file : Nat) (outcome : AgentOutcome)
deriving DecidableEq

/-- The traffic on the tool's priority with the origin of every reply: how many requests CPU3 has
consumed, and for each reply that it pushed the number of the request that it had consumed last. -/
structure Traffic where
  exchange : Exchange
  taken : Nat
  origins : List Nat

/-- A step of the board.  A request is consumed when the consumer index of the forward ring moves
and a reply is pushed when the producer index of the reverse ring moves. -/
def Traffic.advance (traffic : Traffic) (label : AmpLabel) : Option Traffic :=
  (traffic.exchange.advance agentPriority label).map fun next =>
    let before := traffic.exchange.amp.system.hardware.shared
    let after := next.amp.system.hardware.shared
    { exchange := next
      taken :=
        if (after.linuxToCpu3 agentPriority).consumer =
          (before.linuxToCpu3 agentPriority).consumer then
          traffic.taken
        else traffic.taken + 1
      origins :=
        if (after.cpu3ToLinux agentPriority).producer =
          (before.cpu3ToLinux agentPriority).producer then
          traffic.origins
        else traffic.origins ++ [traffic.taken - 1] }

/-- The tool, run again and again, on the board. -/
structure Agent where
  traffic : Traffic
  phase : AgentPhase
  finished : List AgentOutcome

def Agent.system (agent : Agent) : System := agent.traffic.exchange.amp.system

/-- The open file behind a descriptor of the tool, which is one of its device. -/
def Agent.file? (agent : Agent) (id : Nat) : Option UserFile :=
  (agent.system.file? id).filter fun file => file.priority == agentPriority

/-- One step of the tool, or one step of the board beside it. -/
inductive AgentLabel where
  /-- `os.open` of a run for a value. -/
  | openDevice (value : U32)
  | write
  /-- The claim that the driver's poll begins with. -/
  | claim
  | poll
  | read
  /-- The deadline has passed. -/
  | expire
  | close
  | board (label : AmpLabel)

/-- The worker has no reply on the priority in hand that would not fit. -/
def Exchange.fits (exchange : Exchange) (priority : Priority) : Bool :=
  match exchange.amp.firmware.worker with
  | .replying visit _ _ =>
      visit.priority != priority ||
        ringNext (exchange.amp.system.hardware.shared.cpu3ToLinux priority).producer !=
          (exchange.amp.system.hardware.shared.cpu3ToLinux priority).consumer
  | _ => true

/-- The steps beside the tool: Linux does not use its priority, and the worker does not drop a reply
on it, so that every consumed request is answered. -/
def Exchange.aside (exchange : Exchange) : AmpLabel → Bool
  | .linux label => !label.uses exchange.amp.system agentPriority
  | .cpu3 .worker => exchange.fits agentPriority
  | .cpu3 _ | .boot => true

/-- A step of the board that takes the tool to a phase and may end a run. -/
def Agent.take (agent : Agent) (label : AmpLabel) (phase : AgentPhase) (ended : List AgentOutcome) :
    Option Agent :=
  (agent.traffic.advance label).map fun next =>
    { traffic := next, phase := phase, finished := agent.finished ++ ended }

/-- The phase after `os.write` returned: the request has the next number. -/
def writePhase (file : Nat) (value : U32) (number : Nat) (result : Int) : AgentPhase :=
  if result = -Errno.nospc then .closing file (.failed .queueFull)
  else if result < 0 then .closing file (.failed (.mailmsgWriteFailed (-result)))
  else if result ≠ userFrameBytes then .closing file (.failed (.shortWrite result))
  else .waiting ⟨file, value, number, none, none⟩

/-- The phase after `poll` returned an event mask; without an event the loop goes on. -/
def pollPhase (run : AgentRun) : PollMask → AgentPhase
  | .none => .waiting run
  | .readable => .readable run
  | .error | .hangup => .closing run.file (.failed .mailmsgOffline)

/-- The end of the loop body: the run returns once it has both. -/
def loopPhase (run : AgentRun) : AgentPhase :=
  match run.ack, run.pong with
  | some ack, some pong => .closing run.file (.ok run ack pong)
  | _, _ => .waiting run

/-- The phase after `os.read` returned. -/
def readPhase (run : AgentRun) (position : Nat) : ReadOutcome → AgentPhase
  | .delivered record =>
      match run.consume position record with
      | .ok run => loopPhase run
      | .error error => .closing run.file (.failed error)
  | .returned result =>
      if result = -Errno.again then .waiting run
      else .closing run.file (.failed (.osError (-result)))
  | .sleeps => .readable run

/-- The transition function of the tool and the board. -/
def agentStep (agent : Agent) : AgentLabel → Option Agent
  | .board label =>
      if agent.traffic.exchange.aside label then agent.take label agent.phase [] else none
  | .openDevice value =>
      match agent.phase with
      | .idle =>
          if value.toNat < 0xffffffff then
            let result := (userOpen agent.system agentPriority true).1
            if result = 0 then
              agent.take (.linux (.openFile agentPriority true))
                (.opened agent.system.nextFile value) []
            else
              agent.take (.linux (.openFile agentPriority true)) .idle
                [.failed (.mailmsgOpenFailed (-result))]
          else none
      | _ => none
  | .write =>
      match agent.phase with
      | .opened id value =>
          (agent.file? id).bind fun file =>
            let record := packFrame agentPriority MessageType.ping value
            agent.take (.linux (.write id userFrameBytes true record))
              (writePhase id value agent.traffic.exchange.written.length
                (userWrite agent.system file userFrameBytes true record).1) []
      | _ => none
  | .claim =>
      match agent.phase with
      | .waiting run =>
          (agent.file? run.file).bind fun file =>
            agent.take (.linux (.claim run.file))
              (if (userClaimReader agent.system file).1 = 0 then .polling run
                else .closing run.file (.failed .mailmsgOffline)) []
      | _ => none
  | .poll =>
      match agent.phase with
      | .polling run =>
          (agent.file? run.file).map fun file =>
            { agent with phase := pollPhase run (userPoll agent.system file) }
      | _ => none
  | .read =>
      match agent.phase with
      | .readable run =>
          (agent.file? run.file).bind fun file =>
            agent.take (.linux (.read run.file true))
              (readPhase run agent.traffic.exchange.received.length
                (userRead agent.system file true).1) []
      | _ => none
  | .expire =>
      match agent.phase with
      | .waiting run =>
          some
            { agent with
              phase := .closing run.file (.failed (.timeout run.ack.isSome run.pong.isSome)) }
      | _ => none
  | .close =>
      match agent.phase with
      | .closing file outcome => agent.take (.linux (.release file)) .idle [outcome]
      | _ => none

/-- Every sequence of runs within one ACTIVE session. -/
def agentMachine : Machine Agent AgentLabel where
  init agent := agent.traffic.exchange.Fresh agentPriority ∧ agent.traffic.taken = 0 ∧
    agent.traffic.origins = [] ∧ agent.phase = .idle ∧ agent.finished = []
  step := agentStep

/-- A run that succeeded accepted the answers to its own request. -/
def AgentOutcome.Own (origins : List Nat) : AgentOutcome → Prop
  | .ok run ack pong => origins[ack.frame]? = some run.own ∧ origins[pong.frame]? = some run.own
  | .failed _ => True

instance (origins : List Nat) : (outcome : AgentOutcome) → Decidable (outcome.Own origins)
  | .ok _ _ _ => inferInstanceAs (Decidable (_ ∧ _))
  | .failed _ => inferInstanceAs (Decidable True)

/-- A write that repeats the value of the oldest request whose PONG is not read yet. -/
def Agent.repeats (agent : Agent) : AgentLabel → Bool
  | .write =>
      match agent.phase with
      | .opened _ value =>
          (agent.traffic.exchange.written[agent.traffic.exchange.received.length / 2]?).any
            fun request => request.value == value
      | _ => false
  | _ => false

/-! ### What the tool accepts -/

section Consume

variable {run after : AgentRun} {position : Nat} {record : UserFrame}

theorem unpackFrame_ok {frame : UserFrame} (unpacked : unpackFrame record = .ok frame) :
    record = frame := by
  simp only [unpackFrame] at unpacked
  split at unpacked
  · cases unpacked
  · split at unpacked
    · cases unpacked
    · exact Except.ok.inj unpacked

theorem readU32_ok {offset : Nat} {word : U32} (found : readU32 record offset = .ok word) :
    offset + 4 ≤ record.length.toNat ∧ word = payloadU32 record.payloadAt offset := by
  simp only [readU32] at found
  split at found
  · cases found
  · rename_i long
    exact ⟨by omega, (Except.ok.inj found).symm⟩

/-- An ACK that the loop accepts is noted whatever request it answers. -/
theorem AgentRun.consume_ack (isAck : record.type = MessageType.ack)
    (accepted : run.consume position record = .ok after) :
    ∃ ack, ack.frame = position ∧ after = { run with ack := some ack } := by
  simp only [AgentRun.consume] at accepted
  cases unpacked : unpackFrame record with
  | error error =>
      rw [unpacked] at accepted
      cases accepted
  | ok frame =>
      have same := unpackFrame_ok unpacked
      subst same
      simp only [unpacked, isAck, if_true, bind, Except.bind, pure, Except.pure] at accepted
      split at accepted
      · cases accepted
      · split at accepted
        · cases accepted
        · split at accepted
          · cases accepted
          · split at accepted
            · cases accepted
            · exact ⟨_, rfl, (Except.ok.inj accepted).symm⟩

/-- A PONG that the loop accepts carries the increment of the run's value. -/
theorem AgentRun.consume_pong (isPong : record.type = MessageType.pong)
    (accepted : run.consume position record = .ok after) :
    record.answer.first.toNat = run.value.toNat + 1 ∧
      ∃ pong, pong.frame = position ∧ after = { run with pong := some pong } := by
  have notAck : ¬ MessageType.pong = MessageType.ack := by decide
  have notNack : ¬ MessageType.pong = MessageType.nack := by decide
  simp only [AgentRun.consume] at accepted
  cases unpacked : unpackFrame record with
  | error error =>
      rw [unpacked] at accepted
      cases accepted
  | ok frame =>
      have same := unpackFrame_ok unpacked
      subst same
      simp only [unpacked, isPong, if_neg notAck, if_neg notNack, if_true, bind, Except.bind, pure,
        Except.pure] at accepted
      cases found : readU32 record 0 with
      | error error =>
          rw [found] at accepted
          cases accepted
      | ok result =>
          obtain ⟨long, value⟩ := readU32_ok found
          have first : record.answer.first = result := by
            rw [value]
            apply payloadU32_congr
            intro k bound
            exact if_pos (by omega)
          rw [found] at accepted
          simp only at accepted
          split at accepted
          · cases accepted
          · rename_i matching
            rw [first]
            exact ⟨not_not.mp matching, _, rfl, (Except.ok.inj accepted).symm⟩

theorem packFrame_value (priority : Priority) (type value : U32) :
    (packFrame priority type value).value = value := by
  have bytes : payloadU32 (covered 4 (packFrame priority type value).payloadAt) 0 =
      payloadU32 (storePayloadU32 (fun _ => 0) 0 value) 0 := by
    apply payloadU32_congr
    intro k bound
    have inside : 0 + k < userPayloadBytes := by
      simp only [userPayloadBytes]
      omega
    simp only [covered]
    rw [if_pos (by simp; omega), UserFrame.payloadAt, dif_pos inside]
    rfl
  exact bytes.trans (payloadU32_store _ _ _)

end Consume

/-! ### The origin of a reply

The replies of a reliable priority come in pairs, one pair for each request in the order of the
requests.  So the position of a reply names the request that it answers.
-/

/-- The answers to a list of requests on a reliable priority alternate. -/
theorem flatMap_answers_get (requests : List Request) (number : Nat) :
    (requests.flatMap (Request.answers agentPriority))[2 * number]? =
        requests[number]?.map (fun request => ⟨MessageType.ack, 8, request.sequence, 0⟩) ∧
      (requests.flatMap (Request.answers agentPriority))[2 * number + 1]? =
        requests[number]?.map (fun request => ⟨MessageType.pong, 4, request.value + 1, 0⟩) := by
  induction requests generalizing number with
  | nil => simp
  | cons request requests inductionHypothesis =>
      have pair : request.answers agentPriority =
          [⟨MessageType.ack, 8, request.sequence, 0⟩, ⟨MessageType.pong, 4, request.value + 1, 0⟩] :=
        rfl
      rw [List.flatMap_cons, pair]
      cases number with
      | zero => simp
      | succ number =>
          have even : 2 * (number + 1) = 2 * number + 1 + 1 := by omega
          rw [even]
          simpa using inductionHypothesis number

theorem Continuation.owes_length_le (next : Continuation) : next.owes.length ≤ 1 := by
  cases next <;> simp [Continuation.owes]

/-- The worker has at most the two replies of one request in hand. -/
theorem Worker.owes_length_le (worker : Worker) (priority : Priority) :
    (worker.owes priority).length ≤ 2 := by
  cases worker with
  | replying visit reply next =>
      have bound := next.owes_length_le
      simp only [Worker.owes]
      split
      · simpa using bound
      · simp
  | ringing visit result next =>
      have bound := next.owes_length_le
      simp only [Worker.owes]
      split
      · omega
      · simp
  | _ => simp [Worker.owes]

/-- What holds of the traffic in every state: the two counts fit the flow, and the replies come in
pairs, one pair for each request in the order of the requests. -/
structure Attributed (traffic : Traffic) : Prop extends Served agentPriority traffic.exchange where
  placed : ∃ consumed waiting replies,
    Flow agentPriority traffic.exchange consumed waiting replies ∧
    traffic.taken = consumed.length ∧
    traffic.origins =
      (List.range (traffic.exchange.received.length + replies.length)).map (· / 2)

/-- No step of Linux moves an index of CPU3. -/
theorem RegionStep.peer_indices {system next : System} {label : DriverLabel}
    (step : RegionStep system label next) (notPeer : label.isPeer = false)
    (active : next.driver.mailmsgState = .active) (priority : Priority) :
    (next.hardware.shared.linuxToCpu3 priority).consumer =
        (system.hardware.shared.linuxToCpu3 priority).consumer ∧
      (next.hardware.shared.cpu3ToLinux priority).producer =
        (system.hardware.shared.cpu3ToLinux priority).producer := by
  cases step with
  | same shared peerWrites =>
      rw [shared]
      exact ⟨rfl, rfl⟩
  | peer write isPeer hardware peerWrites =>
      rw [isPeer] at notPeer
      cases notPeer
  | sent sender wasActive effect peerWrites =>
      refine ⟨?_, by rw [effect.reverse]⟩
      cases effect with
      | nothing same => rw [same]
      | pushed slot typed sized numbered committed space published =>
          rename_i other _ _
          rw [published]
          by_cases here : priority = other
          · subst here
            simp [Shared.setRing, Ring.publish]
          · simp [Shared.setRing, Function.update_of_ne here]
  | received receiver effect peerWrites =>
      refine ⟨by rw [effect.forward], ?_⟩
      cases effect with
      | nothing same => rw [same]
      | popped released =>
          rename_i other
          rw [released]
          by_cases here : priority = other
          · subst here
            simp only [Shared.setRing, Function.update_self, ringPop_producer]
          · simp [Shared.setRing, Function.update_of_ne here]
  | initialised cpuOn launched =>
      rw [launched.state] at active
      split at active <;> cases active

section Traffic

variable {traffic next : Traffic}

/-- What a step of the traffic is made of. -/
theorem traffic_advance {label : AmpLabel} (taken : traffic.advance label = some next) :
    traffic.exchange.advance agentPriority label = some next.exchange ∧
      next.taken =
        (if (next.exchange.amp.system.hardware.shared.linuxToCpu3 agentPriority).consumer =
            (traffic.exchange.amp.system.hardware.shared.linuxToCpu3 agentPriority).consumer then
          traffic.taken else traffic.taken + 1) ∧
      next.origins =
        (if (next.exchange.amp.system.hardware.shared.cpu3ToLinux agentPriority).producer =
            (traffic.exchange.amp.system.hardware.shared.cpu3ToLinux agentPriority).producer then
          traffic.origins else traffic.origins ++ [traffic.taken - 1]) := by
  obtain ⟨exchange, stepped, rfl⟩ := Option.map_eq_some_iff.mp taken
  exact ⟨stepped, rfl, rfl⟩

/-- An origin that is noted stays. -/
theorem traffic_origins {label : AmpLabel} (taken : traffic.advance label = some next)
    {position number : Nat} (noted : traffic.origins[position]? = some number) :
    next.origins[position]? = some number := by
  rw [(traffic_advance taken).2.2]
  split
  · exact noted
  · rw [List.getElem?_append_left (List.getElem?_eq_some_iff.mp noted).1]
    exact noted

namespace Attributed

/-- Each request has at most two frames. -/
theorem received_le (attributed : Attributed traffic) :
    traffic.exchange.received.length ≤ 2 * traffic.exchange.written.length := by
  obtain ⟨consumed, waiting, replies, flow, -⟩ := attributed.placed
  have answered := flow.answered_length
  have written := flow.written_length
  have count : replyCount agentPriority = 2 := rfl
  rw [count] at answered
  omega

theorem linux_step (attributed : Attributed traffic) {label : DriverLabel}
    (proper : traffic.exchange.proper agentPriority (.linux label) = true)
    (taken : traffic.advance (.linux label) = some next) : Attributed next := by
  obtain ⟨stepped, counted, noted⟩ := traffic_advance taken
  obtain ⟨consumed, waiting, replies, flow, count, origins⟩ := attributed.placed
  obtain ⟨waiting', replies', after⟩ := flow.linux_step attributed.toServed proper stepped
  obtain ⟨amp, boardStep, active, moved⟩ := advance_eq_some stepped
  obtain ⟨notPeer, answers, system, driven, rfl⟩ := ampStep_linux boardStep
  have indices := (driverStep_region attributed.linked.linuxBound driven).peer_indices
    notPeer active
    agentPriority
  have lengths : next.exchange.received.length + replies'.length =
      traffic.exchange.received.length + replies.length := by
    -- The worker's debt is the same, so the answers read or in the ring are as many as before.
    have before := flow.answered_length
    have later := after.answered_length
    simp only [moved] at later ⊢
    omega
  refine ⟨attributed.toServed.linux_step proper stepped, consumed, waiting', replies',
    after, ?_, ?_⟩
  · rw [counted, if_pos (by rw [moved]; exact indices.1)]
    exact count
  · rw [noted, if_pos (by rw [moved]; exact indices.2), lengths]
    exact origins

theorem cpu3_step (attributed : Attributed traffic) {label : FirmwareLabel}
    (hasSpace : label = .worker → traffic.exchange.HasSpace agentPriority)
    (taken : traffic.advance (.cpu3 label) = some next) : Attributed next := by
  obtain ⟨stepped, counted, noted⟩ := traffic_advance taken
  obtain ⟨consumed, waiting, replies, flow, count, origins⟩ := attributed.placed
  obtain ⟨consumed', waiting', replies', after, progress⟩ :=
    flow.cpu3_step attributed.toServed hasSpace stepped
  have received : next.exchange.received = traffic.exchange.received := by
    obtain ⟨amp, -, -, moved⟩ := advance_eq_some stepped
    rw [moved]
    exact List.append_nil _
  have before := flow.answered_length
  have later := after.answered_length
  have owed := traffic.exchange.amp.firmware.worker.owes_length_le agentPriority
  have two : replyCount agentPriority = 2 := rfl
  rw [two] at before later
  refine ⟨attributed.toServed.cpu3_step hasSpace stepped, consumed', waiting', replies', after, ?_⟩
  cases progress with
  | still forward reverse =>
      rw [counted, noted, if_pos (by rw [forward]), if_pos (by rw [reverse]), received]
      exact ⟨count, origins⟩
  | took frame rest head forward reverse =>
      rw [counted, noted, if_neg forward, if_pos (by rw [reverse]), received, count]
      exact ⟨by rw [List.length_append, List.length_singleton], origins⟩
  | replied frame forward reverse =>
      rw [counted, noted, if_pos (by rw [forward]), if_neg reverse, received, count]
      refine ⟨rfl, ?_⟩
      -- The reply is the first or the second of the request that was consumed last.
      have number : (traffic.exchange.received.length + replies.length) / 2 =
          consumed.length - 1 := by
        rw [received, List.length_append, List.length_singleton] at later
        omega
      rw [List.length_append, List.length_singleton, ← Nat.add_assoc, List.range_succ,
        List.map_append, List.map_singleton, number, origins]

/-- A frame that is read next has the origin that its position says, and answers that request. -/
theorem delivered (attributed : Attributed next) {received : List UserFrame} {record : UserFrame}
    (read : next.exchange.received = received ++ [record]) :
    next.origins[received.length]? = some (received.length / 2) ∧
      ∃ request, next.exchange.written[received.length / 2]? = some request ∧
        record.answer =
          if received.length % 2 = 0 then ⟨MessageType.ack, 8, request.sequence, 0⟩
          else ⟨MessageType.pong, 4, request.value + 1, 0⟩ := by
  obtain ⟨consumed, waiting, replies, flow, count, origins⟩ := attributed.placed
  have inside : received.length < next.exchange.received.length + replies.length := by
    rw [read, List.length_append, List.length_singleton]
    omega
  refine ⟨by simp [origins, inside], ?_⟩
  have answer : (consumed.flatMap (Request.answers agentPriority))[received.length]? =
      some record.answer := by
    rw [← flow.answered, read, List.append_assoc, List.getElem?_append_left (by simp)]
    simp
  obtain ⟨even, odd⟩ := flatMap_answers_get consumed (received.length / 2)
  have known : ∀ request, consumed[received.length / 2]? = some request →
      next.exchange.written[received.length / 2]? = some request := by
    intro request found
    rw [flow.written, List.getElem?_append_left (List.getElem?_eq_some_iff.mp found).1]
    exact found
  rcases Nat.mod_two_eq_zero_or_one received.length with parity | parity
  · have place : received.length = 2 * (received.length / 2) := by omega
    rw [← place, answer] at even
    obtain ⟨request, found, same⟩ := Option.map_eq_some_iff.mp even.symm
    exact ⟨request, known request found, by rw [if_pos parity]; exact same.symm⟩
  · have place : received.length = 2 * (received.length / 2) + 1 := by omega
    rw [← place, answer] at odd
    obtain ⟨request, found, same⟩ := Option.map_eq_some_iff.mp odd.symm
    exact ⟨request, known request found, by rw [if_neg (by omega)]; exact same.symm⟩

end Attributed

end Traffic

/-! ### Runs that write distinct values -/

/-- What a run that has written its request has seen.  Nothing was written since; either it is next
to read the answers to its own request and has its own ACK if that was read, or older answers come
first, of a request with another value. -/
structure AgentRun.OnTrack (run : AgentRun) (exchange : Exchange) : Prop where
  written : exchange.written.length = run.own + 1
  carried : exchange.written[run.own]?.map Request.value = some run.value
  unfinished : run.pong = none
  seen : (exchange.received.length = 2 * run.own ∧ run.ack = none) ∨
    (exchange.received.length = 2 * run.own + 1 ∧ ∃ ack, run.ack = some ack ∧
      ack.frame = 2 * run.own) ∨
    (exchange.received.length < 2 * run.own ∧
      ∀ request, exchange.written[exchange.received.length / 2]? = some request →
        request.value ≠ run.value)

/-- What holds in each phase. -/
def AgentPhase.Sound (traffic : Traffic) : AgentPhase → Prop
  | .idle | .opened _ _ => True
  | .waiting run | .polling run | .readable run => run.OnTrack traffic.exchange
  | .closing _ outcome => outcome.Own traffic.origins

/-- The invariant of the tool. -/
structure AgentInvariant (agent : Agent) : Prop where
  attributed : Attributed agent.traffic
  phase : agent.phase.Sound agent.traffic
  finished : ∀ outcome ∈ agent.finished, outcome.Own agent.traffic.origins

section Agent

variable {agent next : Agent} {traffic : Traffic} {run : AgentRun}

theorem AgentOutcome.Own.mono {outcome : AgentOutcome} {after : Traffic} {label : AmpLabel}
    (own : outcome.Own traffic.origins) (taken : traffic.advance label = some after) :
    outcome.Own after.origins := by
  cases outcome with
  | failed error => trivial
  | ok run ack pong => exact ⟨traffic_origins taken own.1, traffic_origins taken own.2⟩

theorem AgentRun.OnTrack.same {before after : Exchange} (onTrack : run.OnTrack before)
    (written : after.written = before.written) (received : after.received = before.received) :
    run.OnTrack after := by
  obtain ⟨length, carried, unfinished, seen⟩ := onTrack
  refine ⟨by rw [written]; exact length, by rw [written]; exact carried, unfinished, ?_⟩
  rw [written, received]
  exact seen

/-- A step beside the tool keeps what the phase says. -/
theorem AgentPhase.Sound.same {phase : AgentPhase} {after : Traffic} {label : AmpLabel}
    (sound : phase.Sound traffic) (taken : traffic.advance label = some after)
    (written : after.exchange.written = traffic.exchange.written)
    (received : after.exchange.received = traffic.exchange.received) : phase.Sound after := by
  cases phase with
  | idle | opened => trivial
  | waiting run | polling run | readable run => exact AgentRun.OnTrack.same sound written received
  | closing file outcome => exact AgentOutcome.Own.mono sound taken

/-- What a step of the board under the tool is made of. -/
theorem take_eq_some {label : AmpLabel} {phase : AgentPhase} {ended : List AgentOutcome}
    (taken : agent.take label phase ended = some next) :
    agent.traffic.advance label = some next.traffic ∧ next.phase = phase ∧
      next.finished = agent.finished ++ ended := by
  obtain ⟨traffic, advanced, rfl⟩ := Option.map_eq_some_iff.mp taken
  exact ⟨advanced, rfl, rfl⟩

/-- The invariant after a step of the board under the tool. -/
theorem AgentInvariant.of_take (invariant : AgentInvariant agent) {label : AmpLabel}
    {phase : AgentPhase} {ended : List AgentOutcome}
    (taken : agent.take label phase ended = some next) (attributed : Attributed next.traffic)
    (sound : phase.Sound next.traffic) (own : ∀ outcome ∈ ended, outcome.Own next.traffic.origins) :
    AgentInvariant next := by
  obtain ⟨advanced, samePhase, finished⟩ := take_eq_some taken
  refine ⟨attributed, samePhase ▸ sound, ?_⟩
  rw [finished]
  intro outcome member
  rcases List.mem_append.mp member with old | new
  · exact (invariant.finished outcome old).mono advanced
  · exact own outcome new

/-- A step of Linux that does not use the tool's priority is proper and adds nothing to the
notes. -/
theorem unused_advance {label : DriverLabel} {after : Traffic}
    (unused : label.uses traffic.exchange.amp.system agentPriority = false)
    (taken : traffic.advance (.linux label) = some after) :
    traffic.exchange.proper agentPriority (.linux label) = true ∧
      after.exchange.written = traffic.exchange.written ∧
      after.exchange.received = traffic.exchange.received := by
  obtain ⟨amp, -, -, moved⟩ := advance_eq_some (traffic_advance taken).1
  obtain ⟨noWrite, noRead⟩ := unused_notes unused amp
  rw [moved, noWrite, noRead, List.append_nil, List.append_nil]
  refine ⟨?_, rfl, rfl⟩
  cases label <;> simp [Exchange.proper, unused]

/-- A step of the tool that does not use its priority: only the phase and the finished runs are
new. -/
theorem AgentInvariant.unused (invariant : AgentInvariant agent) {label : DriverLabel}
    (unused : label.uses agent.system agentPriority = false) {phase : AgentPhase}
    {ended : List AgentOutcome} (taken : agent.take (.linux label) phase ended = some next)
    (sound : phase.Sound agent.traffic)
    (own : ∀ outcome ∈ ended, outcome.Own agent.traffic.origins) : AgentInvariant next := by
  have advanced := (take_eq_some taken).1
  obtain ⟨proper, written, received⟩ := unused_advance unused advanced
  refine invariant.of_take taken (invariant.attributed.linux_step proper advanced)
    (sound.same advanced written received) ?_
  intro outcome member
  exact (own outcome member).mono advanced

/-- A step of the board beside the tool. -/
theorem AgentInvariant.board (invariant : AgentInvariant agent) {label : AmpLabel}
    (aside : agent.traffic.exchange.aside label = true)
    (taken : agent.take label agent.phase [] = some next) : AgentInvariant next := by
  cases label with
  | linux label =>
      exact invariant.unused (by simpa [Exchange.aside, Agent.system] using aside) taken
        invariant.phase (by simp)
  | boot =>
      obtain ⟨amp, boardStep, -⟩ := advance_eq_some (traffic_advance (take_eq_some taken).1).1
      simp only [ampStep, if_neg invariant.attributed.booted] at boardStep
      cases boardStep
  | cpu3 label =>
      have advanced := (take_eq_some taken).1
      obtain ⟨amp, -, -, moved⟩ := advance_eq_some (traffic_advance advanced).1
      have hasSpace : label = .worker → agent.traffic.exchange.HasSpace agentPriority := by
        rintro rfl visit reply next position here
        simpa [Exchange.aside, Exchange.fits, position, here] using aside
      refine invariant.of_take taken (invariant.attributed.cpu3_step hasSpace advanced) ?_ (by simp)
      apply invariant.phase.same advanced
      · rw [moved]
        exact List.append_nil _
      · rw [moved]
        exact List.append_nil _

theorem Agent.file?_eq_some {id : Nat} {file : UserFile} (found : agent.file? id = some file) :
    agent.traffic.exchange.amp.system.file? id = some file ∧ file.priority = agentPriority := by
  obtain ⟨found, own⟩ := Option.filter_eq_some_iff.mp found
  exact ⟨found, beq_iff_eq.mp own⟩

/-- A write of a run: its request is the last one, and older unread answers are of another value. -/
theorem AgentInvariant.wrote (invariant : AgentInvariant agent) {id : Nat} {value : U32}
    {file : UserFile} (found : agent.file? id = some file)
    (distinct : ∀ request, agent.traffic.exchange.written[agent.traffic.exchange.received.length / 2]? =
      some request → request.value ≠ value)
    (taken : agent.take
      (.linux (.write id userFrameBytes true (packFrame agentPriority MessageType.ping value)))
      (writePhase id value agent.traffic.exchange.written.length
        (userWrite agent.system file userFrameBytes true
          (packFrame agentPriority MessageType.ping value)).1) [] = some next) :
    AgentInvariant next := by
  obtain ⟨present, own⟩ := Agent.file?_eq_some found
  have advanced := (take_eq_some taken).1
  have proper : agent.traffic.exchange.proper agentPriority
      (.linux (.write id userFrameBytes true (packFrame agentPriority MessageType.ping value))) =
        true := by
    simp only [Exchange.proper, Bool.or_eq_true, Bool.and_eq_true]
    refine .inr ⟨rfl, ?_⟩
    unfold UserFrame.selfOff
    cases agent.traffic.exchange.amp.firmware.build.selfOffValue <;> rfl
  have attributed := invariant.attributed.linux_step proper advanced
  refine invariant.of_take taken attributed ?_ (by simp)
  simp only [writePhase]
  split
  · trivial
  · split
    · trivial
    · split
      · trivial
      · rename_i complete
        obtain ⟨amp, -, -, moved⟩ := advance_eq_some (traffic_advance advanced).1
        obtain ⟨sequence, grown⟩ : ∃ sequence, next.traffic.exchange.written =
            agent.traffic.exchange.written ++ [⟨sequence, value⟩] := by
          refine ⟨amp.system.driver.endpoint.nextSequence, ?_⟩
          rw [moved]
          simp only [Exchange.wrote, present]
          rw [if_pos ⟨own, not_not.mp complete⟩, packFrame_value]
        have received : next.traffic.exchange.received = agent.traffic.exchange.received := by
          rw [moved]
          exact List.append_nil _
        refine ⟨by simp [grown], by simp [grown], rfl, ?_⟩
        have bound := invariant.attributed.received_le
        rw [received, grown]
        by_cases current : agent.traffic.exchange.received.length =
            2 * agent.traffic.exchange.written.length
        · exact .inl ⟨current, rfl⟩
        · refine .inr (.inr ⟨Nat.lt_of_le_of_ne bound current, ?_⟩)
          intro request older
          apply distinct request
          rwa [List.getElem?_append_left (by omega)] at older

/-- The record that a run reads: its own ACK, its own PONG, an older ACK, or an older PONG, which
ends the run. -/
theorem AgentRun.OnTrack.consumed {after : Traffic} {received : List UserFrame} {record : UserFrame}
    {before : Exchange} (onTrack : run.OnTrack before) (attributed : Attributed after)
    (written : after.exchange.written = before.written) (previous : received = before.received)
    (read : after.exchange.received = received ++ [record]) {noted : AgentRun}
    (accepted : run.consume received.length record = .ok noted) :
    (loopPhase noted).Sound after := by
  obtain ⟨origin, request, asked, content⟩ := attributed.delivered read
  have length : after.exchange.received.length = received.length + 1 := by
    rw [read, List.length_append, List.length_singleton]
  have type := congrArg Answer.type content
  have first := congrArg Answer.first content
  obtain ⟨total, carried, unfinished, seen⟩ := onTrack
  rw [← previous, ← written] at seen
  rw [← written] at total carried
  rcases Nat.mod_two_eq_zero_or_one received.length with parity | parity
  · -- An ACK is noted; the PONG is still missing.
    rw [if_pos parity] at type
    obtain ⟨ack, position, rfl⟩ := AgentRun.consume_ack type accepted
    have phase : loopPhase { run with ack := some ack } = .waiting { run with
        ack := some ack } := by
      simp only [loopPhase, unfinished]
    rw [phase]
    refine ⟨total, carried, unfinished, ?_⟩
    rw [length]
    rcases seen with ⟨here, -⟩ | ⟨here, -⟩ | ⟨older, different⟩
    · exact .inr (.inl ⟨by rw [here], ack, rfl, by rw [position, here]⟩)
    · omega
    · have still : received.length + 1 < 2 * run.own := by omega
      refine .inr (.inr ⟨still, ?_⟩)
      have half : (received.length + 1) / 2 = received.length / 2 := by omega
      rw [half]
      exact different
  · rw [if_neg (by omega)] at type first
    obtain ⟨matching, pong, position, rfl⟩ := AgentRun.consume_pong type accepted
    have value : request.value = run.value := by
      rw [first] at matching
      simp only [BitVec.toNat_add] at matching
      apply BitVec.eq_of_toNat_eq
      have small := request.value.isLt
      have one : (1 : U32).toNat = 1 := rfl
      rw [one] at matching
      omega
    rcases seen with ⟨here, -⟩ | ⟨here, ack, ownAck, ackPosition⟩ | ⟨older, different⟩
    · omega
    · have phase : loopPhase { run with pong := some pong } =
          .closing run.file (.ok { run with pong := some pong } ack pong) := by
        simp only [loopPhase, ownAck]
      rw [phase]
      obtain ⟨consumed, waiting, replies, flow, count, origins⟩ := attributed.placed
      refine ⟨?_, ?_⟩
      · simp only [ackPosition, origins]
        rw [List.getElem?_map, List.getElem?_range (by omega)]
        simp
      · rw [position, origin, here]
        simp only [Option.some.injEq]
        omega
    · exact absurd value (different request asked)

/-- A read of a run. -/
theorem AgentInvariant.read (invariant : AgentInvariant agent)
    (onTrack : run.OnTrack agent.traffic.exchange) {file : UserFile}
    (found : agent.file? run.file = some file)
    (taken : agent.take (.linux (.read run.file true))
      (readPhase run agent.traffic.exchange.received.length (userRead agent.system file true).1) [] =
        some next) : AgentInvariant next := by
  obtain ⟨present, own⟩ := Agent.file?_eq_some found
  have advanced := (take_eq_some taken).1
  have attributed := invariant.attributed.linux_step (by simp [Exchange.proper]) advanced
  obtain ⟨amp, -, -, moved⟩ := advance_eq_some (traffic_advance advanced).1
  have written : next.traffic.exchange.written = agent.traffic.exchange.written := by
    rw [moved]
    exact List.append_nil _
  refine invariant.of_take taken attributed ?_ (by simp)
  cases outcome : (userRead agent.system file true).1 with
  | delivered record =>
      have read : next.traffic.exchange.received = agent.traffic.exchange.received ++ [record] := by
        rw [Agent.system] at outcome
        rw [moved]
        simp only [Exchange.read, present, own, if_true, outcome]
      simp only [readPhase]
      split
      · rename_i noted accepted
        exact onTrack.consumed attributed written rfl read accepted
      · trivial
  | returned result =>
      have received : next.traffic.exchange.received = agent.traffic.exchange.received := by
        rw [Agent.system] at outcome
        rw [moved]
        simp only [Exchange.read, present, own, if_true, outcome, List.append_nil]
      simp only [readPhase]
      split
      · exact onTrack.same written received
      · trivial
  | sleeps =>
      have received : next.traffic.exchange.received = agent.traffic.exchange.received := by
        rw [Agent.system] at outcome
        rw [moved]
        simp only [Exchange.read, present, own, if_true, outcome, List.append_nil]
      exact onTrack.same written received

/-- A step of the tool that writes no repeated value. -/
theorem AgentInvariant.step (invariant : AgentInvariant agent) {label : AgentLabel}
    (distinct : agent.repeats label = false) (taken : agentStep agent label = some next) :
    AgentInvariant next := by
  have phase := invariant.phase
  cases label with
  | board label =>
      simp only [agentStep] at taken
      split at taken
      · rename_i aside
        exact invariant.board aside taken
      · cases taken
  | openDevice value =>
      simp only [agentStep] at taken
      split at taken
      · split at taken
        · split at taken
          · exact invariant.unused rfl taken trivial (by simp)
          · exact invariant.unused rfl taken trivial (by simp [AgentOutcome.Own])
        · cases taken
      · cases taken
  | write =>
      simp only [agentStep] at taken
      split at taken
      · rename_i id value position
        obtain ⟨file, found, taken⟩ := Option.bind_eq_some_iff.mp taken
        refine invariant.wrote found ?_ taken
        intro request oldest
        simpa [Agent.repeats, position, oldest] using distinct
      · cases taken
  | claim =>
      simp only [agentStep] at taken
      split at taken
      · rename_i run position
        obtain ⟨file, found, taken⟩ := Option.bind_eq_some_iff.mp taken
        rw [position] at phase
        refine invariant.unused rfl taken ?_ (by simp)
        split
        · exact phase
        · trivial
      · cases taken
  | poll =>
      simp only [agentStep] at taken
      split at taken
      · rename_i run position
        obtain ⟨file, found, rfl⟩ := Option.map_eq_some_iff.mp taken
        rw [position] at phase
        refine ⟨invariant.attributed, ?_, invariant.finished⟩
        simp only [pollPhase]
        split
        · exact phase
        · exact phase
        · trivial
        · trivial
      · cases taken
  | read =>
      simp only [agentStep] at taken
      split at taken
      · rename_i run position
        obtain ⟨file, found, taken⟩ := Option.bind_eq_some_iff.mp taken
        rw [position] at phase
        exact invariant.read phase found taken
      · cases taken
  | expire =>
      simp only [agentStep] at taken
      split at taken
      · cases taken
        exact ⟨invariant.attributed, trivial, invariant.finished⟩
      · cases taken
  | close =>
      simp only [agentStep] at taken
      split at taken
      · rename_i file outcome position
        rw [position] at phase
        refine invariant.unused rfl taken trivial ?_
        intro other member
        rw [List.mem_singleton.mp member]
        exact phase
      · cases taken

theorem AgentInvariant.initial (start : agentMachine.init agent) : AgentInvariant agent := by
  obtain ⟨fresh, taken, origins, phase, finished⟩ := start
  have served := fresh.served
  have flow : Flow agentPriority agent.traffic.exchange [] [] [] := by
    refine ⟨fresh.written, fresh.forward, by simp, fresh.reverse, by simp, ?_⟩
    rw [fresh.received, fresh.idle]
    rfl
  refine ⟨⟨served, [], [], [], flow, taken, ?_⟩, by rw [phase]; trivial, by simp [finished]⟩
  rw [origins, fresh.received]
  rfl

theorem AgentInvariant.reachable
    (reached : (agentMachine.restrict fun agent label => agent.repeats label = false).Reachable agent) :
    AgentInvariant agent := by
  induction reached with
  | init start => exact AgentInvariant.initial start
  | step _ taken inductionHypothesis =>
      obtain ⟨distinct, taken⟩ := Machine.restrict_step_iff.mp taken
      exact inductionHypothesis.step distinct taken

end Agent

/-- In every sequence of runs in which no run writes the value of the oldest request whose PONG is
still unread, a run that succeeds has accepted the ACK and the PONG that CPU3 made for its own
request. -/
theorem accepted_answers_own {agent : Agent}
    (reached : (agentMachine.restrict fun agent label => agent.repeats label = false).Reachable agent)
    {outcome : AgentOutcome} (finished : outcome ∈ agent.finished) :
    outcome.Own agent.traffic.origins :=
  (AgentInvariant.reachable reached).finished outcome finished

/-- The tool before its first run on an ACTIVE board. -/
def demoAgent (amp : Amp) : Agent := ⟨⟨⟨amp, [], []⟩, 0, []⟩, .idle, []⟩

theorem demoAgent_init {build : Build} {amp : Amp} (reached : (ampMachine build).Reachable amp)
    (unused : amp.unused agentPriority = true) : agentMachine.init (demoAgent amp) :=
  ⟨Amp.unused_init 1 reached unused, rfl, rfl, rfl, rfl⟩

/-- CPU3 takes the doorbell of p1 and answers one request. -/
def demoService : List AgentLabel :=
  ([.cpu3 (.interrupt 1), .cpu3 .isr, .cpu3 .isr, .cpu3 .isr] ++
    List.replicate 14 (.cpu3 .worker) : List AmpLabel).map .board

/-- A run of the tool up to its write, and the two turns of its loop that read the ACK and the
PONG. -/
def demoAsk (value : U32) : List AgentLabel := [.openDevice value, .write]

def demoCollect : List AgentLabel := [.claim, .poll, .read, .claim, .poll, .read, .close]

/-- Two runs for 41, each answered before it reads. -/
theorem accepted_answers_own_demo :
    ∃ amp agent, (ampMachine demoStopBuild).run demoAmp demoSession = some amp ∧
      agentMachine.run (demoAgent amp)
        (demoAsk 41 ++ demoService ++ demoCollect ++ demoAsk 41 ++ demoService ++ demoCollect) =
          some agent ∧
      agent.traffic.origins = [0, 0, 1, 1] ∧ agent.finished.length = 2 ∧
      ∀ outcome ∈ agent.finished, outcome.Own agent.traffic.origins := by
  have checked : ((ampMachine demoStopBuild).run demoAmp demoSession).any (fun amp =>
      amp.unused agentPriority &&
        ((agentMachine.restrict fun agent label => agent.repeats label = false).run (demoAgent amp)
          (demoAsk 41 ++ demoService ++ demoCollect ++ demoAsk 41 ++ demoService ++ demoCollect)).any
            fun agent => agent.traffic.origins == [0, 0, 1, 1] && agent.finished.length ==
              2) = true := by
    decide +kernel
  obtain ⟨amp, session, passed⟩ := (ampMachine demoStopBuild).exists_of_run_any checked
  obtain ⟨unused, served⟩ := Bool.and_eq_true_iff.mp passed
  obtain ⟨agent, executed, seen⟩ := Machine.exists_of_run_any served
  simp only [Bool.and_eq_true, beq_iff_eq] at seen
  have start := demoAgent_init (Machine.Reachable.run (.init demoAmp_init) session) unused
  have reached : (agentMachine.restrict fun agent label => agent.repeats label =
      false).Reachable agent :=
    Machine.Reachable.run (.init start) executed
  refine ⟨amp, agent, session, Machine.run_of_restrict executed, seen.1, seen.2, ?_⟩
  intro outcome finished
  exact accepted_answers_own reached finished

/-- A run for 41 gives up before CPU3 serves it; the next run for 41 takes the answers that CPU3
made for the first one and succeeds although its own request is still in the ring. -/
theorem stale_answers_accepted :
    ∃ amp agent outcome, (ampMachine demoStopBuild).run demoAmp demoSession = some amp ∧
      agentMachine.init (demoAgent amp) ∧
      agentMachine.run (demoAgent amp)
        (demoAsk 41 ++ [.expire, .close] ++ demoService ++ demoAsk 41 ++ demoCollect) = some agent ∧
      outcome ∈ agent.finished ∧ ¬ outcome.Own agent.traffic.origins := by
  have checked : ((ampMachine demoStopBuild).run demoAmp demoSession).any (fun amp =>
      amp.unused agentPriority &&
        (agentMachine.run (demoAgent amp)
          (demoAsk 41 ++ [.expire, .close] ++ demoService ++ demoAsk 41 ++ demoCollect)).any
            fun agent => agent.finished.any fun outcome =>
              !decide (outcome.Own agent.traffic.origins)) = true := by
    decide +kernel
  obtain ⟨amp, session, passed⟩ := (ampMachine demoStopBuild).exists_of_run_any checked
  obtain ⟨unused, served⟩ := Bool.and_eq_true_iff.mp passed
  obtain ⟨agent, executed, seen⟩ := Machine.exists_of_run_any served
  obtain ⟨outcome, member, stale⟩ := List.any_eq_true.mp seen
  have start := demoAgent_init (Machine.Reachable.run (.init demoAmp_init) session) unused
  exact ⟨amp, agent, outcome, session, start, executed, member, by simpa using stale⟩

end MailMsg
