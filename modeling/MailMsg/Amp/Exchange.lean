/-
Module: MailMsg.Amp.Exchange
Purpose: A client of one priority inside an ACTIVE session: where every request that it wrote and
  every answer that CPU3 gave is, in the rings, in the worker's hands or read.
Source: LZAMP/firmware/zephyr/app/src/main.c (mailmsg_pingpong_test_service),
  LZAMP/linux/drivers/lzamp_amp_mailmsg.c (r1_amp_mailmsg_user_write, r1_amp_mailmsg_user_read)
Trusted boundary: none beyond the models of the two sides
Main exports: Request, Answer, Request.answers, Worker.owes, Exchange, Exchange.proper,
  Exchange.advance, Exchange.Fresh, Flow, Served, Served.step
-/
import MailMsg.Amp.Session

namespace MailMsg

/-! ### Requests and answers -/

/-- A PING as CPU3 answers it: its sequence and the first word of its payload. -/
structure Request where
  sequence : U32
  value : U32
deriving DecidableEq

/-- What the reader of a frame sees of it. -/
structure Answer where
  type : U32
  length : U32
  first : U32
  second : U32
deriving DecidableEq

/-- The bytes of a payload that its length covers. -/
def covered (length : U32) (bytes : Nat → U8) (index : Nat) : U8 :=
  if index < length.toNat then bytes index else 0

/-- The first two words that the length covers. -/
def Answer.read (type length : U32) (bytes : Nat → U8) : Answer where
  type := type
  length := length
  first := payloadU32 (covered length bytes) 0
  second := payloadU32 (covered length bytes) 4

def Frame.answer (frame : Frame) : Answer :=
  .read frame.type frame.length frame.committed.payloadAt

def UserFrame.answer (frame : UserFrame) : Answer := .read frame.type frame.length frame.payloadAt

def Reply.answer (reply : Reply) : Answer := .read reply.type reply.length reply.payload

/-- The request that a frame carries. -/
def Frame.request (frame : Frame) : Request where
  sequence := frame.sequence
  value := payloadU32 frame.committed.payloadAt 0

/-- The value that a user record carries. -/
def UserFrame.value (frame : UserFrame) : U32 := payloadU32 (covered frame.length frame.payloadAt) 0

/-- What a request is answered with: on the reliable priorities an ACK of its sequence, then the
PONG. -/
def Request.answers (priority : Priority) (request : Request) : List Answer :=
  (if priorityIsReliable priority then [⟨MessageType.ack, 8, request.sequence, 0⟩] else []) ++
    [⟨MessageType.pong, 4, request.value + 1, 0⟩]

/-- The answers that follow the reply in hand. -/
def Continuation.owes : Continuation → List Answer
  | .pong request => [(pongReply request).answer]
  | .drain | .leave | .cpuOff _ => []

/-- The answers on a priority that the worker has taken a request for and not yet pushed. -/
def Worker.owes (priority : Priority) : Worker → List Answer
  | .replying visit reply next => if visit.priority = priority then reply.answer ::
      next.owes else []
  | .ringing visit _ next => if visit.priority = priority then next.owes else []
  | _ => []

/-! ### The client -/

/-- The board, the requests that the client wrote on its priority, and the frames that it read. -/
structure Exchange where
  amp : Amp
  written : List Request
  received : List UserFrame

/-- A step of Linux that reaches the rings of a priority. -/
def DriverLabel.uses (system : System) (priority : Priority) : DriverLabel → Bool
  | .write id _ _ _ | .read id _ => (system.file? id).any fun file => file.priority == priority
  | .mailmsgPing numbers _ _ | .queuePush numbers _ => namedPriority numbers == priority
  | .stop _ _ | .controlIterate => priority == .critical
  | .responseIterate =>
      match system.lock with
      | .response reached _ => reached == priority
      | _ => false
  | _ => false

/-- The record that the fault injection of `MAILMSG_TEST_SELF_OFF_VALUE` waits for. -/
def UserFrame.selfOff (build : Build) (priority : Priority) (frame : UserFrame) : Bool :=
  build.selfOffValue.any fun value =>
    priority == .critical && frame.length == 4#32 && frame.value == value

/-- On the client's priority only PINGs are written and every read goes to valid memory; nobody else
uses the priority. -/
def Exchange.proper (exchange : Exchange) (priority : Priority) : AmpLabel → Bool
  | .linux (.write id count copied frame) =>
      !DriverLabel.uses exchange.amp.system priority (.write id count copied frame) ||
        (frame.type == MessageType.ping && !frame.selfOff exchange.amp.firmware.build priority)
  | .linux (.read id copied) =>
      !DriverLabel.uses exchange.amp.system priority (.read id copied) || copied
  | .linux label => !label.uses exchange.amp.system priority
  | .boot | .cpu3 _ => true

/-- The request that a step adds, under the sequence that its frame got. -/
def Exchange.wrote (exchange : Exchange) (priority : Priority) (next : Amp) :
    AmpLabel → List Request
  | .linux (.write id count copied frame) =>
      match exchange.amp.system.file? id with
      | none => []
      | some file =>
          if file.priority = priority ∧
              (userWrite exchange.amp.system file count copied frame).1 = userFrameBytes then
            [⟨next.system.driver.endpoint.nextSequence, frame.value⟩]
          else []
  | _ => []

/-- The frame that a step hands to the client. -/
def Exchange.read (exchange : Exchange) (priority : Priority) : AmpLabel → List UserFrame
  | .linux (.read id copied) =>
      match exchange.amp.system.file? id with
      | none => []
      | some file =>
          if file.priority = priority then
            match (userRead exchange.amp.system file copied).1 with
            | .delivered frame => [frame]
            | _ => []
          else []
  | _ => []

/-- A step of the board inside an ACTIVE session, with the notes of a client on one priority. -/
def Exchange.advance (exchange : Exchange) (priority : Priority) (label : AmpLabel) :
    Option Exchange :=
  (ampStep exchange.amp label).bind fun next =>
    if next.system.driver.mailmsgState = .active then
      some
        { amp := next
          written := exchange.written ++ exchange.wrote priority next label
          received := exchange.received ++ exchange.read priority label }
    else none

/-- The priority is unused and nothing was written or read yet, in any ACTIVE state of the board. -/
structure Exchange.Fresh (exchange : Exchange) (priority : Priority) : Prop where
  reached : ∃ build, (ampMachine build).Reachable exchange.amp
  running : exchange.amp.power = .on
  active : exchange.amp.system.driver.mailmsgState = .active
  forward : (exchange.amp.system.hardware.shared.linuxToCpu3 priority).Holds []
  reverse : (exchange.amp.system.hardware.shared.cpu3ToLinux priority).Holds []
  idle : exchange.amp.firmware.worker.owes priority = []
  written : exchange.written = []
  received : exchange.received = []

/-! ### What the frames say -/

theorem covered_covered (length : U32) (bytes : Nat → U8) :
    covered length (covered length bytes) = covered length bytes := by
  funext index
  simp only [covered]
  split <;> rfl

theorem Answer.read_congr (type : U32) {length : U32} {left right : Nat → U8}
    (same : covered length left = covered length right) :
    Answer.read type length left = Answer.read type length right := by
  simp only [Answer.read, same]

/-- A reply arrives as it was sent. -/
theorem Board.frameOf_answer (board : Board) (reply : Reply) :
    (board.frameOf reply).answer = reply.answer := by
  apply Answer.read_congr
  rw [Board.frameOf_payloadAt]
  exact covered_covered reply.length reply.payload

/-- A read hands out what the frame says. -/
theorem userFrameOf_answer (priority : Priority) (frame : Frame) :
    (userFrameOf priority frame.committed).answer = frame.answer := by
  apply Answer.read_congr
  funext index
  simp only [covered]
  split
  · rename_i inside
    simp only [UserFrame.payloadAt, userFrameOf]
    split
    · exact if_pos inside
    · rename_i outside
      have past : ¬ index < payloadBytes := by
        simp only [userPayloadBytes] at outside
        simp only [payloadBytes]
        omega
      simp only [Message.payloadAt, past, dif_neg, not_false_eq_true]
  · rfl

/-- The frame of a user record carries the record's value. -/
theorem sendMessage_request (generation type sequence : U32) (frame : UserFrame)
    (short : frame.length.toNat ≤ payloadBytes) :
    (sendMessage generation type sequence frame.length (some frame.payloadAt)).frame.request =
      ⟨sequence, frame.value⟩ := by
  have bytes : (sendMessage generation type sequence frame.length
      (some frame.payloadAt)).frame.committed.payloadAt = covered frame.length frame.payloadAt := by
    funext index
    simp only [Message.payloadAt, Frame.committed, Message.frame, sendMessage, covered]
    by_cases inside : index < payloadBytes
    · simp [inside]
    · have outside : ¬ index < frame.length.toNat := by omega
      simp [inside, outside]
  simp only [Frame.request, UserFrame.value, bytes]
  rfl

theorem feedbackReply_answer (type peerSequence status : U32) :
    (feedbackReply type peerSequence status).answer = ⟨type, 8, peerSequence, status⟩ := by
  have first : payloadU32 (covered 8 (feedbackReply type peerSequence status).payload) 0 =
      peerSequence := feedbackReply_sequence type peerSequence status
  have second : payloadU32 (covered 8 (feedbackReply type peerSequence status).payload)
      4 = status := by
    have same : payloadU32 (covered 8 (feedbackReply type peerSequence status).payload) 4 =
        payloadU32 (feedbackReply type peerSequence status).payload 4 := by
      apply payloadU32_congr
      intro k bound
      exact if_pos (by simp; omega)
    rw [same]
    exact payloadU32_store _ _ _
  calc (feedbackReply type peerSequence status).answer
      = ⟨type, 8, payloadU32 (covered 8 (feedbackReply type peerSequence status).payload) 0,
          payloadU32 (covered 8 (feedbackReply type peerSequence status).payload) 4⟩ := rfl
    _ = ⟨type, 8, peerSequence, status⟩ := by rw [first, second]

theorem pongReply_answer {frame : Frame} (isPing : frame.type = MessageType.ping) :
    (pongReply frame.committed).answer = ⟨MessageType.pong, 4, frame.request.value + 1, 0⟩ := by
  have type : (pongReply frame.committed).type = MessageType.pong := if_pos isPing
  have first : payloadU32 (covered 4 (pongReply frame.committed).payload) 0 =
      frame.request.value + 1 := by
    have same : payloadU32 (covered 4 (pongReply frame.committed).payload) 0 =
        payloadU32 (pongReply frame.committed).payload 0 := by
      apply payloadU32_congr
      intro k bound
      exact if_pos (by simp; omega)
    rw [same]
    exact payloadU32_store _ _ _
  have second : payloadU32 (covered 4 (pongReply frame.committed).payload) 4 = 0 := by
    simp [payloadU32, covered]
  calc (pongReply frame.committed).answer
      = ⟨(pongReply frame.committed).type, 4,
          payloadU32 (covered 4 (pongReply frame.committed).payload) 0,
          payloadU32 (covered 4 (pongReply frame.committed).payload) 4⟩ := rfl
    _ = ⟨MessageType.pong, 4, frame.request.value + 1, 0⟩ := by rw [type, first, second]

/-- A good PING puts exactly its answers into the worker's hands. -/
theorem answer_owes {build : Build} {visit : Visit} {frame : Frame}
    (isPing : frame.type = MessageType.ping)
    (plain : build.selfOff visit.priority frame.committed = false) :
    (answer build visit frame.committed).owes visit.priority =
      frame.request.answers visit.priority := by
  have notStop : ¬ (visit.priority = .critical ∧ frame.committed.type = MessageType.stopRequest) := by
    rintro ⟨-, isStop⟩
    rw [show frame.committed.type = frame.type from rfl, isPing] at isStop
    cases isStop
  unfold answer Request.answers
  rw [if_neg notStop, plain, if_neg Bool.false_ne_true]
  split
  · simp only [Worker.owes, Continuation.owes, if_true, feedbackReply_answer,
      pongReply_answer isPing]
    rfl
  · simp only [Worker.owes, Continuation.owes, if_true, pongReply_answer isPing]
    rfl

/-- Going on after a reply on a priority: what it still owes is in hand. -/
theorem resume_owes (visit : Visit) (accepted : Bool) (next : Continuation) :
    (next.resume visit accepted).owes visit.priority = next.owes := by
  cases next with
  | drain | leave => rfl
  | pong request => simp [Continuation.resume, Worker.owes, Continuation.owes]
  | cpuOff request => cases accepted <;> rfl

/-! ### Other priorities -/

theorem answer_owes_other (build : Build) {visit : Visit} {priority : Priority} (request : Message)
    (other : visit.priority ≠ priority) : (answer build visit request).owes priority = [] := by
  unfold answer
  repeat' split
  all_goals simp [Worker.owes, other]

theorem reject_owes_other {visit : Visit} {priority : Priority} (request : Message) (reason : U32)
    (other : visit.priority ≠ priority) : (reject visit request reason).owes priority = [] := by
  unfold reject
  split <;> simp [Worker.owes, other]

theorem resume_owes_other {visit : Visit} {priority : Priority} (accepted : Bool)
    (next : Continuation)
    (other : visit.priority ≠ priority) : (next.resume visit accepted).owes priority = [] := by
  cases next with
  | drain | leave => rfl
  | pong request => simp [Continuation.resume, Worker.owes, other]
  | cpuOff request => cases accepted <;> rfl

theorem Worker.owes_silent {worker : Worker} (priority : Priority) (silent : worker.silent = true) :
    worker.owes priority = [] := by
  cases worker with
  | replying | ringing => cases silent
  | _ => rfl

/-! ### The flow of a priority

The requests of a priority are split in two: those that CPU3 has consumed, whose answers are
received, in the ring or owed by the worker, and those that wait in the forward ring.
-/

/-- Where every request and every answer of the client is: the requests that CPU3 consumed, those
that wait in the forward ring, and the answers to the consumed ones, read, in the reverse ring or in
the worker's hands, in this order. -/
structure Flow (priority : Priority) (exchange : Exchange) (consumed : List Request)
    (waiting replies : List Frame) : Prop where
  written : exchange.written = consumed ++ waiting.map Frame.request
  forward : (exchange.amp.system.hardware.shared.linuxToCpu3 priority).Holds waiting
  requests : ∀ frame ∈ waiting, frame.type = MessageType.ping ∧
    frame.generation = exchange.amp.system.driver.endpoint.generation ∧
    exchange.amp.firmware.build.selfOff priority frame.committed = false
  reverse : (exchange.amp.system.hardware.shared.cpu3ToLinux priority).Holds replies
  current : ∀ frame ∈ replies, frame.generation = exchange.amp.system.driver.endpoint.generation
  answered : exchange.received.map UserFrame.answer ++ replies.map Frame.answer ++
    exchange.amp.firmware.worker.owes priority = consumed.flatMap (Request.answers priority)

namespace Flow

variable {priority : Priority} {exchange : Exchange} {consumed : List Request}
  {waiting replies : List Frame}

/-- A step that leaves the rings of the priority and the worker's debt alone. -/
theorem still (flow : Flow priority exchange consumed waiting replies) {amp : Amp}
    (forward : amp.system.hardware.shared.linuxToCpu3 priority =
      exchange.amp.system.hardware.shared.linuxToCpu3 priority)
    (reverse : amp.system.hardware.shared.cpu3ToLinux priority =
      exchange.amp.system.hardware.shared.cpu3ToLinux priority)
    (generation : amp.system.driver.endpoint.generation =
      exchange.amp.system.driver.endpoint.generation)
    (build : amp.firmware.build = exchange.amp.firmware.build)
    (owes : amp.firmware.worker.owes priority = exchange.amp.firmware.worker.owes priority) :
    Flow priority { exchange with amp := amp } consumed waiting replies where
  written := flow.written
  forward := by
    rw [forward]
    exact flow.forward
  requests := by
    rw [generation, build]
    exact flow.requests
  reverse := by
    rw [reverse]
    exact flow.reverse
  current := by
    rw [generation]
    exact flow.current
  answered := by
    rw [owes]
    exact flow.answered

end Flow

/-! ### Steps of CPU3

A step of the worker at this priority moves one request or one answer along its way; everything else
leaves the flow alone.
-/

section Cpu3

variable {priority : Priority} {exchange : Exchange} {consumed : List Request}
  {waiting replies : List Frame} {board : Board}

/-- The board of an exchange after a step of CPU3. -/
def Exchange.onBoard (exchange : Exchange) (board : Board) (power : Power) : Exchange :=
  { exchange with
    amp := ⟨{ exchange.amp.system with hardware := board.hardware }, board.firmware, power⟩ }

/-- What one step of CPU3 does to the rings of a priority: nothing, the oldest waiting request is
taken, or one reply is added.  The indices say which. -/
inductive Progress (priority : Priority) (before after : Shared) (consumed : List Request)
    (waiting replies : List Frame) : List Request → List Frame → List Frame → Prop where
  | still (forward : after.linuxToCpu3 priority = before.linuxToCpu3 priority)
      (reverse : after.cpu3ToLinux priority = before.cpu3ToLinux priority) :
      Progress priority before after consumed waiting replies consumed waiting replies
  | took (frame : Frame) (rest : List Frame) (head : waiting = frame :: rest)
      (forward : (after.linuxToCpu3 priority).consumer ≠ (before.linuxToCpu3 priority).consumer)
      (reverse : after.cpu3ToLinux priority = before.cpu3ToLinux priority) :
      Progress priority before after consumed waiting replies
        (consumed ++ [frame.request]) rest replies
  | replied (frame : Frame) (forward : after.linuxToCpu3 priority = before.linuxToCpu3 priority)
      (reverse : (after.cpu3ToLinux priority).producer ≠ (before.cpu3ToLinux priority).producer) :
      Progress priority before after consumed waiting replies consumed waiting (replies ++ [frame])

/-- A pop of another priority's forward ring. -/
theorem Flow.popped_other (flow : Flow priority exchange consumed waiting replies)
    {other : Priority} (different : other ≠ priority) {after : Board} (power : Power)
    (shared : after.hardware.shared = exchange.amp.system.hardware.shared.setRing .linux other
      (ringPop (exchange.amp.system.hardware.shared.linuxToCpu3 other)).2.1)
    (build : after.firmware.build = exchange.amp.firmware.build)
    (owes : after.firmware.worker.owes priority = exchange.amp.firmware.worker.owes priority) :
    Flow priority (exchange.onBoard after power) consumed waiting replies := by
  refine flow.still ?_ ?_ rfl build owes
  · simp only [shared, Shared.setRing, Function.update_of_ne different.symm]
  · simp only [shared, Shared.setRing]

/-- One iteration of the drain loop on the client's priority takes the oldest waiting request, if
there is one, and all its answers are then owed. -/
theorem Flow.drained (flow : Flow priority exchange consumed waiting replies)
    (linked : Linked exchange.amp) {visit : Visit}
    (position : exchange.amp.firmware.worker = .draining visit) (power : Power) :
    ∃ consumed' waiting',
      Flow priority (exchange.onBoard (drain exchange.amp.board visit) power) consumed' waiting'
        replies ∧
      Progress priority exchange.amp.system.hardware.shared
        (drain exchange.amp.board visit).hardware.shared consumed waiting replies consumed' waiting'
        replies := by
  have nothing : exchange.amp.firmware.worker.owes priority = [] := by
    rw [position]
    rfl
  by_cases here : visit.priority = priority
  · by_cases quota : visit.handled < drainQuota
    · subst here
      cases waiting with
      | nil =>
          have received := endpointReceive_nil visit.priority linked.cpu3
            linked.cpu3Session flow.forward
          refine ⟨consumed, [], ?_⟩
          simp only [drain, if_pos quota, Amp.board, received]
          exact ⟨flow.still rfl rfl rfl rfl nothing.symm, .still rfl rfl⟩
      | cons frame rest =>
          obtain ⟨isPing, fresh, plain⟩ := flow.requests frame List.mem_cons_self
          have current : frame.generation = exchange.amp.firmware.endpoint.generation := by
            rw [linked.generation]
            exact fresh
          obtain ⟨holds, received⟩ := endpointReceive_cons visit.priority linked.cpu3
            linked.cpu3Session flow.forward current
          refine ⟨consumed ++ [frame.request], rest, ?_⟩
          simp only [drain, if_pos quota, Amp.board, received]
          have moved : ((exchange.amp.system.hardware.shared.setRing Role.cpu3.peer visit.priority
              (ringPop (exchange.amp.system.hardware.shared.ring Role.cpu3.peer
                visit.priority)).2.1).linuxToCpu3 visit.priority).consumer ≠
              (exchange.amp.system.hardware.shared.linuxToCpu3 visit.priority).consumer := by
            simp only [Role.peer, Shared.setRing, Function.update_self]
            exact flow.forward.pop_consumer
          refine ⟨⟨?_, ?_, ?_, flow.reverse, flow.current, ?_⟩, .took frame rest rfl moved rfl⟩
          · rw [List.append_assoc]
            exact flow.written
          · simp only [Exchange.onBoard, Board.work, Board.received, Shared.setRing, Role.peer,
              Function.update_self]
            exact holds
          · intro other member
            exact flow.requests other (List.mem_cons_of_mem _ member)
          · have owes : (answer exchange.amp.firmware.build visit.next frame.committed).owes
                visit.priority = frame.request.answers visit.priority := answer_owes isPing plain
            have earlier := flow.answered
            rw [nothing, List.append_nil] at earlier
            rw [List.flatMap_append, ← earlier, List.flatMap_singleton, ← owes]
            rfl
    · refine ⟨consumed, waiting, ?_⟩
      simp only [drain, if_neg quota]
      exact ⟨flow.still rfl rfl rfl rfl nothing.symm, .still rfl rfl⟩
  · refine ⟨consumed, waiting, ?_⟩
    have kept : ∀ endpoint, Progress priority exchange.amp.system.hardware.shared
        (exchange.amp.board.popped visit.priority endpoint).hardware.shared consumed waiting replies
        consumed waiting replies := by
      intro endpoint
      refine .still ?_ rfl
      simp only [Board.popped, Shared.setRing, Function.update_of_ne (Ne.symm here)]
      rfl
    cases drain_spec exchange.amp.board visit linked.cpu3Bound with
    | untouched moved =>
        rw [moved]
        exact ⟨flow.still rfl rfl rfl rfl nothing.symm, .still rfl rfl⟩
    | idle endpoint binding moved =>
        rw [moved]
        exact ⟨flow.popped_other here power rfl rfl nothing.symm, kept endpoint⟩
    | served endpoint binding request head moved =>
        rw [moved]
        refine ⟨flow.popped_other here power rfl rfl ?_, kept endpoint⟩
        rw [nothing]
        exact answer_owes_other _ request here
    | rejected endpoint binding request reason moved =>
        rw [moved]
        refine ⟨flow.popped_other here power rfl rfl ?_, kept endpoint⟩
        rw [nothing]
        exact reject_owes_other request reason here

/-- The worker has a reply on the priority in hand and there is room for it. -/
def Exchange.HasSpace (exchange : Exchange) (priority : Priority) : Prop :=
  ∀ visit reply next, exchange.amp.firmware.worker = .replying visit reply next →
    visit.priority = priority →
      ringNext (exchange.amp.system.hardware.shared.cpu3ToLinux priority).producer ≠
        (exchange.amp.system.hardware.shared.cpu3ToLinux priority).consumer

/-- The push of a reply: on the client's priority the answer moves into the ring. -/
theorem Flow.replied (flow : Flow priority exchange consumed waiting replies)
    (hasSpace : exchange.HasSpace priority) (linked : Linked exchange.amp) {visit : Visit}
    {reply : Reply}
    {next : Continuation} (position : exchange.amp.firmware.worker = .replying visit reply next)
    (power : Power) :
    ∃ replies',
      Flow priority (exchange.onBoard (sendReply exchange.amp.board visit reply next) power)
        consumed waiting replies' ∧
      Progress priority exchange.amp.system.hardware.shared
        (sendReply exchange.amp.board visit reply next).hardware.shared consumed waiting
          replies consumed
        waiting replies' := by
  by_cases here : visit.priority = priority
  · cases sendReply_spec exchange.amp.board visit reply next linked.cpu3Bound with
    | refused noted frame hardware cause moved =>
        rcases cause with invalid | full
        · exact absurd linked.cpu3Session invalid
        · subst here
          exact absurd full (hasSpace visit reply next position rfl)
    | queued pushed result frame space valid published moved =>
        subst here
        refine ⟨replies ++ [exchange.amp.board.frameOf reply], ?_⟩
        rw [moved]
        have progress : Progress visit.priority exchange.amp.system.hardware.shared
            (pushed.work (.ringing visit result next)).hardware.shared consumed waiting
              replies consumed
            waiting (replies ++ [exchange.amp.board.frameOf reply]) := by
          refine .replied _ ?_ ?_
          · simp only [Board.work, published]
            rfl
          · simp only [Board.work, published, Shared.setRing, Function.update_self]
            exact ringNext_ne _
        refine ⟨⟨flow.written, ?_, ?_, ?_, ?_, ?_⟩, progress⟩
        · simp only [Exchange.onBoard, Board.work, published]
          exact flow.forward
        · simp only [Exchange.onBoard, Board.work, frame.sameImage.build]
          exact flow.requests
        · simp only [Exchange.onBoard, Board.work, published, Shared.setRing, Function.update_self]
          exact flow.reverse.publish space valid
        · intro other member
          rcases List.mem_append.mp member with old | new
          · exact flow.current other old
          · rw [List.mem_singleton.mp new]
            exact linked.generation
        · have earlier := flow.answered
          rw [position] at earlier
          simp only [Worker.owes, if_true] at earlier
          simp only [Exchange.onBoard, Board.work, Worker.owes, if_true, List.map_append,
            List.map_cons, List.map_nil, Board.frameOf_answer]
          rw [← earlier]
          simp
  · have nothing : exchange.amp.firmware.worker.owes priority = [] := by
      rw [position]
      exact if_neg here
    refine ⟨replies, ?_⟩
    cases sendReply_spec exchange.amp.board visit reply next linked.cpu3Bound with
    | refused noted frame hardware cause moved =>
        have shared : noted.hardware.shared = exchange.amp.system.hardware.shared :=
          congrArg Hardware.shared hardware
        have forward := congrArg (fun region => Shared.linuxToCpu3 region priority) shared
        have reverse := congrArg (fun region => Shared.cpu3ToLinux region priority) shared
        rw [moved]
        refine ⟨flow.still forward reverse rfl frame.sameImage.build ?_, .still forward reverse⟩
        rw [nothing]
        exact resume_owes_other false next here
    | queued pushed result frame space valid published moved =>
        have forward : pushed.hardware.shared.linuxToCpu3 priority =
            exchange.amp.system.hardware.shared.linuxToCpu3 priority := by
          rw [published]
          rfl
        have reverse : pushed.hardware.shared.cpu3ToLinux priority =
            exchange.amp.system.hardware.shared.cpu3ToLinux priority := by
          simp only [published, Shared.setRing, Function.update_of_ne (Ne.symm here)]
          rfl
        rw [moved]
        refine ⟨flow.still forward reverse rfl frame.sameImage.build ?_, .still forward reverse⟩
        rw [nothing]
        exact if_neg here

/-- One step of CPU3.  Only the worker pushes replies. -/
theorem Flow.cpu3 (flow : Flow priority exchange consumed waiting replies) {label : FirmwareLabel}
    (hasSpace : label = .worker → exchange.HasSpace priority) (linked : Linked exchange.amp)
    (stepped : firmwareStep exchange.amp.board label = some board) (power : Power) :
    ∃ consumed' waiting' replies',
      Flow priority (exchange.onBoard board power) consumed' waiting' replies' ∧
      Progress priority exchange.amp.system.hardware.shared board.hardware.shared consumed
        waiting replies
        consumed' waiting' replies' := by
  have build := (firmwareStep_sameImage linked.cpu3Bound stepped).build
  have quiet : board.hardware.shared = exchange.amp.system.hardware.shared →
      board.firmware.worker.owes priority = exchange.amp.firmware.worker.owes priority →
      ∃ consumed' waiting' replies',
        Flow priority (exchange.onBoard board power) consumed' waiting' replies' ∧
        Progress priority exchange.amp.system.hardware.shared board.hardware.shared consumed waiting
          replies consumed' waiting' replies' := by
    intro shared owes
    have forward := congrArg (fun region => Shared.linuxToCpu3 region priority) shared
    have reverse := congrArg (fun region => Shared.cpu3ToLinux region priority) shared
    exact ⟨consumed, waiting, replies, flow.still forward reverse rfl build owes,
      .still forward reverse⟩
  cases firmwareStep_activity stepped with
  | handler shared firmware =>
      apply quiet shared
      rw [firmware]
      rfl
  | worker turn stepped =>
      cases workerStep_spec stepped with
      | quiet before silent shared firmware =>
          apply quiet shared
          rw [Worker.owes_silent priority silent]
          exact (Worker.owes_silent priority before).symm
      | drained visit position moved =>
          rw [moved]
          obtain ⟨consumed', waiting', after⟩ := flow.drained linked position power
          exact ⟨consumed', waiting', replies, after⟩
      | replied visit reply next position moved =>
          rw [moved]
          obtain ⟨replies', after⟩ := flow.replied (hasSpace turn) linked position power
          exact ⟨consumed, waiting, replies', after⟩
      | rung visit result next position moved =>
          obtain ⟨rung, frame, rang⟩ := ringReply_spec exchange.amp.board visit result next
          rw [moved, rang] at quiet ⊢
          apply quiet frame.shared
          have position : exchange.amp.firmware.worker = .ringing visit result next := position
          rw [position]
          by_cases here : visit.priority = priority
          · subst here
            exact (resume_owes visit true next).trans (if_pos rfl).symm
          · exact (resume_owes_other true next here).trans (if_neg here).symm
  | cpuOff request position returned moved =>
      have position : exchange.amp.firmware.worker = .poweringOff request := position
      rw [moved] at quiet ⊢
      apply quiet rfl
      rw [position]
      cases returned <;> rfl
  | main turn moved =>
      rw [moved] at quiet ⊢
      have kept : MainKept exchange.amp.board _ := mainStep_kept linked.announced
      apply quiet kept.shared
      rw [kept.worker]
      rfl

end Cpu3

/-! ### Steps of Linux -/

section Linux

variable {priority : Priority} {exchange : Exchange} {consumed : List Request}
  {waiting replies : List Frame} {system : System}

/-- The exchange after a step of Linux that is none of the client's. -/
def Exchange.onSystem (exchange : Exchange) (system : System) (power : Power) : Exchange :=
  { exchange with amp := ⟨system, exchange.amp.firmware, power⟩ }

/-- A send on another priority. -/
theorem SendEffect.forward_other {before after : System} {other : Priority} {type length : U32}
    (effect : SendEffect before after other type length) (different : other ≠ priority) :
    after.hardware.shared.linuxToCpu3 priority = before.hardware.shared.linuxToCpu3 priority := by
  cases effect with
  | nothing same => rw [same]
  | pushed slot typed sized numbered committed space published =>
      simp [published, Shared.setRing, Function.update_of_ne different.symm]

/-- A receive on another priority. -/
theorem ReceiveEffect.reverse_other {before after : System} {other : Priority}
    (effect : ReceiveEffect before after other) (different : other ≠ priority) :
    after.hardware.shared.cpu3ToLinux priority = before.hardware.shared.cpu3ToLinux priority := by
  cases effect with
  | nothing same => rw [same]
  | popped released => simp [released, Shared.setRing, Function.update_of_ne different.symm]

/-- The label of a send uses the priority that it sends on. -/
theorem Sender.uses {label : DriverLabel} {other : Priority} {type length : U32}
    (sender : Sender system label other type length) : label.uses system other = true := by
  cases sender with
  | user found => simp [DriverLabel.uses, found]
  | ping | queuePush => simp [DriverLabel.uses]
  | stop => rfl

/-- The label of a receive uses the priority that it receives on. -/
theorem Receiver.uses {label : DriverLabel} {other : Priority}
    (receiver : Receiver system label other) : label.uses system other = true := by
  cases receiver with
  | user found claimed => simp [DriverLabel.uses, found]
  | control held => rfl
  | response held => simp [DriverLabel.uses, held]

/-- The rings of a priority that a step does not use. -/
theorem RegionStep.unused {label : DriverLabel} {next : System}
    (step : RegionStep system label next)
    (notPeer : label.isPeer = false) (active : next.driver.mailmsgState = .active)
    (unused : label.uses system priority = false) :
    next.hardware.shared.linuxToCpu3 priority = system.hardware.shared.linuxToCpu3 priority ∧
      next.hardware.shared.cpu3ToLinux priority = system.hardware.shared.cpu3ToLinux priority := by
  cases step with
  | same shared peerWrites =>
      rw [shared]
      exact ⟨rfl, rfl⟩
  | peer write isPeer hardware peerWrites =>
      rw [isPeer] at notPeer
      cases notPeer
  | sent sender wasActive effect peerWrites =>
      rename_i other _ _
      have different : other ≠ priority := by
        rintro rfl
        rw [sender.uses] at unused
        cases unused
      refine ⟨effect.forward_other different, ?_⟩
      rw [effect.reverse]
  | received receiver effect peerWrites =>
      rename_i other
      have different : other ≠ priority := by
        rintro rfl
        rw [receiver.uses] at unused
        cases unused
      refine ⟨?_, effect.reverse_other different⟩
      rw [effect.forward]
  | initialised cpuOn launched =>
      rw [launched.state] at active
      split at active <;> cases active

/-- A step of Linux that is none of the client's. -/
theorem Flow.unused (flow : Flow priority exchange consumed waiting replies)
    (linked : Linked exchange.amp) {label : DriverLabel}
    (stepped : driverStep exchange.amp.system label = some system) (notPeer : label.isPeer = false)
    (active : system.driver.mailmsgState = .active)
    (unused : label.uses exchange.amp.system priority = false) (power : Power) :
    Flow priority (exchange.onSystem system power) consumed waiting replies := by
  have rings := (driverStep_region linked.linuxBound stepped).unused notPeer active unused
  have after := linked.linux_step stepped active power
  refine flow.still rings.1 rings.2 ?_ rfl rfl
  rw [← linked.generation, ← after.generation]

/-- With room in the ring, the send of a record is accepted and its request is the last one
waiting. -/
theorem linuxSend_room {system : System} {priority : Priority} {frames : List Frame} (type : U32)
    {payload : Option (Nat → U8)} {length : U32} (bound : system.driver.endpoint.role = some .linux)
    (session : endpointSessionValid system.driver.endpoint system.hardware.shared = .ok)
    (arguments : sendArgumentsValid system.driver.endpoint payload length)
    (holds : (system.hardware.shared.linuxToCpu3 priority).Holds frames)
    (room : frames.length < ringSlots - 1) :
    (linuxSend system priority type payload length).1.ret = .ok ∧
      ((linuxSend system priority type payload length).2.hardware.shared.linuxToCpu3 priority).Holds
        (frames ++ [(sendMessage system.driver.endpoint.generation type
          (endpointNextSequence system.driver.endpoint) length payload).frame]) ∧
      (linuxSend system priority type payload length).2.hardware.shared.cpu3ToLinux =
        system.hardware.shared.cpu3ToLinux ∧
      (linuxSend system priority type payload length).2.driver.endpoint.nextSequence =
        endpointNextSequence system.driver.endpoint := by
  have queueing := endpointSend_sameQueueing (fun priority system => notifyLocked system priority)
    system system.driver.endpoint system.hardware.shared priority type payload length .zero
  obtain ⟨ring, after, report, grown, binding, drawn, -, queued⟩ :=
    endpointEnqueue_room priority type .zero bound session arguments holds room
  rw [queued] at queueing
  refine ⟨queueing.ret, ?_, ?_, ?_⟩
  · simp only [linuxSend, System.store]
    rw [queueing.shared]
    simpa [Shared.setRing] using grown
  · simp only [linuxSend, System.store]
    rw [queueing.shared]
    rfl
  · simp only [linuxSend, System.store]
    rw [queueing.nextSequence]
    exact drawn

/-- The self-off test on the frame of a record. -/
theorem selfOff_sendMessage (build : Build) (priority : Priority) (generation sequence : U32)
    {frame : UserFrame} (short : frame.length.toNat ≤ payloadBytes)
    (plain : frame.selfOff build priority = false) :
    build.selfOff priority (sendMessage generation frame.type sequence frame.length
      (some frame.payloadAt)).frame.committed = false := by
  have value := congrArg Request.value (sendMessage_request generation frame.type sequence frame short)
  simp only [Frame.request] at value
  simp only [Build.selfOff, value]
  simp only [UserFrame.selfOff] at plain
  cases chosen : build.selfOffValue with
  | none => rfl
  | some injected =>
      rw [chosen] at plain
      simp only [Option.any_some, Bool.and_eq_false_iff] at plain ⊢
      rcases plain with (other | sized) | different
      · exact .inl (.inl (.inl other))
      · exact .inl (.inr sized)
      · exact .inr different

/-- A write in ACTIVE is refused without effect, or it is a send whose result it maps. -/
theorem userWrite_active {system : System} (active : system.driver.mailmsgState = .active)
    (file : UserFile) (count : Nat) (copied : Bool) (frame : UserFrame) :
    (∃ value, value < 0 ∧ userWrite system file count copied frame = (value, system)) ∨
      (frame.length.toNat ≤ payloadBytes ∧
        userWrite system file count copied frame =
          let sent := linuxSend system file.priority frame.type (some frame.payloadAt) frame.length
          (if sent.1.ret.code = 0 then (userFrameBytes : Int)
            else if sent.1.ret.code ≤ EndpointResult.invalid.code then
              ringResultToErrno sent.1.ret.code
            else ringResultToErrno sent.1.result.queueResult.code, sent.2)) := by
  have gate : dataGateLocked system.driver = 0 := (dataGateLocked_eq_zero_iff _).mpr active
  by_cases complete : count = userFrameBytes
  · by_cases readable : copied = true
    · by_cases wrong : frame.priority ≠ BitVec.ofNat 32 file.priority.val ∨
          payloadBytes < frame.length.toNat
      · exact .inl ⟨-Errno.inval, by decide, by simp [userWrite, complete, readable, wrong]⟩
      · refine .inr ⟨?_, ?_⟩
        · by_contra long
          exact wrong (.inr (by omega))
        · simp only [userWrite, complete, readable, wrong, gate, ne_eq, not_true_eq_false, if_false]
    · exact .inl ⟨-Errno.fault, by decide, by simp [userWrite, complete, readable]⟩
  · exact .inl ⟨-Errno.inval, by decide, by simp [userWrite, complete]⟩

/-- Without room in the ring a send answers FULL and leaves the region alone. -/
theorem linuxSend_full {system : System} {priority : Priority} {frames : List Frame} (type : U32)
    {payload : Option (Nat → U8)} {length : U32} (bound : system.driver.endpoint.role = some .linux)
    (session : endpointSessionValid system.driver.endpoint system.hardware.shared = .ok)
    (arguments : sendArgumentsValid system.driver.endpoint payload length)
    (holds : (system.hardware.shared.linuxToCpu3 priority).Holds frames)
    (full : ¬ frames.length < ringSlots - 1) :
    (linuxSend system priority type payload length).1.ret = .ring .full ∧
      (linuxSend system priority type payload length).1.result.queueResult = .full ∧
      (linuxSend system priority type payload length).2.hardware.shared = system.hardware.shared := by
  have queueing := endpointSend_sameQueueing (fun priority system => notifyLocked system priority)
    system system.driver.endpoint system.hardware.shared priority type payload length .zero
  have spec := endpointEnqueue_spec system.driver.endpoint system.hardware.shared
    priority type payload
    length .zero
  cases spec with
  | refused ret notFull sameEndpoint sameShared cause =>
      rcases cause with wrong | wrong
      · exact absurd arguments wrong
      · exact absurd session wrong
  | pushed role hasRole valid checked push =>
      rw [bound] at hasRole
      cases hasRole
      cases push with
      | full noSpace ret queueResult sameShared counted =>
          exact ⟨queueing.ret.trans ret, queueing.queueResult.trans queueResult,
            queueing.shared.trans sameShared⟩
      | queued space ret sequence pushed published sameRole sameGeneration drawn =>
          have length := holds.length_le
          exact absurd (holds.full_iff.mpr (by omega)) space

/-- The exchange after a write of the client with this result. -/
def Exchange.afterWrite (exchange : Exchange) (result : Int × System) (value : U32)
    (power : Power) :
    Exchange where
  amp := ⟨result.2, exchange.amp.firmware, power⟩
  written := exchange.written ++
    if result.1 = userFrameBytes then [⟨result.2.driver.endpoint.nextSequence, value⟩] else []
  received := exchange.received

/-- A write that fails adds no request. -/
theorem Exchange.afterWrite_refused (exchange : Exchange) {result : Int × System} (value : U32)
    (power : Power) (failed : result.1 ≠ (userFrameBytes : Int)) :
    exchange.afterWrite result value power =
      { exchange with amp := ⟨result.2, exchange.amp.firmware, power⟩ } := by
  simp only [Exchange.afterWrite, if_neg failed, List.append_nil]

/-- A write of the client: its record waits behind the others, or it is refused without effect. -/
theorem Flow.wrote (flow : Flow priority exchange consumed waiting replies)
    (linked : Linked exchange.amp) (active : exchange.amp.system.driver.mailmsgState = .active)
    {file : UserFile} (own : file.priority = priority) (count : Nat) (copied : Bool)
    {frame : UserFrame} (isPing : frame.type = MessageType.ping)
    (plain : frame.selfOff exchange.amp.firmware.build priority = false) (power : Power) :
    ∃ waiting, Flow priority
      (exchange.afterWrite (userWrite exchange.amp.system file count copied frame) frame.value power)
      consumed waiting replies := by
  subst own
  rcases userWrite_active active file count copied frame with ⟨value, negative, refused⟩
    | ⟨short, sent⟩
  · have failed : value ≠ (userFrameBytes : Int) := by
      simp only [userFrameBytes]
      omega
    refine ⟨waiting, ?_⟩
    rw [refused, Exchange.afterWrite_refused _ _ _ failed]
    exact flow.still rfl rfl rfl rfl rfl
  have arguments : sendArgumentsValid exchange.amp.system.driver.endpoint (some frame.payloadAt)
      frame.length := by
    simp [sendArgumentsValid, linked.linux, short]
  have generation := (linuxSend_step exchange.amp.system file.priority frame.type
    (some frame.payloadAt) frame.length linked.linuxBound).generation
  by_cases room : waiting.length < ringSlots - 1
  · obtain ⟨ret, forward, reverse, drawn⟩ := linuxSend_room frame.type linked.linux
      linked.linuxSession arguments flow.forward room
    simp only [ret] at sent
    rw [sent]
    refine ⟨_, ?_, forward, ?_, ?_, ?_, flow.answered⟩
    · simp only [Exchange.afterWrite, flow.written, drawn]
      rw [List.map_append, List.map_singleton, sendMessage_request _ _ _ frame short]
      exact List.append_assoc _ _ _
    · intro other member
      simp only [Exchange.afterWrite, generation]
      rcases List.mem_append.mp member with old | new
      · exact flow.requests other old
      · rw [List.mem_singleton.mp new]
        exact ⟨isPing, rfl, selfOff_sendMessage _ _ _ _ short plain⟩
    · simp only [Exchange.afterWrite, reverse]
      exact flow.reverse
    · simp only [Exchange.afterWrite, generation]
      exact flow.current
  · obtain ⟨ret, queueResult, shared⟩ := linuxSend_full frame.type linked.linux linked.linuxSession
      arguments flow.forward room
    simp only [ret, queueResult] at sent
    rw [sent]
    refine ⟨waiting, ?_⟩
    have failed : ringResultToErrno RingResult.full.code ≠ (userFrameBytes : Int) := by decide
    rw [Exchange.afterWrite_refused _ _ _ failed]
    refine flow.still ?_ ?_ generation rfl rfl
    · rw [shared]
    · rw [shared]

/-- The exchange after a read of the client with this result. -/
def Exchange.afterRead (exchange : Exchange) (result : ReadOutcome × System) (power : Power) :
    Exchange where
  amp := ⟨result.2, exchange.amp.firmware, power⟩
  written := exchange.written
  received := exchange.received ++
    match result.1 with
    | .delivered frame => [frame]
    | _ => []

/-- A read of the client takes the oldest answer in the ring, if there is one. -/
theorem Flow.read (flow : Flow priority exchange consumed waiting replies)
    (linked : Linked exchange.amp) (active : exchange.amp.system.driver.mailmsgState = .active)
    {file : UserFile} (own : file.priority = priority) (power : Power) :
    ∃ replies, Flow priority
      (exchange.afterRead (userRead exchange.amp.system file true) power) consumed
        waiting replies := by
  have gate : dataGateLocked exchange.amp.system.driver = 0 :=
    (dataGateLocked_eq_zero_iff _).mpr active
  subst own
  cases replies with
  | nil =>
      have received := endpointReceive_nil file.priority linked.linux
        linked.linuxSession flow.reverse
      have value : ∃ outcome, (∀ frame, outcome ≠ .delivered frame) ∧
          userRead exchange.amp.system file true = (outcome, exchange.amp.system) := by
        simp only [userRead, gate, linuxReceive, received]
        cases file.nonblock with
        | true => exact ⟨_, by simp, rfl⟩
        | false => exact ⟨_, by simp, rfl⟩
      obtain ⟨outcome, nothing, value⟩ := value
      refine ⟨[], ?_⟩
      rw [value]
      cases outcome with
      | delivered frame => exact absurd rfl (nothing frame)
      | returned | sleeps =>
          simp only [Exchange.afterRead, List.append_nil]
          exact flow.still rfl rfl rfl rfl rfl
  | cons frame rest =>
      obtain ⟨holds, received⟩ := endpointReceive_cons file.priority linked.linux
        linked.linuxSession flow.reverse (flow.current frame List.mem_cons_self)
      have value : userRead exchange.amp.system file true =
          (.delivered (userFrameOf file.priority frame.committed),
            exchange.amp.system.store
              (exchange.amp.system.driver.endpoint.updateStats file.priority fun stats =>
                stats.received .ok)
              (exchange.amp.system.hardware.shared.setRing .cpu3 file.priority
                (ringPop (exchange.amp.system.hardware.shared.cpu3ToLinux file.priority)).2.1)) := by
        simp only [userRead, gate, linuxReceive, received]
        rfl
      refine ⟨rest, ?_⟩
      rw [value]
      refine ⟨flow.written, flow.forward, flow.requests, ?_, ?_, ?_⟩
      · simp only [Exchange.afterRead, System.store, Shared.setRing, Function.update_self]
        exact holds
      · intro other member
        exact flow.current other (List.mem_cons_of_mem _ member)
      · have earlier := flow.answered
        simp only [Exchange.afterRead, List.map_append, List.map_cons, List.map_nil,
          userFrameOf_answer]
        rw [← earlier]
        simp

end Linux

/-! ### A client inside a session -/

/-- What holds in every state of a client on its own priority, as long as CPU3 finds room for its
replies. -/
structure Served (priority : Priority) (exchange : Exchange) : Prop where
  linked : Linked exchange.amp
  active : exchange.amp.system.driver.mailmsgState = .active
  booted : exchange.amp.power ≠ .pending
  flow : ∃ consumed waiting replies, Flow priority exchange consumed waiting replies

section Served

variable {priority : Priority} {exchange next : Exchange}

theorem Exchange.Fresh.served (fresh : exchange.Fresh priority) : Served priority exchange := by
  obtain ⟨build, reached⟩ := fresh.reached
  refine ⟨active_linked reached fresh.running fresh.active, fresh.active,
    by simp [fresh.running], [],
    [], [], ?_⟩
  refine ⟨by rw [fresh.written]; rfl, fresh.forward, by simp, fresh.reverse, by simp, ?_⟩
  rw [fresh.received, fresh.idle]
  rfl

/-- What a step of the exchange is made of. -/
theorem advance_eq_some {label : AmpLabel} (taken : exchange.advance priority label = some next) :
    ∃ amp, ampStep exchange.amp label = some amp ∧ amp.system.driver.mailmsgState = .active ∧
      next =
        { amp := amp
          written := exchange.written ++ exchange.wrote priority amp label
          received := exchange.received ++ exchange.read priority label } := by
  simp only [Exchange.advance] at taken
  obtain ⟨amp, stepped, rest⟩ := Option.bind_eq_some_iff.mp taken
  split at rest
  · rename_i active
    exact ⟨amp, stepped, active, (Option.some.inj rest).symm⟩
  · cases rest

/-- A step that does not use the priority is no write and no read of the client. -/
theorem unused_notes {label : DriverLabel}
    (unused : label.uses exchange.amp.system priority = false) (amp : Amp) :
    exchange.wrote priority amp (.linux label) = [] ∧
      exchange.read priority (.linux label) = [] := by
  cases label with
  | write id count copied frame =>
      refine ⟨?_, rfl⟩
      simp only [Exchange.wrote]
      cases found : exchange.amp.system.file? id with
      | none => rfl
      | some file =>
          have other : file.priority ≠ priority := by simpa [DriverLabel.uses, found] using unused
          exact if_neg (fun both => other both.1)
  | read id copied =>
      refine ⟨rfl, ?_⟩
      simp only [Exchange.read]
      cases found : exchange.amp.system.file? id with
      | none => rfl
      | some file =>
          have other : file.priority ≠ priority := by simpa [DriverLabel.uses, found] using unused
          exact if_neg other
  | _ => exact ⟨rfl, rfl⟩

/-- A write or a read that uses the priority is made on a file of that priority. -/
theorem file_of_uses {system : System} {id : Nat}
    (used : ((system.file? id).any fun file => file.priority == priority) = true) :
    ∃ file, system.file? id = some file ∧ file.priority = priority := by
  cases found : system.file? id with
  | none => simp [found] at used
  | some file =>
      rw [found] at used
      exact ⟨file, rfl, beq_iff_eq.mp used⟩

/-- A step of Linux inside the session does not power CPU3 on. -/
theorem Served.unpowered (served : Served priority exchange) {label : DriverLabel} {system : System}
    (stepped : driverStep exchange.amp.system label = some system)
    (active : system.driver.mailmsgState = .active) :
    exchange.amp.system.poweredOn system = false := by
  by_contra powered
  have launched := poweredOn_launched
    (driverStep_lifecycle served.linked.linuxBound served.linked.held stepped)
    (Bool.not_eq_false _ ▸ powered)
  rw [launched.state] at active
  cases active

/-- A step of Linux, the client's own write or read or a step that does not use its priority: CPU3
consumes nothing in it. -/
theorem Flow.linux_step {consumed : List Request} {waiting replies : List Frame}
    (flow : Flow priority exchange consumed waiting replies) (served : Served priority exchange)
    {label : DriverLabel} (proper : exchange.proper priority (.linux label) = true)
    (taken : exchange.advance priority (.linux label) = some next) :
    ∃ waiting' replies', Flow priority next consumed waiting' replies' := by
  obtain ⟨amp, boardStep, active, rfl⟩ := advance_eq_some taken
  obtain ⟨notPeer, answers, system, stepped, rfl⟩ := ampStep_linux boardStep
  cases used : label.uses exchange.amp.system priority with
  | false =>
      obtain ⟨noWrite, noRead⟩ := unused_notes used
        ⟨system, exchange.amp.firmware,
          if exchange.amp.system.poweredOn system then .pending else exchange.amp.power⟩
      rw [noWrite, noRead, List.append_nil, List.append_nil]
      exact ⟨waiting, replies, flow.unused served.linked stepped notPeer active used _⟩
  | true =>
      cases label with
      | write id count copied frame =>
          simp only [Exchange.proper, used, Bool.not_true, Bool.false_or, Bool.and_eq_true,
            beq_iff_eq, Bool.not_eq_true'] at proper
          obtain ⟨isPing, plain⟩ := proper
          obtain ⟨file, found, own⟩ := file_of_uses used
          have result : system = (userWrite exchange.amp.system file count copied frame).2 := by
            cases driverStep_kind stepped with
            | locked free taken =>
                simp only [lockedStep, found, Option.map_some] at taken
                exact (Option.some.inj taken).symm
          subst result
          obtain ⟨waiting, after⟩ :=
            flow.wrote served.linked served.active own count copied isPing plain
            (if exchange.amp.system.poweredOn _ then .pending else exchange.amp.power)
          refine ⟨waiting, replies, ?_⟩
          simp only [Exchange.afterWrite] at after
          simpa only [Exchange.wrote, Exchange.read, found, own, true_and,
            List.append_nil] using after
      | read id copied =>
          simp only [Exchange.proper, used, Bool.not_true, Bool.false_or] at proper
          subst proper
          obtain ⟨file, found, own⟩ := file_of_uses used
          have result : system = (userRead exchange.amp.system file true).2 := by
            cases driverStep_kind stepped with
            | locked free taken =>
                obtain ⟨claimed, filtered, rfl⟩ := Option.map_eq_some_iff.mp taken
                have same := (Option.filter_eq_some_iff.mp filtered).1
                rw [found] at same
                cases same
                rfl
          subst result
          obtain ⟨replies, after⟩ := flow.read served.linked served.active own
            (if exchange.amp.system.poweredOn _ then .pending else exchange.amp.power)
          refine ⟨waiting, replies, ?_⟩
          simp only [Exchange.afterRead] at after
          simpa only [Exchange.wrote, Exchange.read, found, own, if_true,
            List.append_nil] using after
      | _ =>
          simp only [Exchange.proper, used, Bool.not_true, Bool.false_eq_true] at proper

theorem Served.linux_step (served : Served priority exchange) {label : DriverLabel}
    (proper : exchange.proper priority (.linux label) = true)
    (taken : exchange.advance priority (.linux label) = some next) : Served priority next := by
  obtain ⟨consumed, waiting, replies, flow⟩ := served.flow
  obtain ⟨waiting', replies', after⟩ := flow.linux_step served proper taken
  obtain ⟨amp, boardStep, active, rfl⟩ := advance_eq_some taken
  obtain ⟨notPeer, answers, system, stepped, rfl⟩ := ampStep_linux boardStep
  refine ⟨served.linked.linux_step stepped active _, active, ?_, consumed, waiting',
    replies', after⟩
  simpa [served.unpowered stepped active] using served.booted

/-- A step of CPU3 and what it did to the rings of the priority. -/
theorem Flow.cpu3_step {consumed : List Request} {waiting replies : List Frame}
    (flow : Flow priority exchange consumed waiting replies) (served : Served priority exchange)
    {label : FirmwareLabel} (hasSpace : label = .worker → exchange.HasSpace priority)
    (taken : exchange.advance priority (.cpu3 label) = some next) :
    ∃ consumed' waiting' replies', Flow priority next consumed' waiting' replies' ∧
      Progress priority exchange.amp.system.hardware.shared next.amp.system.hardware.shared consumed
        waiting replies consumed' waiting' replies' := by
  obtain ⟨amp, boardStep, active, rfl⟩ := advance_eq_some taken
  obtain ⟨running, board, stepped, rfl⟩ := ampStep_cpu3 boardStep
  obtain ⟨consumed', waiting', replies', after, progress⟩ :=
    flow.cpu3 hasSpace served.linked stepped
    (if board.firmware.worker.isOff then .off else .on)
  refine ⟨consumed', waiting', replies', ?_, progress⟩
  simpa [Exchange.wrote, Exchange.read, Exchange.onBoard] using after

theorem Served.cpu3_step (served : Served priority exchange) {label : FirmwareLabel}
    (hasSpace : label = .worker → exchange.HasSpace priority)
    (taken : exchange.advance priority (.cpu3 label) = some next) : Served priority next := by
  obtain ⟨consumed, waiting, replies, flow⟩ := served.flow
  obtain ⟨consumed', waiting', replies', after, -⟩ := flow.cpu3_step served hasSpace taken
  obtain ⟨amp, boardStep, active, rfl⟩ := advance_eq_some taken
  obtain ⟨running, board, stepped, rfl⟩ := ampStep_cpu3 boardStep
  refine ⟨served.linked.cpu3_step stepped _, active, ?_, consumed', waiting', replies', after⟩
  simp only
  split <;> simp

/-- A step of the board with a client on the priority. -/
theorem Served.step (served : Served priority exchange) (hasSpace : exchange.HasSpace priority)
    {label : AmpLabel} (proper : exchange.proper priority label = true)
    (taken : exchange.advance priority label = some next) : Served priority next := by
  cases label with
  | linux label => exact served.linux_step proper taken
  | cpu3 label => exact served.cpu3_step (fun _ => hasSpace) taken
  | boot =>
      obtain ⟨amp, boardStep, -, -⟩ := advance_eq_some taken
      simp only [ampStep, if_neg served.booted] at boardStep
      cases boardStep

end Served

end MailMsg
