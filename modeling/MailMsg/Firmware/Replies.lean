/-
Module: MailMsg.Firmware.Replies
Purpose: What one call of the CPU3 service sends: the replies that it attempts at a priority are
  those of the reliability policy for the frames that it consumed there, in order, and a reply is
  dropped exactly when its ring is full.
Source: LZAMP/firmware/zephyr/app/src/main.c (mailmsg_pingpong_test_service, mailmsg_send_feedback,
  mailmsg_send_stop_feedback, mailmsg_send_pong)
Trusted boundary: between two steps of the call the interrupt handler may run, and Linux may send
  frames and take replies
Main exports: Service.Beside, Service.serviceSteps, Service.policy, Service.owed,
  Service.step_accounts, Service.service_reply_policy
-/
import MailMsg.Firmware.Drain

namespace MailMsg.Service

/-! ### One call, step by step -/

/-- What may happen between two steps of a call: the interrupt handler, Linux appending frames to
its rings, and Linux taking replies. -/
structure Beside (before after : Board) : Prop where
  firmware : after.firmware =
    { before.firmware with
      pendingPriorities := after.firmware.pendingPriorities
      workSem := after.firmware.workSem
      isr := after.firmware.isr
      irqCount := after.firmware.irqCount }
  magic : after.hardware.shared.magic = before.hardware.shared.magic
  version : after.hardware.shared.version = before.hardware.shared.version
  generation : after.hardware.shared.generation = before.hardware.shared.generation
  forward : ∀ priority, (before.hardware.shared.linuxToCpu3 priority).WellFormed →
    (after.hardware.shared.linuxToCpu3 priority).WellFormed ∧
      ∃ sent, (after.hardware.shared.linuxToCpu3 priority).contents =
        (before.hardware.shared.linuxToCpu3 priority).contents ++ sent
  reverse : ∀ priority, (before.hardware.shared.cpu3ToLinux priority).WellFormed →
    (after.hardware.shared.cpu3ToLinux priority).WellFormed ∧
      ∃ read, (before.hardware.shared.cpu3ToLinux priority).contents =
        read ++ (after.hardware.shared.cpu3ToLinux priority).contents

/-- One step of the worker inside a call: where its previous step left the board, the board when it
is its turn again, and the board after it. -/
structure ServiceStep where
  idle : Board
  before : Board
  after : Board

/-- The steps of one call, in order, with what the call returns. -/
def serviceSteps (surroundings : Nat → Board → Board) (index : Nat) :
    Nat → Board → Option (List ServiceStep × Round × Board)
  | 0, _ => none
  | fuel + 1, board =>
      match board.firmware.worker with
      | .reporting round => some ([], round, board)
      | _ =>
          match workerStep (surroundings index board) with
          | none => none
          | some next =>
              (serviceSteps surroundings (index + 1) fuel next).map fun returned =>
                (⟨board, surroundings index board, next⟩ :: returned.1, returned.2)

theorem serviceSteps_reporting {surroundings : Nat → Board → Board} {index fuel : Nat}
    {board : Board} {round : Round} (position : board.firmware.worker = .reporting round) :
    serviceSteps surroundings index (fuel + 1) board = some ([], round, board) := by
  simp [serviceSteps, position]

theorem serviceSteps_step {surroundings : Nat → Board → Board} {index fuel : Nat} {board : Board}
    (running : isReporting board.firmware.worker = false) :
    serviceSteps surroundings index (fuel + 1) board =
      (workerStep (surroundings index board)).bind fun next =>
        (serviceSteps surroundings (index + 1) fuel next).map fun returned =>
          (⟨board, surroundings index board, next⟩ :: returned.1, returned.2) := by
  simp only [serviceSteps]
  split
  · rename_i round position
    rw [position] at running
    cases running
  · cases workerStep (surroundings index board) <;> rfl

/-- A worker that stands behind the service. -/
theorem reporting_of_isReporting {worker : Worker} (done : isReporting worker = true) :
    ∃ round, worker = .reporting round := by
  cases worker with
  | reporting round => exact ⟨round, rfl⟩
  | _ => cases done

/-- The steps are those of the call. -/
theorem serviceSteps_call (surroundings : Nat → Board → Board) (index fuel : Nat) (board : Board) :
    (serviceSteps surroundings index fuel board).map Prod.snd =
      serviceCall surroundings index fuel board := by
  induction fuel generalizing index board with
  | zero => rfl
  | succ fuel inductionHypothesis =>
      cases running : isReporting board.firmware.worker with
      | true =>
          obtain ⟨round, position⟩ := reporting_of_isReporting running
          rw [serviceSteps_reporting position]
          simp [serviceCall, position]
      | false =>
          rw [serviceSteps_step running, serviceCall_step running, Option.map_bind]
          congr 1
          funext next
          rw [← inductionHypothesis, Function.comp_apply, Option.map_map]
          rfl

/-! ### What a call does, as seen from outside -/

/-- The frame that a step takes from the forward ring of a priority. -/
def ServiceStep.consumed (step : ServiceStep) (priority : Priority) : List Message :=
  match step.before.firmware.worker with
  | .draining visit =>
      if visit.priority = priority ∧ visit.handled < drainQuota then
        (endpointReceive step.before.firmware.endpoint step.before.hardware.shared
          priority).message.toList
      else []
  | _ => []

/-- The reply that a step offers to the reverse ring of a priority. -/
def ServiceStep.attempted (step : ServiceStep) (priority : Priority) : List Reply :=
  match step.before.firmware.worker with
  | .replying visit reply _ => if visit.priority = priority then [reply] else []
  | _ => []

/-- The frames that Linux appended to the forward ring of a priority before a step. -/
def ServiceStep.arrived (step : ServiceStep) (priority : Priority) : List Message :=
  (step.before.hardware.shared.linuxToCpu3 priority).contents.drop
    (step.idle.hardware.shared.linuxToCpu3 priority).contents.length

/-- The type, the length and the little-endian words that a reply carries. -/
structure ReplyView where
  type : U32
  length : U32
  words : List U32
deriving DecidableEq

def replyView (reply : Reply) : ReplyView where
  type := reply.type
  length := reply.length
  words := (List.range (reply.length.toNat / 4)).map fun word => payloadU32 reply.payload (4 * word)

/-- The reliability policy, for a build without stop control: what is sent back for one consumed
frame. -/
def policy (generation : U32) (priority : Priority) (frame : Message) : List ReplyView :=
  let feedback (type status : U32) : ReplyView := ⟨type, 8, [frame.sequence, status]⟩
  if frame.malformed then
    if priority.val ≤ 1 then [feedback MessageType.nack nackInvalidFrame] else []
  else if frame.crc32 ≠ frameCrc32 frame then
    if priority.val ≤ 1 then [feedback MessageType.nack nackBadCrc] else []
  else if frame.generation ≠ generation then []
  else if priority.val = 0 ∧ frame.type = MessageType.stopRequest then
    [feedback MessageType.stopRefused
      (if frame.length = 0#32 then stopRefusedBusy else stopRefusedInvalidRequest)]
  else
    (if priority.val ≤ 1 then [feedback MessageType.ack 0] else []) ++
      [⟨if frame.type = MessageType.ping then MessageType.pong else MessageType.nop, 4,
        [payloadU32 frame.payloadAt 0 + 1]⟩]

/-- The reverse rings after one step of the call: a reply is appended to the ring of its priority
unless that ring holds seven frames, and nothing else is written. -/
structure ReverseEffect (generation : U32) (step : ServiceStep) (priority : Priority) : Prop where
  silent : step.attempted priority = [] →
    step.after.hardware.shared.cpu3ToLinux priority =
      step.before.hardware.shared.cpu3ToLinux priority
  full : ∀ reply ∈ step.attempted priority,
    (step.before.hardware.shared.cpu3ToLinux priority).contents.length = ringSlots - 1 →
      step.after.hardware.shared.cpu3ToLinux priority =
        step.before.hardware.shared.cpu3ToLinux priority
  room : ∀ reply ∈ step.attempted priority,
    (step.before.hardware.shared.cpu3ToLinux priority).contents.length ≠ ringSlots - 1 →
      ∃ message : Message, message.generation = generation ∧ message.type = reply.type ∧
        message.length = reply.length ∧ message.payloadAt = reply.bytes ∧
        message.commit = message.sequence ∧ message.crc32 = frameCrc32 message ∧
        (step.after.hardware.shared.cpu3ToLinux priority).contents =
          (step.before.hardware.shared.cpu3ToLinux priority).contents ++ [message]

/-! ### The board during a call -/

/-- The worker is inside the service, and not on a way to CPU_OFF. -/
def Staying : Worker → Prop
  | .replying _ _ (.cpuOff _) | .ringing _ _ (.cpuOff _) => False
  | .entering _ | .scanning _ _ | .draining _ | .replying _ _ _ | .ringing _ _ _ | .checking _
  | .reporting _ => True
  | _ => False

/-- The board at any moment of a call: an image without the ways to CPU_OFF, a valid session, and
rings whose indices are inside their arrays. -/
structure Engaged (generation : U32) (board : Board) : Prop where
  noStop : board.firmware.build.stopControl = false
  noSelfOff : board.firmware.build.selfOffValue = none
  bound : board.firmware.endpoint.role = some .cpu3
  session : endpointSessionValid board.firmware.endpoint board.hardware.shared = .ok
  generation : board.firmware.endpoint.generation = generation
  forward : ∀ priority, (board.hardware.shared.linuxToCpu3 priority).WellFormed
  reverse : ∀ priority, (board.hardware.shared.cpu3ToLinux priority).WellFormed
  staying : Staying board.firmware.worker

section Engaged

variable {generation : U32} {before after : Board}

theorem Engaged.boundBy (engaged : Engaged generation before) :
    before.firmware.endpoint.BoundBy .cpu3 := by
  intro role hasRole
  exact Option.some.inj (hasRole.symm.trans engaged.bound)

theorem Engaged.selfOff (engaged : Engaged generation before) (priority : Priority)
    (frame : Message) : before.firmware.build.selfOff priority frame = false := by
  simp [Build.selfOff, engaged.noSelfOff]

/-- The surroundings keep the call going. -/
theorem Engaged.beside (engaged : Engaged generation before) (beside : Beside before after) :
    Engaged generation after where
  noStop := by rw [beside.firmware]; exact engaged.noStop
  noSelfOff := by rw [beside.firmware]; exact engaged.noSelfOff
  bound := by rw [beside.firmware]; exact engaged.bound
  session := by
    rw [← engaged.session]
    apply session_congr _ beside.magic beside.version beside.generation
    rw [beside.firmware]
    exact .refl _
  generation := by rw [beside.firmware]; exact engaged.generation
  forward := fun priority => (beside.forward priority (engaged.forward priority)).1
  reverse := fun priority => (beside.reverse priority (engaged.reverse priority)).1
  staying := by rw [beside.firmware]; exact engaged.staying

/-- A step of the worker keeps the call going when it keeps the image, the binding, the header and
the indices. -/
theorem Engaged.carry (engaged : Engaged generation before)
    (build : after.firmware.build = before.firmware.build)
    (binding : before.firmware.endpoint.SameBinding after.firmware.endpoint)
    (magic : after.hardware.shared.magic = before.hardware.shared.magic)
    (version : after.hardware.shared.version = before.hardware.shared.version)
    (header : after.hardware.shared.generation = before.hardware.shared.generation)
    (forward : ∀ priority, (after.hardware.shared.linuxToCpu3 priority).WellFormed)
    (reverse : ∀ priority, (after.hardware.shared.cpu3ToLinux priority).WellFormed)
    (staying : Staying after.firmware.worker) : Engaged generation after where
  noStop := by rw [build]; exact engaged.noStop
  noSelfOff := by rw [build]; exact engaged.noSelfOff
  bound := binding.role.trans engaged.bound
  session := (session_congr binding magic version header).trans engaged.session
  generation := binding.generation.trans engaged.generation
  forward := forward
  reverse := reverse
  staying := staying

end Engaged

/-! ### Where one receive leads -/

/-- Where the worker goes after a receive of the drain loop. -/
def afterReceive (build : Build) (visit : Visit) : EndpointResult → Option Message → Worker
  | .ring .ok, some request => answer build visit.next request
  | .ring .badCrc, some request => reject visit.next request nackBadCrc
  | .ring .invalid, some request => reject visit.next request nackInvalidFrame
  | _, _ => .checking visit

/-- One iteration of the drain loop below its quota. -/
structure Drains (generation : U32) (board : Board) (visit : Visit)
    (ret : EndpointResult) (ring : Ring) (message : Option Message) : Prop where
  found : Found generation (board.hardware.shared.linuxToCpu3 visit.priority) ret ring message
  received : (endpointReceive board.firmware.endpoint board.hardware.shared visit.priority).message =
    message
  worker : (drain board visit).firmware.worker = afterReceive board.firmware.build visit ret message
  shared : (drain board visit).hardware.shared =
    board.hardware.shared.setRing .linux visit.priority ring
  build : (drain board visit).firmware.build = board.firmware.build
  binding : board.firmware.endpoint.SameBinding (drain board visit).firmware.endpoint

/-- An iteration below the quota receives, counts a bad frame, and goes where the result leads. -/
theorem drain_eq (board : Board) {visit : Visit} (quota : visit.handled < drainQuota) :
    ∃ counted : Board,
      (counted = board.received
          (endpointReceive board.firmware.endpoint board.hardware.shared visit.priority) ∨
        counted = (board.received
          (endpointReceive board.firmware.endpoint board.hardware.shared
            visit.priority)).countRxError) ∧
      drain board visit = counted.work (afterReceive board.firmware.build visit
        (endpointReceive board.firmware.endpoint board.hardware.shared visit.priority).ret
        (endpointReceive board.firmware.endpoint board.hardware.shared visit.priority).message) := by
  simp only [drain, if_pos quota]
  generalize endpointReceive board.firmware.endpoint board.hardware.shared visit.priority = outcome
  obtain ⟨ret, endpoint, shared, message⟩ := outcome
  cases message with
  | none =>
      refine ⟨_, .inl rfl, ?_⟩
      cases ret with
      | ring result => cases result <;> rfl
      | invalid | protocolMismatch | staleSession | staleFrame => rfl
  | some request =>
      cases ret with
      | ring result =>
          cases result with
          | badCrc | invalid => exact ⟨_, .inr rfl, rfl⟩
          | ok | empty | full | incomplete => exact ⟨_, .inl rfl, rfl⟩
      | invalid | protocolMismatch | staleSession | staleFrame => exact ⟨_, .inl rfl, rfl⟩

theorem drain_drains {generation : U32} {board : Board} (engaged : Engaged generation board)
    {visit : Visit} (quota : visit.handled < drainQuota) :
    ∃ ret ring message, Drains generation board visit ret ring message := by
  obtain ⟨ret, ring, message, found, received⟩ :=
    endpointReceive_found visit.priority engaged.bound engaged.session
  rw [engaged.generation] at found
  obtain ⟨counted, counts, drained⟩ := drain_eq board quota
  rw [received] at counts drained
  have binding : board.firmware.endpoint.SameBinding
      (board.firmware.endpoint.updateStats visit.priority fun stats => stats.received ret) :=
    Endpoint.sameBinding_updateStats _ _ _
  refine ⟨ret, ring, message, found, by rw [received], ?_, ?_, ?_, ?_⟩
  · rw [drained]
    rfl
  · rw [drained]
    rcases counts with rfl | rfl <;> rfl
  · rw [drained]
    rcases counts with rfl | rfl <;> rfl
  · rw [drained]
    rcases counts with rfl | rfl <;> exact binding

/-! ### What the worker still owes

The replies of the frames taken so far are sent or owed.  An owed reply is at the head of the
worker's position, so it is sent before the next frame is taken.
-/

/-- The reply that follows the one being sent. -/
def owedAfter : Continuation → List ReplyView
  | .pong request => [replyView (pongReply request)]
  | .drain | .leave | .cpuOff _ => []

/-- The replies at a priority that the worker has decided on and not yet offered to the ring. -/
def owed (priority : Priority) : Worker → List ReplyView
  | .replying visit reply next =>
      if visit.priority = priority then replyView reply :: owedAfter next else []
  | .ringing visit _ next => if visit.priority = priority then owedAfter next else []
  | _ => []

theorem priorityIsReliable_iff (priority : Priority) :
    priorityIsReliable priority = true ↔ priority.val ≤ 1 := by
  revert priority
  decide

theorem replyView_feedback (type peerSequence status : U32) :
    replyView (feedbackReply type peerSequence status) = ⟨type, 8, [peerSequence, status]⟩ := by
  have first : payloadU32 (feedbackReply type peerSequence status).payload 0 = peerSequence := by
    simp only [feedbackReply]
    rw [payloadU32_store_of_disjoint _ _ (.inl (Nat.le_refl 4)), payloadU32_store]
  have second : payloadU32 (feedbackReply type peerSequence status).payload 4 = status := by
    simp only [feedbackReply]
    rw [payloadU32_store]
  have count : (feedbackReply type peerSequence status).length.toNat / 4 = 2 := by
    simp [feedbackReply]
  have words : (List.range ((feedbackReply type peerSequence status).length.toNat / 4)).map
      (fun word => payloadU32 (feedbackReply type peerSequence status).payload (4 * word)) =
        [peerSequence, status] := by
    rw [count]
    simp [List.range_succ, first, second]
  rw [replyView, words]
  rfl

theorem replyView_pong (request : Message) :
    replyView (pongReply request) =
      ⟨if request.type = MessageType.ping then MessageType.pong else MessageType.nop, 4,
        [payloadU32 request.payloadAt 0 + 1]⟩ := by
  have word : payloadU32 (pongReply request).payload 0 = payloadU32 request.payloadAt 0 + 1 := by
    simp only [pongReply]
    rw [payloadU32_store]
  have count : (pongReply request).length.toNat / 4 = 1 := by
    simp [pongReply]
  have words : (List.range ((pongReply request).length.toNat / 4)).map
      (fun word => payloadU32 (pongReply request).payload (4 * word)) =
        [payloadU32 request.payloadAt 0 + 1] := by
    rw [count]
    simp [List.range_succ, word]
  rw [replyView, words]
  rfl

theorem owedAfter_resume (priority : Priority) (visit : Visit) {next : Continuation}
    (staying : ∀ request, next ≠ .cpuOff request) (accepted : Bool) :
    owed priority (next.resume visit accepted) =
      if visit.priority = priority then owedAfter next else [] := by
  cases next with
  | drain | leave => simp [Continuation.resume, owed, owedAfter]
  | pong request => simp [Continuation.resume, owed, owedAfter]
  | cpuOff request => exact absurd rfl (staying request)

/-- A frame that fails its checks is answered by a NACK at a reliable priority. -/
theorem owed_reject (priority : Priority) (visit : Visit) (frame : Message) (reason : U32) :
    owed priority (reject visit frame reason) =
      if visit.priority = priority then
        if priority.val ≤ 1 then [⟨MessageType.nack, 8, [frame.sequence, reason]⟩] else []
      else [] := by
  unfold reject
  by_cases here : visit.priority = priority
  · simp only [here, priorityIsReliable_iff, if_true]
    split
    · simp [owed, here, owedAfter, replyView_feedback]
    · simp [owed]
  · rw [if_neg here]
    split
    · simp [owed, here]
    · rfl

/-- A good frame of the session is answered as the policy says. -/
theorem owed_answer {generation : U32} {build : Build} (noStop : build.stopControl = false)
    (noSelfOff : build.selfOffValue = none) (priority : Priority) (visit : Visit) {frame : Message}
    (wellFormed : ¬ frame.malformed) (matching : frame.crc32 = frameCrc32 frame)
    (current : frame.generation = generation) :
    owed priority (answer build visit frame) =
      if visit.priority = priority then policy generation priority frame else [] := by
  have stays : build.selfOff visit.priority frame = false := by
    simp [Build.selfOff, noSelfOff]
  by_cases here : visit.priority = priority
  · subst here
    have critical : visit.priority = .critical ↔ visit.priority.val = 0 := by
      rw [Fin.ext_iff]
      rfl
    simp only [if_true, policy, wellFormed, matching, current, answer, stays, noStop, critical,
      priorityIsReliable_iff]
    by_cases stop : visit.priority.val = 0 ∧ frame.type = MessageType.stopRequest
    · by_cases empty : frame.length = 0#32
      · simp [stop, empty, owed, owedAfter, replyView_feedback]
      · simp [stop, empty, owed, owedAfter, replyView_feedback]
    · simp only [if_neg stop]
      by_cases reliable : visit.priority.val ≤ 1
      · simp [reliable, owed, owedAfter, replyView_feedback, replyView_pong]
      · simp [reliable, owed, owedAfter, replyView_pong]
  · rw [if_neg here]
    unfold answer
    simp only [stays, noStop]
    repeat' split
    all_goals simp_all [owed]

/-! ### One step -/

section Step

variable {generation : U32} {idle before after : Board}

/-- A frame taken by a receive is answered as the policy says, on the way that the receive leads
to. -/
theorem owed_afterReceive {build : Build} {ring ring' : Ring} {ret : EndpointResult}
    {message : Option Message} (noStop : build.stopControl = false)
    (noSelfOff : build.selfOffValue = none) (visit : Visit) (priority : Priority)
    (found : Found generation ring ret ring' message) :
    owed priority (afterReceive build visit ret message) =
      if visit.priority = priority then message.toList.flatMap (policy generation priority)
      else [] := by
  cases found with
  | empty nothing => simp [afterReceive, owed]
  | incomplete something pending => simp [afterReceive, owed]
  | invalid something committed malformed =>
      simp only [afterReceive, owed_reject, Visit.next]
      simp [policy, malformed]
  | badCrc something committed wellFormed mismatch =>
      simp only [afterReceive, owed_reject, Visit.next]
      simp [policy, wellFormed, mismatch]
  | stale something committed wellFormed matching old =>
      simp [afterReceive, owed, policy, wellFormed, matching, old]
  | good something committed wellFormed matching current =>
      have single : (some ring.head).toList.flatMap (policy generation priority) =
          policy generation priority ring.head := by
        simp
      rw [single]
      exact owed_answer noStop noSelfOff priority visit.next wellFormed matching current

/-- The steps of the call that only move the worker. -/
inductive Walks : Worker → Worker → Prop where
  | opened (pending : Priority → Bool) : Walks (.entering pending) (.scanning (.start pending) 0)
  | closed (pending : Priority → Bool) : Walks (.entering pending) (.reporting (.start pending))
  | skipped (round : Round) {reached : Nat} (inRange : reached < priorityCount) :
      Walks (.scanning round reached) (.scanning round (reached + 1))
  | visited (round : Round) {reached : Nat} (inRange : reached < priorityCount) :
      Walks (.scanning round reached) (.draining ⟨round, ⟨reached, inRange⟩, 0⟩)
  | finished (round : Round) (reached : Nat) : Walks (.scanning round reached) (.reporting round)
  | exhausted (visit : Visit) (quota : ¬ visit.handled < drainQuota) :
      Walks (.draining visit) (.checking visit)
  | checked (visit : Visit) (round : Round) :
      Walks (.checking visit) (.scanning round (visit.priority.val + 1))

/-- Everything that a step of the worker inside a call can do. -/
inductive ServiceMove (generation : U32) (before after : Board) : Prop where
  | walked (walks : Walks before.firmware.worker after.firmware.worker)
      (moved : after = before.work after.firmware.worker)
  | drained (visit : Visit) (position : before.firmware.worker = .draining visit)
      (quota : visit.handled < drainQuota) (ret : EndpointResult) (ring : Ring)
      (message : Option Message) (drains : Drains generation before visit ret ring message)
      (moved : after = drain before visit)
  | replied (visit : Visit) (reply : Reply) (next : Continuation)
      (position : before.firmware.worker = .replying visit reply next)
      (stays : ∀ request, next ≠ .cpuOff request) (sent : ReplySent before visit reply next after)
  | rung (visit : Visit) (result : SendResult) (next : Continuation)
      (position : before.firmware.worker = .ringing visit result next)
      (stays : ∀ request, next ≠ .cpuOff request) (rung : Board) (frame : RingFrame before rung)
      (moved : after = rung.work (next.resume visit true))

/-- Inside a call the worker always has a step. -/
theorem workerStep_service (engaged : Engaged generation before)
    (running : isReporting before.firmware.worker = false) :
    ∃ after, workerStep before = some after ∧ ServiceMove generation before after := by
  have staying := engaged.staying
  cases position : before.firmware.worker with
  | entering pending =>
      simp only [workerStep, position]
      split
      · exact ⟨_, rfl, .walked (by rw [position]; exact .opened pending) rfl⟩
      · exact ⟨_, rfl, .walked (by rw [position]; exact .closed pending) rfl⟩
  | scanning round reached =>
      simp only [workerStep, position]
      split
      · rename_i inRange
        split
        · exact ⟨_, rfl, .walked (by rw [position]; exact .skipped round inRange) rfl⟩
        · exact ⟨_, rfl, .walked (by rw [position]; exact .visited round inRange) rfl⟩
      · exact ⟨_, rfl, .walked (by rw [position]; exact .finished round reached) rfl⟩
  | draining visit =>
      simp only [workerStep, position]
      by_cases quota : visit.handled < drainQuota
      · obtain ⟨ret, ring, message, drains⟩ := drain_drains engaged quota
        exact ⟨_, rfl, .drained visit position quota ret ring message drains rfl⟩
      · have used : drain before visit = before.work (.checking visit) := by
          simp only [drain, if_neg quota]
        rw [used]
        exact ⟨_, rfl, .walked (by rw [position]; exact .exhausted visit quota) rfl⟩
  | replying visit reply next =>
      rw [position] at staying
      have stays : ∀ request, next ≠ .cpuOff request := by
        rintro request rfl
        exact staying
      simp only [workerStep, position]
      exact ⟨_, rfl, .replied visit reply next position stays
        (sendReply_spec before visit reply next engaged.boundBy)⟩
  | ringing visit result next =>
      rw [position] at staying
      have stays : ∀ request, next ≠ .cpuOff request := by
        rintro request rfl
        exact staying
      obtain ⟨rung, frame, rang⟩ := ringReply_spec before visit result next
      simp only [workerStep, position]
      exact ⟨_, rfl, .rung visit result next position stays rung frame rang⟩
  | checking visit =>
      simp only [workerStep, position, check]
      exact ⟨_, rfl, .walked (by rw [position]; exact .checked visit _) rfl⟩
  | reporting round =>
      rw [position] at running
      cases running
  | waiting | woken | posting | stopping _ | quiescing _ | acknowledging _ _ | poweringOff _ | off
  | halted =>
      rw [position] at staying
      exact staying.elim

/-- A step that only moves the worker neither consumes nor sends, and owes nothing. -/
theorem Walks.silent {from' to' : Worker} (walks : Walks from' to') (priority : Priority) :
    owed priority from' = [] ∧ owed priority to' = [] := by
  cases walks <;> exact ⟨rfl, rfl⟩

theorem Walks.consumed (walks : Walks before.firmware.worker after.firmware.worker)
    (priority : Priority) : (ServiceStep.mk idle before after).consumed priority = [] := by
  unfold ServiceStep.consumed
  generalize before.firmware.worker = here at walks
  generalize after.firmware.worker = there at walks
  cases walks with
  | exhausted visit quota => simp [quota]
  | opened | closed | skipped | visited | finished | checked => rfl

theorem Walks.attempted (walks : Walks before.firmware.worker after.firmware.worker)
    (priority : Priority) : (ServiceStep.mk idle before after).attempted priority = [] := by
  unfold ServiceStep.attempted
  generalize before.firmware.worker = here at walks
  generalize after.firmware.worker = there at walks
  cases walks <;> rfl

/-- Replies offered in a step, with those still owed, are those owed before with those for the
frames consumed in the step. -/
theorem step_accounts (idle : Board) (engaged : Engaged generation before)
    (move : ServiceMove generation before after) (priority : Priority) :
    ((ServiceStep.mk idle before after).attempted priority).map replyView ++
        owed priority after.firmware.worker =
      owed priority before.firmware.worker ++
        ((ServiceStep.mk idle before after).consumed priority).flatMap
          (policy generation priority) := by
  cases move with
  | walked walks moved =>
      obtain ⟨nothing, nothing'⟩ := walks.silent priority
      rw [nothing, nothing', walks.consumed, walks.attempted]
      rfl
  | drained visit position quota ret ring message drains moved =>
      have led := owed_afterReceive engaged.noStop engaged.noSelfOff visit priority drains.found
      rw [moved, drains.worker, led]
      by_cases here : visit.priority = priority
      · simp [ServiceStep.attempted, ServiceStep.consumed, position, owed, here, quota,
          ← drains.received]
      · simp [ServiceStep.attempted, ServiceStep.consumed, position, owed, here]
  | replied visit reply next position stays sent =>
      have consumed : (ServiceStep.mk idle before after).consumed priority = [] := by
        simp [ServiceStep.consumed, position]
      have remains : owed priority after.firmware.worker =
          if visit.priority = priority then owedAfter next else [] := by
        cases sent with
        | refused noted frame hardware cause moved =>
            rw [moved]
            exact owedAfter_resume priority visit stays false
        | queued pushed result frame space valid published moved =>
            rw [moved]
            rfl
      rw [consumed, remains]
      by_cases here : visit.priority = priority
      · simp [ServiceStep.attempted, position, owed, here]
      · simp [ServiceStep.attempted, position, owed, here]
  | rung visit result next position stays rung frame moved =>
      have remains : owed priority after.firmware.worker =
          if visit.priority = priority then owedAfter next else [] := by
        rw [moved]
        exact owedAfter_resume priority visit stays true
      rw [remains]
      simp [ServiceStep.attempted, ServiceStep.consumed, position, owed]

/-- A step takes the frames that it consumes from the head of the forward ring. -/
theorem step_forward (idle : Board) (engaged : Engaged generation before)
    (move : ServiceMove generation before after) (priority : Priority) :
    (after.hardware.shared.linuxToCpu3 priority).WellFormed ∧
      (before.hardware.shared.linuxToCpu3 priority).contents =
        (ServiceStep.mk idle before after).consumed priority ++
          (after.hardware.shared.linuxToCpu3 priority).contents := by
  cases move with
  | walked walks moved =>
      rw [walks.consumed, moved]
      exact ⟨engaged.forward priority, rfl⟩
  | drained visit position quota ret ring message drains moved =>
      rw [moved, drains.shared]
      by_cases here : visit.priority = priority
      · subst here
        have taken : (ServiceStep.mk idle before (drain before visit)).consumed visit.priority =
            message.toList := by
          simp [ServiceStep.consumed, position, quota, drains.received]
        rw [taken]
        have own : (before.hardware.shared.setRing .linux visit.priority ring).linuxToCpu3
            visit.priority = ring := by
          simp [Shared.setRing]
        rw [own]
        exact drains.found.contents (engaged.forward visit.priority)
      · have other : (before.hardware.shared.setRing .linux visit.priority ring).linuxToCpu3 priority =
            before.hardware.shared.linuxToCpu3 priority := by
          simp [Shared.setRing, Ne.symm here]
        rw [other]
        refine ⟨engaged.forward priority, ?_⟩
        simp [ServiceStep.consumed, position, here]
  | replied visit reply next position stays sent =>
      have consumed : (ServiceStep.mk idle before after).consumed priority = [] := by
        simp [ServiceStep.consumed, position]
      have kept : after.hardware.shared.linuxToCpu3 = before.hardware.shared.linuxToCpu3 := by
        cases sent with
        | refused noted frame hardware cause moved =>
            rw [moved]
            exact frame.hardware.forward
        | queued pushed result frame space valid published moved =>
            rw [moved]
            exact frame.hardware.forward
      rw [consumed, kept]
      exact ⟨engaged.forward priority, rfl⟩
  | rung visit result next position stays rung frame moved =>
      have kept : after.hardware.shared.linuxToCpu3 = before.hardware.shared.linuxToCpu3 := by
        rw [moved]
        exact frame.hardware.forward
      rw [kept]
      refine ⟨engaged.forward priority, ?_⟩
      simp [ServiceStep.consumed, position]

/-- A step appends the reply that it offers, unless the ring is full, and writes no other reverse
ring. -/
theorem step_reverse (idle : Board) (engaged : Engaged generation before)
    (move : ServiceMove generation before after) (priority : Priority) :
    (after.hardware.shared.cpu3ToLinux priority).WellFormed ∧
      ReverseEffect generation ⟨idle, before, after⟩ priority := by
  have still (same : after.hardware.shared.cpu3ToLinux priority =
        before.hardware.shared.cpu3ToLinux priority)
      (nothing : (ServiceStep.mk idle before after).attempted priority = []) :
      (after.hardware.shared.cpu3ToLinux priority).WellFormed ∧
        ReverseEffect generation ⟨idle, before, after⟩ priority := by
    refine ⟨by rw [same]; exact engaged.reverse priority, fun _ => same, ?_, ?_⟩
    · intro reply member
      rw [nothing] at member
      cases member
    · intro reply member
      rw [nothing] at member
      cases member
  cases move with
  | walked walks moved =>
      apply still
      · rw [moved]
        rfl
      · exact walks.attempted priority
  | drained visit position quota ret ring message drains moved =>
      apply still
      · rw [moved, drains.shared]
        rfl
      · simp [ServiceStep.attempted, position]
  | rung visit result next position stays rung frame moved =>
      apply still
      · rw [moved]
        exact congrFun (congrArg Shared.cpu3ToLinux frame.shared) priority
      · simp [ServiceStep.attempted, position]
  | replied visit reply next position stays sent =>
      by_cases here : visit.priority = priority
      · subst here
        have offered : (ServiceStep.mk idle before after).attempted visit.priority = [reply] := by
          simp [ServiceStep.attempted, position]
        have wellFormed := engaged.reverse visit.priority
        cases sent with
        | refused noted frame hardware cause moved =>
            have same : after.hardware.shared.cpu3ToLinux visit.priority =
                before.hardware.shared.cpu3ToLinux visit.priority := by
              rw [moved]
              exact congrArg (fun hardware : Hardware => hardware.shared.cpu3ToLinux visit.priority)
                hardware
            have noSpace := cause.resolve_left (not_not_intro engaged.session)
            refine ⟨by rw [same]; exact wellFormed, fun _ => same, fun _ _ _ => same, ?_⟩
            intro other member room
            rw [Ring.contents_length] at room
            exact absurd (wellFormed.full_iff.mp noSpace) room
        | queued pushed result frame space valid published moved =>
            have appended : after.hardware.shared.cpu3ToLinux visit.priority =
                (before.hardware.shared.cpu3ToLinux visit.priority).publish
                  (before.frameOf reply).committed := by
              rw [moved]
              change pushed.hardware.shared.cpu3ToLinux visit.priority = _
              rw [published]
              simp [Shared.setRing]
            rw [appended]
            refine ⟨wellFormed.publish _, ?_, ?_, ?_⟩
            · intro nothing
              rw [offered] at nothing
              cases nothing
            · intro other member full
              rw [Ring.contents_length] at full
              exact absurd (wellFormed.full_iff.mpr full) space
            · intro other member room
              rw [offered, List.mem_singleton] at member
              subst member
              refine ⟨(before.frameOf other).committed, engaged.generation, rfl, rfl,
                before.frameOf_payloadAt other, rfl, rfl, ?_⟩
              change (after.hardware.shared.cpu3ToLinux visit.priority).contents = _
              rw [appended]
              exact wellFormed.contents_publish space _
      · apply still
        · cases sent with
          | refused noted frame hardware cause moved =>
              rw [moved]
              exact congrArg (fun hardware : Hardware => hardware.shared.cpu3ToLinux priority) hardware
          | queued pushed result frame space valid published moved =>
              rw [moved]
              change pushed.hardware.shared.cpu3ToLinux priority = _
              rw [published]
              simp [Shared.setRing, Ne.symm here]
        · simp [ServiceStep.attempted, position, here]

theorem staying_resume (visit : Visit) {next : Continuation}
    (stays : ∀ request, next ≠ .cpuOff request) (accepted : Bool) :
    Staying (next.resume visit accepted) := by
  cases next with
  | drain | leave | pong _ => trivial
  | cpuOff request => exact absurd rfl (stays request)

theorem staying_afterReceive {build : Build} (noStop : build.stopControl = false)
    (noSelfOff : build.selfOffValue = none) (visit : Visit) (ret : EndpointResult)
    (message : Option Message) : Staying (afterReceive build visit ret message) := by
  have rejected (request : Message) (reason : U32) :
      Staying (reject visit.next request reason) := by
    unfold reject
    split <;> trivial
  unfold afterReceive
  split
  · rename_i request
    have stays : build.selfOff visit.next.priority request = false := by
      simp [Build.selfOff, noSelfOff]
    obtain ⟨reply, next, replying, nexts⟩ := answer_replying noStop stays
    rw [replying]
    rcases nexts with rfl | ⟨request, rfl⟩ <;> trivial
  · exact rejected _ _
  · exact rejected _ _
  · trivial

/-- A step inside the call keeps the call going. -/
theorem Engaged.step (engaged : Engaged generation before)
    (move : ServiceMove generation before after) : Engaged generation after := by
  have forward := fun priority => (step_forward before engaged move priority).1
  have reverse := fun priority => (step_reverse before engaged move priority).1
  cases move with
  | walked walks moved =>
      have staying : Staying after.firmware.worker := by
        generalize before.firmware.worker = here at walks
        generalize after.firmware.worker = there at walks
        cases walks <;> trivial
      apply engaged.carry _ _ _ _ _ forward reverse staying
      all_goals rw [moved]
      all_goals first | rfl | exact .refl _
  | drained visit position quota ret ring message drains moved =>
      have staying : Staying (drain before visit).firmware.worker := by
        rw [drains.worker]
        exact staying_afterReceive engaged.noStop engaged.noSelfOff visit ret message
      subst moved
      apply engaged.carry drains.build drains.binding _ _ _ forward reverse staying
      all_goals rw [drains.shared]
      all_goals rfl
  | replied visit reply next position stays sent =>
      cases sent with
      | refused noted frame hardware cause moved =>
          subst moved
          exact engaged.carry frame.sameImage.build frame.binding frame.hardware.magic
            frame.hardware.version frame.hardware.generation forward reverse
            (staying_resume visit stays false)
      | queued pushed result frame space valid published moved =>
          subst moved
          have staying : Staying (.ringing visit result next) := by
            cases next with
            | drain | leave | pong _ => trivial
            | cpuOff request => exact absurd rfl (stays request)
          exact engaged.carry frame.sameImage.build frame.binding frame.hardware.magic
            frame.hardware.version frame.hardware.generation forward reverse staying
  | rung visit result next position stays rung frame moved =>
      subst moved
      exact engaged.carry frame.sameImage.build frame.binding frame.hardware.magic
        frame.hardware.version frame.hardware.generation forward reverse
        (staying_resume visit stays true)

/-! ### The call returns

Without a power-off no reply leaves the loop, and the steps ahead of the worker are bounded by what
its quotas leave.
-/

/-- Steps behind the drain loop of a visit, at most. -/
def stepsBehind (visit : Visit) : Nat := 50 * (priorityCount - 1 - visit.priority.val) + 2

/-- Steps from the head of the drain loop on, at most: five for each frame of the quota. -/
def stepsAhead (visit : Visit) : Nat := stepsBehind visit + 5 * (drainQuota - visit.handled) + 1

/-- Steps that a call still has at most. -/
def remaining : Worker → Nat
  | .entering _ => 50 * priorityCount + 2
  | .scanning _ reached => 50 * (priorityCount - reached) + 1
  | .draining visit => stepsAhead visit
  | .replying visit _ .leave => stepsBehind visit + 2
  | .ringing visit _ .leave => stepsBehind visit + 1
  | .replying visit _ (.pong _) => stepsAhead visit + 4
  | .ringing visit _ (.pong _) => stepsAhead visit + 3
  | .replying visit _ _ => stepsAhead visit + 2
  | .ringing visit _ _ => stepsAhead visit + 1
  | .checking visit => stepsBehind visit
  | _ => 0

theorem stepsAhead_next {visit : Visit} (quota : visit.handled < drainQuota) :
    stepsAhead visit.next + 5 = stepsAhead visit := by
  simp only [stepsAhead, stepsBehind, Visit.next]
  omega

theorem Walks.decreases {from' to' : Worker} (walks : Walks from' to') :
    remaining to' < remaining from' := by
  cases walks with
  | opened pending => simp [remaining]
  | closed pending => simp [remaining]
  | skipped round inRange =>
      simp only [remaining]
      omega
  | visited round inRange =>
      simp only [remaining, stepsAhead, stepsBehind, drainQuota, ringSlots]
      omega
  | finished round reached =>
      simp only [remaining]
      omega
  | exhausted visit quota =>
      simp only [remaining, stepsAhead]
      omega
  | checked visit round =>
      have inRange := visit.priority.isLt
      simp only [remaining, stepsBehind]
      omega

theorem remaining_afterReceive {build : Build} (noStop : build.stopControl = false)
    (noSelfOff : build.selfOffValue = none) {visit : Visit} (quota : visit.handled < drainQuota)
    (ret : EndpointResult) (message : Option Message) :
    remaining (afterReceive build visit ret message) < remaining (.draining visit) := by
  have fewer := stepsAhead_next quota
  have rejected (request : Message) (reason : U32) :
      remaining (reject visit.next request reason) < remaining (.draining visit) := by
    unfold reject
    split
    · simp only [remaining, stepsAhead, stepsBehind, Visit.next]
      omega
    · simp only [remaining, stepsAhead, stepsBehind, Visit.next]
      omega
  unfold afterReceive
  split
  · rename_i request
    have stays : build.selfOff visit.next.priority request = false := by
      simp [Build.selfOff, noSelfOff]
    obtain ⟨reply, next, replying, nexts⟩ := answer_replying noStop stays
    rw [replying]
    rcases nexts with rfl | ⟨request, rfl⟩
    · simp only [remaining]
      omega
    · simp only [remaining]
      omega
  · exact rejected _ _
  · exact rejected _ _
  · simp only [remaining, stepsAhead]
    omega

theorem remaining_resume (visit : Visit) {next : Continuation}
    (stays : ∀ request, next ≠ .cpuOff request) (accepted : Bool) (result : SendResult) :
    remaining (next.resume visit accepted) < remaining (.ringing visit result next) := by
  cases next with
  | drain | leave | pong _ => simp [Continuation.resume, remaining]
  | cpuOff request => exact absurd rfl (stays request)

theorem remaining_ringing (visit : Visit) (reply : Reply) (result : SendResult)
    (next : Continuation) :
    remaining (.ringing visit result next) < remaining (.replying visit reply next) := by
  cases next <;> simp [remaining]

/-- Every step inside the call brings its return nearer. -/
theorem step_decreases (engaged : Engaged generation before)
    (move : ServiceMove generation before after) :
    remaining after.firmware.worker < remaining before.firmware.worker := by
  cases move with
  | walked walks moved => exact walks.decreases
  | drained visit position quota ret ring message drains moved =>
      rw [moved, drains.worker, position]
      exact remaining_afterReceive engaged.noStop engaged.noSelfOff quota ret message
  | replied visit reply next position stays sent =>
      rw [position]
      cases sent with
      | refused noted frame hardware cause moved =>
          rw [moved]
          exact (remaining_resume visit stays false .pending).trans
            (remaining_ringing visit reply .pending next)
      | queued pushed result frame space valid published moved =>
          rw [moved]
          exact remaining_ringing visit reply result next
  | rung visit result next position stays rung frame moved =>
      rw [moved, position]
      exact remaining_resume visit stays true result

end Step

/-! ### The call as a whole -/

/-- What one call does at one priority, over its steps: the replies that it attempts are those of
the policy for the frames that it consumes; these are the oldest of the ring and of what arrives;
and each reply is appended exactly when there is room. -/
structure RepliesByPolicy (generation : U32) (board : Board) (steps : List ServiceStep)
    (after : Board) (priority : Priority) : Prop where
  replies : (steps.flatMap (ServiceStep.attempted · priority)).map replyView =
    (steps.flatMap (ServiceStep.consumed · priority)).flatMap (policy generation priority)
  fifo : (board.hardware.shared.linuxToCpu3 priority).contents ++
      steps.flatMap (ServiceStep.arrived · priority) =
    steps.flatMap (ServiceStep.consumed · priority) ++
      (after.hardware.shared.linuxToCpu3 priority).contents
  sent : ∀ step ∈ steps, ReverseEffect generation step priority

section Call

variable {surroundings : Nat → Board → Board} {generation : U32}

/-- The call returns: every step brings the end nearer. -/
theorem serviceSteps_returns (beside : ∀ turn board, Beside board (surroundings turn board)) :
    ∀ {budget index : Nat} {board : Board}, Engaged generation board →
      remaining board.firmware.worker < budget →
      ∃ steps round after,
        serviceSteps surroundings index budget board = some (steps, round, after) := by
  intro budget
  induction budget with
  | zero =>
      intro index board engaged below
      cases below
  | succ budget inductionHypothesis =>
      intro index board engaged below
      cases running : isReporting board.firmware.worker with
      | true =>
          obtain ⟨round, position⟩ := reporting_of_isReporting running
          exact ⟨[], round, board, serviceSteps_reporting position⟩
      | false =>
          have turn := engaged.beside (beside index board)
          have same : (surroundings index board).firmware.worker = board.firmware.worker := by
            rw [(beside index board).firmware]
          obtain ⟨next, stepped, move⟩ := workerStep_service turn (by rw [same]; exact running)
          have nearer := step_decreases turn move
          rw [same] at nearer
          obtain ⟨steps, round, after, returned⟩ :=
            inductionHypothesis (turn.step move) (by omega : remaining next.firmware.worker < budget)
          refine ⟨⟨board, surroundings index board, next⟩ :: steps, round, after, ?_⟩
          rw [serviceSteps_step running, stepped, Option.bind_some, returned]
          rfl

/-- What a call attempts, with what it owes at its start. -/
theorem serviceSteps_accounts (beside : ∀ turn board, Beside board (surroundings turn board))
    (priority : Priority) {fuel : Nat} {steps : List ServiceStep} {round : Round} {after : Board} :
    ∀ {index : Nat} {board : Board}, Engaged generation board →
      serviceSteps surroundings index fuel board = some (steps, round, after) →
      (steps.flatMap (ServiceStep.attempted · priority)).map replyView =
          owed priority board.firmware.worker ++
            (steps.flatMap (ServiceStep.consumed · priority)).flatMap (policy generation priority) ∧
        (board.hardware.shared.linuxToCpu3 priority).contents ++
            steps.flatMap (ServiceStep.arrived · priority) =
          steps.flatMap (ServiceStep.consumed · priority) ++
            (after.hardware.shared.linuxToCpu3 priority).contents ∧
        ∀ step ∈ steps, ReverseEffect generation step priority := by
  induction fuel generalizing steps with
  | zero =>
      intro index board engaged returned
      cases returned
  | succ fuel inductionHypothesis =>
      intro index board engaged returned
      cases running : isReporting board.firmware.worker with
      | true =>
          obtain ⟨round', position⟩ := reporting_of_isReporting running
          rw [serviceSteps_reporting position] at returned
          cases returned
          simp [position, owed]
      | false =>
          have turn := engaged.beside (beside index board)
          have same : (surroundings index board).firmware.worker = board.firmware.worker := by
            rw [(beside index board).firmware]
          obtain ⟨next, stepped, move⟩ := workerStep_service turn (by rw [same]; exact running)
          rw [serviceSteps_step running, stepped, Option.bind_some,
            Option.map_eq_some_iff] at returned
          obtain ⟨⟨rest, round', after'⟩, later, assembled⟩ := returned
          cases assembled
          obtain ⟨replies, fifo, sent⟩ := inductionHypothesis (turn.step move) later
          have accounts := step_accounts board turn move priority
          have taken := (step_forward board turn move priority).2
          obtain ⟨-, arrivals, grown⟩ :=
            (beside index board).forward priority (engaged.forward priority)
          have arrived : (ServiceStep.mk board (surroundings index board) next).arrived priority =
              arrivals := by
            simp [ServiceStep.arrived, grown]
          rw [same] at accounts
          refine ⟨?_, ?_, ?_⟩
          · rw [List.flatMap_cons, List.map_append, replies, List.flatMap_cons, List.flatMap_append,
              ← List.append_assoc, accounts, List.append_assoc]
          · rw [List.flatMap_cons, List.flatMap_cons, arrived, ← List.append_assoc, ← grown, taken,
              List.append_assoc, List.append_assoc, fifo]
          · intro step member
            rcases List.mem_cons.mp member with rfl | behind
            · exact (step_reverse board turn move priority).2
            · exact sent step behind

/-- The reply policy of the service.  In a build without stop control and self-off, with a valid
session, for every content of the rings, every mask, and whatever the interrupt handler and Linux do
between its steps, a call returns; at every priority the replies that it attempted, in order, are
those of the policy for the frames that it consumed, in FIFO order; and each of them was appended to
the reverse ring of that priority exactly when that ring was not full. -/
theorem service_reply_policy (beside : ∀ turn board, Beside board (surroundings turn board))
    {board : Board} {mask : Priority → Bool} (entered : board.firmware.worker = .entering mask)
    (noStop : board.firmware.build.stopControl = false)
    (noSelfOff : board.firmware.build.selfOffValue = none)
    (bound : board.firmware.endpoint.role = some .cpu3)
    (session : endpointSessionValid board.firmware.endpoint board.hardware.shared = .ok)
    (forward : ∀ priority, (board.hardware.shared.linuxToCpu3 priority).WellFormed)
    (reverse : ∀ priority, (board.hardware.shared.cpu3ToLinux priority).WellFormed) :
    ∃ fuel steps round after,
      serviceSteps surroundings 0 fuel board = some (steps, round, after) ∧
      ∀ priority, RepliesByPolicy board.firmware.endpoint.generation board steps
        after priority := by
  have engaged : Engaged board.firmware.endpoint.generation board :=
    ⟨noStop, noSelfOff, bound, session, rfl, forward, reverse, by rw [entered]; trivial⟩
  obtain ⟨steps, round, after, returned⟩ := serviceSteps_returns beside engaged (Nat.lt_succ_self _)
  refine ⟨_, steps, round, after, returned, ?_⟩
  intro priority
  obtain ⟨replies, fifo, sent⟩ := serviceSteps_accounts beside priority engaged returned
  rw [entered] at replies
  exact ⟨replies, fifo, sent⟩

end Call

/-- Nothing happening around the call is one of the things that may happen. -/
theorem alone_beside (turn : Nat) (board : Board) : Beside board (alone turn board) where
  firmware := rfl
  magic := rfl
  version := rfl
  generation := rfl
  forward := fun _ wellFormed => ⟨wellFormed, [], (List.append_nil _).symm⟩
  reverse := fun _ wellFormed => ⟨wellFormed, [], rfl⟩

/-- A call on a damaged frame in front of a good one at priority 1. -/
theorem service_reply_policy_demo :
    ∃ fuel steps round after,
      serviceSteps alone 0 fuel (demoBoard 0) = some (steps, round, after) ∧
      ∀ priority, RepliesByPolicy (demoBoard 0).firmware.endpoint.generation
        (demoBoard 0) steps after
        priority := by
  have inside : ∀ priority : Priority,
      ((demoBoard 0).hardware.shared.linuxToCpu3 priority).producer.toNat < ringSlots ∧
        ((demoBoard 0).hardware.shared.linuxToCpu3 priority).consumer.toNat < ringSlots := by
    decide +kernel
  apply service_reply_policy alone_beside rfl rfl rfl rfl rfl
  · exact fun priority => ⟨(inside priority).1, (inside priority).2⟩
  · exact fun priority => Ring.zero_wellFormed

end MailMsg.Service
