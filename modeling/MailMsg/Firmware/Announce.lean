/-
Module: MailMsg.Firmware.Announce
Purpose: The main thread of CPU3 instruction by instruction, so that the worker and the handler can
  preempt it inside `mailmsg_service_session_ready` and inside its endpoint call.  The two flags
  keep the endpoint to one thread at a time, and SESSION_READY is committed once, before any other
  frame.
Source: LZAMP/firmware/zephyr/app/src/main.c (mailmsg_service_session_ready, main),
  LZAMP/protocol/mailmsg/mailmsg_endpoint.c (mailmsg_endpoint_send),
  LZAMP/protocol/mailmsg/mailmsg.c
Trusted boundary: one core and a cooperative worker, so the main thread moves only while the worker
  blocks and no handler runs; the rest of the system may rewrite the region and the mailbox at any
  time, and a notification backend may answer anything
Main exports: Announcer, announcerStep, machine, Consistent, Invariant, changed_by_user,
  endpoint_single_user
-/
import MailMsg.Firmware.Effects
import MailMsg.Lib.Transition

namespace MailMsg.Announce

/-! ### The main thread -/

/-- A send whose arguments passed: what to send, and the party whose rings `endpoint->tx` points
to. -/
structure Draft where
  role : Role
  reply : Reply

/-- Where the main thread stands. -/
inductive Announcer where
  /-- In `mailmsg_endpoint_bind`. -/
  | starting
  /-- Before the A2B interrupts are enabled. -/
  | bound
  /-- At a call of `mailmsg_service_session_ready`, before the read of `mailmsg_endpoint_ready`. -/
  | calling
  /-- Before the read of `mailmsg_session_ready_published`. -/
  | gated
  /-- Before the read of `mailmsg_session_ready_committed`. -/
  | unpublished
  /-- About to repeat the doorbell of a committed frame. -/
  | retrying
  /-- The repeated doorbell returned. -/
  | retried (answer : Int)
  /-- About to read `cpu3_endpoint.generation` for the payload. -/
  | preparing
  /-- In `mailmsg_endpoint_send`, before the argument check. -/
  | sending (reply : Reply)
  /-- Before the session check. -/
  | validating (draft : Draft)
  /-- Before the read of `endpoint->generation`. -/
  | building (draft : Draft)
  /-- Before the load of an `endpoint->next_sequence++`; `again` marks the one that skips zero. -/
  | loading (draft : Draft) (generation : U32) (again : Bool)
  /-- Before the store of that increment. -/
  | storing (draft : Draft) (generation : U32) (again : Bool) (value : U32)
  /-- Before the test for zero. -/
  | testing (draft : Draft) (generation : U32)
  /-- Before the read of the sequence that is returned. -/
  | numbering (draft : Draft) (generation : U32)
  /-- In `mailmsg_ring_push`, before the read of the producer index. -/
  | pushing (draft : Draft) (message : Message)
  /-- Before the read of the consumer index. -/
  | comparing (draft : Draft) (message : Message) (producer : U32)
  /-- Before the slot is written. -/
  | writing (draft : Draft) (message : Message) (producer : U32)
  /-- Before the store of the producer index. -/
  | publishing (draft : Draft) (message : Message) (producer : U32)
  /-- The ring was full: before `stats->tx_full++`. -/
  | countingFull
  /-- In `mailmsg_record_tx_full`. -/
  | recordingFull
  /-- The frame is in the ring: before `stats->tx_enqueued++`. -/
  | countingSent (draft : Draft)
  /-- In `mailmsg_notify`. -/
  | ringing
  /-- Before the statistics of the doorbell. -/
  | countingDoorbell (answer : Int)
  /-- The send returned and no flag is written. -/
  | returned (answer : Int)
  /-- `mailmsg_session_ready_committed` is written. -/
  | committed (answer : Int)

/-- Inside a call on `cpu3_endpoint`, or about to read one of its fields. -/
def Announcer.usesEndpoint : Announcer → Bool
  | .starting | .preparing | .sending _ | .validating _ | .building _ | .loading _ _ _
  | .storing _ _ _ _ | .testing _ _ | .numbering _ _ | .pushing _ _ | .comparing _ _ _
  | .writing _ _ _ | .publishing _ _ _ | .countingFull | .countingSent _ | .ringing
  | .countingDoorbell _ => true
  | .bound | .calling | .gated | .unpublished | .retrying | .retried _
  | .recordingFull | .returned _
  | .committed _ => false

/-- Inside a call on `cpu3_endpoint`, on the worker's side. -/
def workerUsesEndpoint : Worker → Bool
  | .draining _ | .replying _ _ _ | .ringing _ _ _ | .checking _ => true
  | _ => false

/-- CPU3 in one boot.  The board's own coarse main thread is not used. -/
structure State where
  board : Board
  announcer : Announcer
  /-- The types of the frames that CPU3 has committed, oldest first. -/
  frames : List U32

namespace State

/-- Move the main thread. -/
def goto (state : State) (announcer : Announcer) : State := { state with announcer := announcer }

/-- Replace the statics. -/
def setFirmware (state : State) (firmware : Firmware) : State :=
  { state with board := { state.board with firmware := firmware } }

/-- Replace the endpoint. -/
def setEndpoint (state : State) (endpoint : Endpoint) : State :=
  state.setFirmware { state.board.firmware with endpoint := endpoint }

/-- Replace the hardware. -/
def setHardware (state : State) (hardware : Hardware) : State :=
  { state with board := { state.board with hardware := hardware } }

/-- Replace a ring of the region. -/
def setRing (state : State) (role : Role) (ring : Ring) : State :=
  state.setHardware
    { state.board.hardware with shared := state.board.hardware.shared.setRing role .critical ring }

end State

/-- What the notification backend does: `mailmsg_cpu3_notify`, or any other answer. -/
def doorbell (hardware : Hardware) (priority : Priority) (answer : Option Int) : Int × Hardware :=
  match answer with
  | none => cpu3Notify hardware priority
  | some code => (code, hardware)

/-- The next instruction of the main thread; `answer` is used where it calls the notification
backend. -/
def announcerStep (state : State) (answer : Option Int) : State :=
  let firmware := state.board.firmware
  let endpoint := firmware.endpoint
  let hardware := state.board.hardware
  match state.announcer with
  | .starting =>
      let bound := endpointBind endpoint hardware.shared .cpu3
      (state.setFirmware
        { firmware with endpoint := bound.2, endpointReady := bound.1 = .ok }).goto .bound
  | .bound => (state.setFirmware { firmware with irqEnabled := true }).goto .calling
  | .calling => state.goto (if firmware.endpointReady then .gated else .calling)
  | .gated => state.goto (if firmware.sessionReadyPublished then .calling else .unpublished)
  | .unpublished => state.goto (if firmware.sessionReadyCommitted then .retrying else .preparing)
  | .retrying =>
      let answered := doorbell hardware .critical answer
      (state.setHardware answered.2).goto (.retried answered.1)
  | .retried result =>
      (state.setFirmware
        { firmware with
          sessionReadyPublished :=
            if notifyAccepted result then true else firmware.sessionReadyPublished }).goto .calling
  | .preparing => state.goto (.sending (sessionReadyReply endpoint.generation))
  | .sending reply =>
      match endpoint.role with
      | none => state.goto .calling
      | some role =>
          state.goto
            (if sendArgumentsValid endpoint (some reply.payload) reply.length then
              .validating ⟨role, reply⟩
            else .calling)
  | .validating draft =>
      state.goto
        (if endpointSessionValid endpoint hardware.shared = .ok then .building draft else .calling)
  | .building draft => state.goto (.loading draft endpoint.generation false)
  | .loading draft generation again =>
      state.goto (.storing draft generation again endpoint.nextSequence)
  | .storing draft generation again value =>
      (state.setEndpoint { endpoint with nextSequence := value + 1 }).goto
        (if again then .numbering draft generation else .testing draft generation)
  | .testing draft generation =>
      state.goto
        (if endpoint.nextSequence = 0#32 then .loading draft generation true
        else .numbering draft generation)
  | .numbering draft generation =>
      state.goto
        (.pushing draft
          (sendMessage generation draft.reply.type endpoint.nextSequence draft.reply.length
            (some draft.reply.payload)))
  | .pushing draft message =>
      state.goto (.comparing draft message (hardware.shared.ring draft.role .critical).producer)
  | .comparing draft message producer =>
      state.goto
        (if message.malformed then .calling
        else if ringNext producer = (hardware.shared.ring draft.role .critical).consumer then
          .countingFull
        else .writing draft message producer)
  | .writing draft message producer =>
      let ring := hardware.shared.ring draft.role .critical
      (state.setRing draft.role
        { ring with slot := Function.update ring.slot producer message.frame.committed }).goto
          (.publishing draft message producer)
  | .publishing draft message producer =>
      let ring := hardware.shared.ring draft.role .critical
      { state.setRing draft.role { ring with producer := ringNext producer } with
        announcer := .countingSent draft
        frames := state.frames ++ [message.type] }
  | .countingFull =>
      (state.setEndpoint
        (endpoint.updateStats .critical fun stats => { stats with txFull := stats.txFull + 1 })).goto
          .recordingFull
  | .recordingFull =>
      (state.setFirmware { firmware with txFullCount := firmware.txFullCount + 1 }).goto .calling
  | .countingSent draft =>
      let depth := ringCount (hardware.shared.ring draft.role .critical)
      (state.setEndpoint
        (endpoint.updateStats .critical fun stats =>
          { stats with
            txEnqueued := stats.txEnqueued + 1
            txHighWater :=
              if 0 < depth ∧ (stats.txHighWater.toNat : Int) < depth then BitVec.ofInt 32 depth
              else stats.txHighWater })).goto .ringing
  | .ringing =>
      let answered := doorbell hardware .critical answer
      (state.setHardware answered.2).goto (.countingDoorbell answered.1)
  | .countingDoorbell result =>
      (state.setEndpoint
        (endpoint.updateStats .critical fun stats =>
          if result = notifySent then { stats with notifySent := stats.notifySent + 1 }
          else if result = notifyCoalesced then
            { stats with notifyCoalesced := stats.notifyCoalesced + 1 }
          else { stats with notifyFailed := stats.notifyFailed + 1 })).goto (.returned result)
  | .returned result =>
      (state.setFirmware { firmware with sessionReadyCommitted := true }).goto (.committed result)
  | .committed result =>
      (state.setFirmware { firmware with sessionReadyPublished := notifyAccepted result }).goto .calling

/-! ### The machine -/

/-- A doorbell of the worker that its backend answers with `code`. -/
def ringAnswered (board : Board) (visit : Visit) (result : SendResult) (next : Continuation)
    (code : Int) : Board :=
  let outcome := endpointNotified visit.priority code
    ⟨.ok, result, board.firmware.endpoint, board.hardware.shared⟩
  { board with firmware := { board.firmware with endpoint := outcome.endpoint } }.work
    (next.resume visit (notifyAccepted code))

/-- One step of the worker; `answer` is used where it calls the notification backend. -/
def workerAnswered (board : Board) (answer : Option Int) : Option Board :=
  match board.firmware.worker, answer with
  | .ringing visit result next, some code => some (ringAnswered board visit result next code)
  | _, _ => workerStep board

/-- The type of the frame that the worker's next step commits. -/
def committedReply (board : Board) : Option U32 :=
  match board.firmware.worker with
  | .replying visit reply _ =>
      if (board.enqueue visit.priority reply).1.ret = .ok then some reply.type else none
  | _ => none

/-- One step of CPU3 or of the world around it. -/
inductive Label where
  | interrupt (channel : Priority)
  | isr
  | worker (answer : Option Int)
  | cpuOff (returned : Bool)
  | main (answer : Option Int)
  /-- Linux, the mailbox or a fault rewrites the region and the registers. -/
  | environment (hardware : Hardware)

/-- The transition function. -/
def step (state : State) : Label → Option State
  | .interrupt channel =>
      (firmwareStep state.board (.interrupt channel)).map fun board => { state with board := board }
  | .isr => (firmwareStep state.board .isr).map fun board => { state with board := board }
  | .worker answer =>
      if state.board.firmware.isr.isIdle then
        (workerAnswered state.board answer).map fun board =>
          { state with board := board, frames := state.frames ++ (committedReply state.board).toList }
      else none
  | .cpuOff returned =>
      (firmwareStep state.board (.cpuOff returned)).map fun board => { state with board := board }
  | .main answer =>
      if state.board.firmware.isr.isIdle ∧ state.board.firmware.workerBlocked then
        some (announcerStep state answer)
      else none
  | .environment hardware => some (state.setHardware hardware)

/-- CPU3 right after CPU_ON, over any region. -/
def State.booted (build : Build) (hardware : Hardware) : State where
  board := ⟨.boot build, hardware⟩
  announcer := .starting
  frames := []

/-- Every run of one boot of an image without `MAILMSG_TEST_SKIP_SESSION_READY`. -/
def machine : Machine State Label where
  init state := ∃ build hardware, build.skipSessionReady = false ∧ state = .booted build hardware
  step := step

/-! ### The worker -/

/-- The endpoint calls of the worker lie behind the gate. -/
theorem inService_of_uses {worker : Worker} (uses : workerUsesEndpoint worker = true) :
    worker.inService := by
  cases worker with
  | scanning | draining | replying | ringing | checking => trivial
  | _ => cases uses

/-- A reply of the worker is never a SESSION_READY. -/
def Modest : Worker → Prop
  | .replying _ reply _ => reply.type ≠ MessageType.sessionReady
  | _ => True

theorem pongReply_modest (request : Message) :
    (pongReply request).type ≠ MessageType.sessionReady := by
  simp only [pongReply]
  split <;> decide

theorem answer_modest (build : Build) (visit : Visit) (request : Message) :
    Modest (answer build visit request) := by
  unfold answer
  split
  · split
    · exact (by decide : MessageType.stopRefused ≠ MessageType.sessionReady)
    · split
      · exact (by decide : MessageType.stopReady ≠ MessageType.sessionReady)
      · exact (by decide : MessageType.stopRefused ≠ MessageType.sessionReady)
  · split
    · trivial
    · split
      · exact (by decide : MessageType.ack ≠ MessageType.sessionReady)
      · exact pongReply_modest request

theorem reject_modest (visit : Visit) (request : Message) (reason : U32) :
    Modest (reject visit request reason) := by
  unfold reject
  split
  · exact (by decide : MessageType.nack ≠ MessageType.sessionReady)
  · trivial

theorem resume_modest (visit : Visit) (accepted : Bool) (next : Continuation) :
    Modest (next.resume visit accepted) := by
  cases next with
  | drain | leave => trivial
  | pong request => exact pongReply_modest request
  | cpuOff request =>
      simp only [Continuation.resume]
      split <;> trivial

/-- What a step of the worker keeps for the main thread. -/
structure WorkerKeeps (before after : Board) : Prop where
  flags : SameFlags before.firmware after.firmware
  modest : Modest after.firmware.worker

theorem workerStep_modest {board after : Board} (bound : board.firmware.endpoint.BoundBy .cpu3)
    (stepped : workerStep board = some after) : Modest after.firmware.worker := by
  cases workerStep_turn stepped with
  | @drained visit position =>
      cases drain_spec board visit bound with
      | untouched moved | idle endpoint binding moved =>
          rw [moved]
          trivial
      | served endpoint binding request head moved =>
          rw [moved]
          exact answer_modest _ _ request
      | rejected endpoint binding request reason moved =>
          rw [moved]
          exact reject_modest _ request reason
  | @replied visit reply next position =>
      cases sendReply_spec board visit reply next bound with
      | refused noted frame hardware cause moved =>
          rw [moved]
          exact resume_modest visit false next
      | queued pushed result frame space valid published moved =>
          rw [moved]
          trivial
  | @rung visit result next position =>
      obtain ⟨rung, frame, rang⟩ := ringReply_spec board visit result next
      rw [rang]
      exact resume_modest visit true next
  | woke | swapped | spurious | admitted | dismissed | skipped | visited | finished | checked
  | rescheduled | returned | posted | muted | observed | acknowledged => trivial

theorem workerStep_keeps {board after : Board} (bound : board.firmware.endpoint.BoundBy .cpu3)
    (stepped : workerStep board = some after) : WorkerKeeps board after where
  flags := (workerStep_frame bound stepped).flags
  modest := workerStep_modest bound stepped

/-- The worker gets past the gate only when the gate is open. -/
theorem workerStep_enters {board after : Board} (stepped : workerStep board = some after)
    (inside : after.firmware.worker.inService) :
    board.firmware.worker.inService ∨ board.firmware.serviceOpen = true := by
  cases workerStep_turn stepped with
  | admitted position gate => exact .inr gate
  | skipped position | visited position | finished position | drained position | replied position
  | rung position | checked position =>
      left
      rw [position]
      trivial
  | woke | swapped | spurious | dismissed | rescheduled | returned | posted | muted | observed
  | acknowledged => cases inside

/-- The step of the worker is its own, or a doorbell with a foreign answer. -/
theorem workerAnswered_cases {board after : Board} {answer : Option Int}
    (stepped : workerAnswered board answer = some after) :
    workerStep board = some after ∨
      ∃ visit result next code, board.firmware.worker = .ringing visit result next ∧
        after = ringAnswered board visit result next code := by
  simp only [workerAnswered] at stepped
  split at stepped
  · rename_i visit result next code position
    cases stepped
    exact .inr ⟨visit, result, next, code, position, rfl⟩
  · exact .inl stepped

theorem workerAnswered_keeps {board after : Board} {answer : Option Int}
    (bound : board.firmware.endpoint.BoundBy .cpu3)
    (stepped : workerAnswered board answer = some after) :
    WorkerKeeps board after ∧ after.firmware.endpoint.BoundBy .cpu3 := by
  rcases workerAnswered_cases stepped with own | ⟨visit, result, next, code, -, rfl⟩
  · exact ⟨workerStep_keeps bound own, (workerStep_sameImage bound own).side bound⟩
  · exact ⟨⟨⟨rfl, rfl, rfl, rfl, rfl⟩, resume_modest visit _ next⟩, bound⟩

theorem workerAnswered_enters {board after : Board} {answer : Option Int}
    (stepped : workerAnswered board answer = some after)
    (inside : after.firmware.worker.inService) :
    board.firmware.worker.inService ∨ board.firmware.serviceOpen = true := by
  rcases workerAnswered_cases stepped with own | ⟨visit, result, next, code, position, -⟩
  · exact workerStep_enters own inside
  · left
    rw [position]
    trivial

/-! ### The invariant -/

/-- SESSION_READY is the first frame and the only one of its type. -/
def Announced (frames : List U32) : Prop :=
  frames.head? = some MessageType.sessionReady ∧ frames.count MessageType.sessionReady = 1

theorem announced_singleton : Announced [MessageType.sessionReady] := ⟨rfl, by decide⟩

theorem Announced.append {frames : List U32} (announced : Announced frames) {type : U32}
    (other : type ≠ MessageType.sessionReady) : Announced (frames ++ [type]) := by
  obtain ⟨first, once⟩ := announced
  constructor
  · rw [List.head?_append, first]
    rfl
  · rw [List.count_append, once, List.count_singleton, if_neg (by simpa using other)]

/-- What the position of the main thread says about the flags and the frames. -/
def Consistent (committed published : Bool) (frames : List U32) : Announcer → Prop
  | .starting | .bound => committed = false ∧ published = false ∧ frames = []
  | .calling | .gated =>
      (committed = false ∧ published = false ∧ frames = []) ∨ (committed = true ∧ Announced frames)
  | .unpublished =>
      published = false ∧ ((committed = false ∧ frames = []) ∨
        (committed = true ∧ Announced frames))
  | .retrying | .retried _ | .committed _ =>
      committed = true ∧ published = false ∧ Announced frames
  | .sending reply =>
      committed = false ∧ published = false ∧ frames = [] ∧ reply.type = MessageType.sessionReady
  | .validating draft | .building draft | .loading draft _ _ | .storing draft _ _ _
  | .testing draft _
  | .numbering draft _ =>
      committed = false ∧ published = false ∧ frames = [] ∧
        draft.reply.type = MessageType.sessionReady
  | .pushing _ message | .comparing _ message _ | .writing _ message _ | .publishing _ message _ =>
      committed = false ∧ published = false ∧ frames = [] ∧ message.type = MessageType.sessionReady
  | .preparing | .countingFull | .recordingFull =>
      committed = false ∧ published = false ∧ frames = []
  | .countingSent _ | .ringing | .countingDoorbell _ | .returned _ =>
      committed = false ∧ published = false ∧ Announced frames

/-- The frames fit the flags and the position, and the worker serves only after the announcement. -/
structure Invariant (state : State) : Prop where
  build : state.board.firmware.build.skipSessionReady = false
  side : state.board.firmware.endpoint.BoundBy .cpu3
  consistent : Consistent state.board.firmware.sessionReadyCommitted
    state.board.firmware.sessionReadyPublished state.frames state.announcer
  served : state.board.firmware.worker.inService →
    state.board.firmware.sessionReadyPublished = true
  modest : Modest state.board.firmware.worker

/-- A published session is committed, and no send of the main thread is under way. -/
theorem Consistent.of_published {committed : Bool} {frames : List U32} {announcer : Announcer}
    (consistent : Consistent committed true frames announcer) :
    (announcer = .calling ∨ announcer = .gated) ∧ committed = true ∧ Announced frames := by
  cases announcer <;> simp_all [Consistent]

/-- More frames of the worker. -/
theorem Consistent.append {committed published : Bool} {frames : List U32} {announcer : Announcer}
    (consistent : Consistent committed published frames announcer) (open_ : published = true)
    {type : U32} (other : type ≠ MessageType.sessionReady) :
    Consistent committed published (frames ++ [type]) announcer := by
  subst open_
  obtain ⟨position, done, announced⟩ := consistent.of_published
  rcases position with rfl | rfl
  · exact .inr ⟨done, announced.append other⟩
  · exact .inr ⟨done, announced.append other⟩

/-! ### Steps of the main thread

The main thread is taken instruction by instruction, so between any two of them the handler may run
and, where the thread blocks, the worker.
-/

section MainThread

variable (state : State) (answer : Option Int)

/-- The main thread leaves the worker and the build alone. -/
theorem announcerStep_frame :
    (announcerStep state answer).board.firmware.worker = state.board.firmware.worker ∧
      (announcerStep state answer).board.firmware.build = state.board.firmware.build := by
  cases position : state.announcer with
  | sending reply =>
      simp only [announcerStep, position]
      split <;> exact ⟨rfl, rfl⟩
  | _ =>
      simp only [announcerStep, position]
      exact ⟨rfl, rfl⟩

/-- The endpoint stays with CPU3. -/
theorem announcerStep_side (bound : state.board.firmware.endpoint.BoundBy .cpu3) :
    (announcerStep state answer).board.firmware.endpoint.BoundBy .cpu3 := by
  cases position : state.announcer with
  | starting =>
      simp only [announcerStep, position]
      exact endpointBind_boundBy _ bound
  | sending reply =>
      simp only [announcerStep, position]
      split <;> exact bound
  | _ =>
      simp only [announcerStep, position]
      exact bound

/-- No step of the main thread withdraws a publication. -/
theorem announcerStep_published
    (consistent : Consistent state.board.firmware.sessionReadyCommitted
      state.board.firmware.sessionReadyPublished state.frames state.announcer)
    (published : state.board.firmware.sessionReadyPublished = true) :
    (announcerStep state answer).board.firmware.sessionReadyPublished = true := by
  rw [published] at consistent
  obtain ⟨position | position, -, -⟩ := consistent.of_published
  · simp only [announcerStep, position]
    exact published
  · simp only [announcerStep, position]
    exact published

/-- Every instruction keeps the flags and the frames in step with the position. -/
theorem announcerStep_consistent
    (consistent : Consistent state.board.firmware.sessionReadyCommitted
      state.board.firmware.sessionReadyPublished state.frames state.announcer) :
    Consistent (announcerStep state answer).board.firmware.sessionReadyCommitted
      (announcerStep state answer).board.firmware.sessionReadyPublished
      (announcerStep state answer).frames (announcerStep state answer).announcer := by
  cases position : state.announcer with
  | starting | building draft | loading draft generation again | pushing draft message
  | writing draft message producer | retrying | countingFull | countingSent draft | ringing
  | countingDoorbell result =>
      rw [position] at consistent
      simp only [announcerStep, position]
      exact consistent
  | bound | recordingFull =>
      rw [position] at consistent
      simp only [announcerStep, position]
      exact .inl consistent
  | calling =>
      rw [position] at consistent
      simp only [announcerStep, position]
      split <;> exact consistent
  | gated =>
      rw [position] at consistent
      simp only [announcerStep, position]
      split
      · exact consistent
      · rename_i unpublished
        have unset : state.board.firmware.sessionReadyPublished = false := by
          simpa using unpublished
        rcases consistent with ⟨uncommitted, -, nothing⟩ | done
        · exact ⟨unset, .inl ⟨uncommitted, nothing⟩⟩
        · exact ⟨unset, .inr done⟩
  | unpublished =>
      rw [position] at consistent
      obtain ⟨unset, ⟨uncommitted, nothing⟩ | ⟨done, announced⟩⟩ := consistent
      · simp only [announcerStep, position, uncommitted]
        exact ⟨uncommitted, unset, nothing⟩
      · simp only [announcerStep, position, done]
        exact ⟨done, unset, announced⟩
  | retried result | committed result =>
      rw [position] at consistent
      obtain ⟨done, -, announced⟩ := consistent
      simp only [announcerStep, position]
      exact .inr ⟨done, announced⟩
  | preparing =>
      rw [position] at consistent
      obtain ⟨uncommitted, unset, nothing⟩ := consistent
      simp only [announcerStep, position]
      exact ⟨uncommitted, unset, nothing, rfl⟩
  | sending reply =>
      rw [position] at consistent
      obtain ⟨uncommitted, unset, nothing, ready⟩ := consistent
      simp only [announcerStep, position]
      split
      · exact .inl ⟨uncommitted, unset, nothing⟩
      · split
        · exact ⟨uncommitted, unset, nothing, ready⟩
        · exact .inl ⟨uncommitted, unset, nothing⟩
  | validating draft =>
      rw [position] at consistent
      obtain ⟨uncommitted, unset, nothing, ready⟩ := consistent
      simp only [announcerStep, position]
      split
      · exact ⟨uncommitted, unset, nothing, ready⟩
      · exact .inl ⟨uncommitted, unset, nothing⟩
  | storing draft generation again value | testing draft generation =>
      rw [position] at consistent
      simp only [announcerStep, position]
      split <;> exact consistent
  | numbering draft generation =>
      rw [position] at consistent
      simp only [announcerStep, position]
      exact consistent
  | comparing draft message producer =>
      rw [position] at consistent
      obtain ⟨uncommitted, unset, nothing, ready⟩ := consistent
      simp only [announcerStep, position]
      split
      · exact .inl ⟨uncommitted, unset, nothing⟩
      · split
        · exact ⟨uncommitted, unset, nothing⟩
        · exact ⟨uncommitted, unset, nothing, ready⟩
  | publishing draft message producer =>
      rw [position] at consistent
      obtain ⟨uncommitted, unset, nothing, ready⟩ := consistent
      simp only [announcerStep, position]
      refine ⟨uncommitted, unset, ?_⟩
      -- This is the one place where SESSION_READY enters the ring.
      rw [nothing, ready]
      exact announced_singleton
  | returned result =>
      rw [position] at consistent
      obtain ⟨-, unset, announced⟩ := consistent
      simp only [announcerStep, position]
      exact ⟨rfl, unset, announced⟩

end MainThread

/-! ### Steps of the machine -/

/-- What the handler and CPU_OFF keep for the two threads. -/
structure BystanderKeeps (before after : Board) : Prop where
  flags : SameFlags before.firmware after.firmware
  endpoint : after.firmware.endpoint = before.firmware.endpoint
  worker : after.firmware.worker = before.firmware.worker ∨
    ¬ after.firmware.worker.inService ∧ Modest after.firmware.worker

theorem bystander_keeps {board after : Board} {label : FirmwareLabel}
    (stepped : firmwareStep board label = some after) (notWorker : label ≠ .worker)
    (notMain : label ≠ .main) : BystanderKeeps board after := by
  cases firmwareStep_activity stepped with
  | handler shared firmware =>
      refine ⟨?_, by rw [firmware], .inl (by rw [firmware])⟩
      constructor <;> rw [firmware]
  | worker turn stepped => exact absurd turn notWorker
  | cpuOff request position returned moved =>
      rw [moved]
      refine ⟨⟨rfl, rfl, rfl, rfl, rfl⟩, rfl, .inr ?_⟩
      cases returned <;> exact ⟨id, trivial⟩
  | main turn moved => exact absurd turn notMain

/-- A step of the machine, by who takes it. -/
inductive Taken (state : State) (label : Label) (next : State) : Prop where
  | bystander (keeps : BystanderKeeps state.board next.board)
      (announcer : next.announcer = state.announcer) (frames : next.frames = state.frames)
  | worker (answer : Option Int) (turn : label = .worker answer) (after : Board)
      (stepped : workerAnswered state.board answer = some after)
      (moved : next =
        { state with board := after, frames := state.frames ++ (committedReply state.board).toList })
  | main (answer : Option Int) (turn : label = .main answer)
      (blocked : state.board.firmware.workerBlocked = true)
      (moved : next = announcerStep state answer)

theorem step_taken {state next : State} {label : Label} (stepped : step state label = some next) :
    Taken state label next := by
  cases label with
  | interrupt channel | isr | cpuOff returned =>
      simp only [step, Option.map_eq_some_iff] at stepped
      obtain ⟨after, moved, rfl⟩ := stepped
      exact .bystander (bystander_keeps moved (by simp) (by simp)) rfl rfl
  | worker answer =>
      simp only [step] at stepped
      split at stepped
      · obtain ⟨after, moved, rfl⟩ := Option.map_eq_some_iff.mp stepped
        exact .worker answer rfl after moved rfl
      · cases stepped
  | main answer =>
      simp only [step] at stepped
      split at stepped
      · rename_i turn
        cases stepped
        exact .main answer rfl turn.2 rfl
      · cases stepped
  | environment hardware =>
      cases stepped
      exact .bystander ⟨⟨rfl, rfl, rfl, rfl, rfl⟩, rfl, .inl rfl⟩ rfl rfl

/-- A frame of the worker is committed behind the gate, and it is not a SESSION_READY. -/
theorem committedReply_spec {state : State} (invariant : Invariant state) {type : U32}
    (committed : committedReply state.board = some type) :
    state.board.firmware.sessionReadyPublished = true ∧ type ≠ MessageType.sessionReady := by
  unfold committedReply at committed
  split at committed
  · rename_i visit reply next position
    have served := invariant.served
    have modest := invariant.modest
    rw [position] at served modest
    split at committed
    · cases committed
      exact ⟨served trivial, modest⟩
    · cases committed
  · cases committed

theorem step_invariant {state next : State} {label : Label} (invariant : Invariant state)
    (stepped : step state label = some next) : Invariant next := by
  cases step_taken stepped with
  | bystander keeps announcer frames =>
      refine ⟨?_, ?_, ?_, ?_, ?_⟩
      · rw [keeps.flags.build]
        exact invariant.build
      · rw [keeps.endpoint]
        exact invariant.side
      · rw [keeps.flags.committed, keeps.flags.published, announcer, frames]
        exact invariant.consistent
      · intro inside
        rw [keeps.flags.published]
        rcases keeps.worker with same | ⟨outside, -⟩
        · exact invariant.served (same ▸ inside)
        · exact absurd inside outside
      · rcases keeps.worker with same | ⟨-, modest⟩
        · rw [same]
          exact invariant.modest
        · exact modest
  | worker answer turn after worked moved =>
      subst moved
      obtain ⟨keeps, side⟩ := workerAnswered_keeps invariant.side worked
      refine ⟨?_, side, ?_, ?_, keeps.modest⟩
      · rw [keeps.flags.build]
        exact invariant.build
      · rw [keeps.flags.committed, keeps.flags.published]
        cases committed : committedReply state.board with
        | none =>
            simp only [Option.toList_none, List.append_nil]
            exact invariant.consistent
        | some type =>
            obtain ⟨published, other⟩ := committedReply_spec invariant committed
            exact invariant.consistent.append published other
      · intro inside
        rw [keeps.flags.published]
        rcases workerAnswered_enters worked inside with already | gate
        · exact invariant.served already
        · simpa [Firmware.serviceOpen, invariant.build] using (Bool.and_eq_true_iff.mp gate).2
  | main answer turn blocked moved =>
      subst moved
      obtain ⟨worker, build⟩ := announcerStep_frame state answer
      refine ⟨?_, announcerStep_side state answer invariant.side,
        announcerStep_consistent state answer invariant.consistent, ?_, ?_⟩
      · rw [build]
        exact invariant.build
      · intro inside
        rw [worker] at inside
        exact announcerStep_published state answer invariant.consistent (invariant.served inside)
      · rw [worker]
        exact invariant.modest

theorem reachable_invariant {state : State} (reached : machine.Reachable state) :
    Invariant state := by
  induction reached with
  | init start =>
      obtain ⟨build, hardware, announces, rfl⟩ := start
      refine ⟨announces, ?_, ⟨rfl, rfl, rfl⟩, ?_, trivial⟩
      · intro role hasRole
        cases hasRole
      · intro inside
        cases inside
  | step earlier taken inductionHypothesis => exact step_invariant inductionHypothesis taken

/-! ### Results -/

/-- Outside its endpoint calls the main thread commits nothing and leaves the endpoint alone; all it
does to the hardware is a doorbell. -/
theorem announcerStep_outside (state : State) (answer : Option Int)
    (outside : state.announcer.usesEndpoint = false) :
    (announcerStep state answer).board.firmware.endpoint = state.board.firmware.endpoint ∧
      (announcerStep state answer).frames = state.frames ∧
      ((announcerStep state answer).board.hardware = state.board.hardware ∨
        (announcerStep state answer).board.hardware =
          (doorbell state.board.hardware .critical answer).2) := by
  cases position : state.announcer with
  | starting | preparing | sending reply | validating draft | building draft
  | loading draft generation again | storing draft generation again value | testing draft generation
  | numbering draft generation | pushing draft message | comparing draft message producer
  | writing draft message producer | publishing draft message producer | countingFull
  | countingSent draft | ringing | countingDoorbell result =>
      rw [position] at outside
      cases outside
  | bound | calling | gated | unpublished | retried result | recordingFull | returned result
  | committed result =>
      simp only [announcerStep, position]
      exact ⟨rfl, rfl, .inl rfl⟩
  | retrying =>
      simp only [announcerStep, position]
      exact ⟨rfl, rfl, .inr rfl⟩

/-- Outside its endpoint calls the worker commits nothing and leaves the endpoint alone. -/
theorem workerAnswered_outside {board after : Board} {answer : Option Int}
    (worked : workerAnswered board answer = some after)
    (outside : workerUsesEndpoint board.firmware.worker = false) :
    after.firmware.endpoint = board.firmware.endpoint ∧ committedReply board = none := by
  have own : workerStep board = some after := by
    rcases workerAnswered_cases worked with own | ⟨visit, result, next, code, position, -⟩
    · exact own
    · rw [position] at outside
      cases outside
  cases workerStep_spec own with
  | quiet before silent shared firmware =>
      constructor
      · rw [firmware]
      · unfold committedReply
        split
        · rename_i position
          rw [position] at before
          cases before
        · rfl
  | drained visit position moved =>
      rw [position] at outside
      cases outside
  | replied visit reply next position moved =>
      rw [position] at outside
      cases outside
  | rung visit result next position moved =>
      rw [position] at outside
      cases outside

/-- Only a thread that is inside a call changes the endpoint or commits a frame. -/
theorem changed_by_user {state next : State} {label : Label}
    (stepped : step state label = some next)
    (changed : next.board.firmware.endpoint ≠ state.board.firmware.endpoint ∨
      next.frames ≠ state.frames) :
    (∃ answer, label = .main answer ∧ state.announcer.usesEndpoint = true) ∨
      ∃ answer, label = .worker answer ∧
        workerUsesEndpoint state.board.firmware.worker = true := by
  cases step_taken stepped with
  | bystander keeps announcer frames =>
      rcases changed with touched | grown
      · exact absurd keeps.endpoint touched
      · exact absurd frames grown
  | worker answer turn after worked moved =>
      refine .inr ⟨answer, turn, ?_⟩
      by_contra outside
      obtain ⟨endpoint, nothing⟩ := workerAnswered_outside worked (by simpa using outside)
      subst moved
      rcases changed with touched | grown
      · exact touched endpoint
      · simp [nothing] at grown
  | main answer turn blocked moved =>
      refine .inl ⟨answer, turn, ?_⟩
      by_contra outside
      obtain ⟨endpoint, frames, -⟩ := announcerStep_outside state answer (by simpa using outside)
      subst moved
      rcases changed with touched | grown
      · exact touched endpoint
      · exact grown frames

/-- The main thread is inside an endpoint call only before it has committed SESSION_READY. -/
theorem Consistent.of_uses {committed published : Bool} {frames : List U32} {announcer : Announcer}
    (consistent : Consistent committed published frames announcer)
    (uses : announcer.usesEndpoint = true) : committed = false ∧ published = false := by
  cases announcer with
  | bound | calling | gated | unpublished | retrying | retried result | recordingFull
  | returned result
  | committed result => cases uses
  | sending reply | validating draft | building draft | loading draft generation again
  | storing draft generation again value | testing draft generation | numbering draft generation
  | pushing draft message | comparing draft message producer | writing draft message producer
  | publishing draft message producer => exact ⟨consistent.1, consistent.2.1⟩
  | starting | preparing | countingFull | countingSent draft | ringing | countingDoorbell result =>
      exact ⟨consistent.1, consistent.2.1⟩

/-- Nothing is committed yet, or SESSION_READY came first and once. -/
theorem Consistent.frames {committed published : Bool} {frames : List U32} {announcer : Announcer}
    (consistent : Consistent committed published frames announcer) :
    frames = [] ∨ Announced frames := by
  cases announcer <;> simp only [Consistent] at consistent <;> tauto

/-- In every state of every run the two threads are not both inside an endpoint call, at most one
SESSION_READY is committed (exactly one once it is published), the first committed frame is that
one, and after the commit the main thread rings the doorbell at most.  The endpoint changes and
frames are committed only by a thread inside such a call. -/
theorem endpoint_single_user {state : State} (reached : machine.Reachable state) :
    ¬ (state.announcer.usesEndpoint = true ∧
        workerUsesEndpoint state.board.firmware.worker = true) ∧
      state.frames.count MessageType.sessionReady ≤ 1 ∧
      (∀ type ∈ state.frames.head?, type = MessageType.sessionReady) ∧
      (state.board.firmware.sessionReadyPublished = true →
        state.frames.count MessageType.sessionReady = 1) ∧
      (state.board.firmware.sessionReadyCommitted = true →
        ∀ answer next, machine.step state (.main answer) = some next →
          next.board.firmware.endpoint = state.board.firmware.endpoint ∧
            next.frames = state.frames ∧
            (next.board.hardware = state.board.hardware ∨
              next.board.hardware = (doorbell state.board.hardware .critical answer).2)) ∧
      ∀ label next, machine.step state label = some next →
        next.board.firmware.endpoint ≠ state.board.firmware.endpoint ∨ next.frames ≠ state.frames →
        (∃ answer, label = .main answer ∧ state.announcer.usesEndpoint = true) ∨
          ∃ answer, label = .worker answer ∧
            workerUsesEndpoint state.board.firmware.worker = true := by
  have invariant := reachable_invariant reached
  refine ⟨?_, ?_, ?_, ?_, ?_, fun label next stepped changed => changed_by_user stepped changed⟩
  · rintro ⟨mainUses, workerUses⟩
    have unset := (invariant.consistent.of_uses mainUses).2
    have published := invariant.served (inService_of_uses workerUses)
    rw [unset] at published
    cases published
  · rcases invariant.consistent.frames with nothing | announced
    · simp [nothing]
    · exact announced.2.le
  · intro type first
    rcases invariant.consistent.frames with nothing | announced
    · simp [nothing] at first
    · rw [announced.1] at first
      exact (Option.some.inj first).symm
  · intro published
    have consistent := invariant.consistent
    rw [published] at consistent
    exact consistent.of_published.2.2.2
  · intro done answer next stepped
    have outside : state.announcer.usesEndpoint = false := by
      by_contra inside
      have uncommitted := (invariant.consistent.of_uses (by simpa using inside)).1
      rw [done] at uncommitted
      cases uncommitted
    simp only [machine, step] at stepped
    split at stepped
    · cases stepped
      exact announcerStep_outside state answer outside
    · cases stepped

/-- An image with STOP control. -/
def demoBuild : Build where
  stopControl := true
  selfOffValue := none
  skipPriority := none
  skipSessionReady := false

/-- The hardware of a fresh session, with these A2B registers. -/
def demoHardware (a2b : Doorbells) : Hardware := ⟨sessionRegion 1#32, a2b, .zero⟩

/-- A boot whose first doorbell fails and whose retry is accepted; then Linux rings and the worker
enters its drain loop. -/
def demoRun : List Label :=
  List.replicate 18 (.main none) ++ [.main (some (-5))] ++ List.replicate 8 (.main none) ++
    [.environment (demoHardware (Doorbells.zero.write .critical 0xa2b10000#32 0#32)),
      .interrupt .critical, .isr, .isr, .isr, .worker none, .worker none, .worker none,
      .worker none]

/-- At the end of that run the worker is inside its service, the main thread is not inside a call,
and the one SESSION_READY is the only frame. -/
theorem endpoint_single_user_demo :
    ∃ state, machine.Reachable state ∧
      workerUsesEndpoint state.board.firmware.worker = true ∧
      state.frames = [MessageType.sessionReady] ∧ state.announcer.usesEndpoint = false := by
  have start : machine.init (.booted demoBuild (demoHardware .zero)) := ⟨demoBuild, _, rfl, rfl⟩
  have checked : (machine.run (.booted demoBuild (demoHardware .zero)) demoRun).any
      (fun state => workerUsesEndpoint state.board.firmware.worker &&
        decide (state.frames = [MessageType.sessionReady])) = true := by
    decide +kernel
  obtain ⟨state, executed, passed⟩ := Machine.exists_of_run_any checked
  have reached : machine.Reachable state := (Machine.Reachable.init start).run executed
  obtain ⟨uses, frames⟩ := Bool.and_eq_true_iff.mp passed
  obtain ⟨exclusive, -⟩ := endpoint_single_user reached
  refine ⟨state, reached, uses, of_decide_eq_true frames, ?_⟩
  by_contra both
  exact exclusive ⟨by simpa using both, uses⟩

end MailMsg.Announce
