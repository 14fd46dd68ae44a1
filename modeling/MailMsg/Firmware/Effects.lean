/-
Module: MailMsg.Firmware.Effects
Purpose: What each activity of CPU3 can do to the region, to the doorbells and to its own endpoint:
  one spec for a send, for an iteration of the drain loop, and for a step of the main thread.
Source: LZAMP/firmware/zephyr/app/src/main.c
Trusted boundary: none
Main exports: SendFrame, Offered, Board.enqueue_spec, ReplySent, sendReply_spec, RingReply,
  ringReply_spec, Drained, drain_spec, WorkerTurn, workerStep_turn, WorkerMove, workerStep_spec,
  WorkerFrame, workerStep_frame, MainMove, mainStep_spec, Cpu3Step, firmwareStep_activity,
  SameImage, firmwareStep_sameImage, firmwareStep_flags
-/
import MailMsg.Firmware.Service

namespace MailMsg

/-! ### What a send leaves alone

CPU3 sends from the worker and from the main thread.  Either way the forward direction, its
doorbells and the header stay as they are, and of the firmware only the endpoint and the count of
full rings move.
-/

/-- The header, the forward rings and their doorbells are the same. -/
structure ForwardSame (before after : Hardware) : Prop where
  magic : after.shared.magic = before.shared.magic
  version : after.shared.version = before.shared.version
  generation : after.shared.generation = before.shared.generation
  forward : after.shared.linuxToCpu3 = before.shared.linuxToCpu3
  a2b : after.a2b = before.a2b

theorem ForwardSame.refl (hardware : Hardware) : ForwardSame hardware hardware :=
  ⟨rfl, rfl, rfl, rfl, rfl⟩

/-- The header of the region is the same. -/
structure HeaderSame (before after : Shared) : Prop where
  magic : after.magic = before.magic
  version : after.version = before.version
  generation : after.generation = before.generation

theorem HeaderSame.refl (shared : Shared) : HeaderSame shared shared := ⟨rfl, rfl, rfl⟩

/-- Writing a ring does not touch the header. -/
theorem HeaderSame.setRing (shared : Shared) (sender : Role) (priority : Priority) (ring : Ring) :
    HeaderSame shared (shared.setRing sender priority ring) := ⟨by simp, by simp, by simp⟩

/-- The header is part of what a send leaves alone. -/
theorem ForwardSame.header {before after : Hardware} (same : ForwardSame before after) :
    HeaderSame before.shared after.shared := ⟨same.magic, same.version, same.generation⟩

/-- A send of CPU3 writes the reverse direction, its endpoint and the count of full rings. -/
structure SendFrame (before after : Board) : Prop where
  hardware : ForwardSame before.hardware after.hardware
  binding : before.firmware.endpoint.SameBinding after.firmware.endpoint
  firmware : after.firmware =
    { before.firmware with
      endpoint := after.firmware.endpoint
      txFullCount := after.firmware.txFullCount }

/-- The frame that a reply becomes. -/
def Board.frameOf (board : Board) (reply : Reply) : Frame :=
  (sendMessage board.firmware.endpoint.generation reply.type
    (endpointNextSequence board.firmware.endpoint) reply.length (some reply.payload)).frame

/-- Everything that the push of a send can do. -/
inductive Offered (board : Board) (priority : Priority) (reply : Reply)
    (sent : SendOutcome × Board) : Prop where
  | refused (ret : sent.1.ret ≠ .ok) (hardware : sent.2.hardware = board.hardware)
      (cause : endpointSessionValid board.firmware.endpoint board.hardware.shared ≠ .ok ∨
        ringNext (board.hardware.shared.cpu3ToLinux priority).producer =
          (board.hardware.shared.cpu3ToLinux priority).consumer)
  | pushed (ret : sent.1.ret = .ok)
      (space : ringNext (board.hardware.shared.cpu3ToLinux priority).producer ≠
        (board.hardware.shared.cpu3ToLinux priority).consumer)
      (valid : ¬ (board.frameOf reply).malformed)
      (published : sent.2.hardware =
        { board.hardware with
          shared := board.hardware.shared.setRing .cpu3 priority
            ((board.hardware.shared.cpu3ToLinux priority).publish (board.frameOf reply).committed) })

section Sends

variable (board : Board) (priority : Priority)

/-- The push of a reply: the endpoint counts, and at most one reverse ring grows. -/
theorem Board.enqueue_spec (reply : Reply) (bound : board.firmware.endpoint.BoundBy .cpu3) :
    Offered board priority reply (board.enqueue priority reply) ∧
      SendFrame board (board.enqueue priority reply).2 := by
  have spec := endpointEnqueue_spec board.firmware.endpoint board.hardware.shared
    priority reply.type
    (some reply.payload) reply.length .pending
  simp only [Board.enqueue]
  generalize endpointEnqueue board.firmware.endpoint board.hardware.shared priority reply.type
    (some reply.payload) reply.length .pending = outcome at spec
  cases spec with
  | refused ret notFull sameEndpoint sameShared cause =>
      have invalid : endpointSessionValid board.firmware.endpoint board.hardware.shared ≠ .ok := by
        rcases cause with arguments | session
        · -- Only the unbound endpoint fails the argument check, and it fails the session check too.
          intro session
          obtain ⟨hasRole, -⟩ := (endpointSessionValid_ok_iff _ _).mp session
          apply arguments
          simp [sendArgumentsValid, hasRole, reply.fits]
        · exact session
      constructor
      · exact .refused ret (by simp [sameShared]) (.inl invalid)
      · exact ⟨by simp [sameShared, ForwardSame.refl],
          by simp [sameEndpoint, Endpoint.SameBinding.refl],
          rfl⟩
  | pushed role hasRole session arguments push =>
      obtain rfl := bound role hasRole
      cases push with
      | full noSpace ret queueResult sameShared counted =>
          constructor
          · exact .refused (by simp [ret]) (by simp [sameShared]) (.inr noSpace)
          · exact ⟨by simp [sameShared, ForwardSame.refl], ⟨by rw [counted]; rfl, by rw [counted]; rfl⟩,
              rfl⟩
      | queued space ret sequence pushed published sameRole sameGeneration drawn =>
          obtain ⟨valid, same⟩ := ringPush_ok pushed
          rw [same] at published
          constructor
          · exact .pushed ret space valid (by rw [published]; rfl)
          · exact ⟨⟨by simp [published], by simp [published], by simp [published],
              by simp [published], rfl⟩, ⟨sameRole, sameGeneration⟩, rfl⟩

/-- CPU3's doorbell is always accepted. -/
theorem cpu3Notify_accepted (hardware : Hardware) :
    notifyAccepted (cpu3Notify hardware priority).1 := by
  unfold cpu3Notify
  split <;> rfl

/-- A doorbell of CPU3 writes the other direction of the mailbox. -/
theorem cpu3Notify_frame (hardware : Hardware) :
    (cpu3Notify hardware priority).2.shared = hardware.shared ∧
      (cpu3Notify hardware priority).2.a2b = hardware.a2b := by
  unfold cpu3Notify
  split <;> exact ⟨rfl, rfl⟩

/-- A doorbell that leaves the region alone. -/
structure RingFrame (before after : Board) : Prop extends SendFrame before after where
  shared : after.hardware.shared = before.hardware.shared

/-- A doorbell of CPU3, with what the endpoint counts for it. -/
theorem Board.ring_spec (result : SendResult) :
    RingFrame board (board.ring priority result).2 ∧
      notifyAccepted (board.ring priority result).1 := by
  obtain ⟨shared, a2b⟩ := cpu3Notify_frame priority board.hardware
  refine ⟨⟨⟨⟨?_, ?_, ?_, ?_, a2b⟩, ⟨rfl, rfl⟩, rfl⟩, shared⟩, ?_⟩
  · exact congrArg Shared.magic shared
  · exact congrArg Shared.version shared
  · exact congrArg Shared.generation shared
  · exact congrArg Shared.linuxToCpu3 shared
  · exact cpu3Notify_accepted priority board.hardware

/-- Counting a full ring is part of a send. -/
theorem SendFrame.record {before after : Board} (frame : SendFrame before after)
    (result : SendResult) :
    SendFrame before { after with firmware := recordTxFull after.firmware result } := by
  obtain ⟨hardware, binding, firmware⟩ := frame
  unfold recordTxFull
  split
  · refine ⟨hardware, binding, ?_⟩
    rw [firmware]
  · exact ⟨hardware, binding, firmware⟩

end Sends

/-! ### Replies -/

/-- The payload that a reply arrives with: its bytes, then zeros. -/
def Reply.bytes (reply : Reply) (index : Nat) : U8 :=
  if index < reply.length.toNat then reply.payload index else 0

/-- The receiver reads the payload of the reply and zeros behind it. -/
theorem Board.frameOf_payloadAt (board : Board) (reply : Reply) :
    (board.frameOf reply).committed.payloadAt = reply.bytes := by
  funext index
  have fits := reply.fits
  simp only [Message.payloadAt, Reply.bytes, Frame.committed, Board.frameOf,
    Message.frame, sendMessage]
  by_cases inside : index < payloadBytes
  · simp [inside]
  · have outside : ¬ index < reply.length.toNat := by omega
    simp [inside, outside]

/-- A word inside the reply's length. -/
theorem Reply.word (reply : Reply) {offset : Nat} (inside : offset + 4 ≤ reply.length.toNat) :
    payloadU32 reply.bytes offset = payloadU32 reply.payload offset := by
  apply payloadU32_congr
  intro k bound
  exact if_pos (by omega)

/-- The first word of a feedback frame is the sequence that it answers. -/
theorem feedbackReply_sequence (type peerSequence status : U32) :
    payloadU32 (feedbackReply type peerSequence status).bytes 0 = peerSequence := by
  have inside : 0 + 4 ≤ (feedbackReply type peerSequence status).length.toNat := by
    simp [feedbackReply]
  rw [Reply.word _ inside]
  simp only [feedbackReply]
  rw [payloadU32_store_of_disjoint _ _ (.inl (Nat.le_refl 4)), payloadU32_store]

/-- Everything that the push of a reply can do. -/
inductive ReplySent (board : Board) (visit : Visit) (reply : Reply) (next : Continuation)
    (after : Board) : Prop where
  | refused (noted : Board) (frame : SendFrame board noted)
      (hardware : noted.hardware = board.hardware)
      (cause : endpointSessionValid board.firmware.endpoint board.hardware.shared ≠ .ok ∨
        ringNext (board.hardware.shared.cpu3ToLinux visit.priority).producer =
          (board.hardware.shared.cpu3ToLinux visit.priority).consumer)
      (moved : after = noted.work (next.resume visit false))
  | queued (pushed : Board) (result : SendResult) (frame : SendFrame board pushed)
      (space : ringNext (board.hardware.shared.cpu3ToLinux visit.priority).producer ≠
        (board.hardware.shared.cpu3ToLinux visit.priority).consumer)
      (valid : ¬ (board.frameOf reply).malformed)
      (published : pushed.hardware =
        { board.hardware with
          shared := board.hardware.shared.setRing .cpu3 visit.priority
            ((board.hardware.shared.cpu3ToLinux visit.priority).publish
              (board.frameOf reply).committed) })
      (moved : after = pushed.work (.ringing visit result next))

/-- A reply is published, or dropped for want of room or of a session; then the worker goes on. -/
theorem sendReply_spec (board : Board) (visit : Visit) (reply : Reply) (next : Continuation)
    (bound : board.firmware.endpoint.BoundBy .cpu3) :
    ReplySent board visit reply next (sendReply board visit reply next) := by
  obtain ⟨offered, frame⟩ := board.enqueue_spec visit.priority reply bound
  simp only [sendReply]
  generalize board.enqueue visit.priority reply = sent at *
  cases offered with
  | refused ret hardware cause =>
      rw [if_pos ret]
      exact .refused _ (frame.record sent.1.result) hardware cause rfl
  | pushed ret space valid published =>
      rw [if_neg (not_not_intro ret)]
      exact .queued sent.2 sent.1.result frame space valid published rfl

/-- The doorbell of a reply leaves the region alone, and the worker goes on with an accepted
reply. -/
theorem ringReply_spec (board : Board) (visit : Visit) (result : SendResult) (next : Continuation) :
    ∃ rung, RingFrame board rung ∧
      ringReply board visit result next = rung.work (next.resume visit true) := by
  obtain ⟨frame, accepted⟩ := board.ring_spec visit.priority result
  refine ⟨_, frame, ?_⟩
  simp only [ringReply, accepted]

/-! ### The drain loop -/

/-- The board after one pop of a forward ring. -/
def Board.popped (board : Board) (priority : Priority) (endpoint : Endpoint) : Board where
  firmware := { board.firmware with endpoint := endpoint }
  hardware :=
    { board.hardware with
      shared := board.hardware.shared.setRing .linux priority
        (ringPop (board.hardware.shared.linuxToCpu3 priority)).2.1 }

/-- Everything that one iteration of the drain loop can do. -/
inductive Drained (board : Board) (visit : Visit) (after : Board) : Prop where
  /-- The quota is used up or the session is not valid. -/
  | untouched (moved : after = board.work (.checking visit))
  /-- Nothing to serve: the ring is empty, its head is not committed, or its head was of another
  generation and is gone. -/
  | idle (endpoint : Endpoint) (binding : board.firmware.endpoint.SameBinding endpoint)
      (moved : after = (board.popped visit.priority endpoint).work (.checking visit))
  /-- A good frame of the session. -/
  | served (endpoint : Endpoint) (binding : board.firmware.endpoint.SameBinding endpoint)
      (request : Message)
      (head : (ringPop (board.hardware.shared.linuxToCpu3 visit.priority)).2.2 = some request)
      (moved : after = (board.popped visit.priority endpoint).work
        (answer board.firmware.build visit.next request))
  /-- A frame that fails its checks. -/
  | rejected (endpoint : Endpoint) (binding : board.firmware.endpoint.SameBinding endpoint)
      (request : Message) (reason : U32)
      (moved : after = (board.popped visit.priority endpoint).countRxError.work
        (reject visit.next request reason))

/-- One iteration: a frame is served or rejected, or the loop is over. -/
theorem drain_spec (board : Board) (visit : Visit) (bound : board.firmware.endpoint.BoundBy .cpu3) :
    Drained board visit (drain board visit) := by
  by_cases quota : visit.handled < drainQuota
  · have spec := endpointReceive_spec board.firmware.endpoint board.hardware.shared visit.priority
    simp only [drain, if_pos quota]
    generalize endpointReceive board.firmware.endpoint board.hardware.shared visit.priority =
      outcome at spec
    cases spec with
    | refused ret notStale sameEndpoint sameShared nothing cause =>
        have still : board.received outcome = board := by
          simp only [Board.received, sameEndpoint, sameShared]
        rw [still]
        split
        · exact absurd nothing (by simp_all)
        · exact absurd nothing (by simp_all)
        · exact absurd nothing (by simp_all)
        · exact .untouched rfl
    | popped role hasRole session ret released message counted =>
        obtain rfl := bound role hasRole
        have binding : board.firmware.endpoint.SameBinding outcome.endpoint := by
          rw [counted]
          exact Endpoint.sameBinding_updateStats _ _ _
        have taken : board.received outcome = board.popped visit.priority outcome.endpoint := by
          simp only [Board.received, Board.popped, released]
          rfl
        rw [taken]
        split
        · rename_i request _ delivered
          exact .served _ binding request (message.symm.trans delivered) rfl
        · rename_i request _ _
          exact .rejected _ binding request nackBadCrc rfl
        · rename_i request _ _
          exact .rejected _ binding request nackInvalidFrame rfl
        · exact .idle _ binding rfl
  · simp only [drain, if_neg quota]
    exact .untouched rfl

/-! ### The worker

`WorkerTurn` is the list of everything that the worker does between two of its positions, with the
guard that it has passed.  Whatever a later module says about a step of the worker is a case
analysis on that list, or on `WorkerMove`, which tells apart only whether the step is inside the
drain loop or a reply.
-/

/-- One step of the worker, by the position that it leaves. -/
inductive WorkerTurn (board : Board) : Board → Prop where
  | woke (position : board.firmware.worker = .waiting) (given : board.firmware.workSem = true) :
      WorkerTurn board
        { board with
          firmware :=
            { board.firmware with
              workSem := false
              wakeCount := board.firmware.wakeCount + 1
              worker := .woken } }
  /-- The mask is swapped for an empty one before the service looks at it. -/
  | swapped (position : board.firmware.worker = .woken)
      (wanted : anyPriority board.firmware.pendingPriorities = true) :
      WorkerTurn board
        { board with
          firmware :=
            { board.firmware with
              pendingPriorities := fun _ => false
              drainCount := board.firmware.drainCount + 1
              worker := .entering board.firmware.pendingPriorities } }
  | spurious (position : board.firmware.worker = .woken)
      (nothing : ¬ anyPriority board.firmware.pendingPriorities = true) :
      WorkerTurn board
        { board with
          firmware :=
            { board.firmware with
              pendingPriorities := fun _ => false
              emptyWakeCount := board.firmware.emptyWakeCount + 1
              worker := .waiting } }
  | admitted {pending : Priority → Bool} (position : board.firmware.worker = .entering pending)
      (gate : board.firmware.serviceOpen = true) :
      WorkerTurn board (board.work (.scanning (.start pending) 0))
  | dismissed {pending : Priority → Bool} (position : board.firmware.worker = .entering pending)
      (gate : ¬ board.firmware.serviceOpen = true) :
      WorkerTurn board (board.work (.reporting (.start pending)))
  | skipped {round : Round} {reached : Nat}
      (position : board.firmware.worker = .scanning round reached)
      (inRange : reached < priorityCount)
      (idle : ¬ round.pending ⟨reached, inRange⟩ ∨
        board.firmware.build.skipPriority = some ⟨reached, inRange⟩) :
      WorkerTurn board (board.work (.scanning round (reached + 1)))
  | visited {round : Round} {reached : Nat}
      (position : board.firmware.worker = .scanning round reached)
      (inRange : reached < priorityCount)
      (wanted : ¬ (¬ round.pending ⟨reached, inRange⟩ ∨
        board.firmware.build.skipPriority = some ⟨reached, inRange⟩)) :
      WorkerTurn board (board.work (.draining ⟨round, ⟨reached, inRange⟩, 0⟩))
  | finished {round : Round} {reached : Nat}
      (position : board.firmware.worker = .scanning round reached)
      (past : ¬ reached < priorityCount) : WorkerTurn board (board.work (.reporting round))
  | drained {visit : Visit} (position : board.firmware.worker = .draining visit) :
      WorkerTurn board (drain board visit)
  | replied {visit : Visit} {reply : Reply} {next : Continuation}
      (position : board.firmware.worker = .replying visit reply next) :
      WorkerTurn board (sendReply board visit reply next)
  | rung {visit : Visit} {result : SendResult} {next : Continuation}
      (position : board.firmware.worker = .ringing visit result next) :
      WorkerTurn board (ringReply board visit result next)
  | checked {visit : Visit} (position : board.firmware.worker = .checking visit) :
      WorkerTurn board (check board visit)
  | rescheduled {round : Round} (position : board.firmware.worker = .reporting round)
      (again : anyPriority round.reschedule = true) :
      WorkerTurn board
        { board with
          firmware :=
            { board.firmware with
              messageCount := board.firmware.messageCount + round.messages
              pendingPriorities := fun priority =>
                board.firmware.pendingPriorities priority || round.reschedule priority
              worker := .posting } }
  | returned {round : Round} (position : board.firmware.worker = .reporting round)
      (settled : ¬ anyPriority round.reschedule = true) :
      WorkerTurn board
        { board with
          firmware :=
            { board.firmware with
              messageCount := board.firmware.messageCount + round.messages
              worker := .waiting } }
  | posted (position : board.firmware.worker = .posting) :
      WorkerTurn board
        { board with firmware := { board.firmware with workSem := true, worker := .waiting } }
  /-- From here on the A2B interrupts are off. -/
  | muted {request : Message} (position : board.firmware.worker = .stopping request) :
      WorkerTurn board
        { board with
          firmware := { board.firmware with irqEnabled := false, worker := .quiescing request } }
  | observed {request : Message} (position : board.firmware.worker = .quiescing request) :
      WorkerTurn board (board.work (.acknowledging request board.hardware.a2b.status))
  | acknowledged {request : Message} {pending : Priority → Bool}
      (position : board.firmware.worker = .acknowledging request pending) :
      WorkerTurn board
        { firmware := { board.firmware with worker := .poweringOff request }
          hardware :=
            { board.hardware with
              a2b :=
                { board.hardware.a2b with
                  status := fun channel =>
                    board.hardware.a2b.status channel && !pending channel } } }

/-- One case for each position. -/
theorem workerStep_turn {board after : Board} (stepped : workerStep board = some after) :
    WorkerTurn board after := by
  cases position : board.firmware.worker with
  | waiting =>
      simp only [workerStep, position] at stepped
      split at stepped
      · rename_i given
        cases stepped
        exact .woke position given
      · cases stepped
  | woken =>
      simp only [workerStep, position] at stepped
      split at stepped
      · rename_i wanted
        cases stepped
        exact .swapped position wanted
      · rename_i nothing
        cases stepped
        exact .spurious position nothing
  | entering pending =>
      simp only [workerStep, position] at stepped
      split at stepped
      · rename_i gate
        cases stepped
        exact .admitted position gate
      · rename_i gate
        cases stepped
        exact .dismissed position gate
  | scanning round reached =>
      simp only [workerStep, position] at stepped
      split at stepped
      · rename_i inRange
        split at stepped
        · rename_i idle
          cases stepped
          exact .skipped position inRange idle
        · rename_i wanted
          cases stepped
          exact .visited position inRange wanted
      · rename_i past
        cases stepped
        exact .finished position past
  | draining visit =>
      simp only [workerStep, position] at stepped
      cases stepped
      exact .drained position
  | replying visit reply next =>
      simp only [workerStep, position] at stepped
      cases stepped
      exact .replied position
  | ringing visit result next =>
      simp only [workerStep, position] at stepped
      cases stepped
      exact .rung position
  | checking visit =>
      simp only [workerStep, position] at stepped
      cases stepped
      exact .checked position
  | reporting round =>
      simp only [workerStep, position] at stepped
      split at stepped
      · rename_i again
        cases stepped
        exact .rescheduled position again
      · rename_i settled
        cases stepped
        exact .returned position settled
  | posting =>
      simp only [workerStep, position] at stepped
      cases stepped
      exact .posted position
  | stopping request =>
      simp only [workerStep, position] at stepped
      cases stepped
      exact .muted position
  | quiescing request =>
      simp only [workerStep, position] at stepped
      cases stepped
      exact .observed position
  | acknowledging request pending =>
      simp only [workerStep, position] at stepped
      cases stepped
      exact .acknowledged position
  | poweringOff request | off | halted =>
      simp only [workerStep, position] at stepped
      cases stepped

/-- The worker is not in the middle of a reply. -/
def Worker.silent : Worker → Bool
  | .replying _ _ _ | .ringing _ _ _ => false
  | _ => true

/-- The worker is past the gate of the service. -/
def Worker.inService : Worker → Prop
  | .scanning _ _ | .draining _ | .replying _ _ _ | .ringing _ _ _ | .checking _ => True
  | _ => False

/-- Everything that a step of the worker can do. -/
inductive WorkerMove (board after : Board) : Prop where
  /-- Between frames: the region stays as it is. -/
  | quiet (before : board.firmware.worker.silent = true)
      (silent : after.firmware.worker.silent = true)
      (shared : after.hardware.shared = board.hardware.shared)
      (firmware : after.firmware =
        { board.firmware with
          pendingPriorities := after.firmware.pendingPriorities
          workSem := after.firmware.workSem
          irqEnabled := after.firmware.irqEnabled
          worker := after.firmware.worker
          wakeCount := after.firmware.wakeCount
          drainCount := after.firmware.drainCount
          messageCount := after.firmware.messageCount
          emptyWakeCount := after.firmware.emptyWakeCount })
  | drained (visit : Visit) (position : board.firmware.worker = .draining visit)
      (moved : after = drain board visit)
  | replied (visit : Visit) (reply : Reply) (next : Continuation)
      (position : board.firmware.worker = .replying visit reply next)
      (moved : after = sendReply board visit reply next)
  | rung (visit : Visit) (result : SendResult) (next : Continuation)
      (position : board.firmware.worker = .ringing visit result next)
      (moved : after = ringReply board visit result next)

/-- The turns, those between frames taken together. -/
theorem workerStep_spec {board after : Board} (stepped : workerStep board = some after) :
    WorkerMove board after := by
  cases workerStep_turn stepped with
  | @drained visit position => exact .drained visit position rfl
  | @replied visit reply next position => exact .replied visit reply next position rfl
  | @rung visit result next position => exact .rung visit result next position rfl
  | woke position | swapped position | spurious position | admitted position | dismissed position
  | skipped position | visited position | finished position | checked position
  | rescheduled position
  | returned position | posted position | muted position | observed position
  | acknowledged position =>
      refine .quiet ?_ rfl rfl rfl
      rw [position]
      rfl

/-- What only the main thread writes. -/
structure SameFlags (before after : Firmware) : Prop where
  build : after.build = before.build
  ready : after.endpointReady = before.endpointReady
  committed : after.sessionReadyCommitted = before.sessionReadyCommitted
  published : after.sessionReadyPublished = before.sessionReadyPublished
  main : after.main = before.main

/-- What no step of the worker writes: the header of the region, what its endpoint is bound to, and
the fields of the other two activities. -/
structure WorkerFrame (before after : Board) : Prop where
  header : HeaderSame before.hardware.shared after.hardware.shared
  binding : before.firmware.endpoint.SameBinding after.firmware.endpoint
  flags : SameFlags before.firmware after.firmware
  isr : after.firmware.isr = before.firmware.isr

/-- A send writes none of the flags. -/
theorem SendFrame.flags {before after : Board} (frame : SendFrame before after) :
    SameFlags before.firmware after.firmware := by
  constructor <;> rw [frame.firmware]

/-- A send followed by a move of the worker. -/
theorem SendFrame.worked {before after : Board} (frame : SendFrame before after) (worker : Worker) :
    WorkerFrame before (after.work worker) where
  header := frame.hardware.header
  binding := frame.binding
  flags :=
    ⟨frame.flags.build, frame.flags.ready, frame.flags.committed, frame.flags.published,
      frame.flags.main⟩
  isr := by
    change after.firmware.isr = _
    rw [frame.firmware]

/-- Whatever the worker does, it keeps the header, the binding, the flags and the handler. -/
theorem workerStep_frame {board after : Board} (bound : board.firmware.endpoint.BoundBy .cpu3)
    (stepped : workerStep board = some after) : WorkerFrame board after := by
  cases workerStep_turn stepped with
  | @drained visit position =>
      cases drain_spec board visit bound with
      | untouched moved =>
          rw [moved]
          exact ⟨.refl _, .refl _, ⟨rfl, rfl, rfl, rfl, rfl⟩, rfl⟩
      | idle endpoint binding moved | served endpoint binding request head moved
      | rejected endpoint binding request reason moved =>
          rw [moved]
          exact ⟨HeaderSame.setRing board.hardware.shared .linux visit.priority _, binding,
            ⟨rfl, rfl, rfl, rfl, rfl⟩, rfl⟩
  | @replied visit reply next position =>
      cases sendReply_spec board visit reply next bound with
      | refused noted frame hardware cause moved =>
          rw [moved]
          exact frame.worked _
      | queued pushed result frame space valid published moved =>
          rw [moved]
          exact frame.worked _
  | @rung visit result next position =>
      obtain ⟨rung, frame, rang⟩ := ringReply_spec board visit result next
      rw [rang]
      exact frame.toSendFrame.worked _
  | woke | swapped | spurious | admitted | dismissed | skipped | visited | finished | checked
  | rescheduled | returned | posted | muted | observed | acknowledged =>
      exact ⟨.refl _, .refl _, ⟨rfl, rfl, rfl, rfl, rfl⟩, rfl⟩

/-! ### The main thread -/

/-- Everything that a step of the main thread can do. -/
inductive MainMove (board : Board) (after : Board) : Prop where
  /-- `mailmsg_endpoint_bind`. -/
  | bind (start : board.firmware.main = .entry)
      (moved : after =
        { board with
          firmware :=
            { board.firmware with
              endpoint := (endpointBind board.firmware.endpoint board.hardware.shared .cpu3).2
              endpointReady :=
                (endpointBind board.firmware.endpoint board.hardware.shared .cpu3).1 = .ok
              main := .bound } })
  /-- Interrupts or a flag. -/
  | flags (irqEnabled committed published : Bool) (main : MainThread)
      (moved : after =
        { board with
          firmware :=
            { board.firmware with
              irqEnabled := irqEnabled
              sessionReadyCommitted := committed
              sessionReadyPublished := published
              main := main } })
  /-- A SESSION_READY that finds no room. -/
  | refused (noted : Board) (frame : SendFrame board noted)
      (hardware : noted.hardware = board.hardware)
      (moved : after = noted)
  /-- SESSION_READY goes into the ring. -/
  | announced (start : board.firmware.main = .polling)
      (uncommitted : board.firmware.sessionReadyCommitted = false)
      (unpublished : board.firmware.sessionReadyPublished = false)
      (pushed : Board) (result : SendResult) (frame : SendFrame board pushed)
      (space : ringNext (board.hardware.shared.cpu3ToLinux .critical).producer ≠
        (board.hardware.shared.cpu3ToLinux .critical).consumer)
      (valid : ¬ (board.frameOf (sessionReadyReply board.firmware.endpoint.generation)).malformed)
      (published : pushed.hardware =
        { board.hardware with
          shared := board.hardware.shared.setRing .cpu3 .critical
            ((board.hardware.shared.cpu3ToLinux .critical).publish
              (board.frameOf (sessionReadyReply board.firmware.endpoint.generation)).committed) })
      (moved : after = pushed.proceed (.queued result))
  /-- A doorbell. -/
  | rung (rung : Board) (frame : RingFrame board rung) (main : MainThread)
      (moved : after = rung.proceed main)

/-- One instruction of the main thread. -/
theorem mainStep_spec (board : Board) (bound : board.firmware.endpoint.BoundBy .cpu3) :
    MainMove board (mainStep board) := by
  cases start : board.firmware.main with
  | entry =>
      simp only [mainStep, start]
      exact .bind start rfl
  | bound =>
      simp only [mainStep, start]
      exact .flags true board.firmware.sessionReadyCommitted
        board.firmware.sessionReadyPublished _ rfl
  | polling =>
      simp only [mainStep, start]
      split
      · refine .flags board.firmware.irqEnabled board.firmware.sessionReadyCommitted
          board.firmware.sessionReadyPublished .polling ?_
        rw [← start]
      · rename_i due
        split
        · obtain ⟨shared, a2b⟩ := cpu3Notify_frame .critical board.hardware
          refine .rung { board with hardware := (cpu3Notify board.hardware .critical).2 }
            ⟨⟨⟨?_, ?_, ?_, ?_, a2b⟩, ⟨rfl, rfl⟩, rfl⟩, shared⟩ _ rfl
          · exact congrArg Shared.magic shared
          · exact congrArg Shared.version shared
          · exact congrArg Shared.generation shared
          · exact congrArg Shared.linuxToCpu3 shared
        · rename_i uncommitted
          obtain ⟨offered, frame⟩ := board.enqueue_spec .critical
            (sessionReadyReply board.firmware.endpoint.generation) bound
          generalize board.enqueue .critical (sessionReadyReply board.firmware.endpoint.generation) =
            sent at *
          cases offered with
          | refused ret hardware cause =>
              rw [if_pos ret]
              exact .refused _ (frame.record sent.1.result) hardware rfl
          | pushed ret space valid published =>
              rw [if_neg (not_not_intro ret)]
              refine .announced start (by simpa using uncommitted) ?_ sent.2
                sent.1.result frame space
                valid published rfl
              cases flag : board.firmware.sessionReadyPublished with
              | false => rfl
              | true => exact absurd (.inr (.inr flag)) due
  | queued result =>
      simp only [mainStep, start]
      exact .rung _ (board.ring_spec .critical result).1 _ rfl
  | sent notifyResult =>
      simp only [mainStep, start]
      exact .flags board.firmware.irqEnabled true board.firmware.sessionReadyPublished _ rfl
  | committed notifyResult =>
      simp only [mainStep, start]
      exact .flags board.firmware.irqEnabled board.firmware.sessionReadyCommitted _ _ rfl
  | retried notifyResult =>
      simp only [mainStep, start]
      exact .flags board.firmware.irqEnabled board.firmware.sessionReadyCommitted _ _ rfl

/-! ### The activities of CPU3 -/

/-- Which activity of CPU3 a step belongs to. -/
inductive Cpu3Step (board : Board) (label : FirmwareLabel) (after : Board) : Prop where
  /-- The interrupt handler. -/
  | handler (shared : after.hardware.shared = board.hardware.shared)
      (firmware : after.firmware =
        { board.firmware with
          pendingPriorities := after.firmware.pendingPriorities
          workSem := after.firmware.workSem
          isr := after.firmware.isr
          irqCount := after.firmware.irqCount })
  | worker (turn : label = .worker) (stepped : workerStep board = some after)
  | cpuOff (request : Message) (position : board.firmware.worker = .poweringOff request)
      (returned : Bool) (moved : after = board.work (if returned then .halted else .off))
  | main (turn : label = .main) (moved : after = mainStep board)

/-- A step of CPU3 belongs to one of its four activities. -/
theorem firmwareStep_activity {board after : Board} {label : FirmwareLabel}
    (stepped : firmwareStep board label = some after) : Cpu3Step board label after := by
  cases label with
  | interrupt channel =>
      simp only [firmwareStep] at stepped
      split at stepped
      · cases stepped
        exact .handler rfl rfl
      · cases stepped
  | isr =>
      simp only [firmwareStep, isrStep] at stepped
      split at stepped
      · cases stepped
      · cases stepped
        split <;> exact .handler rfl rfl
      · cases stepped
        exact .handler rfl rfl
      · cases stepped
        simp only [isrPost]
        split <;> exact .handler rfl rfl
  | worker =>
      simp only [firmwareStep] at stepped
      split at stepped
      · exact .worker rfl stepped
      · cases stepped
  | cpuOff returned =>
      simp only [firmwareStep, cpuOffStep] at stepped
      split at stepped
      · split at stepped
        · rename_i request position
          cases stepped
          exact .cpuOff request position returned rfl
        · cases stepped
      · cases stepped
  | main =>
      simp only [firmwareStep] at stepped
      split at stepped
      · cases stepped
        exact .main rfl rfl
      · cases stepped

/-! ### What no step changes -/

/-- The image, and the side of its endpoint. -/
structure SameImage (before after : Firmware) : Prop where
  build : after.build = before.build
  side : before.endpoint.BoundBy .cpu3 → after.endpoint.BoundBy .cpu3

/-- A binding that stays keeps the side. -/
theorem SameImage.of_binding {before after : Firmware} (build : after.build = before.build)
    (binding : before.endpoint.SameBinding after.endpoint) : SameImage before after where
  build := build
  side := by
    intro bound party hasRole
    exact bound party (binding.role ▸ hasRole)

/-- A send keeps the image. -/
theorem SendFrame.sameImage {before after : Board} (frame : SendFrame before after) :
    SameImage before.firmware after.firmware :=
  .of_binding (by rw [frame.firmware]) frame.binding

/-- The worker keeps the image. -/
theorem workerStep_sameImage {board after : Board} (bound : board.firmware.endpoint.BoundBy .cpu3)
    (stepped : workerStep board = some after) : SameImage board.firmware after.firmware :=
  have frame := workerStep_frame bound stepped
  .of_binding frame.flags.build frame.binding

/-- A bind, accepted or not, leaves the endpoint to its party. -/
theorem endpointBind_boundBy {endpoint : Endpoint} {party : Role} (shared : Shared)
    (bound : endpoint.BoundBy party) : (endpointBind endpoint shared party).2.BoundBy party := by
  intro role hasRole
  simp only [endpointBind] at hasRole
  split at hasRole
  · exact bound role hasRole
  · split at hasRole
    · exact bound role hasRole
    · exact (Option.some.inj hasRole).symm

/-- The main thread binds for CPU3. -/
theorem mainStep_sameImage {board : Board} (bound : board.firmware.endpoint.BoundBy .cpu3) :
    SameImage board.firmware (mainStep board).firmware := by
  cases mainStep_spec board bound with
  | bind start moved =>
      rw [moved]
      exact ⟨rfl, endpointBind_boundBy board.hardware.shared⟩
  | flags irqEnabled committed published main moved =>
      rw [moved]
      exact .of_binding rfl (.refl _)
  | refused noted frame hardware moved =>
      rw [moved]
      exact frame.sameImage
  | announced start uncommitted unpublished pushed result frame space valid published moved =>
      rw [moved]
      exact .of_binding frame.sameImage.build frame.binding
  | rung rung frame main moved =>
      rw [moved]
      exact .of_binding frame.sameImage.build frame.binding

/-- No step changes the image or the side of the endpoint. -/
theorem firmwareStep_sameImage {board after : Board} {label : FirmwareLabel}
    (bound : board.firmware.endpoint.BoundBy .cpu3)
    (stepped : firmwareStep board label = some after) :
    SameImage board.firmware after.firmware := by
  cases firmwareStep_activity stepped with
  | handler shared firmware =>
      rw [firmware]
      exact .of_binding rfl (.refl _)
  | worker turn stepped => exact workerStep_sameImage bound stepped
  | cpuOff request position returned moved =>
      rw [moved]
      exact .of_binding rfl (.refl _)
  | main turn moved =>
      rw [moved]
      exact mainStep_sameImage bound

/-- Only the main thread writes the flags. -/
theorem firmwareStep_flags {board after : Board} {label : FirmwareLabel}
    (bound : board.firmware.endpoint.BoundBy .cpu3) (notMain : label ≠ .main)
    (stepped : firmwareStep board label = some after) :
    SameFlags board.firmware after.firmware := by
  cases firmwareStep_activity stepped with
  | handler shared firmware => constructor <;> rw [firmware]
  | worker turn stepped => exact (workerStep_frame bound stepped).flags
  | cpuOff request position returned moved =>
      rw [moved]
      exact ⟨rfl, rfl, rfl, rfl, rfl⟩
  | main turn moved => exact absurd turn notMain

end MailMsg
