/-
Module: MailMsg.Firmware.Settling
Purpose: CPU3 left alone comes to rest.  Once the service gate is open, the doorbells, wake-ups and
  frames that are around at a moment cost CPU3 a bounded number of steps, whatever its main thread
  does between them, and at the end every forward ring is empty or CPU3 has switched itself off.
Source: LZAMP/firmware/zephyr/app/src/main.c (mailmsg_mailbox_a2b_matrix_isr, mailmsg_worker,
  mailmsg_pingpong_test_service, mailmsg_cpu_off_after_ready, main)
Trusted boundary: none beyond the models of the two sides
Main exports: Board.workload, closing, workload_le, cpu3_comes_to_rest
-/
import MailMsg.Firmware.Doorbell
import MailMsg.Firmware.Progress

namespace MailMsg

/-! ### The workload of CPU3 -/

/-- The steps of a wake-up, from the given semaphore to the next `k_sem_take`, without frames that
wake the worker again. -/
def wakeupCost : Nat := 161

/-- What each frame in a ring is worth: a full quota of them pays for the wake-up that the quota
causes. -/
def frameCredit : Nat := 24

/-- The wake-up that a round will ask for. -/
def Round.again (round : Round) : Nat := if anyPriority round.reschedule then wakeupCost + 1 else 0

/-- The wake-ups that a visit will ask for, or the frames that it has handled towards one. -/
def Visit.credit (visit : Visit) : Nat :=
  visit.round.again + frameCredit * min visit.handled drainQuota

/-- What the worker has to do besides the steps of the service call itself. -/
def Worker.extra : Worker → Nat
  | .waiting | .off | .halted => 0
  | .woken => wakeupCost - 1
  | .entering _ => 5
  | .scanning round _ => 5 + round.again
  | .draining visit | .replying visit _ _ | .ringing visit _ _ | .checking visit => 5 + visit.credit
  | .reporting round => 1 + round.again
  | .posting => wakeupCost + 1
  | .stopping _ => 4
  | .quiescing _ => 3
  | .acknowledging _ _ => 2
  | .poweringOff _ => 1

/-- The steps that the worker can take without a wake-up from outside. -/
def Worker.effort (worker : Worker) : Nat := worker.rank + worker.extra

/-- The steps that a doorbell of this channel costs: the handler's three, the interrupt and the
wake-up. -/
def Board.doorbellCost (board : Board) (channel : Priority) : Nat :=
  let pending := if board.hardware.a2b.status channel then wakeupCost + 4 else 0
  match board.firmware.isr with
  | .idle => pending
  | .entered other _ _ => if other = channel then wakeupCost + 3 else pending
  | .echoed other _ => if other = channel then wakeupCost + 2 else pending
  | .cleared other _ => if other = channel then wakeupCost + 1 + pending else pending

/-- A channel without its status bit costs no more than with it. -/
theorem Board.doorbellCost_mono {before after : Board} {channel : Priority}
    (isr : after.firmware.isr = before.firmware.isr)
    (fewer : after.hardware.a2b.status channel = true → before.hardware.a2b.status channel = true) :
    after.doorbellCost channel ≤ before.doorbellCost channel := by
  have pending : (if after.hardware.a2b.status channel then wakeupCost + 4 else 0) ≤
      if before.hardware.a2b.status channel then wakeupCost + 4 else 0 := by
    split
    next set =>
      rw [if_pos (fewer set)]
    next => exact Nat.zero_le _
  unfold Board.doorbellCost
  rw [isr]
  cases before.firmware.isr with
  | idle => exact pending
  | entered other _ _ | echoed other _ =>
      dsimp only
      split
      · exact Nat.le_refl _
      · exact pending
  | cleared other _ =>
      dsimp only
      split
      · exact Nat.add_le_add_left pending _
      · exact pending

/-- What the doorbells and the frames in the forward rings ask for. -/
def Board.inbound (board : Board) : Nat :=
  Finset.univ.sum board.doorbellCost +
    frameCredit * Finset.univ.sum fun priority =>
      (board.hardware.shared.linuxToCpu3 priority).occupied

/-- The steps that the doorbells, the frames, the semaphore and the worker ask for. -/
def Board.workload (board : Board) : Nat :=
  board.inbound + (if board.firmware.workSem then wakeupCost else 0) + board.firmware.worker.effort

/-- Two boards with the same doorbells, handler and forward rings. -/
structure SameInbound (before after : Board) : Prop where
  status : after.hardware.a2b.status = before.hardware.a2b.status
  isr : after.firmware.isr = before.firmware.isr
  forward : after.hardware.shared.linuxToCpu3 = before.hardware.shared.linuxToCpu3

/-- The demand of doorbells and frames is read off these three. -/
theorem SameInbound.inbound {before after : Board} (same : SameInbound before after) :
    after.inbound = before.inbound := by
  have doorbells : after.doorbellCost = before.doorbellCost := by
    funext channel
    unfold Board.doorbellCost
    rw [same.status, same.isr]
  unfold Board.inbound
  rw [doorbells, same.forward]

/-- Nothing was sent. -/
theorem SendFrame.refl (board : Board) : SendFrame board board := ⟨.refl _, .refl _, rfl⟩

/-- A send of CPU3, after which only the worker has moved. -/
theorem SendFrame.workload {before after : Board} (frame : SendFrame before after)
    (worker : Worker) :
    (after.work worker).workload + before.firmware.worker.effort =
      before.workload + worker.effort := by
  have same : SameInbound before (after.work worker) :=
    { status := congrArg Doorbells.status frame.hardware.a2b
      isr := by
        change after.firmware.isr = _
        rw [frame.firmware]
      forward := frame.hardware.forward }
  have workSem : (after.work worker).firmware.workSem = before.firmware.workSem := by
    change after.firmware.workSem = _
    rw [frame.firmware]
  unfold Board.workload
  rw [same.inbound, workSem, Board.work_worker]
  omega

/-! ### The worker -/

/-- Every priority costs at most a full visit. -/
theorem Round.rest_le (round : Round) (start : Nat) :
    round.rest start ≤ 38 * (priorityCount - start) := by
  have most : ∀ cost ∈ ((List.finRange priorityCount).drop start).map round.cost, cost ≤ 38 := by
    intro cost member
    obtain ⟨priority, -, rfl⟩ := List.mem_map.mp member
    unfold Round.cost
    split <;> decide
  have total := List.sum_le_card_nsmul _ _ most
  rw [List.length_map, List.length_drop, List.length_finRange, smul_eq_mul, Nat.mul_comm] at total
  exact total

theorem Round.again_le (round : Round) : round.again ≤ wakeupCost + 1 := by
  unfold Round.again
  split
  · exact Nat.le_refl _
  · exact Nat.zero_le _

/-- A round starts without a wake-up to ask for. -/
theorem Round.start_again (pending : Priority → Bool) : (Round.start pending).again = 0 := by
  have none : anyPriority (Round.start pending).reschedule = false := by
    simp [anyPriority, Round.start]
  rw [Round.again, none]
  rfl

theorem Visit.credit_le (visit : Visit) :
    visit.credit ≤ wakeupCost + 1 + frameCredit * drainQuota := by
  have again := visit.round.again_le
  have handled := Nat.mul_le_mul_left frameCredit (Nat.min_le_right visit.handled drainQuota)
  unfold Visit.credit
  omega

/-- A reply that is over leaves what was set aside for its continuation. -/
theorem Continuation.resume_effort (visit : Visit) (accepted : Bool) (next : Continuation) :
    (next.resume visit accepted).effort ≤ next.rank visit + 5 + visit.credit := by
  have rank := next.resume_rank visit accepted
  cases next with
  | drain | leave | pong _ =>
      unfold Worker.effort
      change _ + (5 + visit.credit) ≤ _
      omega
  | cpuOff request =>
      cases accepted with
      | true =>
          change 0 + 4 ≤ _
          omega
      | false =>
          change visit.rank + (5 + visit.credit) ≤ visit.rank + 5 + visit.credit
          omega

/-- The most that answering a frame can cost. -/
theorem answer_effort (build : Build) (visit : Visit) (request : Message) :
    (answer build visit request).effort ≤ visit.rank + 9 + visit.credit := by
  have rank := answer_rank build visit request
  have extra : (answer build visit request).extra ≤ 5 + visit.credit := by
    unfold answer
    split
    · split
      · exact Nat.le_refl _
      · split <;> exact Nat.le_refl _
    · split
      · change 4 ≤ _
        omega
      · split <;> exact Nat.le_refl _
  unfold Worker.effort
  omega

/-- A used-up quota has paid for the wake-up that it asks for. -/
theorem check_effort (board : Board) (visit : Visit) :
    (check board visit).firmware.worker.effort < visit.after + 1 + (5 + visit.credit) := by
  unfold check
  dsimp only
  split
  next more =>
    have used : visit.handled = drainQuota := by
      simp only [Bool.and_eq_true, decide_eq_true_eq] at more
      exact more.1
    have credit : visit.credit = visit.round.again + 168 := by
      rw [Visit.credit, used]
      rfl
    have scanning (round : Round) (cost : round.rest (visit.priority.val + 1) =
        visit.round.rest (visit.priority.val + 1)) :
        (Worker.scanning round (visit.priority.val + 1)).effort < visit.after + 1 +
          (5 + visit.credit) := by
      have again := round.again_le
      change round.again ≤ 162 at again
      change 1 + round.rest (visit.priority.val + 1) + (5 + round.again) <
        1 + visit.round.rest (visit.priority.val + 1) + 1 + (5 + visit.credit)
      omega
    exact scanning _ rfl
  next =>
    have credit : visit.round.again ≤ visit.credit := Nat.le_add_right _ _
    change 1 + visit.round.rest (visit.priority.val + 1) + (5 + visit.round.again) <
      1 + visit.round.rest (visit.priority.val + 1) + 1 + (5 + visit.credit)
    omega

/-- The steps of a wake-up that finds a mask. -/
theorem entering_effort (pending : Priority → Bool) :
    (Worker.entering pending).effort + 2 ≤ wakeupCost := by
  have rest := (Round.start pending).rest_le 0
  change 2 + (Round.start pending).rest 0 + 5 + 2 ≤ 161
  change _ ≤ 38 * 4 at rest
  omega

/-- A frame that leaves its forward ring takes its credit with it. -/
theorem Board.popped_inbound (board : Board) {priority : Priority} (endpoint : Endpoint)
    {frame : Frame} {frames : List Frame}
    (holds : (board.hardware.shared.linuxToCpu3 priority).Holds (frame :: frames)) :
    (board.popped priority endpoint).inbound + frameCredit ≤ board.inbound := by
  obtain ⟨-, -, rest⟩ := holds.pop_cons
  have fewer : (Finset.univ.sum fun other =>
      ((board.popped priority endpoint).hardware.shared.linuxToCpu3 other).occupied) + 1 ≤
        Finset.univ.sum fun other => (board.hardware.shared.linuxToCpu3 other).occupied := by
    apply sum_add_le_of_drop priority
    · have after : (board.popped priority endpoint).hardware.shared.linuxToCpu3 priority =
          (ringPop (board.hardware.shared.linuxToCpu3 priority)).2.1 := by
        simp [Board.popped, Shared.setRing]
      rw [after, rest.occupied, holds.occupied]
      exact Nat.le_refl _
    · intro other different
      have same : (board.popped priority endpoint).hardware.shared.linuxToCpu3 other =
          board.hardware.shared.linuxToCpu3 other := by
        simp [Board.popped, Shared.setRing, different]
      rw [same]
  have credited := Nat.mul_le_mul_left frameCredit fewer
  rw [Nat.mul_add, Nat.mul_one] at credited
  have doorbells : (board.popped priority endpoint).doorbellCost = board.doorbellCost := rfl
  unfold Board.inbound
  rw [doorbells]
  omega

/-! One lemma for each kind of turn says what it costs; the drain loop is the only place where the
answer depends on what the rings hold.
-/

section Turns

variable {board : Board}

/-- The worker moves on, and nothing else changes. -/
theorem Board.work_workload {worker : Worker}
    (less : worker.effort < board.firmware.worker.effort) :
    (board.work worker).workload < board.workload := by
  have same := (SendFrame.refl board).workload worker
  omega

/-- The semaphore has paid for the wake-up. -/
theorem woke_workload {after : Board} (position : board.firmware.worker = .waiting)
    (given : board.firmware.workSem = true) (inbound : after.inbound = board.inbound)
    (taken : after.firmware.workSem = false) (woken : after.firmware.worker = .woken) :
    after.workload < board.workload := by
  have before : board.workload = board.inbound + wakeupCost + 0 := by
    rw [Board.workload, given, position]
    rfl
  rw [before, Board.workload, inbound, taken, woken]
  exact Nat.add_lt_add_left (by decide : 0 + (wakeupCost - 1) < wakeupCost) board.inbound

/-- The worker moves between two positions outside the service, and doorbells, rings and semaphore
stay. -/
theorem Board.workload_lt {after : Board} (same : SameInbound board after)
    (workSem : after.firmware.workSem = board.firmware.workSem)
    (less : after.firmware.worker.effort < board.firmware.worker.effort) :
    after.workload < board.workload := by
  unfold Board.workload
  rw [same.inbound, workSem]
  exact Nat.add_lt_add_left less _

/-- The gate, whichever way it sends the worker. -/
theorem gate_workload {pending : Priority → Bool}
    (position : board.firmware.worker = .entering pending) :
    (board.work (.scanning (.start pending) 0)).workload < board.workload ∧
      (board.work (.reporting (.start pending))).workload < board.workload := by
  have before : board.firmware.worker.effort = 2 + (Round.start pending).rest 0 + 5 := by
    rw [position]
    rfl
  have quiet := Round.start_again pending
  constructor
  · apply Board.work_workload
    change 1 + (Round.start pending).rest 0 + (5 + (Round.start pending).again) < _
    omega
  · apply Board.work_workload
    change 0 + (1 + (Round.start pending).again) < _
    omega

/-- The loop over the priorities: the rank of the call pays for the step, and what the worker has to
do besides the call does not grow. -/
theorem scanned_workload {round : Round} {reached : Nat} {worker : Worker}
    (position : board.firmware.worker = .scanning round reached)
    (stepped : workerStep board = some (board.work worker))
    (same : worker.extra ≤ 5 + round.again) : (board.work worker).workload < board.workload := by
  have lower := workerStep_rank (by rw [position]; rfl) stepped
  rw [position] at lower
  apply Board.work_workload
  rw [position]
  exact Nat.add_lt_add_of_lt_of_le lower same

/-- The push of a reply. -/
theorem replied_workload {visit : Visit} {reply : Reply} {next : Continuation}
    (bound : board.firmware.endpoint.BoundBy .cpu3)
    (position : board.firmware.worker = .replying visit reply next) :
    (sendReply board visit reply next).workload < board.workload := by
  have before : board.firmware.worker.effort = next.rank visit + 2 + (5 + visit.credit) := by
    rw [position]
    rfl
  cases sendReply_spec board visit reply next bound with
  | refused noted frame hardware cause moved =>
      have resumed := next.resume_effort visit false
      have same := frame.workload (next.resume visit false)
      rw [moved]
      omega
  | queued pushed result frame space valid published moved =>
      have ringing : (Worker.ringing visit result next).effort =
          next.rank visit + 1 + (5 + visit.credit) := rfl
      have same := frame.workload (.ringing visit result next)
      rw [moved]
      omega

/-- The doorbell of a reply. -/
theorem rung_workload {visit : Visit} {result : SendResult} {next : Continuation}
    (position : board.firmware.worker = .ringing visit result next) :
    (ringReply board visit result next).workload < board.workload := by
  have before : board.firmware.worker.effort = next.rank visit + 1 + (5 + visit.credit) := by
    rw [position]
    rfl
  obtain ⟨rung, frame, moved⟩ := ringReply_spec board visit result next
  have resumed := next.resume_effort visit true
  have same := frame.toSendFrame.workload (next.resume visit true)
  rw [moved]
  omega

/-- The end of a visit. -/
theorem checked_workload {visit : Visit} (position : board.firmware.worker = .checking visit) :
    (check board visit).workload < board.workload := by
  have before : board.firmware.worker.effort = visit.after + 1 + (5 + visit.credit) := by
    rw [position]
    rfl
  apply Board.work_workload
  rw [before]
  exact check_effort board visit

/-- A round that asks for another wake-up has been charged for it. -/
theorem reported_workload {after : Board} {round : Round} (same : SameInbound board after)
    (workSem : after.firmware.workSem = board.firmware.workSem)
    (position : board.firmware.worker = .reporting round)
    (next : after.firmware.worker = if anyPriority round.reschedule then .posting else .waiting) :
    after.workload < board.workload := by
  refine Board.workload_lt same workSem ?_
  rw [position, next]
  change _ < 0 + (1 + round.again)
  unfold Round.again
  split
  · exact (by decide : 0 + (wakeupCost + 1) < 0 + (1 + (wakeupCost + 1)))
  · exact (by decide : 0 < 0 + (1 + 0))

/-- The semaphore that the worker gives to itself. -/
theorem posted_workload {after : Board} (position : board.firmware.worker = .posting)
    (inbound : after.inbound = board.inbound) (given : after.firmware.workSem = true)
    (waiting : after.firmware.worker = .waiting) : after.workload < board.workload := by
  have before : board.workload =
      board.inbound + (if board.firmware.workSem then wakeupCost else 0) + (wakeupCost + 1) := by
    rw [Board.workload, position]
    exact congrArg _ (Nat.zero_add _)
  rw [before, Board.workload, inbound, given, waiting]
  change board.inbound + wakeupCost + 0 < _
  omega

/-- The last acknowledgement of CPU3 takes doorbells away. -/
theorem acknowledged_workload {after : Board} {request : Message} {pending : Priority → Bool}
    (position : board.firmware.worker = .acknowledging request pending)
    (isr : after.firmware.isr = board.firmware.isr)
    (fewer : ∀ channel, after.hardware.a2b.status channel = true →
      board.hardware.a2b.status channel = true)
    (forward : after.hardware.shared.linuxToCpu3 = board.hardware.shared.linuxToCpu3)
    (workSem : after.firmware.workSem = board.firmware.workSem)
    (next : after.firmware.worker = .poweringOff request) : after.workload < board.workload := by
  unfold Board.workload Board.inbound
  rw [position, forward, workSem, next]
  apply Nat.add_lt_add_of_le_of_lt
  · apply Nat.add_le_add_right
    apply Nat.add_le_add_right
    apply Finset.sum_le_sum
    intro channel _
    exact Board.doorbellCost_mono isr (fewer channel)
  · exact (by decide : 1 < 2)

end Turns

namespace Coverage

variable {link : Link}

/-- An iteration of the drain loop: a frame that leaves its ring is credited to the visit. -/
theorem drained_workload (coverage : Coverage link) {visit : Visit}
    (position : link.board.firmware.worker = .draining visit) :
    (drain link.board visit).workload < link.board.workload := by
  have effort : link.board.firmware.worker.effort = visit.rank + (5 + visit.credit) := by
    rw [position]
    rfl
  have ends : visit.after + 1 < visit.rank := by
    unfold Visit.rank
    omega
  have leaves : (link.board.work (.checking visit)).workload < link.board.workload := by
    have same := (SendFrame.refl link.board).workload (.checking visit)
    have after : (Worker.checking visit).effort = visit.after + 1 + (5 + visit.credit) := rfl
    omega
  by_cases quota : visit.handled < drainQuota
  · have session := coverage.session (coverage.service (by rw [position]; trivial))
    obtain ⟨role, generation⟩ := coverage.ready (coverage.service (by rw [position]; trivial))
    obtain ⟨frames, holds, current⟩ := coverage.rings visit.priority
    cases frames with
    | nil =>
        have received := endpointReceive_nil visit.priority role session holds
        have stays : drain link.board visit = link.board.work (.checking visit) := by
          simp [drain, quota, received, Board.received]
        rw [stays]
        exact leaves
    | cons frame frames =>
        obtain ⟨rest, received⟩ := endpointReceive_cons visit.priority role session holds
          ((current frame (by simp)).trans generation.symm)
        have answered := answer_effort link.board.firmware.build visit.next frame.committed
        have paid := Visit.rank_next quota
        have credit : visit.next.credit = visit.credit + frameCredit := by
          have counted : visit.next.handled = visit.handled + 1 := rfl
          have room : min (visit.handled + 1) drainQuota =
            min visit.handled drainQuota + 1 := by omega
          unfold Visit.credit
          rw [counted, room, Nat.mul_succ, ← Nat.add_assoc]
          rfl
        obtain ⟨endpoint, serves⟩ : ∃ endpoint, drain link.board visit =
            (link.board.popped visit.priority endpoint).work
              (answer link.board.firmware.build visit.next frame.committed) := by
          simp only [drain, if_pos quota, received]
          exact ⟨_, rfl⟩
        have fewer := link.board.popped_inbound endpoint holds
        rw [serves]
        unfold Board.workload
        change (link.board.popped visit.priority endpoint).inbound +
          (if link.board.firmware.workSem then wakeupCost else 0) + _ < _
        rw [Board.work_worker]
        omega
  · have stays : drain link.board visit = link.board.work (.checking visit) := by
      simp [drain, quota]
    rw [stays]
    exact leaves

/-- Every step of the worker lowers the workload. -/
theorem worked_workload (coverage : Coverage link) {board : Board}
    (stepped : workerStep link.board = some board) : board.workload < link.board.workload := by
  cases workerStep_turn stepped with
  | woke position given => exact woke_workload position given rfl rfl rfl
  | swapped position wanted =>
      refine Board.workload_lt ⟨rfl, rfl, rfl⟩ rfl ?_
      have entered := entering_effort link.board.firmware.pendingPriorities
      rw [position]
      change (Worker.entering link.board.firmware.pendingPriorities).effort < 0 + (wakeupCost - 1)
      omega
  | spurious position nothing =>
      refine Board.workload_lt ⟨rfl, rfl, rfl⟩ rfl ?_
      rw [position]
      exact (by decide : 0 < 0 + (wakeupCost - 1))
  | admitted position gate => exact (gate_workload position).1
  | dismissed position gate => exact (gate_workload position).2
  | skipped position inRange idle => exact scanned_workload position stepped (Nat.le_refl _)
  | visited position inRange wanted => exact scanned_workload position stepped (Nat.le_refl _)
  | @finished round reached position past =>
      apply Board.work_workload
      rw [position]
      change 0 + (1 + round.again) < 1 + round.rest reached + (5 + round.again)
      omega
  | drained position => exact coverage.drained_workload position
  | replied position => exact replied_workload coverage.boundBy position
  | rung position => exact rung_workload position
  | checked position => exact checked_workload position
  | rescheduled position again =>
      exact reported_workload ⟨rfl, rfl, rfl⟩ rfl position (if_pos again).symm
  | returned position settled =>
      exact reported_workload ⟨rfl, rfl, rfl⟩ rfl position (if_neg settled).symm
  | posted position => exact posted_workload position rfl rfl rfl
  | muted position =>
      refine Board.workload_lt ⟨rfl, rfl, rfl⟩ rfl ?_
      rw [position]
      exact (by decide : 3 < 4)
  | observed position =>
      apply Board.work_workload
      rw [position]
      exact Nat.lt_succ_self _
  | acknowledged position =>
      exact acknowledged_workload position rfl (fun _ set => (Bool.and_eq_true _ _ ▸ set).1) rfl rfl rfl

end Coverage

/-! ### The handler and the main thread -/

/-- A step of the handler's side that pays `amount` at one channel and may give the semaphore for
it. -/
theorem workload_of_doorbells {board after : Board} (channel : Priority) (amount : Nat)
    (pays : after.doorbellCost channel + amount ≤ board.doorbellCost channel)
    (others : ∀ other, other ≠ channel → after.doorbellCost other ≤ board.doorbellCost other)
    (forward : after.hardware.shared.linuxToCpu3 = board.hardware.shared.linuxToCpu3)
    (worker : after.firmware.worker = board.firmware.worker)
    (given : (if after.firmware.workSem then wakeupCost else 0) <
      (if board.firmware.workSem then wakeupCost else 0) +
        amount) : after.workload < board.workload := by
  have doorbells := sum_add_le_of_drop channel pays others
  unfold Board.workload Board.inbound
  rw [forward, worker]
  omega

/-- The interrupt of a channel whose bit is set. -/
theorem interrupt_workload {board : Board} {channel : Priority} (command data : U32)
    (set : board.hardware.a2b.status channel = true) (idle : board.firmware.isr = .idle) :
    Board.workload { board with
      firmware := { board.firmware with isr := .entered channel command data } } <
      board.workload := by
  apply workload_of_doorbells channel 1
  · simp [Board.doorbellCost, idle, set]
  · intro other different
    simp [Board.doorbellCost, idle, Ne.symm different]
  · rfl
  · rfl
  · exact Nat.lt_succ_self _

/-- A step of the handler: the echo, the acknowledgement, and the wake-up that the last step pays
for. -/
theorem isrStep_workload {board after : Board} (stepped : isrStep board = some after) :
    after.workload < board.workload := by
  cases position : board.firmware.isr with
  | idle =>
      simp only [isrStep, position] at stepped
      cases stepped
  | entered channel command data =>
      obtain ⟨hardware, a2b, shared, rfl⟩ : ∃ hardware, hardware.a2b = board.hardware.a2b ∧
          hardware.shared = board.hardware.shared ∧
            after = ⟨{ board.firmware with isr := .echoed channel command }, hardware⟩ := by
        simp only [isrStep, position] at stepped
        cases stepped
        refine ⟨_, ?_, ?_, rfl⟩
        · split <;> rfl
        · split <;> rfl
      apply workload_of_doorbells channel 1
      · simp [Board.doorbellCost, position]
      · intro other different
        simp [Board.doorbellCost, position, Ne.symm different, a2b]
      · exact congrArg Shared.linuxToCpu3 shared
      · rfl
      · exact Nat.lt_succ_self _
  | echoed channel command =>
      simp only [isrStep, position] at stepped
      cases stepped
      apply workload_of_doorbells channel 1
      · simp [Board.doorbellCost, position, Doorbells.acknowledge]
      · intro other different
        simp [Board.doorbellCost, position, Ne.symm different, Doorbells.acknowledge, different]
      · rfl
      · rfl
      · exact Nat.lt_succ_self _
  | cleared channel command =>
      simp only [isrStep, position] at stepped
      cases stepped
      apply workload_of_doorbells channel (wakeupCost + 1)
      · simp only [Board.doorbellCost, position]
        simp [Nat.add_comm]
      · intro other different
        simp [Board.doorbellCost, position, Ne.symm different]
      · rfl
      · unfold isrPost
        split <;> rfl
      · have most : ∀ given : Bool, (if given then wakeupCost else 0) ≤ wakeupCost := by decide
        have after := most (isrPost board.firmware channel command).workSem
        exact Nat.lt_of_le_of_lt after (by omega)

/-- Only doorbells, frames, the semaphore and the worker make work. -/
theorem SameInbound.workload {before after : Board} (same : SameInbound before after)
    (workSem : after.firmware.workSem = before.firmware.workSem)
    (worker : after.firmware.worker = before.firmware.worker) :
    after.workload = before.workload := by
  unfold Board.workload
  rw [same.inbound, workSem, worker]

/-- A send of the main thread makes no work for the others. -/
theorem SendFrame.workload_eq {before after : Board} (frame : SendFrame before after)
    (main : MainThread) : (after.proceed main).workload = before.workload := by
  have firmware := frame.firmware
  apply SameInbound.workload
  · refine ⟨congrArg Doorbells.status frame.hardware.a2b, ?_, frame.hardware.forward⟩
    change after.firmware.isr = _
    rw [firmware]
  · change after.firmware.workSem = _
    rw [firmware]
  · change after.firmware.worker = _
    rw [firmware]

/-- Nothing that the main thread does is work for the others. -/
theorem mainStep_workload (board : Board) (bound : board.firmware.endpoint.BoundBy .cpu3) :
    (mainStep board).workload = board.workload := by
  cases mainStep_spec board bound with
  | bind start moved =>
      rw [moved]
      exact SameInbound.workload ⟨rfl, rfl, rfl⟩ rfl rfl
  | flags irqEnabled committed published main moved =>
      rw [moved]
      exact SameInbound.workload ⟨rfl, rfl, rfl⟩ rfl rfl
  | refused noted frame hardware moved =>
      rw [moved]
      exact frame.workload_eq noted.firmware.main
  | announced start uncommitted unpublished pushed result frame space valid published moved =>
      rw [moved]
      exact frame.workload_eq (.queued result)
  | rung rung frame main moved =>
      rw [moved]
      exact frame.workload_eq main

/-- A step of CPU3 outside its main thread. -/
def FirmwareLabel.isWork : FirmwareLabel → Bool
  | .interrupt _ | .isr | .worker | .cpuOff _ => true
  | .main => false

/-- Every step outside the main thread lowers the workload. -/
theorem Coverage.cpu3_workload {link : Link} (coverage : Coverage link) {label : FirmwareLabel}
    {board : Board}
    (isWork : label.isWork = true) (stepped : firmwareStep link.board label = some board) :
    board.workload < link.board.workload := by
  cases label with
  | interrupt channel =>
      simp only [firmwareStep] at stepped
      split at stepped
      next deliverable =>
        simp only [Board.deliverable, Bool.and_eq_true] at deliverable
        cases stepped
        have idle : link.board.firmware.isr = .idle := by
          cases position : link.board.firmware.isr with
          | idle => rfl
          | entered _ _ _ | echoed _ _ | cleared _ _ => simp [position, Isr.isIdle] at deliverable
        exact interrupt_workload _ _ deliverable.2 idle
      next => cases stepped
  | isr => exact isrStep_workload stepped
  | worker =>
      simp only [firmwareStep] at stepped
      split at stepped
      · exact coverage.worked_workload stepped
      · cases stepped
  | cpuOff returned =>
      simp only [firmwareStep, cpuOffStep] at stepped
      split at stepped
      · split at stepped
        next request position =>
          cases stepped
          have same := (SendFrame.refl link.board).workload
            (if returned then Worker.halted else .off)
          have before : link.board.firmware.worker.effort = 1 := by
            rw [position]
            rfl
          have after : (if returned then Worker.halted else .off).effort = 0 := by
            cases returned <;> rfl
          omega
        next => cases stepped
      · cases stepped
  | main => cases isWork

/-! ### The gate stays open

The gate reads two flags that the main thread writes.  It sets them once and clears
`mailmsg_session_ready_published` only for an answer of the doorbell that CPU3's backend never
gives.
-/

/-- The answer of the doorbell that decides over `mailmsg_session_ready_published`. -/
def MainThread.answer : MainThread → Option Int
  | .sent notifyResult | .committed notifyResult => some notifyResult
  | .entry | .bound | .polling | .queued _ | .retried _ => none

/-- The endpoint is not ready before it is bound, and the doorbell of SESSION_READY was accepted. -/
structure Announcing (firmware : Firmware) : Prop where
  unbound : firmware.main = .entry → firmware.endpointReady = false
  accepted : firmware.main.answer.all notifyAccepted = true

/-- The announcement is the main thread's alone. -/
theorem SameFlags.announcing {before after : Firmware} (same : SameFlags before after)
    (announcing : Announcing before) : Announcing after where
  unbound start := same.ready.trans (announcing.unbound (same.main.symm.trans start))
  accepted := by
    rw [same.main]
    exact announcing.accepted

/-- The gate reads the build and two of the flags. -/
theorem SameFlags.serviceOpen {before after : Firmware} (same : SameFlags before after) :
    after.serviceOpen = before.serviceOpen := by
  unfold Firmware.serviceOpen
  rw [same.build, same.ready, same.published]

/-- CPU3's doorbells are all accepted, so the main thread has no other answer in hand. -/
theorem mainStep_announcing {board : Board} (announcing : Announcing board.firmware) :
    Announcing (mainStep board).firmware := by
  have away {firmware : Firmware} (main : MainThread) (position : firmware.main = main)
      (moved : main ≠ .entry) (accepted : main.answer.all notifyAccepted = true) :
        Announcing firmware := by
    subst position
    exact ⟨fun start => absurd start moved, accepted⟩
  cases start : board.firmware.main with
  | entry =>
      simp only [mainStep, start]
      exact away .bound rfl (by simp) rfl
  | bound =>
      simp only [mainStep, start]
      exact away .polling rfl (by simp) rfl
  | polling =>
      simp only [mainStep, start]
      split
      · exact announcing
      · split
        · exact away (.retried _) rfl (by simp) rfl
        · split
          · apply away .polling _ (by simp) rfl
            unfold recordTxFull
            split <;> exact start
          · exact away (.queued _) rfl (by simp) rfl
  | queued result =>
      simp only [mainStep, start]
      exact away (.sent _) rfl (by simp) (board.ring_spec .critical result).2
  | sent notifyResult =>
      simp only [mainStep, start]
      have accepted := announcing.accepted
      rw [start] at accepted
      exact away (.committed _) rfl (by simp) accepted
  | committed notifyResult | retried notifyResult =>
      simp only [mainStep, start]
      exact away .polling rfl (by simp) rfl

/-- The main thread does not close the gate. -/
theorem mainStep_serviceOpen {board : Board} (announcing : Announcing board.firmware)
    (isOpen : board.firmware.serviceOpen = true) :
    (mainStep board).firmware.serviceOpen = true := by
  simp only [Firmware.serviceOpen, Bool.and_eq_true, Bool.or_eq_true] at isOpen
  obtain ⟨ready, announced⟩ := isOpen
  have keeps {firmware : Firmware} (build : firmware.build = board.firmware.build)
      (same : firmware.endpointReady = board.firmware.endpointReady)
      (published : board.firmware.sessionReadyPublished = true →
        firmware.sessionReadyPublished = true) :
      firmware.serviceOpen = true := by
    unfold Firmware.serviceOpen
    rw [build, same, ready]
    simpa using announced.imp_right published
  cases start : board.firmware.main with
  | entry =>
      rw [announcing.unbound start] at ready
      cases ready
  | bound =>
      simp only [mainStep, start]
      exact keeps rfl rfl id
  | polling =>
      simp only [mainStep, start]
      split
      · exact keeps rfl rfl id
      · split
        · exact keeps rfl rfl id
        · split
          · unfold recordTxFull
            split <;> exact keeps rfl rfl id
          · exact keeps rfl rfl id
  | queued result | sent notifyResult =>
      simp only [mainStep, start]
      exact keeps rfl rfl id
  | committed notifyResult =>
      have accepted := announcing.accepted
      rw [start] at accepted
      simp only [mainStep, start]
      exact keeps rfl rfl fun _ => accepted
  | retried notifyResult =>
      simp only [mainStep, start]
      refine keeps rfl rfl ?_
      intro published
      change (board.firmware.sessionReadyPublished || notifyAccepted notifyResult) = true
      rw [published]
      rfl

/-- No step closes an open gate. -/
theorem firmwareStep_announcing {board after : Board} {label : FirmwareLabel}
    (bound : board.firmware.endpoint.BoundBy .cpu3) (announcing : Announcing board.firmware)
    (stepped : firmwareStep board label = some after) :
    Announcing after.firmware ∧
      (board.firmware.serviceOpen = true → after.firmware.serviceOpen = true) := by
  by_cases turn : label = .main
  · subst turn
    simp only [firmwareStep] at stepped
    split at stepped <;> cases stepped
    exact ⟨mainStep_announcing announcing, mainStep_serviceOpen announcing⟩
  · have flags := firmwareStep_flags bound turn stepped
    refine ⟨flags.announcing announcing, ?_⟩
    rw [flags.serviceOpen]
    exact id

/-! ### Interrupts stay enabled -/

/-- The worker is on its way to CPU_OFF, behind the disabling of the A2B interrupts. -/
def Worker.muted : Worker → Bool
  | .quiescing _ | .acknowledging _ _ | .poweringOff _ | .off | .halted => true
  | .waiting | .woken | .entering _ | .scanning _ _ | .draining _ | .replying _ _ _ | .ringing _ _ _
  | .checking _ | .reporting _ | .posting | .stopping _ => false

/-- Interrupts are enabled for as long as CPU3 does not switch itself off. -/
def Firmware.listening (firmware : Firmware) : Bool := firmware.irqEnabled || firmware.worker.muted

/-- Until the worker disables them, a step of it does not touch the interrupts. -/
theorem workerStep_irqEnabled {board after : Board} (bound : board.firmware.endpoint.BoundBy .cpu3)
    (stepped : workerStep board = some after) :
    after.firmware.irqEnabled = board.firmware.irqEnabled ∨ after.firmware.worker.muted = true := by
  have sends {sent : Board} (frame : SendFrame board sent) (worker : Worker) :
      (sent.work worker).firmware.irqEnabled = board.firmware.irqEnabled := by
    change sent.firmware.irqEnabled = _
    rw [frame.firmware]
  cases workerStep_turn stepped with
  | @drained visit position =>
      cases drain_spec board visit bound with
      | untouched moved | idle endpoint binding moved | served endpoint binding request head moved
      | rejected endpoint binding request reason moved =>
          rw [moved]
          exact Or.inl rfl
  | @replied visit reply next position =>
      cases sendReply_spec board visit reply next bound with
      | refused noted frame hardware cause moved =>
          rw [moved]
          exact Or.inl (sends frame _)
      | queued pushed result frame space valid published moved =>
          rw [moved]
          exact Or.inl (sends frame _)
  | @rung visit result next position =>
      obtain ⟨rung, frame, moved⟩ := ringReply_spec board visit result next
      rw [moved]
      exact Or.inl (sends frame.toSendFrame _)
  | woke | swapped | spurious | admitted | dismissed | skipped | visited | finished | checked
  | rescheduled | returned | posted => exact Or.inl rfl
  | muted | observed | acknowledged => exact Or.inr rfl

/-- Nothing that the worker does enables them again. -/
theorem workerStep_muted {board after : Board} (muted : board.firmware.worker.muted = true)
    (stepped : workerStep board = some after) : after.firmware.worker.muted = true := by
  cases workerStep_turn stepped with
  | observed position | acknowledged position => rfl
  | woke position | swapped position | spurious position | admitted position | dismissed position
  | skipped position | visited position | finished position | drained position | replied position
  | rung position | checked position | rescheduled position | returned position | posted position
  | muted position =>
      rw [position] at muted
      cases muted

/-- The main thread only ever enables them. -/
theorem mainStep_irqEnabled (board : Board) (enabled : board.firmware.irqEnabled = true) :
    (mainStep board).firmware.irqEnabled = true := by
  cases start : board.firmware.main with
  | polling =>
      simp only [mainStep, start]
      split
      · exact enabled
      · split
        · exact enabled
        · split
          · unfold recordTxFull
            split <;> exact enabled
          · exact enabled
  | bound =>
      simp only [mainStep, start]
  | entry | queued _ | sent _ | committed _ | retried _ =>
      simp only [mainStep, start]
      exact enabled

/-- Interrupts go off only on the way to CPU_OFF. -/
theorem firmwareStep_listening {board after : Board} {label : FirmwareLabel}
    (bound : board.firmware.endpoint.BoundBy .cpu3) (listening : board.firmware.listening = true)
    (stepped : firmwareStep board label = some after) : after.firmware.listening = true := by
  simp only [Firmware.listening, Bool.or_eq_true] at listening ⊢
  cases firmwareStep_activity stepped with
  | handler shared firmware =>
      rw [firmware]
      exact listening
  | worker turn stepped =>
      rcases listening with enabled | muted
      · exact (workerStep_irqEnabled bound stepped).imp_left fun same => same.trans enabled
      · exact Or.inr (workerStep_muted muted stepped)
  | cpuOff request position returned moved =>
      rw [moved]
      cases returned <;> exact Or.inr rfl
  | main turn moved =>
      subst turn
      simp only [firmwareStep] at stepped
      split at stepped
      next turn =>
        rw [moved]
        rcases listening with enabled | muted
        · exact Or.inl (mainStep_irqEnabled board enabled)
        · -- The main thread runs only while the worker waits.
          have blocked := turn.2
          unfold Firmware.workerBlocked at blocked
          split at blocked
          next position =>
            rw [position] at muted
            cases muted
          next => cases blocked
      next => cases stepped

/-! ### Coming to rest

The workload is a rank of the closing link: steps of work lower it and no other step raises it.
What cannot be lowered further is the state at rest.
-/

/-- A step of CPU3 outside its main thread. -/
def LinkLabel.isWork : LinkLabel → Bool
  | .cpu3 label => label.isWork
  | .activate | .push _ _ _ _ | .observe | .notify | .receive _ | .b2aAcknowledge _ => false

/-- A new send of Linux. -/
def LinkLabel.isPush : LinkLabel → Bool
  | .push _ _ _ _ => true
  | .cpu3 _ | .activate | .observe | .notify | .receive _ | .b2aAcknowledge _ => false

/-- The link while Linux sends nothing new; it still receives and acknowledges. -/
def closing : Machine Link LinkLabel :=
  linkMachine.restrict fun _ label => label.isPush = false

/-- No work is left: no interrupt, no handler, no worker and no CPU_OFF can take a step. -/
def Link.AtRest (link : Link) : Prop := ∀ label, label.isWork = true →
    closing.step link label = none

/-- What a closing link keeps. -/
structure Closing (link : Link) : Prop where
  coverage : Coverage link
  announcing : Announcing link.board.firmware
  gate : link.board.firmware.serviceOpen = true
  listening : link.board.firmware.listening = true
  idle : link.send = .idle

/-- With the gate open the condition on the gate step holds. -/
theorem Closing.gateAdmissible {link : Link} (closed : Closing link) (label : LinkLabel) :
    gateAdmissible link label = true := by
  unfold MailMsg.gateAdmissible
  split
  · split
    · rw [closed.gate]
      rfl
    · rfl
  · rfl

/-- A receive of Linux takes nothing from a forward ring. -/
theorem Coverage.receive_workload {link : Link} (coverage : Coverage link) (priority : Priority) :
    (link.receive priority).2.board.workload = link.board.workload ∧
      (link.receive priority).2.board.firmware = link.board.firmware ∧
      (link.receive priority).2.send = link.send := by
  have spec := endpointReceive_spec link.linux link.board.hardware.shared priority
  simp only [Link.receive]
  generalize endpointReceive link.linux link.board.hardware.shared priority = outcome at spec
  refine ⟨?_, trivial, trivial⟩
  cases spec with
  | refused ret notStale sameEndpoint sameShared nothing cause =>
      exact absurd coverage.linuxSession cause
  | popped role bound session ret released message counted =>
      rw [coverage.linux.1] at bound
      cases bound
      rw [released]
      exact SameInbound.workload ⟨rfl, rfl, rfl⟩ rfl rfl

/-- What a step of the closing link keeps, and what a step of work costs. -/
theorem Closing.step {link next : Link} {label : LinkLabel} (closed : Closing link)
    (taken : closing.step link label = some next) :
    Closing next ∧ next.board.workload ≤ link.board.workload ∧
      (label.isWork = true → next.board.workload < link.board.workload) := by
  obtain ⟨noPush, stepped⟩ := Machine.restrict_step_iff.mp taken
  have coverage : Coverage next := closed.coverage.step (closed.gateAdmissible label) stepped
  have kept (firmware : next.board.firmware = link.board.firmware) (send : next.send = link.send) :
      Closing next :=
    { coverage := coverage
      announcing := by
        rw [firmware]
        exact closed.announcing
      gate := by
        rw [firmware]
        exact closed.gate
      listening := by
        rw [firmware]
        exact closed.listening
      idle := send.trans closed.idle }
  cases label with
  | cpu3 label =>
      simp only [linkMachine, linkStep, Option.map_eq_some_iff] at stepped
      obtain ⟨board, moved, rfl⟩ := stepped
      have bound := closed.coverage.boundBy
      obtain ⟨announcing, gate⟩ := firmwareStep_announcing bound closed.announcing moved
      have after : Closing { link with board := board } :=
        { coverage := coverage
          announcing := announcing
          gate := gate closed.gate
          listening := firmwareStep_listening bound closed.listening moved
          idle := closed.idle }
      cases isWork : label.isWork with
      | true =>
          have lower := closed.coverage.cpu3_workload isWork moved
          exact ⟨after, Nat.le_of_lt lower, fun _ => lower⟩
      | false =>
          cases label with
          | main =>
              simp only [firmwareStep] at moved
              split at moved <;> cases moved
              refine ⟨after, Nat.le_of_eq (mainStep_workload link.board bound), ?_⟩
              intro counted
              cases counted
          | interrupt _ | isr | worker | cpuOff _ => cases isWork
  | activate =>
      simp only [linkMachine, linkStep] at stepped
      split at stepped
      · cases stepped
        obtain ⟨same, firmware, send⟩ := closed.coverage.receive_workload .critical
        exact ⟨kept firmware send, Nat.le_of_eq same, fun counted => by cases counted⟩
      · cases stepped
  | push priority type payload length => cases noPush
  | observe | notify =>
      simp only [linkMachine, linkStep, closed.idle] at stepped
      cases stepped
  | receive priority =>
      simp only [linkMachine, linkStep] at stepped
      split at stepped
      · cases stepped
        obtain ⟨same, firmware, send⟩ := closed.coverage.receive_workload priority
        exact ⟨kept firmware send, Nat.le_of_eq same, fun counted => by cases counted⟩
      · cases stepped
  | b2aAcknowledge channel =>
      simp only [linkMachine, linkStep] at stepped
      cases stepped
      exact ⟨kept rfl rfl, Nat.le_refl _, fun counted => by cases counted⟩

/-- The workload ranks the steps of a closing link. -/
def closingRanking : Machine.Ranking closing LinkLabel.isWork where
  Inv := Closing
  rank link := link.board.workload
  preserved closed taken := (closed.step taken).1
  lowered closed taken := (closed.step taken).2.2
  kept closed taken := (closed.step taken).2.1

/-- A step of CPU3 outside its main thread that is not enabled. -/
theorem Link.AtRest.cpu3 {link : Link} (resting : link.AtRest) (label : FirmwareLabel)
    (isWork : label.isWork = true) : firmwareStep link.board label = none := by
  have refused := resting (.cpu3 label) isWork
  simp only [closing, Machine.restrict, LinkLabel.isPush, if_true, linkMachine, linkStep,
    Option.map_eq_none_iff] at refused
  exact refused

/-- The handler can always go on. -/
theorem Link.AtRest.isr {link : Link} (resting : link.AtRest) :
    link.board.firmware.isr = .idle := by
  have refused : isrStep link.board = none := resting.cpu3 .isr rfl
  cases position : link.board.firmware.isr with
  | idle => rfl
  | entered _ _ _ | echoed _ _ | cleared _ _ => simp [isrStep, position] at refused

/-- A worker that cannot move waits for the semaphore, or CPU3 is off. -/
theorem Link.AtRest.worker {link : Link} (resting : link.AtRest) :
    (link.board.firmware.worker = .off ∨ link.board.firmware.worker = .halted) ∨
      link.board.firmware.worker = .waiting ∧ link.board.firmware.workSem = false := by
  have idle : link.board.firmware.isr.isIdle = true := by
    rw [resting.isr]
    rfl
  have refused : workerStep link.board = none := by
    have refused := resting.cpu3 .worker rfl
    simpa only [firmwareStep, idle, if_true] using refused
  cases position : link.board.firmware.worker with
  | waiting =>
      refine Or.inr ⟨rfl, ?_⟩
      simpa [workerStep, position] using refused
  | poweringOff request =>
      have returns := resting.cpu3 (.cpuOff true) rfl
      simp [firmwareStep, idle, cpuOffStep, position] at returns
  | off => exact Or.inl (Or.inl rfl)
  | halted => exact Or.inl (Or.inr rfl)
  | woken | entering pending | scanning round reached | reporting round =>
      simp only [workerStep, position] at refused
      repeat' split at refused
      all_goals
        cases refused
  | draining visit | replying visit reply next | ringing visit result next
  | checking visit | posting
  | stopping request | quiescing request | acknowledging request pending =>
      simp only [workerStep, position] at refused
      cases refused

/-- With no work left CPU3 is off, or it waits with every forward ring and doorbell empty. -/
theorem Closing.rest {link : Link} (closed : Closing link) (resting : link.AtRest) :
    (link.board.firmware.worker = .off ∨ link.board.firmware.worker = .halted) ∨
      link.board.firmware.worker = .waiting ∧ ∀ priority,
        (link.board.hardware.shared.linuxToCpu3 priority).contents = [] ∧
          link.board.hardware.a2b.status priority = false := by
  refine resting.worker.imp_right ?_
  rintro ⟨position, empty⟩
  refine ⟨position, ?_⟩
  have enabled : link.board.firmware.irqEnabled = true := by
    have listening := closed.listening
    rw [Firmware.listening, position] at listening
    simpa [Worker.muted] using listening
  have clear (channel : Priority) : link.board.hardware.a2b.status channel = false := by
    have refused := resting.cpu3 (.interrupt channel) rfl
    cases set : link.board.hardware.a2b.status channel with
    | false => rfl
    | true => simp [firmwareStep, Board.deliverable, resting.isr, Isr.isIdle, enabled,
        set] at refused
  intro priority
  obtain ⟨frames, holds, -⟩ := closed.coverage.rings priority
  refine ⟨?_, clear priority⟩
  rw [holds.wellFormed.contents_eq_nil_iff]
  by_contra occupied
  cases closed.coverage.covered priority occupied with
  | doorbell set =>
      rw [clear] at set
      cases set
  | handler running =>
      rw [resting.isr] at running
      exact running
  | posted pending =>
      rcases closed.coverage.wake priority pending with given | swapping
      · rw [empty] at given
        cases given
      · rw [position] at swapping
        exact swapping
  | sending due =>
      rw [closed.idle] at due
      cases due
  | visited visits =>
      rw [position] at visits
      exact visits

/-! ### The bound -/

theorem Visit.rank_le (visit : Visit) : visit.rank ≤ 152 := by
  have rest := visit.round.rest_le (visit.priority.val + 1)
  have few : priorityCount - (visit.priority.val + 1) ≤ 3 := by
    rw [Nat.add_comm]
    exact Nat.sub_le_sub_left (Nat.le_add_right 1 visit.priority.val) 4
  have left : drainQuota - visit.handled ≤ 7 := Nat.sub_le _ _
  unfold Visit.rank Visit.after
  omega

theorem Continuation.rank_le (visit : Visit) (next : Continuation) : next.rank visit ≤ 154 := by
  have rank := visit.rank_le
  cases next with
  | drain | cpuOff _ => exact Nat.le_trans rank (by decide)
  | pong _ => exact Nat.add_le_add_right rank 2
  | leave =>
      have ends : visit.after + 1 ≤ visit.rank := by
        unfold Visit.rank
        omega
      exact Nat.le_trans ends (Nat.le_trans rank (by decide))

/-- The costliest place is the reply before a PONG. -/
theorem Worker.effort_le (worker : Worker) : worker.effort ≤ 491 := by
  have rest (round : Round) (start : Nat) : round.rest start ≤ 152 :=
    Nat.le_trans (round.rest_le start) (Nat.mul_le_mul_left 38 (Nat.sub_le _ _))
  cases worker with
  | waiting | woken | posting | stopping _ | quiescing _ | acknowledging _ _ | poweringOff _
  | off | halted =>
      exact of_decide_eq_true rfl
  | entering pending =>
      have start := rest (.start pending) 0
      change 2 + (Round.start pending).rest 0 + 5 ≤ _
      omega
  | scanning round priority =>
      have start := rest round priority
      have again : round.again ≤ 162 := round.again_le
      change 1 + round.rest priority + (5 + round.again) ≤ _
      omega
  | draining visit =>
      have rank := visit.rank_le
      have credit : visit.credit ≤ 330 := visit.credit_le
      change visit.rank + (5 + visit.credit) ≤ _
      omega
  | replying visit reply next =>
      have rank := next.rank_le visit
      have credit : visit.credit ≤ 330 := visit.credit_le
      change next.rank visit + 2 + (5 + visit.credit) ≤ _
      omega
  | ringing visit result next =>
      have rank := next.rank_le visit
      have credit : visit.credit ≤ 330 := visit.credit_le
      change next.rank visit + 1 + (5 + visit.credit) ≤ _
      omega
  | checking visit =>
      have rank := Continuation.rank_le visit .leave
      have credit : visit.credit ≤ 330 := visit.credit_le
      change visit.after + 1 ≤ 154 at rank
      change visit.after + 1 + (5 + visit.credit) ≤ _
      omega
  | reporting round =>
      have again : round.again ≤ 162 := round.again_le
      change 0 + (1 + round.again) ≤ _
      omega

theorem Board.doorbellCost_le (board : Board) (channel : Priority) :
    board.doorbellCost channel ≤ 327 := by
  have cost : wakeupCost = 161 := rfl
  have pending : (if board.hardware.a2b.status channel then wakeupCost + 4 else 0) ≤ 165 := by
    split <;> decide
  unfold Board.doorbellCost
  dsimp only
  split
  · omega
  · split <;> omega
  · split <;> omega
  · split <;> omega

/-- However much is around, it is not more than this. -/
theorem Coverage.workload_le {link : Link} (coverage : Coverage link) :
    link.board.workload ≤ 2632 := by
  have doorbells : Finset.univ.sum link.board.doorbellCost ≤ 4 * 327 := by
    apply Finset.sum_le_card_nsmul
    intro channel _
    exact link.board.doorbellCost_le channel
  have frames : (Finset.univ.sum fun priority =>
      (link.board.hardware.shared.linuxToCpu3 priority).occupied) ≤ 4 * 7 := by
    apply Finset.sum_le_card_nsmul
    intro priority _
    obtain ⟨frames, holds, -⟩ := coverage.rings priority
    rw [holds.occupied]
    exact holds.length_le
  have worker := link.board.firmware.worker.effort_le
  have given : (if link.board.firmware.workSem then wakeupCost else 0) ≤ 161 := by
    split <;> decide
  have credited := Nat.mul_le_mul_left frameCredit frames
  change _ ≤ 672 at credited
  unfold Board.workload Board.inbound
  omega

/-- In a run of a session the main thread has no other answers in hand. -/
theorem announcing_reachable {link : Link} (reached : gatedMachine.Reachable link) :
    Announcing link.board.firmware := by
  induction reached with
  | init start =>
      obtain ⟨build, generation, a2b, b2a, skip, nonzero, clear, rfl⟩ := start
      exact ⟨fun _ => rfl, rfl⟩
  | @step link next label earlier taken inductionHypothesis =>
      have coverage := Coverage.reachable earlier
      obtain ⟨-, stepped⟩ := Machine.restrict_step_iff.mp taken
      cases label with
      | cpu3 label =>
          simp only [linkMachine, linkStep, Option.map_eq_some_iff] at stepped
          obtain ⟨board, moved, rfl⟩ := stepped
          exact (firmwareStep_announcing coverage.boundBy inductionHypothesis moved).1
      | activate | push _ _ _ _ | receive _ =>
          simp only [linkMachine, linkStep] at stepped
          split at stepped <;> cases stepped
          exact inductionHypothesis
      | observe =>
          simp only [linkMachine, linkStep] at stepped
          split at stepped <;> cases stepped
          exact inductionHypothesis
      | notify =>
          simp only [linkMachine, linkStep, Link.notify] at stepped
          split at stepped <;> cases stepped
          split <;> exact inductionHypothesis
      | b2aAcknowledge channel =>
          simp only [linkMachine, linkStep] at stepped
          cases stepped
          exact inductionHypothesis

/-- In a session whose worker found nothing queued under its mask whenever it came to the closed
gate: from any state with the gate open and interrupts enabled, and until Linux sends again, CPU3
takes a bounded number of steps outside its main thread.  Some run of such steps comes to rest, and
wherever it comes to rest CPU3 is off or has left nothing in the forward rings. -/
theorem cpu3_comes_to_rest {link : Link} (reached : gatedMachine.Reachable link)
    (gate : link.board.firmware.serviceOpen = true)
    (enabled : link.board.firmware.irqEnabled = true) (idle : link.send = .idle) :
    (∀ labels last, closing.run link labels = some last →
      labels.countP LinkLabel.isWork ≤ 2632 ∧
        (last.AtRest → (last.board.firmware.worker = .off ∨ last.board.firmware.worker = .halted) ∨
          last.board.firmware.worker = .waiting ∧ ∀ priority,
            (last.board.hardware.shared.linuxToCpu3 priority).contents = [] ∧
              last.board.hardware.a2b.status priority = false)) ∧
      ∃ labels last, (∀ label ∈ labels, label.isWork = true) ∧ closing.run link labels = some last ∧
        last.AtRest := by
  have closed : Closing link :=
    { coverage := Coverage.reachable reached
      announcing := announcing_reachable reached
      gate := gate
      listening := by
        rw [Firmware.listening, enabled]
        rfl
      idle := idle }
  constructor
  · intro labels last executed
    constructor
    · have paid := closingRanking.count_le closed executed
      have most := closed.coverage.workload_le
      change _ ≤ link.board.workload at paid
      omega
    · intro resting
      have still : Closing last :=
        Machine.run_invariant Closing (fun _ _ _ closed taken => (closed.step taken).1)
          closed executed
      exact still.rest resting
  · exact closingRanking.comes_to_rest closed

/-- The theorem right after the doorbell of a PING that CPU3 has not yet seen. -/
theorem cpu3_comes_to_rest_demo :
    ∃ link, gatedMachine.run demoLink (demoAnnounce ++ [.cpu3 .main, .cpu3 .main] ++ demoPing.take 4) =
        some link ∧
      (link.board.hardware.shared.linuxToCpu3 1).contents.length = 1 ∧
      ∃ labels last, (∀ label ∈ labels, label.isWork = true) ∧ closing.run link labels = some last ∧
        last.AtRest := by
  have checked : (gatedMachine.run demoLink
      (demoAnnounce ++ [.cpu3 .main, .cpu3 .main] ++ demoPing.take 4)).any (fun link =>
        (link.board.hardware.shared.linuxToCpu3 1).contents.length == 1 &&
          (link.board.firmware.serviceOpen && link.board.firmware.irqEnabled &&
            decide (link.send = .idle))) = true := by
    decide +kernel
  obtain ⟨link, executed, passed⟩ := gatedMachine.exists_of_run_any checked
  simp only [Bool.and_eq_true, beq_iff_eq, decide_eq_true_eq] at passed
  obtain ⟨queued, ⟨gate, enabled⟩, idle⟩ := passed
  exact ⟨link, executed, queued,
    (cpu3_comes_to_rest (Machine.Reachable.run (.init demoLink_init) executed) gate enabled idle).2⟩

end MailMsg
