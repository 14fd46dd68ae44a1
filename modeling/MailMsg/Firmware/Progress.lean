/-
Module: MailMsg.Firmware.Progress
Purpose: How much work one call of the ping-pong service is.  It ends after a bounded number of
  worker steps and frames, whatever Linux writes meanwhile.
Source: LZAMP/firmware/zephyr/app/src/main.c (mailmsg_pingpong_test_service)
Trusted boundary: that of Firmware.Service
Main exports: Worker.rank, duringCall, service_call_bounded
-/
import MailMsg.Firmware.Drain
import MailMsg.Lib.Progress

namespace MailMsg

/-! ### The rank of a service call

The rank counts the worker steps that a call can still take, for the worst content of the rings.  A
visit has set aside five steps for every frame that its quota leaves, so neither new frames nor
doorbells can prolong the call.
-/

/-- The worker steps that one priority can cost: one to look at its bit, for a pending one five for
each frame of the quota (receive, ACK, its doorbell, PONG, its doorbell), the receive that ends the
loop and the check behind it. -/
def Round.cost (round : Round) (priority : Priority) : Nat :=
  if round.pending priority then 5 * drainQuota + 3 else 1

/-- The cost of the priorities from `start` on. -/
def Round.rest (round : Round) (start : Nat) : Nat :=
  (((List.finRange priorityCount).drop start).map round.cost).sum

/-- The rest of the priorities, from one to the next. -/
theorem Round.rest_succ (round : Round) {start : Nat} (inRange : start < priorityCount) :
    round.rest start = round.cost ⟨start, inRange⟩ + round.rest (start + 1) := by
  have inside : start < (List.finRange priorityCount).length := by
    rw [List.length_finRange]
    exact inRange
  unfold Round.rest
  rw [List.drop_eq_getElem_cons inside, List.map_cons, List.sum_cons, List.getElem_finRange]
  rfl

/-- The rank behind a visit. -/
def Visit.after (visit : Visit) : Nat := 1 + visit.round.rest (visit.priority.val + 1)

/-- The rank at the head of the drain loop. -/
def Visit.rank (visit : Visit) : Nat := visit.after + 2 + 5 * (drainQuota - visit.handled)

/-- The rank of where the worker goes after a reply. -/
def Continuation.rank (visit : Visit) : Continuation → Nat
  | .drain | .cpuOff _ => visit.rank
  | .leave => visit.after + 1
  | .pong _ => visit.rank + 2

/-- The worker steps that a service call can still take. -/
def Worker.rank : Worker → Nat
  | .entering pending => 2 + (Round.start pending).rest 0
  | .scanning round priority => 1 + round.rest priority
  | .draining visit => visit.rank
  | .replying visit _ next => next.rank visit + 2
  | .ringing visit _ next => next.rank visit + 1
  | .checking visit => visit.after + 1
  | .waiting | .woken | .reporting _ | .posting | .stopping _ | .quiescing _ | .acknowledging _ _
  | .poweringOff _ | .off | .halted => 0

/-- The worker is in a call of the service. -/
def Worker.inCall : Worker → Bool
  | .entering _ | .scanning _ _ | .draining _ | .replying _ _ _ | .ringing _ _ _
  | .checking _ => true
  | .waiting | .woken | .reporting _ | .posting | .stopping _ | .quiescing _ | .acknowledging _ _
  | .poweringOff _ | .off | .halted => false

/-- What follows a reply costs no more than was set aside for it. -/
theorem Continuation.resume_rank (visit : Visit) (accepted : Bool) (next : Continuation) :
    (next.resume visit accepted).rank ≤ next.rank visit := by
  cases next with
  | drain | leave => exact Nat.le_refl _
  | pong request => exact Nat.le_refl _
  | cpuOff request =>
      cases accepted with
      | true => exact Nat.zero_le _
      | false => exact Nat.le_refl _

/-- One more frame of the quota pays for its answer. -/
theorem Visit.rank_next {visit : Visit} (quota : visit.handled < drainQuota) :
    visit.next.rank + 5 = visit.rank := by
  have same : visit.next.after = visit.after := rfl
  have more : visit.next.handled = visit.handled + 1 := rfl
  unfold Visit.rank
  rw [same, more]
  omega

/-- A good frame: at most two replies and the rest of the visit. -/
theorem answer_rank (build : Build) (visit : Visit) (request : Message) :
    (answer build visit request).rank ≤ visit.rank + 4 := by
  unfold answer
  split
  · split
    · exact Nat.add_le_add_left (by decide : 2 ≤ 4) _
    · split
      · exact Nat.add_le_add_left (by decide : 2 ≤ 4) _
      · exact Nat.add_le_add_left (by decide : 2 ≤ 4) _
  · split
    · exact Nat.zero_le _
    · split
      · exact Nat.le_refl _
      · exact Nat.add_le_add_left (by decide : 2 ≤ 4) _

/-- A bad frame: at most one reply, and the visit is over. -/
theorem reject_rank (visit : Visit) (request : Message) (reason : U32) :
    (reject visit request reason).rank ≤ visit.after + 3 := by
  unfold reject
  split
  · exact Nat.le_refl _
  · exact Nat.add_le_add_left (by decide : 1 ≤ 3) _

@[simp] theorem Board.work_worker (board : Board) (worker : Worker) :
    (board.work worker).firmware.worker = worker := rfl

/-- An iteration of the drain loop, whatever the ring holds. -/
theorem drain_rank (board : Board) (visit : Visit) :
    (drain board visit).firmware.worker.rank < visit.rank := by
  have ends : visit.after + 1 < visit.rank := by
    unfold Visit.rank
    omega
  unfold drain
  split
  next quota =>
    have paid := Visit.rank_next quota
    have rejected : visit.next.after + 3 < visit.rank := by
      have same : visit.next.after = visit.after := rfl
      unfold Visit.rank
      rw [same]
      omega
    dsimp only
    split
    next request _ _ =>
      have answered := answer_rank board.firmware.build visit.next request
      rw [Board.work_worker]
      omega
    next request _ _ =>
      have refused := reject_rank visit.next request nackBadCrc
      rw [Board.work_worker]
      omega
    next request _ _ =>
      have refused := reject_rank visit.next request nackInvalidFrame
      rw [Board.work_worker]
      omega
    next => exact ends
  next => exact ends

/-- A push of a reply, whether it finds room or not. -/
theorem sendReply_rank (board : Board) (visit : Visit) (reply : Reply) (next : Continuation) :
    (sendReply board visit reply next).firmware.worker.rank < next.rank visit + 2 := by
  unfold sendReply
  dsimp only
  split
  · have resumed := next.resume_rank visit false
    rw [Board.work_worker]
    omega
  · exact Nat.lt_succ_self _

/-- The doorbell of a reply. -/
theorem ringReply_rank (board : Board) (visit : Visit) (result : SendResult) (next : Continuation) :
    (ringReply board visit result next).firmware.worker.rank < next.rank visit + 1 :=
  Nat.lt_succ_of_le (next.resume_rank visit _)

/-- Every worker step of a call lowers the rank. -/
theorem workerStep_rank {board after : Board} (calling : board.firmware.worker.inCall = true)
    (stepped : workerStep board = some after) :
    after.firmware.worker.rank < board.firmware.worker.rank := by
  cases workerStep_turn stepped with
  | admitted position | dismissed position =>
      rw [position]
      simp only [Board.work_worker, Worker.rank]
      omega
  | @skipped round reached position inRange idle =>
      have paid := round.rest_succ inRange
      have positive : 0 < round.cost ⟨reached, inRange⟩ := by
        unfold Round.cost
        split <;> decide
      rw [position]
      change 1 + round.rest (reached + 1) < 1 + round.rest reached
      omega
  | @visited round reached position inRange wanted =>
      have paid := round.rest_succ inRange
      have pending : round.pending ⟨reached, inRange⟩ = true := by
        by_contra idle
        exact wanted (Or.inl idle)
      have cost : round.cost ⟨reached, inRange⟩ = 5 * drainQuota + 3 := if_pos pending
      rw [position]
      change 1 + round.rest (reached + 1) + 2 + 5 * drainQuota < 1 + round.rest reached
      omega
  | finished position past =>
      rw [position]
      simp only [Board.work_worker, Worker.rank]
      omega
  | @drained visit position =>
      rw [position]
      exact drain_rank board visit
  | @replied visit reply next position =>
      rw [position]
      exact sendReply_rank board visit reply next
  | @rung visit result next position =>
      rw [position]
      exact ringReply_rank board visit result next
  | checked position =>
      rw [position]
      unfold check
      dsimp only
      split <;> exact Nat.lt_succ_self _
  | woke position | swapped position | spurious position | rescheduled position | returned position
  | posted position | muted position | observed position | acknowledged position =>
      rw [position] at calling
      cases calling

/-! ### A call under interference -/

/-- A step of CPU3, or any change that the other side makes to the region and the mailbox. -/
inductive CallLabel where
  | cpu3 (label : FirmwareLabel)
  | surroundings (hardware : Hardware)

/-- A step of the worker. -/
def CallLabel.isWorker : CallLabel → Bool
  | .cpu3 .worker => true
  | .cpu3 _ | .surroundings _ => false

/-- CPU3 from the gate of the service until the call is over, over a region that changes at any
time. -/
def duringCall : Machine Board CallLabel where
  init board := ∃ pending, board.firmware.worker = .entering pending
  step board
    | .cpu3 label => if board.firmware.worker.inCall then firmwareStep board label else none
    | .surroundings hardware => some { board with hardware := hardware }

/-- The handler does not move the worker. -/
theorem isrStep_worker {board after : Board} (stepped : isrStep board = some after) :
    after.firmware.worker = board.firmware.worker := by
  unfold isrStep at stepped
  split at stepped
  · cases stepped
  · cases stepped
    rfl
  · cases stepped
    rfl
  · cases stepped
    unfold isrPost
    split <;> rfl

/-- During a call only the worker itself moves the worker. -/
theorem firmwareStep_inCall {board after : Board} {label : FirmwareLabel}
    (calling : board.firmware.worker.inCall = true)
    (stepped : firmwareStep board label = some after) :
    (label = .worker ∧ workerStep board = some after) ∨
      after.firmware.worker = board.firmware.worker := by
  cases label with
  | interrupt channel =>
      simp only [firmwareStep] at stepped
      split at stepped <;> cases stepped
      exact Or.inr rfl
  | isr => exact Or.inr (isrStep_worker stepped)
  | worker =>
      simp only [firmwareStep] at stepped
      split at stepped
      · exact Or.inl ⟨rfl, stepped⟩
      · cases stepped
  | cpuOff returned =>
      simp only [firmwareStep] at stepped
      split at stepped
      · unfold cpuOffStep at stepped
        split at stepped
        next request position =>
          rw [position] at calling
          cases calling
        next => cases stepped
      · cases stepped
  | main =>
      simp only [firmwareStep] at stepped
      split at stepped
      next idle =>
        have blocked := idle.2
        unfold Firmware.workerBlocked at blocked
        split at blocked
        next position =>
          rw [position] at calling
          cases calling
        next => cases blocked
      next => cases stepped

/-- The rank of a call. -/
def callRanking : Machine.Ranking duringCall CallLabel.isWorker where
  Inv _ := True
  rank board := board.firmware.worker.rank
  preserved _ _ := trivial
  lowered {state label next} _ taken isWorker := by
    cases label with
    | surroundings hardware => cases isWorker
    | cpu3 label =>
        simp only [duringCall] at taken
        split at taken
        next calling =>
          cases label with
          | worker =>
              simp only [firmwareStep] at taken
              split at taken
              · exact workerStep_rank calling taken
              · cases taken
          | interrupt _ | isr | cpuOff _ | main => cases isWorker
        next => cases taken
  kept {state label next} _ taken := by
    cases label with
    | surroundings hardware =>
        cases taken
        exact Nat.le_refl _
    | cpu3 label =>
        simp only [duringCall] at taken
        split at taken
        next calling =>
          rcases firmwareStep_inCall calling taken with ⟨_, stepped⟩ | same
          · exact Nat.le_of_lt (workerStep_rank calling stepped)
          · rw [same]
        next => cases taken

/-! ### The frames of a call -/

/-- The frames that the priorities of a mask below `reached` can cost. -/
def frameBudget (pending : Priority → Bool) (reached : Nat) : Nat :=
  drainQuota * ((List.finRange priorityCount).take reached).countP pending

/-- The budget grows by one quota at each set bit of the mask. -/
theorem frameBudget_succ (pending : Priority → Bool) {reached : Nat}
    (inRange : reached < priorityCount) :
    frameBudget pending (reached + 1) =
      frameBudget pending reached + if pending ⟨reached, inRange⟩ then drainQuota else 0 := by
  have inside : reached < (List.finRange priorityCount).length := by
    rw [List.length_finRange]
    exact inRange
  unfold frameBudget
  rw [List.take_add_one, List.getElem?_eq_getElem inside, List.getElem_finRange,
    List.countP_append, Nat.mul_add]
  congr 1
  cases set : pending ⟨reached, inRange⟩ with
  | true => simp [set]
  | false => simp [set]

/-- A round over the mask of its call that has counted no more frames than it may. -/
structure Round.Within (pending : Priority → Bool) (budget : Nat) (round : Round) : Prop where
  mask : round.pending = pending
  counted : round.messages.toNat ≤ budget

/-- A visit of a pending priority within its quota. -/
structure Visit.Within (pending : Priority → Bool) (visit : Visit) : Prop where
  round : visit.round.Within pending (frameBudget pending visit.priority.val + visit.handled)
  set : pending visit.priority = true
  quota : visit.handled ≤ drainQuota

/-- The worker of a call for this mask has handled no more frames than the quotas allow. -/
def Worker.Within (pending : Priority → Bool) : Worker → Prop
  | .entering mask => mask = pending
  | .scanning round reached => reached ≤ priorityCount ∧
      round.Within pending (frameBudget pending reached)
  | .draining visit | .replying visit _ _ | .ringing visit _ _ | .checking visit =>
      visit.Within pending
  | .reporting round => round.Within pending (frameBudget pending priorityCount)
  | .waiting | .woken | .posting | .stopping _ | .quiescing _ | .acknowledging _ _
  | .poweringOff _ | .off
  | .halted => True

section Frames

variable {pending : Priority → Bool} {visit : Visit}

/-- Four quotas of seven. -/
theorem frameBudget_le (pending : Priority → Bool) (reached : Nat) :
    frameBudget pending reached ≤ 28 := by
  have taken : ((List.finRange priorityCount).take reached).length ≤ priorityCount := by
    rw [List.length_take, List.length_finRange]
    exact Nat.min_le_right _ _
  have counted := List.countP_le_length (p := pending)
    (l := (List.finRange priorityCount).take reached)
  exact Nat.mul_le_mul_left drainQuota (Nat.le_trans counted taken)

/-- One more frame below the quota. -/
theorem Visit.Within.next (within : visit.Within pending) (quota : visit.handled < drainQuota) :
    visit.next.Within pending where
  round :=
    { mask := within.round.mask
      counted := by
        have counted := within.round.counted
        have small := frameBudget_le pending visit.priority.val
        have room : visit.handled < 7 := quota
        change (visit.round.messages + 1).toNat ≤ frameBudget pending visit.priority.val +
          (visit.handled + 1)
        rw [BitVec.toNat_add, Nat.mod_eq_of_lt (by simp; omega)]
        change visit.round.messages.toNat + 1 ≤ _
        omega }
  set := within.set
  quota := quota

/-- A reply does not count as a frame. -/
theorem Continuation.resume_within (within : visit.Within pending) (accepted : Bool)
    (next : Continuation) : (next.resume visit accepted).Within pending := by
  cases next with
  | drain | leave | pong _ => exact within
  | cpuOff request =>
      cases accepted with
      | true => trivial
      | false => exact within

/-- An answer does not count as another frame. -/
theorem answer_within (within : visit.Within pending) (build : Build) (request : Message) :
    (answer build visit request).Within pending := by
  unfold answer
  split
  · split
    · exact within
    · split <;> exact within
  · split
    · trivial
    · split <;> exact within

/-- An iteration takes one more frame only within the quota. -/
theorem drain_within (within : visit.Within pending) (board : Board) :
    (drain board visit).firmware.worker.Within pending := by
  unfold drain
  split
  next quota =>
    have next := within.next quota
    dsimp only
    split
    · exact answer_within next board.firmware.build _
    · unfold reject
      split <;> exact next
    · unfold reject
      split <;> exact next
    · exact within
  next => exact within

/-- The check behind a visit hands its frames to the round. -/
theorem check_within (within : visit.Within pending) (board : Board) :
    (check board visit).firmware.worker.Within pending := by
  have budget := frameBudget_succ pending visit.priority.isLt
  rw [if_pos within.set] at budget
  have quota := within.quota
  have counted := within.round.counted
  unfold check
  dsimp only
  refine ⟨visit.priority.isLt, ?_, ?_⟩
  · split <;> exact within.round.mask
  · split
    · change visit.round.messages.toNat ≤ _
      omega
    · omega

/-- A worker step of a call keeps to the quotas. -/
theorem workerStep_within {board after : Board} (calling : board.firmware.worker.inCall = true)
    (within : board.firmware.worker.Within pending) (stepped : workerStep board = some after) :
    after.firmware.worker.Within pending := by
  cases workerStep_turn stepped with
  | admitted position =>
      rw [position] at within
      exact ⟨Nat.zero_le _, within, Nat.zero_le _⟩
  | dismissed position =>
      rw [position] at within
      exact ⟨within, Nat.zero_le _⟩
  | skipped position inRange idle =>
      rw [position] at within
      obtain ⟨_, mask, counted⟩ := within
      have budget := frameBudget_succ pending inRange
      exact ⟨inRange, mask, by omega⟩
  | @visited round reached position inRange wanted =>
      rw [position] at within
      obtain ⟨_, mask, counted⟩ := within
      have set : round.pending ⟨reached, inRange⟩ = true := by
        by_contra idle
        exact wanted (Or.inl idle)
      rw [mask] at set
      exact ⟨⟨mask, counted⟩, set, Nat.zero_le _⟩
  | @finished round reached position past =>
      rw [position] at within
      obtain ⟨_, mask, counted⟩ := within
      have same : reached = priorityCount := by omega
      rw [same] at counted
      exact ⟨mask, counted⟩
  | drained position =>
      rw [position] at within
      exact drain_within within board
  | @replied visit reply next position =>
      rw [position] at within
      unfold sendReply
      dsimp only
      split
      · exact next.resume_within within false
      · exact within
  | @rung visit result next position =>
      rw [position] at within
      exact next.resume_within within _
  | checked position =>
      rw [position] at within
      exact check_within within board
  | woke position | swapped position | spurious position | rescheduled position | returned position
  | posted position | muted position | observed position | acknowledged position =>
      rw [position] at calling
      cases calling

end Frames

/-- What the surroundings do does not count. -/
theorem duringCall_within {pending : Priority → Bool} {board next : Board} {label : CallLabel}
    (within : board.firmware.worker.Within pending)
    (taken : duringCall.step board label = some next) : next.firmware.worker.Within pending := by
  cases label with
  | surroundings hardware =>
      cases taken
      exact within
  | cpu3 label =>
      simp only [duringCall] at taken
      split at taken
      next calling =>
        rcases firmwareStep_inCall calling taken with ⟨_, stepped⟩ | same
        · exact workerStep_within calling within stepped
        · rw [same]
          exact within
      next => cases taken

/-- Visiting a list of priorities: one step each, and the rest of the cost where the bit is set. -/
theorem sum_cost (round : Round) (priorities : List Priority) :
    (priorities.map round.cost).sum =
      priorities.length + (5 * drainQuota + 2) * priorities.countP round.pending := by
  induction priorities with
  | nil => rfl
  | cons priority priorities inductionHypothesis =>
      rw [List.map_cons, List.sum_cons, inductionHypothesis, List.countP_cons, List.length_cons]
      unfold Round.cost
      split
      · rw [Nat.mul_add]
        omega
      · simp only [Nat.add_zero]
        omega

/-- The rank at the gate, in terms of the mask. -/
theorem rest_start (pending : Priority → Bool) :
    (Round.start pending).rest 0 = 4 + (5 * drainQuota + 2) *
      (List.finRange priorityCount).countP pending := by
  have total := sum_cost (Round.start pending) (List.finRange priorityCount)
  rw [List.length_finRange] at total
  exact total

/-! ### The end of a call -/

/-- During a call the worker can always go on. -/
theorem workerStep_enabled {board : Board} (calling : board.firmware.worker.inCall = true) :
    ∃ after, workerStep board = some after := by
  cases position : board.firmware.worker with
  | entering pending =>
      simp only [workerStep, position]
      split <;> exact ⟨_, rfl⟩
  | scanning round priority =>
      simp only [workerStep, position]
      split
      · split <;> exact ⟨_, rfl⟩
      · exact ⟨_, rfl⟩
  | draining _ | replying _ _ _ | ringing _ _ _ | checking _ =>
      simp only [workerStep, position]
      exact ⟨_, rfl⟩
  | waiting | woken | reporting _ | posting | stopping _ | quiescing _ | acknowledging _ _
  | poweringOff _ | off
  | halted =>
      rw [position] at calling
      cases calling

/-- The worker does not touch the handler. -/
theorem workerStep_isr {board after : Board} (stepped : workerStep board = some after) :
    after.firmware.isr = board.firmware.isr := by
  cases workerStep_turn stepped with
  | drained position =>
      unfold drain
      split
      · dsimp only
        split <;> rfl
      · rfl
  | replied position =>
      unfold sendReply
      dsimp only
      split
      · change (recordTxFull _ _).isr = _
        unfold recordTxFull
        split <;> rfl
      · rfl
  | woke | swapped | spurious | admitted | dismissed | skipped | visited | finished | rung | checked
  | rescheduled | returned | posted | muted | observed | acknowledged => rfl

/-- A worker step of a call, as a step of the machine. -/
theorem duringCall_worker {board after : Board}
    (taken : duringCall.step board (.cpu3 .worker) = some after) :
    board.firmware.worker.inCall = true ∧ workerStep board = some after := by
  simp only [duringCall, firmwareStep] at taken
  split at taken
  · split at taken
    · exact ⟨‹_›, taken⟩
    · cases taken
  · cases taken

/-- Worker steps alone start no handler. -/
theorem workerRun_isr {labels : List CallLabel} {board last : Board}
    (idle : board.firmware.isr = .idle) (onlyWorker : ∀ label ∈ labels, label.isWorker = true)
    (executed : duringCall.run board labels = some last) : last.firmware.isr = .idle := by
  apply Machine.run_invariant_on (fun label => label.isWorker = true)
    (fun board => board.firmware.isr = .idle)
    _ onlyWorker idle executed
  intro board label next isWorker idle taken
  obtain rfl : label = .cpu3 .worker := by
    unfold CallLabel.isWorker at isWorker
    split at isWorker
    · rfl
    · cases isWorker
    · cases isWorker
  obtain ⟨calling, stepped⟩ := duringCall_worker taken
  exact (workerStep_isr stepped).trans idle

/-- A call that no handler interrupts comes to its end. -/
theorem call_ends {board : Board} (idle : board.firmware.isr = .idle) :
    ∃ labels last, (∀ label ∈ labels, label.isWorker = true) ∧
      duringCall.run board labels = some last ∧
      last.firmware.worker.inCall = false := by
  have started : callRanking.Inv board := trivial
  obtain ⟨labels, last, onlyWorker, executed, resting⟩ := callRanking.comes_to_rest started
  refine ⟨labels, last, onlyWorker, executed, ?_⟩
  cases calling : last.firmware.worker.inCall with
  | false => rfl
  | true =>
      obtain ⟨after, stepped⟩ := workerStep_enabled calling
      have stuck := resting (.cpu3 .worker) rfl
      have still := workerRun_isr idle onlyWorker executed
      simp [duringCall, calling, firmwareStep, still, Isr.isIdle, stepped] at stuck

/-- A call of the service takes a bounded number of worker steps, and at its end it has handled no
more than the quota of each priority in its mask, whatever frames, indices and doorbells appear
meanwhile; once no handler runs, the worker brings it to its end. -/
theorem service_call_bounded {board last : Board} {pending : Priority → Bool}
    {labels : List CallLabel} (entry : board.firmware.worker = .entering pending)
    (executed : duringCall.run board labels = some last) :
    labels.countP CallLabel.isWorker ≤
        6 + (5 * drainQuota + 2) * (List.finRange priorityCount).countP pending ∧
      (∀ round, last.firmware.worker = .reporting round →
        round.messages.toNat ≤ drainQuota * (List.finRange priorityCount).countP pending) ∧
      (last.firmware.isr = .idle → ∃ later final, (∀ label ∈ later, label.isWorker = true) ∧
        duringCall.run last later = some final ∧ final.firmware.worker.inCall = false) := by
  refine ⟨?_, ?_, call_ends⟩
  · have paid := callRanking.count_le trivial executed
    have start : callRanking.rank board = 2 + (Round.start pending).rest 0 := by
      change board.firmware.worker.rank = _
      rw [entry]
      rfl
    rw [start, rest_start] at paid
    omega
  · intro round reported
    have within : last.firmware.worker.Within pending := by
      apply Machine.run_invariant (fun board => board.firmware.worker.Within pending)
        (fun _ _ _ within taken => duringCall_within within taken) _ executed
      rw [entry]
      rfl
    rw [reported] at within
    exact within.counted

/-- The call for priority 1 with two frames queued, from its gate to its report. -/
theorem service_call_bounded_demo :
    ∃ last, duringCall.run (Service.demoBoard 1) (List.replicate 15 (.cpu3 .worker)) = some last ∧
      last.firmware.worker.inCall = false ∧
      (List.replicate 15 (CallLabel.cpu3 .worker)).countP CallLabel.isWorker ≤
        6 + (5 * drainQuota + 2) * (List.finRange priorityCount).countP fun priority =>
          priority == 1 := by
  have checked : (duringCall.run (Service.demoBoard 1) (List.replicate 15 (.cpu3 .worker))).any
      (fun last => !last.firmware.worker.inCall) = true := by
    decide +kernel
  obtain ⟨last, executed, passed⟩ := duringCall.exists_of_run_any checked
  rw [Bool.not_eq_true'] at passed
  exact ⟨last, executed, passed, (service_call_bounded rfl executed).1⟩

end MailMsg
