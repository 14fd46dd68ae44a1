/-
Module: MailMsg.Firmware.Telemetry
Purpose: The counters that CPU3 publishes against the counters of its endpoint.  The worker and the
  main thread keep `mailmsg_tx_full_count`, `mailmsg_worker_message_count` and the wake counters
  beside the endpoint's own; whenever the worker is back in `k_sem_take` the two agree.
Source: LZAMP/firmware/zephyr/app/src/main.c (mailmsg_record_tx_full and the send helpers,
  mailmsg_pingpong_test_service, mailmsg_worker, mailmsg_service_session_ready)
Trusted boundary: that of the instruction-level main thread; Linux has cleared the CPU3-to-Linux
  rings before CPU_ON and takes frames out of them with `mailmsg_ring_pop` only, and may write
  anything else of the region and of the mailbox at any time
Main exports: Telemetry.machine, Balanced, Roomy, telemetry_agrees
-/
import MailMsg.Firmware.Announce
import MailMsg.Protocol.Accounting
import Mathlib.Algebra.BigOperators.Group.Finset.Basic
import Mathlib.Data.BitVec
import Mathlib.Tactic.Ring

namespace MailMsg

open Accounting (updateStats_self updateStats_of_ne received_sameSent enqueuedStats)

/-! ### Sums over the priorities -/

/-- A counter of the endpoint, summed over the priorities modulo 2^32. -/
def Endpoint.total (endpoint : Endpoint) (counter : PriorityStats → U32) : U32 :=
  ∑ priority, counter (endpoint.stats priority)

/-- The frames that the drain loop counts as messages. -/
def PriorityStats.handled (stats : PriorityStats) : U32 :=
  stats.rxOk + stats.rxBadCrc + stats.rxInvalid

theorem Endpoint.total_zero {counter : PriorityStats → U32} (zero : counter .zero = 0)
    {endpoint : Endpoint} (reset : endpoint.stats = fun _ => .zero) :
    endpoint.total counter = 0 := by
  simp [Endpoint.total, reset, zero]

/-- A call that adds to one priority adds as much to the sum. -/
theorem Endpoint.total_updateStats (endpoint : Endpoint) (priority : Priority)
    {update : PriorityStats → PriorityStats} {counter : PriorityStats → U32} {gain : U32}
    (gained : ∀ stats, counter (update stats) = counter stats + gain) :
    (endpoint.updateStats priority update).total counter = endpoint.total counter + gain := by
  have others : ∑ other ∈ Finset.univ.erase priority,
        counter ((endpoint.updateStats priority update).stats other) =
      ∑ other ∈ Finset.univ.erase priority, counter (endpoint.stats other) := by
    apply Finset.sum_congr rfl
    intro other member
    rw [updateStats_of_ne endpoint (Finset.ne_of_mem_erase member)]
  calc (endpoint.updateStats priority update).total counter
      = counter ((endpoint.updateStats priority update).stats priority) +
          ∑ other ∈ Finset.univ.erase priority,
            counter ((endpoint.updateStats priority update).stats other) :=
        (Finset.add_sum_erase _ _ (Finset.mem_univ priority)).symm
    _ = counter (endpoint.stats priority) + gain +
          ∑ other ∈ Finset.univ.erase priority, counter (endpoint.stats other) := by
        rw [others, updateStats_self, gained]
    _ = counter (endpoint.stats priority) +
          ∑ other ∈ Finset.univ.erase priority, counter (endpoint.stats other) + gain := by
        rw [add_right_comm]
    _ = endpoint.total counter + gain := by
        rw [Endpoint.total,
          Finset.add_sum_erase _ (fun other => counter (endpoint.stats other))
            (Finset.mem_univ priority)]

/-- A call that leaves a counter of one priority alone leaves its sum alone. -/
theorem Endpoint.total_updateStats_same (endpoint : Endpoint) (priority : Priority)
    {update : PriorityStats → PriorityStats} {counter : PriorityStats → U32}
    (same : ∀ stats, counter (update stats) = counter stats) :
    (endpoint.updateStats priority update).total counter = endpoint.total counter := by
  have gained : ∀ stats, counter (update stats) = counter stats + 0 := by
    intro stats
    rw [same, add_zero]
  rw [endpoint.total_updateStats priority gained, add_zero]

/-! ### What the endpoint's calls add -/

/-- One, if the send was refused for want of space. -/
def SendResult.refusals (result : SendResult) : U32 := if result.queueResult = .full then 1 else 0

/-- One, if the receive took a frame that the drain loop counts. -/
def EndpointResult.takes : EndpointResult → U32
  | .ring .ok | .ring .badCrc | .ring .invalid => 1
  | _ => 0

theorem PriorityStats.received_handled (ret : EndpointResult) (stats : PriorityStats) :
    (stats.received ret).handled = stats.handled + ret.takes := by
  cases ret with
  | ring result =>
      cases result <;> dsimp only [PriorityStats.received, PriorityStats.handled,
        EndpointResult.takes] <;>
        ring
  | invalid | protocolMismatch | staleSession | staleFrame =>
      simp [PriorityStats.received, PriorityStats.handled, EndpointResult.takes]

theorem PriorityStats.received_txFull (ret : EndpointResult) (stats : PriorityStats) :
    (stats.received ret).txFull = stats.txFull :=
  (received_sameSent ret stats).txFull

/-- A receive adds what it takes to the handled frames and nothing to the refused sends. -/
theorem endpointReceive_total (endpoint : Endpoint) (shared : Shared) (priority : Priority) :
    (endpointReceive endpoint shared priority).endpoint.total PriorityStats.handled =
        endpoint.total PriorityStats.handled +
          (endpointReceive endpoint shared priority).ret.takes ∧
      (endpointReceive endpoint shared priority).endpoint.total PriorityStats.txFull =
        endpoint.total PriorityStats.txFull := by
  have spec := endpointReceive_spec endpoint shared priority
  generalize endpointReceive endpoint shared priority = outcome at spec
  cases spec with
  | refused notRing notStale sameEndpoint sameShared absent session =>
      have nothing : outcome.ret.takes = 0 := by
        cases code : outcome.ret with
        | ring result => exact absurd code (notRing result)
        | invalid | protocolMismatch | staleSession | staleFrame => rfl
      rw [sameEndpoint, nothing, add_zero]
      exact ⟨rfl, rfl⟩
  | popped role bound session ret released message counted =>
      rw [counted]
      constructor
      · apply Endpoint.total_updateStats
        exact PriorityStats.received_handled outcome.ret
      · apply Endpoint.total_updateStats_same
        exact PriorityStats.received_txFull outcome.ret

/-- A receive that takes a frame hands it over. -/
theorem endpointReceive_message {endpoint : Endpoint} {shared : Shared} {priority : Priority}
    (absent : (endpointReceive endpoint shared priority).message = none) :
    (endpointReceive endpoint shared priority).ret.takes = 0 := by
  have spec := endpointReceive_spec endpoint shared priority
  generalize endpointReceive endpoint shared priority = outcome at spec absent
  cases spec with
  | refused notRing notStale sameEndpoint sameShared nothing session =>
      cases code : outcome.ret with
      | ring result => exact absurd code (notRing result)
      | invalid | protocolMismatch | staleSession | staleFrame => rfl
  | popped role bound session ret released message counted =>
      have found := ringPop_found endpoint.generation (shared.ring role.peer priority)
      rw [← ret, ← message, absent] at found
      generalize shared.ring role.peer priority = ring, (ringPop _).2.1 = left at found
      generalize outcome.ret = answer at found
      cases found <;> rfl

/-- A frame in the ring adds to neither. -/
theorem enqueued_total (endpoint : Endpoint) (priority : Priority) (depth : Int) :
    (endpoint.updateStats priority (enqueuedStats depth)).total PriorityStats.txFull =
        endpoint.total PriorityStats.txFull ∧
      (endpoint.updateStats priority (enqueuedStats depth)).total PriorityStats.handled =
        endpoint.total PriorityStats.handled := by
  constructor
  · apply Endpoint.total_updateStats_same
    exact fun _ => rfl
  · apply Endpoint.total_updateStats_same
    exact fun _ => rfl

/-- A push adds its refusal to the refused sends and nothing to the handled frames. -/
theorem endpointPush_total (endpoint : Endpoint) (role : Role) (shared : Shared)
    (priority : Priority) (type : U32) (payload : Option (Nat → U8)) (length : U32) :
    (endpointPush endpoint role shared priority type payload length).endpoint.total
          PriorityStats.txFull =
        endpoint.total PriorityStats.txFull +
          (endpointPush endpoint role shared priority type payload length).result.refusals ∧
      (endpointPush endpoint role shared priority type payload length).endpoint.total
          PriorityStats.handled =
        endpoint.total PriorityStats.handled := by
  have drawn : ∀ counter, endpoint.drawn.total counter = endpoint.total counter := fun _ => rfl
  by_cases queued : (ringPush (shared.ring role priority) (sendMessage endpoint.generation type
      (endpointNextSequence endpoint) length payload)).1 = .ok
  · have accepted : (endpointPush endpoint role shared priority type payload length).result.refusals =
        0 := by
      simp [endpointPush, queued, SendResult.refusals]
    rw [Accounting.endpointPush_counted queued, accepted, add_zero]
    exact enqueued_total endpoint.drawn priority _
  · by_cases full : (ringPush (shared.ring role priority) (sendMessage endpoint.generation type
        (endpointNextSequence endpoint) length payload)).1 = .full
    · have counted : (endpointPush endpoint role shared priority type payload length).endpoint =
          endpoint.drawn.updateStats priority fun stats =>
            { stats with txFull := stats.txFull + 1 } := by
        simp [endpointPush, full, Endpoint.drawn]
      have refused : (endpointPush endpoint role shared priority type payload length).result.refusals =
          1 := by
        simp [endpointPush, full, SendResult.refusals]
      rw [counted, refused]
      constructor
      · apply Endpoint.total_updateStats
        exact fun _ => rfl
      · apply Endpoint.total_updateStats_same
        exact fun _ => rfl
    · have same : (endpointPush endpoint role shared priority type payload length).endpoint =
          endpoint.drawn := by
        simp [endpointPush, queued, full, Endpoint.drawn]
      have notFull : (endpointPush endpoint role shared priority type payload length).result.refusals =
          0 := by
        simp [endpointPush, queued, full, SendResult.refusals]
      rw [same, notFull, add_zero]
      exact ⟨drawn _, drawn _⟩

/-- The same of the whole queueing half: a refusal before the push is no refusal for want of
space. -/
theorem endpointEnqueue_total (endpoint : Endpoint) (shared : Shared) (priority : Priority)
    (type : U32) (payload : Option (Nat → U8)) (length : U32) :
    (endpointEnqueue endpoint shared priority type payload length .pending).endpoint.total
          PriorityStats.txFull =
        endpoint.total PriorityStats.txFull +
          (endpointEnqueue endpoint shared priority type payload length .pending).result.refusals ∧
      (endpointEnqueue endpoint shared priority type payload length .pending).endpoint.total
          PriorityStats.handled =
        endpoint.total PriorityStats.handled := by
  have pending : SendResult.pending.refusals = 0 := rfl
  unfold endpointEnqueue
  cases endpoint.role with
  | none => simp [pending]
  | some role =>
      by_cases arguments : sendArgumentsValid endpoint payload length
      · by_cases session : endpointSessionValid endpoint shared = .ok
        · simpa [arguments, session] using
            endpointPush_total endpoint role shared priority type payload length
        · simp [arguments, session, pending]
      · simp [arguments, pending]

theorem recordTxFull_eq (firmware : Firmware) (result : SendResult) :
    recordTxFull firmware result =
      { firmware with txFullCount := firmware.txFullCount + result.refusals } := by
  by_cases full : result.queueResult = .full
  · simp [recordTxFull, SendResult.refusals, full]
  · simp [recordTxFull, SendResult.refusals, full]

/-- A send that is accepted was not refused for want of space. -/
theorem endpointEnqueue_accepted {endpoint : Endpoint} {shared : Shared} {priority : Priority}
    {type : U32} {payload : Option (Nat → U8)} {length : U32}
    (accepted : (endpointEnqueue endpoint shared priority type payload length .pending).ret = .ok) :
    (endpointEnqueue endpoint shared priority type payload length .pending).result.refusals = 0 := by
  have pending : SendResult.pending.refusals = 0 := rfl
  unfold endpointEnqueue at accepted ⊢
  cases bound : endpoint.role with
  | none => simpa using pending
  | some role =>
      by_cases arguments : sendArgumentsValid endpoint payload length
      · by_cases session : endpointSessionValid endpoint shared = .ok
        · simp only [bound, arguments, session, not_true_eq_false, if_false, ne_eq] at accepted ⊢
          by_cases queued : (ringPush (shared.ring role priority) (sendMessage endpoint.generation type
              (endpointNextSequence endpoint) length payload)).1 = .ok
          · simp [endpointPush, queued, SendResult.refusals]
          · simp [endpointPush, queued] at accepted
        · simpa [arguments, session] using pending
      · simpa [arguments] using pending

/-- A doorbell adds to neither. -/
theorem endpointNotified_total (priority : Priority) (notifyResult : Int) (outcome : SendOutcome) :
    (endpointNotified priority notifyResult outcome).endpoint.total PriorityStats.txFull =
        outcome.endpoint.total PriorityStats.txFull ∧
      (endpointNotified priority notifyResult outcome).endpoint.total PriorityStats.handled =
        outcome.endpoint.total PriorityStats.handled := by
  simp only [endpointNotified]
  constructor
  · apply Endpoint.total_updateStats_same
    intro stats
    split_ifs <;> rfl
  · apply Endpoint.total_updateStats_same
    intro stats
    split_ifs <;> rfl

/-! ### CPU3 beside Linux -/

namespace Telemetry

open Announce (Announcer announcerStep workerAnswered ringAnswered)

/-- One step of CPU3, as in `Announce.Label`, or of Linux. -/
inductive Label where
  | interrupt (channel : Priority)
  | isr
  | worker (answer : Option Int)
  | cpuOff (returned : Bool)
  | main (answer : Option Int)
  /-- Linux leaves the header, its own rings and the mailbox in any state. -/
  | linux (hardware : Hardware)
  /-- Linux takes a frame out of a CPU3-to-Linux ring. -/
  | pop (priority : Priority)

/-- The step of CPU3's own machine that a label stands for. -/
def Label.taken (state : Announce.State) : Label → Announce.Label
  | .interrupt channel => .interrupt channel
  | .isr => .isr
  | .worker answer => .worker answer
  | .cpuOff returned => .cpuOff returned
  | .main answer => .main answer
  | .linux hardware =>
      .environment
        { hardware with
          shared :=
            { hardware.shared with cpu3ToLinux := state.board.hardware.shared.cpu3ToLinux } }
  | .pop priority =>
      let shared := state.board.hardware.shared
      .environment
        { state.board.hardware with
          shared := shared.setRing .cpu3 priority (ringPop (shared.ring .cpu3 priority)).2.1 }

/-- The main thread would call `mailmsg_service_session_ready`, which an image with
`MAILMSG_TEST_SKIP_SESSION_READY` does not. -/
def callsService (state : Announce.State) : Label → Bool
  | .main _ =>
      match state.announcer with
      | .calling => state.board.firmware.build.skipSessionReady
      | _ => false
  | _ => false

def step (state : Announce.State) (label : Label) : Option Announce.State :=
  if callsService state label then none else Announce.step state (label.taken state)

/-- The runs of every image from CPU_ON on, with the ring empty that SESSION_READY goes into. -/
def machine : Machine Announce.State Label where
  init state := ∃ build hardware, state = .booted build hardware ∧
    (hardware.shared.ring .cpu3 .critical).consumer =
      (hardware.shared.ring .cpu3 .critical).producer
  step := step

/-- A step is one of CPU3's own machine, and no call that the image does not have. -/
theorem step_taken {state next : Announce.State} {label : Label}
    (stepped : step state label = some next) :
    callsService state label = false ∧ Announce.step state (label.taken state) = some next := by
  simpa [step] using stepped

/-! ### What is in flight

A counter that CPU3 publishes lags behind the counter of the endpoint by what the worker holds in
hand at its position.
-/

/-- The messages of the round that the worker is in. -/
def inFlight : Worker → U32
  | .scanning round _ | .reporting round => round.messages
  | .draining visit | .replying visit _ _ | .ringing visit _ _ | .checking visit =>
      visit.round.messages
  | _ => 0

/-- On the way to CPU_OFF, from which the worker does not come back to its loop. -/
def leaving : Worker → Bool
  | .stopping _ | .quiescing _ | .acknowledging _ _ | .poweringOff _ | .off | .halted => true
  | _ => false

/-- One, between `k_sem_take` and the verdict whether the wake was empty. -/
def undecided : Worker → U32
  | .woken => 1
  | _ => 0

/-- The published counters against the endpoint's, up to the work in flight.  `owed` is what the
main thread has still to record. -/
structure Balanced (firmware : Firmware) (owed : U32) : Prop where
  full : firmware.txFullCount + owed = firmware.endpoint.total PriorityStats.txFull
  handled : leaving firmware.worker = false →
    firmware.messageCount + inFlight firmware.worker = firmware.endpoint.total PriorityStats.handled
  wakes : firmware.wakeCount =
    firmware.drainCount + firmware.emptyWakeCount + undecided firmware.worker

/-- The worker's position carries this many messages of its round, or none of it matters any
more. -/
structure Carries (worker : Worker) (messages : U32) : Prop where
  settled : undecided worker = 0
  messages : leaving worker = false → inFlight worker = messages

theorem resume_carries (visit : Visit) (accepted : Bool) (next : Continuation) :
    Carries (next.resume visit accepted) visit.round.messages := by
  cases next with
  | drain | leave | pong => exact ⟨rfl, fun _ => rfl⟩
  | cpuOff =>
      cases accepted with
      | false => exact ⟨rfl, fun _ => rfl⟩
      | true => exact ⟨rfl, fun staying => by cases staying⟩

theorem answer_carries (build : Build) (visit : Visit) (request : Message) :
    Carries (answer build visit request) visit.round.messages := by
  unfold answer
  split_ifs
  · exact ⟨rfl, fun _ => rfl⟩
  · exact ⟨rfl, fun _ => rfl⟩
  · exact ⟨rfl, fun _ => rfl⟩
  · exact ⟨rfl, fun staying => by cases staying⟩
  · exact ⟨rfl, fun _ => rfl⟩
  · exact ⟨rfl, fun _ => rfl⟩

theorem reject_carries (visit : Visit) (request : Message) (reason : U32) :
    Carries (reject visit request reason) visit.round.messages := by
  unfold reject
  split_ifs
  · exact ⟨rfl, fun _ => rfl⟩
  · exact ⟨rfl, fun _ => rfl⟩

/-- One step inside a round: what it takes from the rings goes to the round, and what it is refused
is recorded. -/
structure Advanced (before after : Firmware) (taken refused : U32) : Prop where
  full : after.endpoint.total PriorityStats.txFull =
    before.endpoint.total PriorityStats.txFull + refused
  recorded : after.txFullCount = before.txFullCount + refused
  handled : after.endpoint.total PriorityStats.handled =
    before.endpoint.total PriorityStats.handled + taken
  messageCount : after.messageCount = before.messageCount
  wakeCount : after.wakeCount = before.wakeCount
  drainCount : after.drainCount = before.drainCount
  emptyWakeCount : after.emptyWakeCount = before.emptyWakeCount
  carries : Carries after.worker (inFlight before.worker + taken)

theorem Balanced.advanced {before after : Firmware} {owed taken refused : U32}
    (balanced : Balanced before owed) (settled : undecided before.worker = 0)
    (staying : leaving before.worker = false) (advanced : Advanced before after taken refused) :
    Balanced after owed where
  full := by
    rw [advanced.full, advanced.recorded, ← balanced.full]
    ring
  handled := by
    intro onward
    rw [advanced.handled, advanced.messageCount, advanced.carries.messages onward,
      ← balanced.handled staying]
    ring
  wakes := by
    rw [advanced.wakeCount, advanced.drainCount, advanced.emptyWakeCount, advanced.carries.settled,
      balanced.wakes, settled]

section Round

variable {board : Board} {visit : Visit}

/-- The worker moves and no counter changes. -/
theorem work_advanced {worker : Worker}
    (carries : Carries worker (inFlight board.firmware.worker)) :
    Advanced board.firmware (board.work worker).firmware 0 0 := by
  constructor
  case carries =>
    rw [add_zero]
    exact carries
  all_goals simp [Board.work]

/-- A reply that is accepted or refused. -/
theorem sendReply_advanced (reply : Reply) (next : Continuation)
    (position : board.firmware.worker = .replying visit reply next) :
    Advanced board.firmware (sendReply board visit reply next).firmware 0
      (endpointEnqueue board.firmware.endpoint board.hardware.shared visit.priority reply.type
        (some reply.payload) reply.length .pending).result.refusals := by
  have totals := endpointEnqueue_total board.firmware.endpoint board.hardware.shared visit.priority
    reply.type (some reply.payload) reply.length
  have carried : inFlight board.firmware.worker + 0 = visit.round.messages := by
    rw [position, add_zero]
    rfl
  by_cases accepted : (endpointEnqueue board.firmware.endpoint board.hardware.shared visit.priority
      reply.type (some reply.payload) reply.length .pending).ret = .ok
  · have queued := endpointEnqueue_accepted accepted
    have sent : (sendReply board visit reply next).firmware =
        { board.firmware with
          endpoint := (endpointEnqueue board.firmware.endpoint board.hardware.shared visit.priority
            reply.type (some reply.payload) reply.length .pending).endpoint
          worker := .ringing visit (endpointEnqueue board.firmware.endpoint board.hardware.shared
            visit.priority reply.type (some reply.payload) reply.length
              .pending).result next } := by
      simp [sendReply, Board.enqueue, accepted, Board.work]
    rw [sent]
    constructor
    case full => exact totals.1
    case recorded => simp [queued]
    case handled => simpa using totals.2
    case carries =>
      rw [carried]
      exact ⟨rfl, fun _ => rfl⟩
    all_goals rfl
  · have sent : (sendReply board visit reply next).firmware =
        { board.firmware with
          endpoint := (endpointEnqueue board.firmware.endpoint board.hardware.shared visit.priority
            reply.type (some reply.payload) reply.length .pending).endpoint
          txFullCount := board.firmware.txFullCount +
            (endpointEnqueue board.firmware.endpoint board.hardware.shared visit.priority reply.type
              (some reply.payload) reply.length .pending).result.refusals
          worker := next.resume visit false } := by
      simp [sendReply, Board.enqueue, accepted, Board.work, recordTxFull_eq]
    rw [sent]
    constructor
    case full => exact totals.1
    case recorded => rfl
    case handled => simpa using totals.2
    case carries =>
      rw [carried]
      exact resume_carries visit false next
    all_goals rfl

/-- The doorbell of a reply, whatever its backend answers. -/
theorem ringAnswered_advanced (result : SendResult) (next : Continuation) (code : Int)
    (position : board.firmware.worker = .ringing visit result next) :
    Advanced board.firmware (ringAnswered board visit result next code).firmware 0 0 := by
  have totals := endpointNotified_total visit.priority code
    ⟨.ok, result, board.firmware.endpoint, board.hardware.shared⟩
  constructor
  case full =>
    rw [add_zero]
    exact totals.1
  case handled =>
    rw [add_zero]
    exact totals.2
  case carries =>
    rw [position, add_zero]
    exact resume_carries visit _ next
  all_goals simp [ringAnswered, Board.work]

/-- The test behind the drain loop. -/
theorem check_advanced (position : board.firmware.worker = .checking visit) :
    Advanced board.firmware (check board visit).firmware 0 0 := by
  apply work_advanced
  rw [position]
  constructor
  · rfl
  · intro _
    simp only [inFlight]
    split_ifs <;> rfl

/-- A receive whose frame, if it took one, is counted in the round. -/
theorem received_advanced {outcome : ReceiveOutcome} {worker : Worker} (errors : U32)
    (handled : outcome.endpoint.total PriorityStats.handled =
      board.firmware.endpoint.total PriorityStats.handled + outcome.ret.takes)
    (full : outcome.endpoint.total PriorityStats.txFull =
      board.firmware.endpoint.total PriorityStats.txFull)
    (carries : Carries worker (inFlight board.firmware.worker + outcome.ret.takes)) :
    Advanced board.firmware
      { board.firmware with
        endpoint := outcome.endpoint
        rxErrorCount := errors
        worker := worker }
      outcome.ret.takes 0 := by
  constructor
  case full => rw [full, add_zero]
  case recorded => rw [add_zero]
  case handled => exact handled
  case carries => exact carries
  all_goals rfl

/-- One iteration of the drain loop. -/
theorem drain_advanced (position : board.firmware.worker = .draining visit) :
    ∃ taken, Advanced board.firmware (drain board visit).firmware taken 0 := by
  have carried : inFlight board.firmware.worker = visit.round.messages := by
    rw [position]
    rfl
  unfold drain
  split_ifs
  · have totals := endpointReceive_total board.firmware.endpoint board.hardware.shared
      visit.priority
    have absent := @endpointReceive_message board.firmware.endpoint board.hardware.shared
      visit.priority
    refine ⟨(endpointReceive board.firmware.endpoint board.hardware.shared
      visit.priority).ret.takes, ?_⟩
    generalize endpointReceive board.firmware.endpoint board.hardware.shared
      visit.priority = outcome
      at totals absent
    dsimp only
    split
    · rename_i request ret message
      apply received_advanced _ totals.1 totals.2
      rw [carried, ret]
      exact answer_carries _ visit.next request
    · rename_i request ret message
      apply received_advanced _ totals.1 totals.2
      rw [carried, ret]
      exact reject_carries visit.next request _
    · rename_i request ret message
      apply received_advanced _ totals.1 totals.2
      rw [carried, ret]
      exact reject_carries visit.next request _
    · -- The loop ends without a message: nothing was taken, or the frame was stale.
      rename_i notGood notBadCrc notInvalid
      have nothing : outcome.ret.takes = 0 := by
        cases message : outcome.message with
        | none => exact absent message
        | some request =>
            cases ret : outcome.ret with
            | ring result =>
                cases result with
                | ok => exact absurd message (notGood request ret)
                | badCrc => exact absurd message (notBadCrc request ret)
                | invalid => exact absurd message (notInvalid request ret)
                | empty | full | incomplete => rfl
            | invalid | protocolMismatch | staleSession | staleFrame => rfl
      apply received_advanced _ totals.1 totals.2
      rw [carried, nothing, add_zero]
      exact ⟨rfl, fun _ => rfl⟩
  · refine ⟨0, work_advanced ?_⟩
    rw [carried]
    exact ⟨rfl, fun _ => rfl⟩

end Round

/-! ### Steps of the three activities

The worker pays in what it took, the handler counts nothing that is balanced, and the main thread
records a full ring of its own.
-/

/-- The worker moves on the way to CPU_OFF. -/
theorem Balanced.left {before after : Firmware} {owed : U32} (balanced : Balanced before owed)
    (settled : undecided before.worker = 0) (gone : leaving after.worker = true)
    (moved : after = { before with irqEnabled := after.irqEnabled, worker := after.worker }) :
    Balanced after owed := by
  have decided : undecided after.worker = 0 := by
    cases position : after.worker <;> rw [position] at gone <;> first | rfl | cases gone
  rw [moved]
  constructor
  · exact balanced.full
  · intro staying
    rw [gone] at staying
    cases staying
  · have wakes := balanced.wakes
    rwa [settled, ← decided] at wakes

/-- The worker moves on inside the service. -/
theorem Balanced.onward {board : Board} {worker : Worker} {owed : U32}
    (balanced : Balanced board.firmware owed) (settled : undecided board.firmware.worker = 0)
    (staying : leaving board.firmware.worker = false)
    (carries : Carries worker (inFlight board.firmware.worker)) :
    Balanced (board.work worker).firmware owed :=
  balanced.advanced settled staying (work_advanced carries)

/-- The round is over: its messages go to the published count. -/
theorem Balanced.reported {before after : Firmware} {round : Round} {owed : U32}
    (balanced : Balanced before owed) (position : before.worker = .reporting round)
    (empty : inFlight after.worker = 0) (decided : undecided after.worker = 0)
    (moved : after =
      { before with
        messageCount := before.messageCount + round.messages
        pendingPriorities := after.pendingPriorities
        worker := after.worker }) : Balanced after owed := by
  have handled := balanced.handled
  have wakes := balanced.wakes
  rw [position] at handled wakes
  rw [moved]
  refine ⟨balanced.full, fun _ => ?_, ?_⟩
  · calc before.messageCount + round.messages + inFlight after.worker
        = before.messageCount + round.messages := by rw [empty, add_zero]
      _ = before.endpoint.total PriorityStats.handled := handled rfl
  · dsimp only
    rw [decided]
    exact wakes

theorem Balanced.worker {board after : Board} {owed : U32} (balanced : Balanced board.firmware owed)
    (stepped : workerStep board = some after) : Balanced after.firmware owed := by
  have handled := balanced.handled
  have wakes := balanced.wakes
  cases workerStep_turn stepped with
  | woke position =>
      rw [position] at handled wakes
      refine ⟨balanced.full, handled, ?_⟩
      simpa [undecided] using wakes
  | swapped position | spurious position =>
      rw [position] at handled wakes
      refine ⟨balanced.full, handled, ?_⟩
      simp only [undecided] at wakes ⊢
      rw [wakes]
      ring
  | admitted position | dismissed position | skipped position | visited position
  | finished position =>
      refine balanced.onward (by rw [position]; rfl) (by rw [position]; rfl) ?_
      rw [position]
      exact ⟨rfl, fun _ => rfl⟩
  | drained position =>
      obtain ⟨taken, advanced⟩ := drain_advanced position
      exact balanced.advanced (by rw [position]; rfl) (by rw [position]; rfl) advanced
  | @replied visit reply next position =>
      exact balanced.advanced (by rw [position]; rfl) (by rw [position]; rfl)
        (sendReply_advanced reply next position)
  | @rung visit result next position =>
      exact balanced.advanced (by rw [position]; rfl) (by rw [position]; rfl)
        (ringAnswered_advanced result next _ position)
  | checked position =>
      exact balanced.advanced (by rw [position]; rfl) (by rw [position]; rfl)
        (check_advanced position)
  | rescheduled position | returned position => exact balanced.reported position rfl rfl rfl
  | posted position =>
      rw [position] at handled wakes
      exact ⟨balanced.full, handled, wakes⟩
  | muted position | observed position | acknowledged position =>
      exact balanced.left (by rw [position]; rfl) rfl rfl

/-- A step of the handler leaves every counter of the balance alone. -/
theorem Balanced.same {before after : Firmware} {owed : U32} (balanced : Balanced before owed)
    (moved : after =
      { before with
        pendingPriorities := after.pendingPriorities
        workSem := after.workSem
        isr := after.isr
        irqCount := after.irqCount }) : Balanced after owed := by
  rw [moved]
  exact ⟨balanced.full, balanced.handled, balanced.wakes⟩

theorem Balanced.isr {board after : Board} {debt : U32} (balanced : Balanced board.firmware debt)
    (stepped : isrStep board = some after) : Balanced after.firmware debt := by
  cases position : board.firmware.isr with
  | idle => simp [isrStep, position] at stepped
  | entered channel command data | echoed channel command =>
      simp only [isrStep, position, Option.some.injEq] at stepped
      rw [← stepped]
      exact balanced.same rfl
  | cleared channel command =>
      simp only [isrStep, position, Option.some.injEq] at stepped
      rw [← stepped]
      simp only [isrPost]
      split
      · exact balanced.same rfl
      · exact balanced.same rfl

/-! ### The main thread -/

/-- What the main thread has counted in the endpoint and not yet recorded. -/
def owed : Announcer → U32
  | .recordingFull => 1
  | _ => 0

/-- An instruction of the main thread that leaves the counters of the balance alone. -/
theorem Balanced.main {before after : Firmware} {debt : U32} (balanced : Balanced before debt)
    (full : after.endpoint.total PriorityStats.txFull = before.endpoint.total PriorityStats.txFull)
    (handled : after.endpoint.total PriorityStats.handled = before.endpoint.total PriorityStats.handled)
    (moved : after =
      { before with
        endpoint := after.endpoint
        endpointReady := after.endpointReady
        irqEnabled := after.irqEnabled
        sessionReadyCommitted := after.sessionReadyCommitted
        sessionReadyPublished := after.sessionReadyPublished }) : Balanced after debt := by
  have counted := balanced.full
  have taken := balanced.handled
  have wakes := balanced.wakes
  rw [← full] at counted
  rw [← handled] at taken
  rw [moved]
  exact ⟨counted, taken, wakes⟩

/-- The published counters in a run, and the image before its bind. -/
structure Counted (state : Announce.State) : Prop where
  balanced : Balanced state.board.firmware (owed state.announcer)
  fresh : state.announcer = .starting → ∃ build, state.board.firmware = .boot build

theorem endpointBind_total (shared : Shared) (role : Role) {counter : PriorityStats → U32}
    (zero : counter .zero = 0) : (endpointBind .zero shared role).2.total counter = 0 := by
  apply Endpoint.total_zero zero
  unfold endpointBind
  split_ifs <;> rfl

theorem boot_balanced (build : Build) : Balanced (.boot build) 0 := by
  constructor
  · exact (Endpoint.total_zero rfl rfl).symm
  · intro _
    exact (Endpoint.total_zero rfl rfl).symm
  · rfl

theorem Counted.main {state : Announce.State} (counted : Counted state) (answer : Option Int) :
    Counted (announcerStep state answer) := by
  have balanced := counted.balanced
  cases position : state.announcer with
  | starting =>
      obtain ⟨build, booted⟩ := counted.fresh position
      have start := boot_balanced build
      simp only [announcerStep, position, booted]
      refine ⟨?_, by simp [Announce.State.goto]⟩
      refine start.main ?_ ?_ rfl
      · exact (endpointBind_total _ _ rfl).trans (Endpoint.total_zero rfl rfl).symm
      · exact (endpointBind_total _ _ rfl).trans (Endpoint.total_zero rfl rfl).symm
  | countingFull =>
      rw [position] at balanced
      simp only [announcerStep, position]
      refine ⟨?_, by simp [Announce.State.goto]⟩
      have grown : (state.board.firmware.endpoint.updateStats .critical fun stats =>
          { stats with txFull := stats.txFull + 1 }).total PriorityStats.txFull =
            state.board.firmware.endpoint.total PriorityStats.txFull + 1 :=
        Endpoint.total_updateStats _ _ fun _ => rfl
      have same : (state.board.firmware.endpoint.updateStats .critical fun stats =>
          { stats with txFull := stats.txFull + 1 }).total PriorityStats.handled =
            state.board.firmware.endpoint.total PriorityStats.handled :=
        Endpoint.total_updateStats_same _ _ fun _ => rfl
      have full := balanced.full
      have handled := balanced.handled
      rw [← same] at handled
      rw [show owed .countingFull = 0 from rfl, add_zero] at full
      refine ⟨?_, handled, balanced.wakes⟩
      exact (congrArg (· + 1) full).trans grown.symm
  | recordingFull =>
      rw [position] at balanced
      simp only [announcerStep, position]
      refine ⟨?_, by simp [Announce.State.goto]⟩
      refine ⟨?_, balanced.handled, balanced.wakes⟩
      have full := balanced.full
      simp only [owed] at full
      exact (add_zero _).trans full
  | countingSent draft =>
      rw [position] at balanced
      simp only [announcerStep, position]
      refine ⟨?_, by simp [Announce.State.goto]⟩
      have totals := enqueued_total state.board.firmware.endpoint .critical
        (ringCount (state.board.hardware.shared.ring draft.role .critical))
      exact balanced.main totals.1 totals.2 rfl
  | countingDoorbell result =>
      rw [position] at balanced
      simp only [announcerStep, position]
      refine ⟨?_, by simp [Announce.State.goto]⟩
      have totals := endpointNotified_total .critical result
        ⟨.ok, .pending, state.board.firmware.endpoint, state.board.hardware.shared⟩
      exact balanced.main totals.1 totals.2 rfl
  | sending reply =>
      rw [position] at balanced
      simp only [announcerStep, position]
      split
      · exact ⟨balanced, by simp [Announce.State.goto]⟩
      · split
        · exact ⟨balanced, by simp [Announce.State.goto]⟩
        · exact ⟨balanced, by simp [Announce.State.goto]⟩
  | calling | gated | unpublished | validating draft | storing draft generation again value
  | testing draft generation =>
      rw [position] at balanced
      simp only [announcerStep, position]
      split
      · exact ⟨balanced.main rfl rfl rfl, by simp [Announce.State.goto]⟩
      · exact ⟨balanced.main rfl rfl rfl, by simp [Announce.State.goto]⟩
  | comparing draft message producer =>
      rw [position] at balanced
      simp only [announcerStep, position]
      split
      · exact ⟨balanced, by simp [Announce.State.goto]⟩
      · split
        · exact ⟨balanced, by simp [Announce.State.goto]⟩
        · exact ⟨balanced, by simp [Announce.State.goto]⟩
  | bound | retrying | retried result | preparing | building draft | loading draft generation again
  | numbering draft generation | pushing draft message | writing draft message producer
  | publishing draft message producer | ringing | returned result | committed result =>
      rw [position] at balanced
      simp only [announcerStep, position]
      exact ⟨balanced.main rfl rfl rfl, by simp [Announce.State.goto]⟩

/-- The worker, whatever the backend of a doorbell answers. -/
theorem Balanced.answered {board after : Board} {debt : U32}
    (balanced : Balanced board.firmware debt)
    {answer : Option Int} (stepped : workerAnswered board answer = some after) :
    Balanced after.firmware debt := by
  rcases Announce.workerAnswered_cases stepped with own | ⟨visit, result, next, code, position, rfl⟩
  · exact balanced.worker own
  · exact balanced.advanced (by rw [position]; rfl) (by rw [position]; rfl)
      (ringAnswered_advanced result next code position)

/-- Every step of CPU3 keeps the balance, whatever Linux does beside it. -/
theorem Counted.step {state next : Announce.State} {label : Announce.Label}
    (counted : Counted state) (stepped : Announce.step state label = some next) : Counted next := by
  have balanced := counted.balanced
  -- Before the bind the image stands still: no interrupt is enabled and the semaphore is empty.
  have asleep : state.announcer = .starting → state.board.firmware.irqEnabled = false ∧
      state.board.firmware.isr = .idle ∧ state.board.firmware.worker = .waiting ∧
      state.board.firmware.workSem = false := by
    intro starting
    obtain ⟨build, booted⟩ := counted.fresh starting
    rw [booted]
    exact ⟨rfl, rfl, rfl, rfl⟩
  cases label with
  | interrupt channel =>
      simp only [Announce.step, Option.map_eq_some_iff] at stepped
      obtain ⟨after, moved, rfl⟩ := stepped
      simp only [firmwareStep, Option.ite_none_right_eq_some, Option.some.injEq] at moved
      obtain ⟨deliverable, rfl⟩ := moved
      refine ⟨balanced.same rfl, ?_⟩
      intro starting
      simp [Board.deliverable, (asleep starting).1] at deliverable
  | isr =>
      simp only [Announce.step, Option.map_eq_some_iff] at stepped
      obtain ⟨after, moved, rfl⟩ := stepped
      refine ⟨balanced.isr moved, ?_⟩
      intro starting
      simp [firmwareStep, isrStep, (asleep starting).2.1] at moved
  | worker answer =>
      simp only [Announce.step, Option.ite_none_right_eq_some, Option.map_eq_some_iff] at stepped
      obtain ⟨-, after, moved, rfl⟩ := stepped
      refine ⟨balanced.answered moved, ?_⟩
      intro starting
      obtain ⟨-, -, waiting, drained⟩ := asleep starting
      simp [workerAnswered, workerStep, waiting, drained] at moved
  | cpuOff returned =>
      simp only [Announce.step, Option.map_eq_some_iff] at stepped
      obtain ⟨after, moved, rfl⟩ := stepped
      simp only [firmwareStep, Option.ite_none_right_eq_some] at moved
      obtain ⟨-, moved⟩ := moved
      unfold cpuOffStep at moved
      split at moved
      · rename_i request position
        cases moved
        refine ⟨balanced.left (by rw [position]; rfl) ?_ rfl, ?_⟩
        · cases returned <;> rfl
        · intro starting
          rw [(asleep starting).2.2.1] at position
          cases position
      · cases moved
  | main answer =>
      simp only [Announce.step, Option.ite_none_right_eq_some, Option.some.injEq] at stepped
      obtain ⟨-, rfl⟩ := stepped
      exact counted.main answer
  | environment hardware =>
      cases stepped
      exact ⟨balanced, counted.fresh⟩

/-! ### The announcement finds room -/

/-- No frame is in the ring. -/
def Empty (ring : Ring) : Prop := ring.consumer = ring.producer

/-- What the position of the main thread says about the ring that SESSION_READY goes into: it is
empty until that frame is published, so the send is never refused for want of space. -/
def Roomy (ring : Ring) (committed : Bool) : Announcer → Prop
  | .starting | .bound | .preparing | .sending _ => Empty ring
  | .calling | .gated | .unpublished => committed = false → Empty ring
  | .validating draft | .building draft | .loading draft _ _ | .storing draft _ _ _
  | .testing draft _
  | .numbering draft _ | .pushing draft _ | .writing draft _ _ | .publishing draft _ _ =>
      draft.role = .cpu3 ∧ Empty ring
  | .comparing draft _ producer => draft.role = .cpu3 ∧ Empty ring ∧ producer = ring.producer
  | .countingFull | .recordingFull => False
  | .retrying | .retried _ | .countingSent _ | .ringing | .countingDoorbell _ | .returned _
  | .committed _ => True

/-- The ring that SESSION_READY goes into. -/
def readyRing (state : Announce.State) : Ring := state.board.hardware.shared.ring .cpu3 .critical

/-- A pop leaves an empty ring as it is. -/
theorem Empty.pop {ring : Ring} (empty : Empty ring) : (ringPop ring).2.1 = ring := by
  have nothing : ring.consumer = ring.producer := empty
  simp [ringPop, nothing]

/-- Linux can take nothing out before the announcement. -/
theorem Roomy.pop {ring : Ring} {committed : Bool} {announcer : Announcer}
    (roomy : Roomy ring committed announcer) : Roomy (ringPop ring).2.1 committed announcer := by
  cases announcer with
  | starting | bound | preparing | sending reply =>
      have empty : Empty ring := roomy
      rw [empty.pop]
      exact roomy
  | calling | gated | unpublished =>
      intro uncommitted
      have empty : Empty ring := roomy uncommitted
      rw [empty.pop]
      exact empty
  | validating draft | building draft | loading draft generation again
  | storing draft generation again value | testing draft generation | numbering draft generation
  | pushing draft message | writing draft message producer | publishing draft message producer =>
      have empty : Empty ring := roomy.2
      rw [empty.pop]
      exact roomy
  | comparing draft message producer =>
      have empty : Empty ring := roomy.2.1
      rw [empty.pop]
      exact roomy
  | countingFull | recordingFull => exact roomy.elim
  | retrying | retried answer | countingSent draft | ringing | countingDoorbell answer
  | returned answer | committed answer => trivial

/-- Every instruction of the main thread leaves room. -/
theorem announcerStep_roomy {state : Announce.State} (answer : Option Int)
    (invariant : Announce.Invariant state)
    (roomy : Roomy (readyRing state) state.board.firmware.sessionReadyCommitted state.announcer) :
    Roomy (readyRing (announcerStep state answer))
      (announcerStep state answer).board.firmware.sessionReadyCommitted
      (announcerStep state answer).announcer := by
  have consistent := invariant.consistent
  cases position : state.announcer with
  | starting | preparing | building draft | loading draft generation again
  | numbering draft generation =>
      rw [position] at roomy
      simp only [announcerStep, position]
      exact roomy
  | bound =>
      rw [position] at roomy
      simp only [announcerStep, position]
      exact fun _ => roomy
  | calling =>
      rw [position] at roomy
      simp only [announcerStep, position]
      split <;> exact roomy
  | gated =>
      rw [position] at roomy
      simp only [announcerStep, position]
      split <;> exact roomy
  | unpublished =>
      rw [position] at roomy
      simp only [announcerStep, position]
      split
      · trivial
      · rename_i uncommitted
        exact roomy (by simpa using uncommitted)
  | storing draft generation again value =>
      rw [position] at roomy
      simp only [announcerStep, position]
      split <;> exact roomy
  | testing draft generation =>
      rw [position] at roomy
      simp only [announcerStep, position]
      split <;> exact roomy
  | sending reply =>
      rw [position] at roomy
      have side := invariant.side
      simp only [announcerStep, position]
      cases role : state.board.firmware.endpoint.role with
      | none => exact fun _ => roomy
      | some party =>
          dsimp only
          split
          · exact ⟨side party role, roomy⟩
          · exact fun _ => roomy
  | validating draft =>
      rw [position] at roomy
      simp only [announcerStep, position]
      split
      · exact roomy
      · exact fun _ => roomy.2
  | pushing draft message =>
      rw [position] at roomy
      obtain ⟨role, empty⟩ := roomy
      simp only [announcerStep, position]
      refine ⟨role, empty, ?_⟩
      rw [role]
      rfl
  | comparing draft message producer =>
      rw [position] at roomy
      obtain ⟨role, empty, read⟩ := roomy
      simp only [announcerStep, position]
      split
      · exact fun _ => empty
      · split
        · rename_i full
          -- The index behind the producer cannot be the consumer, which is the producer itself.
          rw [role, read] at full
          exact absurd (full.trans empty) (ringNext_ne _)
        · exact ⟨role, empty⟩
  | writing draft message producer =>
      rw [position] at roomy
      obtain ⟨role, empty⟩ := roomy
      simp only [announcerStep, position]
      refine ⟨role, ?_⟩
      simp only [readyRing, role, Announce.State.setRing, Announce.State.setHardware,
        Announce.State.goto, Shared.ring_setRing_self]
      exact empty
  | publishing draft message producer | ringing | countingSent draft | countingDoorbell result
  | retrying =>
      simp only [announcerStep, position]
      trivial
  | countingFull | recordingFull =>
      rw [position] at roomy
      exact roomy.elim
  | returned result =>
      simp only [announcerStep, position]
      trivial
  | retried result | committed result =>
      rw [position] at consistent
      have done : state.board.firmware.sessionReadyCommitted = true := consistent.1
      simp only [announcerStep, position]
      intro uncommitted
      exact absurd (done.symm.trans uncommitted) (by simp)

/-- In every image the main thread holds no refusal that it has not recorded. -/
structure Unrefused (state : Announce.State) : Prop where
  side : state.board.firmware.endpoint.BoundBy .cpu3
  /-- An image without the announcement stays at the head of the loop. -/
  idle : state.board.firmware.build.skipSessionReady = true →
    state.announcer = .starting ∨ state.announcer = .bound ∨ state.announcer = .calling
  announced : state.board.firmware.build.skipSessionReady = false →
    Announce.Invariant state ∧
      Roomy (readyRing state) state.board.firmware.sessionReadyCommitted state.announcer

theorem Unrefused.owed {state : Announce.State} (unrefused : Unrefused state) :
    owed state.announcer = 0 := by
  cases image : state.board.firmware.build.skipSessionReady with
  | true =>
      rcases unrefused.idle image with position | position | position <;> rw [position] <;> rfl
  | false =>
      have roomy := (unrefused.announced image).2
      cases position : state.announcer with
      | recordingFull =>
          rw [position] at roomy
          exact roomy.elim
      | _ => rfl

/-- The handler and CPU_OFF leave the region alone. -/
theorem bystander_shared {board after : Board} {label : FirmwareLabel}
    (stepped : firmwareStep board label = some after) (notWorker : label ≠ .worker)
    (notMain : label ≠ .main) : after.hardware.shared = board.hardware.shared := by
  cases label with
  | worker => exact absurd rfl notWorker
  | main => exact absurd rfl notMain
  | interrupt channel =>
      simp only [firmwareStep, Option.ite_none_right_eq_some, Option.some.injEq] at stepped
      obtain ⟨-, rfl⟩ := stepped
      rfl
  | isr =>
      cases position : board.firmware.isr with
      | idle => simp [firmwareStep, isrStep, position] at stepped
      | entered channel command data =>
          simp only [firmwareStep, isrStep, position, Option.some.injEq] at stepped
          rw [← stepped]
          dsimp only
          split <;> rfl
      | echoed channel command | cleared channel command =>
          simp only [firmwareStep, isrStep, position, Option.some.injEq] at stepped
          rw [← stepped]
  | cpuOff returned =>
      simp only [firmwareStep, Option.ite_none_right_eq_some] at stepped
      obtain ⟨-, moved⟩ := stepped
      unfold cpuOffStep at moved
      split at moved
      · cases moved
        rfl
      · cases moved

/-- The worker leaves the region alone unless it is past the gate of the service. -/
theorem workerAnswered_shared {board after : Board} {answer : Option Int}
    (stepped : workerAnswered board answer = some after)
    (outside : ¬ board.firmware.worker.inService) :
    after.hardware.shared = board.hardware.shared := by
  rcases Announce.workerAnswered_cases stepped with own | ⟨visit, result, next, code, position, rfl⟩
  · cases workerStep_spec own with
    | quiet before silent shared firmware => exact shared
    | drained visit position moved | replied visit reply next position moved
    | rung visit result next position moved =>
        rw [position] at outside
        exact absurd trivial outside
  · rfl

/-- The worker keeps the room: it sends only once the session is published. -/
theorem worker_roomy {state : Announce.State} {after : Board} {answer : Option Int}
    (invariant : Announce.Invariant state)
    (stepped : workerAnswered state.board answer = some after)
    (roomy : Roomy (readyRing state) state.board.firmware.sessionReadyCommitted state.announcer) :
    Roomy (after.hardware.shared.ring .cpu3 .critical) after.firmware.sessionReadyCommitted
      state.announcer := by
  obtain ⟨keeps, -⟩ := Announce.workerAnswered_keeps invariant.side stepped
  rw [keeps.flags.committed]
  by_cases inside : state.board.firmware.worker.inService
  · have consistent := invariant.consistent
    rw [invariant.served inside] at consistent
    obtain ⟨position, done, -⟩ := consistent.of_published
    rcases position with calling | gated
    · rw [calling, done]
      intro uncommitted
      cases uncommitted
    · rw [gated, done]
      intro uncommitted
      cases uncommitted
  · rw [workerAnswered_shared stepped inside]
    exact roomy

/-- Every step leaves room for the announcement of an image that makes one. -/
theorem step_roomy {state next : Announce.State} {label : Label}
    (invariant : Announce.Invariant state)
    (taken : Announce.step state (label.taken state) = some next)
    (roomy : Roomy (readyRing state) state.board.firmware.sessionReadyCommitted state.announcer) :
    Roomy (readyRing next) next.board.firmware.sessionReadyCommitted next.announcer := by
  cases label with
  | interrupt channel | isr | cpuOff returned =>
      simp only [Label.taken, Announce.step, Option.map_eq_some_iff] at taken
      obtain ⟨after, moved, rfl⟩ := taken
      have keeps := Announce.bystander_keeps moved (by simp) (by simp)
      have shared := bystander_shared moved (by simp) (by simp)
      simp only [readyRing, shared, keeps.flags.committed]
      exact roomy
  | worker answer =>
      simp only [Label.taken, Announce.step, Option.ite_none_right_eq_some,
        Option.map_eq_some_iff] at taken
      obtain ⟨-, after, moved, rfl⟩ := taken
      have kept := worker_roomy invariant moved roomy
      exact kept
  | main answer =>
      simp only [Label.taken, Announce.step, Option.ite_none_right_eq_some,
        Option.some.injEq] at taken
      obtain ⟨-, rfl⟩ := taken
      exact announcerStep_roomy answer invariant roomy
  | linux hardware =>
      simp only [Label.taken, Announce.step, Option.some.injEq] at taken
      rw [← taken]
      exact roomy
  | pop priority =>
      simp only [Label.taken, Announce.step, Option.some.injEq] at taken
      rw [← taken]
      by_cases ready : priority = .critical
      · subst ready
        simp only [readyRing, Announce.State.setHardware, Shared.ring_setRing_self]
        exact roomy.pop
      · have other : (state.board.hardware.shared.setRing .cpu3 priority
            (ringPop (state.board.hardware.shared.ring .cpu3 priority)).2.1).ring .cpu3 .critical =
              state.board.hardware.shared.ring .cpu3 .critical :=
          Shared.ring_setRing_of_ne _ _ _ _ (.inr (Ne.symm ready))
        simp only [readyRing, Announce.State.setHardware, other]
        exact roomy

/-- No step changes the image or the side of its endpoint. -/
theorem step_image {state next : Announce.State} {label : Announce.Label}
    (side : state.board.firmware.endpoint.BoundBy .cpu3)
    (taken : Announce.step state label = some next) :
    next.board.firmware.build = state.board.firmware.build ∧
      next.board.firmware.endpoint.BoundBy .cpu3 := by
  cases Announce.step_taken taken with
  | bystander keeps announcer frames =>
      rw [keeps.endpoint]
      exact ⟨keeps.flags.build, side⟩
  | worker answer turn after worked moved =>
      rw [moved]
      obtain ⟨keeps, side⟩ := Announce.workerAnswered_keeps side worked
      exact ⟨keeps.flags.build, side⟩
  | main answer turn blocked moved =>
      rw [moved]
      exact ⟨(Announce.announcerStep_frame state answer).2,
        Announce.announcerStep_side state answer side⟩

/-- An image without the announcement comes to the head of its loop and stays there. -/
theorem step_idle {state next : Announce.State} {label : Label}
    (skips : state.board.firmware.build.skipSessionReady = true)
    (idle : state.announcer = .starting ∨ state.announcer = .bound ∨ state.announcer = .calling)
    (permitted : callsService state label = false)
    (taken : Announce.step state (label.taken state) = some next) :
    next.announcer = .starting ∨ next.announcer = .bound ∨ next.announcer = .calling := by
  cases Announce.step_taken taken with
  | bystander keeps announcer frames =>
      rw [announcer]
      exact idle
  | worker answer turn after worked moved =>
      rw [moved]
      exact idle
  | main answer turn blocked moved =>
      rw [moved]
      rcases idle with position | position | position
      · simp only [announcerStep, position]
        exact .inr (.inl rfl)
      · simp only [announcerStep, position]
        exact .inr (.inr rfl)
      · cases label with
        | main answer => simp [callsService, position, skips] at permitted
        | interrupt channel | isr | worker reply | cpuOff returned | linux hardware
        | pop priority =>
            cases turn

theorem Unrefused.step {state next : Announce.State} {label : Label} (unrefused : Unrefused state)
    (stepped : Telemetry.step state label = some next) : Unrefused next := by
  obtain ⟨permitted, taken⟩ := step_taken stepped
  obtain ⟨build, side⟩ := step_image unrefused.side taken
  refine ⟨side, ?_, ?_⟩
  · intro skips
    rw [build] at skips
    exact step_idle skips (unrefused.idle skips) permitted taken
  · intro announces
    rw [build] at announces
    obtain ⟨invariant, roomy⟩ := unrefused.announced announces
    exact ⟨Announce.step_invariant invariant taken, step_roomy invariant taken roomy⟩

/-! ### Results -/

theorem reachable_counted {state : Announce.State} (reached : machine.Reachable state) :
    Counted state ∧ Unrefused state := by
  induction reached with
  | init start =>
      obtain ⟨build, hardware, rfl, empty⟩ := start
      have side : (Firmware.boot build).endpoint.BoundBy .cpu3 := by
        intro role hasRole
        cases hasRole
      refine ⟨⟨boot_balanced build, fun _ => ⟨build, rfl⟩⟩, side, fun _ => .inl rfl, ?_⟩
      intro announces
      refine ⟨⟨announces, side, ⟨rfl, rfl, rfl⟩, ?_, trivial⟩, empty⟩
      intro inside
      cases inside
  | step earlier stepped inductionHypothesis =>
      obtain ⟨counted, unrefused⟩ := inductionHypothesis
      exact ⟨counted.step (step_taken stepped).2, unrefused.step stepped⟩

end Telemetry

/-- Whenever the worker is back in `k_sem_take`, the published counters agree with those of the
endpoint: the full rings with `tx_full`, and the messages with the frames that were received or
rejected; and every wake was counted once, as a drain or as empty. -/
theorem telemetry_agrees {state : Announce.State} (reached : Telemetry.machine.Reachable state)
    (boundary : state.board.firmware.worker = .waiting) :
    state.board.firmware.txFullCount =
        ∑ priority, (state.board.firmware.endpoint.stats priority).txFull ∧
      state.board.firmware.messageCount =
        ∑ priority, ((state.board.firmware.endpoint.stats priority).rxOk +
          (state.board.firmware.endpoint.stats priority).rxBadCrc +
          (state.board.firmware.endpoint.stats priority).rxInvalid) ∧
      state.board.firmware.wakeCount =
        state.board.firmware.drainCount + state.board.firmware.emptyWakeCount := by
  obtain ⟨⟨balanced, -⟩, unrefused⟩ := Telemetry.reachable_counted reached
  obtain ⟨full, handled, wakes⟩ := balanced
  rw [unrefused.owed, add_zero] at full
  rw [boundary] at handled wakes
  refine ⟨full, ?_, ?_⟩
  · have all := handled rfl
    rwa [show Telemetry.inFlight .waiting = 0 from rfl, add_zero] at all
  · rwa [show Telemetry.undecided .waiting = 0 from rfl, add_zero] at wakes

namespace Telemetry

/-- A fresh session in which Linux has put one frame of zeros into its ring of the first priority,
and rung the doorbell. -/
def demoHardware : Hardware where
  shared := (sessionRegion 1#32).setRing .linux .critical { Ring.zero with producer := 1#32 }
  a2b := Doorbells.zero.write .critical 0xa2b10000#32 0#32
  b2a := .zero

/-- CPU3 announces itself, takes the interrupt, rejects the frame with a NACK and goes back to
sleep. -/
def demoRun : List Label :=
  List.replicate 22 (.main none) ++ [.linux demoHardware, .interrupt .critical, .isr, .isr, .isr] ++
    List.replicate 13 (.worker none)

end Telemetry

/-- The theorem at the end of that run, where one frame was counted. -/
theorem telemetry_agrees_rejected :
    ∃ state, Telemetry.machine.Reachable state ∧ state.board.firmware.worker = .waiting ∧
      state.board.firmware.messageCount = 1#32 ∧
      ∑ priority, ((state.board.firmware.endpoint.stats priority).rxOk +
        (state.board.firmware.endpoint.stats priority).rxBadCrc +
        (state.board.firmware.endpoint.stats priority).rxInvalid) = 1#32 := by
  have start : Telemetry.machine.init
      (.booted Announce.demoBuild (Announce.demoHardware .zero)) := ⟨_, _, rfl, rfl⟩
  have checked : (Telemetry.machine.run (.booted Announce.demoBuild (Announce.demoHardware .zero))
      Telemetry.demoRun).any (fun state =>
        state.board.firmware.workerBlocked && decide (state.board.firmware.messageCount =
          1#32)) = true := by
    decide +kernel
  obtain ⟨state, executed, passed⟩ := Machine.exists_of_run_any checked
  have reached : Telemetry.machine.Reachable state := (Machine.Reachable.init start).run executed
  obtain ⟨asleep, counted⟩ := Bool.and_eq_true_iff.mp passed
  have boundary : state.board.firmware.worker = .waiting := by
    unfold Firmware.workerBlocked at asleep
    split at asleep
    next position => exact position
    next => cases asleep
  have count := of_decide_eq_true counted
  obtain ⟨-, messages, -⟩ := telemetry_agrees reached boundary
  exact ⟨state, reached, boundary, count, messages.symm.trans count⟩

end MailMsg
