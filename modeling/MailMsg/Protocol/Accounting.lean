/-
Module: MailMsg.Protocol.Accounting
Purpose: The statistics of two endpoints as a ledger of the frames between them: every run of sends
  and receives, over rings whose occupied slots may be altered at any time, keeps the two sides
  balanced.
Source: LZAMP/protocol/mailmsg/mailmsg_endpoint.c, LZAMP/protocol/mailmsg/mailmsg.c
Trusted boundary: human-reviewed embedding of the source; each call is one step
Main exports: Accounting.State, Accounting.machine, Accounting.Balanced, Accounting.Ledger,
  Accounting.frame_accounting
-/
import MailMsg.Lib.Transition
import MailMsg.Protocol.Endpoint

namespace MailMsg.Accounting

/-! ### The machine -/

/-- A finished call.  A send records the ring's count after it; a receive records the count before
it and whether it moved the consumer's index. -/
inductive Event where
  | sent (sender : Role) (priority : Priority) (ret : EndpointResult) (depth : Int)
  | received (receiver : Role) (priority : Priority) (ret : EndpointResult) (depth : Int)
      (consumed : Bool)

/-- The region and the endpoint of each party.  The log, newest call first, is history that no
operation reads. -/
structure State where
  shared : Shared
  endpoints : Role → Endpoint
  log : List Event

/-- One operation.  `result` is the caller's structure as it was before the send, and `notifyResult`
what the notification backend answers. -/
inductive Label where
  | send (sender : Role) (priority : Priority) (type : U32) (payload : Option (Nat → U8))
      (length : U32) (result : SendResult) (notifyResult : Int)
  | receive (receiver : Role) (priority : Priority)
  | alter (sender : Role) (priority : Priority) (offset : Nat) (contents : Message)

/-- `mailmsg_endpoint_send` by one party. -/
def send (state : State) (sender : Role) (priority : Priority) (type : U32)
    (payload : Option (Nat → U8)) (length : U32) (result : SendResult)
    (notifyResult : Int) : State :=
  let outcome := (endpointSend (fun _ backend => (notifyResult, backend)) () (state.endpoints sender)
    state.shared priority type payload length result).1
  { shared := outcome.shared
    endpoints := Function.update state.endpoints sender outcome.endpoint
    log := .sent sender priority outcome.ret (ringCount (outcome.shared.ring sender priority)) ::
      state.log }

/-- `mailmsg_endpoint_receive` by one party. -/
def receive (state : State) (receiver : Role) (priority : Priority) : State :=
  let outcome := endpointReceive (state.endpoints receiver) state.shared priority
  let before := state.shared.ring receiver.peer priority
  let after := outcome.shared.ring receiver.peer priority
  { shared := outcome.shared
    endpoints := Function.update state.endpoints receiver outcome.endpoint
    log := .received receiver priority outcome.ret (ringCount before)
      (after.consumer != before.consumer) :: state.log }

/-- Other contents in the occupied slot `offset` places behind the consumer's index. -/
def alterSlot (ring : Ring) (offset : Nat) (contents : Message) : Ring :=
  { ring with
    slot := Function.update ring.slot
      (BitVec.ofNat 32 ((ring.consumer.toNat + offset) % ringSlots)) contents }

/-- One step. -/
def step (state : State) : Label → Option State
  | .send sender priority type payload length result notifyResult =>
      some (send state sender priority type payload length result notifyResult)
  | .receive receiver priority => some (receive state receiver priority)
  | .alter sender priority offset contents =>
      let ring := state.shared.ring sender priority
      if offset < ring.occupied then
        some { state with
          shared := state.shared.setRing sender priority (alterSlot ring offset contents) }
      else none

/-- Both parties have bound to the region and every ring is empty.  The slots may hold anything. -/
structure Start (state : State) : Prop where
  bound : ∀ party, ∃ before, endpointBind before state.shared party = (.ok, state.endpoints party)
  wellFormed : ∀ sender priority, (state.shared.ring sender priority).WellFormed
  empty : ∀ sender priority,
    (state.shared.ring sender priority).consumer = (state.shared.ring sender priority).producer
  log : state.log = []

/-- Sends and receives in any order by the two endpoints, and alterations of occupied slots. -/
def machine : Machine State Label where
  init := Start
  step := step

/-! ### The ledger of one direction and priority

Every frame that was accepted is in the ring or has been counted by the receiver: as good, with a
bad CRC, as invalid or as stale.
-/

/-- A send of this direction that returned FULL. -/
def Event.isFull (sender : Role) (priority : Priority) : Event → Bool
  | .sent sender' priority' ret _ =>
      decide (sender' = sender ∧ priority' = priority ∧ ret = .ring .full)
  | .received .. => false

/-- A receive that consumed nothing although the ring was not empty. -/
def Event.isStarved (receiver : Role) (priority : Priority) : Event → Bool
  | .sent .. => false
  | .received receiver' priority' _ depth consumed =>
      decide (receiver' = receiver ∧ priority' = priority ∧ depth ≠ 0 ∧ consumed = false)

/-- The ring's count right after an accepted send of this direction. -/
def Event.acceptedDepth (sender : Role) (priority : Priority) : Event → Option Int
  | .sent sender' priority' ret depth =>
      if sender' = sender ∧ priority' = priority ∧ ret = .ok then some depth else none
  | .received .. => none

/-- The statistics of the sender and of the receiver account for the calls of one direction and
priority and for what its ring holds.  The counters are 32-bit words and wrap. -/
structure Balanced (sender : Role) (priority : Priority) (transmitted received : PriorityStats)
    (ring : Ring) (log : List Event) : Prop where
  frames : transmitted.txEnqueued =
    received.rxOk + received.rxBadCrc + received.rxInvalid + received.rxStale +
      BitVec.ofInt 32 (ringCount ring)
  doorbells : transmitted.notifySent + transmitted.notifyCoalesced + transmitted.notifyFailed =
    transmitted.txEnqueued
  full : transmitted.txFull = BitVec.ofNat 32 (log.countP (Event.isFull sender priority))
  incomplete : received.rxIncomplete =
    BitVec.ofNat 32 (log.countP (Event.isStarved sender.peer priority))
  highWater : (transmitted.txHighWater.toNat : Int) =
    (log.filterMap (Event.acceptedDepth sender priority)).foldr max 0
  bounded : transmitted.txHighWater.toNat ≤ 7

/-- The statistics of a sender that the ledger reads. -/
structure SameSent (before after : PriorityStats) : Prop where
  txEnqueued : after.txEnqueued = before.txEnqueued
  txFull : after.txFull = before.txFull
  txHighWater : after.txHighWater = before.txHighWater
  notifySent : after.notifySent = before.notifySent
  notifyCoalesced : after.notifyCoalesced = before.notifyCoalesced
  notifyFailed : after.notifyFailed = before.notifyFailed

/-- The statistics of a receiver that the ledger reads. -/
structure SameReceived (before after : PriorityStats) : Prop where
  rxOk : after.rxOk = before.rxOk
  rxIncomplete : after.rxIncomplete = before.rxIncomplete
  rxBadCrc : after.rxBadCrc = before.rxBadCrc
  rxInvalid : after.rxInvalid = before.rxInvalid
  rxStale : after.rxStale = before.rxStale

theorem SameSent.refl (stats : PriorityStats) : SameSent stats stats := by
  constructor <;> rfl

theorem SameReceived.refl (stats : PriorityStats) : SameReceived stats stats := by
  constructor <;> rfl

section Balanced

variable {sender : Role} {priority : Priority} {transmitted received : PriorityStats} {ring : Ring}
  {log : List Event}

/-- Empty rings and fresh statistics balance. -/
theorem Balanced.start (wellFormed : ring.WellFormed) (empty : ring.consumer = ring.producer) :
    Balanced sender priority .zero .zero ring [] := by
  have none : ringCount ring = 0 := by
    rw [wellFormed.ringCount_eq, wellFormed.occupied_eq_zero_iff.mpr empty]
    rfl
  constructor
  · rw [none]
    decide
  · decide
  · rfl
  · rfl
  · rfl
  · decide

/-- A call that this direction does not count, over the same indices, keeps the balance. -/
theorem Balanced.uncounted (balanced : Balanced sender priority transmitted received ring log)
    {transmitted' received' : PriorityStats} {ring' : Ring} {event : Event}
    (sent : SameSent transmitted transmitted') (gotten : SameReceived received received')
    (count : ringCount ring' = ringCount ring) (notFull : event.isFull sender priority = false)
    (notStarved : event.isStarved sender.peer priority = false)
    (notAccepted : event.acceptedDepth sender priority = none) :
    Balanced sender priority transmitted' received' ring' (event :: log) := by
  constructor
  · rw [sent.txEnqueued, gotten.rxOk, gotten.rxBadCrc, gotten.rxInvalid, gotten.rxStale, count]
    exact balanced.frames
  · rw [sent.notifySent, sent.notifyCoalesced, sent.notifyFailed, sent.txEnqueued]
    exact balanced.doorbells
  · rw [sent.txFull, List.countP_cons_of_neg (by simp [notFull])]
    exact balanced.full
  · rw [gotten.rxIncomplete, List.countP_cons_of_neg (by simp [notStarved])]
    exact balanced.incomplete
  · rw [sent.txHighWater, List.filterMap_cons_none notAccepted]
    exact balanced.highWater
  · rw [sent.txHighWater]
    exact balanced.bounded

end Balanced


/-! ### What one call does to the statistics -/

/-- The sender's statistics once a frame is in the ring, which then counts `depth` frames. -/
def enqueuedStats (depth : Int) (stats : PriorityStats) : PriorityStats :=
  { stats with
    txEnqueued := stats.txEnqueued + 1
    txHighWater :=
      if 0 < depth ∧ (stats.txHighWater.toNat : Int) < depth then BitVec.ofInt 32 depth
      else stats.txHighWater }

/-- The sender's statistics once the backend has answered. -/
def notifiedStats (notifyResult : Int) (stats : PriorityStats) : PriorityStats :=
  if notifyResult = notifySent then { stats with notifySent := stats.notifySent + 1 }
  else if notifyResult = notifyCoalesced then
    { stats with notifyCoalesced := stats.notifyCoalesced + 1 }
  else { stats with notifyFailed := stats.notifyFailed + 1 }

/-- Everything that a send can do, with the statistics it leaves. -/
inductive SendEffect (endpoint : Endpoint) (role : Role) (shared : Shared) (priority : Priority)
    (notifyResult : Int) (outcome : SendOutcome) : Prop where
  | refused (notOk : outcome.ret ≠ .ok) (notFull : outcome.ret ≠ .ring .full)
      (sameEndpoint : outcome.endpoint = endpoint) (sameShared : outcome.shared = shared)
  | full (ret : outcome.ret = .ring .full) (sameShared : outcome.shared = shared)
      (counted : outcome.endpoint = endpoint.drawn.updateStats priority fun stats =>
        { stats with txFull := stats.txFull + 1 })
  | queued (message : Message) (ret : outcome.ret = .ok)
      (pushed : (ringPush (shared.ring role priority) message).1 = .ok)
      (published : outcome.shared = shared.setRing role priority
        (ringPush (shared.ring role priority) message).2)
      (counted : outcome.endpoint = endpoint.drawn.updateStats priority fun stats =>
        notifiedStats notifyResult
          (enqueuedStats (ringCount (ringPush (shared.ring role priority) message).2) stats))

/-- The statistics of a send whose frame went into the ring. -/
theorem endpointPush_counted {endpoint : Endpoint} {role : Role} {shared : Shared}
    {priority : Priority} {type : U32} {payload : Option (Nat → U8)} {length : U32}
    (pushed : (ringPush (shared.ring role priority) (sendMessage endpoint.generation type
      (endpointNextSequence endpoint) length payload)).1 = .ok) :
    (endpointPush endpoint role shared priority type payload length).endpoint =
      endpoint.drawn.updateStats priority (enqueuedStats (ringCount
        (ringPush (shared.ring role priority) (sendMessage endpoint.generation type
          (endpointNextSequence endpoint) length payload)).2)) := by
  simp only [endpointPush, pushed, ne_eq, not_true_eq_false, if_false, Shared.ring_setRing_self]
  rfl

theorem endpointSend_effect {endpoint : Endpoint} {role : Role} (bound : endpoint.role = some role)
    (shared : Shared) (priority : Priority) (type : U32) (payload : Option (Nat → U8))
    (length : U32) (result : SendResult) (notifyResult : Int) :
    SendEffect endpoint role shared priority notifyResult
      (endpointSend (fun _ backend => (notifyResult, backend)) () endpoint shared priority type payload
        length result).1 := by
  simp only [endpointSend]
  cases endpointEnqueue_spec endpoint shared priority type payload length result with
  | refused notOk notFull sameEndpoint sameShared _ =>
      rw [if_pos notOk]
      exact .refused notOk notFull sameEndpoint sameShared
  | pushed role' bound' session arguments push =>
      obtain rfl : role' = role := Option.some.inj (bound'.symm.trans bound)
      cases push with
      | full _ ret _ sameShared counted =>
          have failed : (endpointEnqueue endpoint shared priority type payload length result).ret ≠
              .ok := by
            rw [ret]
            simp
          rw [if_pos failed]
          exact .full ret sameShared counted
      | queued _ ret _ pushed published _ _ _ =>
          have executed : endpointEnqueue endpoint shared priority type payload length result =
              endpointPush endpoint role' shared priority type payload length := by
            simp [endpointEnqueue, bound, arguments, session]
          have counted := endpointPush_counted pushed
          rw [← executed] at counted
          rw [if_neg (not_not.mpr ret)]
          refine .queued _ ret pushed published ?_
          simp only [endpointNotified, counted]
          simp [Endpoint.updateStats, notifiedStats]

/-- Everything that a receive of a valid session can do, with the statistics it leaves. -/
inductive ReceiveEffect (endpoint : Endpoint) (role : Role) (shared : Shared) (priority : Priority)
    (outcome : ReceiveOutcome) : Prop where
  | empty (nothing : (shared.ring role.peer priority).consumer =
        (shared.ring role.peer priority).producer)
      (sameEndpoint : outcome.endpoint = endpoint) (sameShared : outcome.shared = shared)
  | incomplete (waiting : (shared.ring role.peer priority).consumer ≠
        (shared.ring role.peer priority).producer)
      (sameShared : outcome.shared = shared)
      (counted : outcome.endpoint = endpoint.updateStats priority fun stats =>
        { stats with rxIncomplete := stats.rxIncomplete + 1 })
  | consumed (waiting : (shared.ring role.peer priority).consumer ≠
        (shared.ring role.peer priority).producer)
      (ret : outcome.ret ∈ [.ok, .ring .badCrc, .ring .invalid, .staleFrame])
      (released : outcome.shared = shared.setRing role.peer priority
        { shared.ring role.peer priority with
          consumer := ringNext (shared.ring role.peer priority).consumer })
      (counted : outcome.endpoint = endpoint.updateStats priority fun stats =>
        stats.received outcome.ret)

theorem endpointReceive_effect {endpoint : Endpoint} {role : Role} {shared : Shared}
    (bound : endpoint.role = some role) (valid : endpointSessionValid endpoint shared = .ok)
    (priority : Priority) :
    ReceiveEffect endpoint role shared priority (endpointReceive endpoint shared priority) := by
  cases endpointReceive_spec endpoint shared priority with
  | refused _ _ _ _ _ cause => exact absurd valid cause
  | popped role' bound' session ret released message counted =>
      obtain rfl : role' = role := Option.some.inj (bound'.symm.trans bound)
      rcases ringPop_cases (shared.ring role'.peer priority) with
        ⟨nothing, popped⟩ | ⟨waiting, -, popped⟩ | ⟨waiting, -, result, results, -, popped⟩
      · rw [popped] at ret released
        refine .empty nothing ?_ (by simpa using released)
        rw [counted, ret]
        simp [receiveResult, PriorityStats.received, Endpoint.updateStats]
      · rw [popped] at ret released
        refine .incomplete waiting (by simpa using released) ?_
        rw [counted, ret]
        simp [receiveResult, PriorityStats.received]
      · rw [popped] at ret released
        refine .consumed waiting ?_ released counted
        rw [ret]
        unfold receiveResult
        split
        · simp
        · rcases results with rfl | rfl | rfl <;> simp

/-! ### The balance under each outcome -/

section Outcomes

variable {sender : Role} {priority : Priority} {transmitted received : PriorityStats} {ring : Ring}
  {log : List Event}

/-- A send that finds the ring full. -/
theorem Balanced.refusedFull (balanced : Balanced sender priority transmitted received ring log)
    (depth : Int) :
    Balanced sender priority { transmitted with txFull := transmitted.txFull + 1 } received ring
      (.sent sender priority (.ring .full) depth :: log) where
  frames := balanced.frames
  doorbells := balanced.doorbells
  full := by
    rw [List.countP_cons_of_pos (by simp [Event.isFull]), BitVec.ofNat_add, ← balanced.full]
    rfl
  incomplete := by
    rw [List.countP_cons_of_neg (by simp [Event.isStarved])]
    exact balanced.incomplete
  highWater := by
    rw [List.filterMap_cons_none (by simp [Event.acceptedDepth])]
    exact balanced.highWater
  bounded := balanced.bounded

/-- The answer of the backend moves one of the three notification counters and nothing else. -/
theorem notifiedStats_spec (notifyResult : Int) (stats : PriorityStats) :
    (notifiedStats notifyResult stats).notifySent +
      (notifiedStats notifyResult stats).notifyCoalesced +
        (notifiedStats notifyResult stats).notifyFailed =
      stats.notifySent + stats.notifyCoalesced + stats.notifyFailed + 1 ∧
    (notifiedStats notifyResult stats).txEnqueued = stats.txEnqueued ∧
    (notifiedStats notifyResult stats).txFull = stats.txFull ∧
    (notifiedStats notifyResult stats).txHighWater = stats.txHighWater ∧
    SameReceived stats (notifiedStats notifyResult stats) := by
  unfold notifiedStats
  split
  · refine ⟨?_, rfl, rfl, rfl, by constructor <;> rfl⟩
    bv_omega
  · split
    · refine ⟨?_, rfl, rfl, rfl, by constructor <;> rfl⟩
      bv_omega
    · refine ⟨?_, rfl, rfl, rfl, by constructor <;> rfl⟩
      bv_omega

/-- The high-water mark is raised to a count above it. -/
theorem enqueuedStats_highWater {depth : Nat} (positive : 0 < depth) (small : depth ≤ 7)
    (stats : PriorityStats) :
    ((enqueuedStats depth stats).txHighWater.toNat : Int) =
      max (depth : Int) stats.txHighWater.toNat := by
  simp only [enqueuedStats]
  split
  · rename_i higher
    rw [BitVec.ofInt_natCast, BitVec.toNat_ofNat]
    omega
  · rename_i lower
    omega

/-- A send whose frame enters a ring of fewer than seven. -/
theorem Balanced.accepted (balanced : Balanced sender priority transmitted received ring log)
    {ring' : Ring} (wellFormed : ring.WellFormed) (wellFormed' : ring'.WellFormed)
    (grown : ring'.occupied = ring.occupied + 1) (notifyResult : Int) :
    Balanced sender priority
      (notifiedStats notifyResult (enqueuedStats (ringCount ring') transmitted)) received ring'
      (.sent sender priority .ok (ringCount ring') :: log) := by
  obtain ⟨doorbells, txEnqueued, txFull, txHighWater, -⟩ :=
    notifiedStats_spec notifyResult (enqueuedStats (ringCount ring') transmitted)
  have small : ring'.occupied < 8 := wellFormed'.occupied_lt
  have raised : ((enqueuedStats (ringCount ring') transmitted).txHighWater.toNat : Int) =
      max (ring'.occupied : Int) transmitted.txHighWater.toNat := by
    rw [wellFormed'.ringCount_eq]
    apply enqueuedStats_highWater
    · omega
    · omega
  constructor
  · rw [txEnqueued, wellFormed'.ringCount_eq, grown, BitVec.ofInt_natCast, BitVec.ofNat_add]
    have before := balanced.frames
    rw [wellFormed.ringCount_eq, BitVec.ofInt_natCast] at before
    simp only [enqueuedStats, before]
    bv_omega
  · rw [doorbells, txEnqueued]
    simp only [enqueuedStats]
    rw [balanced.doorbells]
  · rw [txFull, List.countP_cons_of_neg (by simp [Event.isFull])]
    exact balanced.full
  · rw [List.countP_cons_of_neg (by simp [Event.isStarved])]
    exact balanced.incomplete
  · rw [txHighWater, raised, List.filterMap_cons_some (b := ringCount ring')
      (by simp [Event.acceptedDepth]), List.foldr_cons, ← balanced.highWater,
      wellFormed'.ringCount_eq]
  · rw [txHighWater]
    have bounded := balanced.bounded
    omega

/-- A receive that finds the slot at the head not committed. -/
theorem Balanced.starved (balanced : Balanced sender priority transmitted received ring log)
    (waiting : ringCount ring ≠ 0) (ret : EndpointResult) :
    Balanced sender priority transmitted { received with rxIncomplete := received.rxIncomplete + 1 }
      ring (.received sender.peer priority ret (ringCount ring) false :: log) where
  frames := balanced.frames
  doorbells := balanced.doorbells
  full := by
    rw [List.countP_cons_of_neg (by simp [Event.isFull])]
    exact balanced.full
  incomplete := by
    rw [List.countP_cons_of_pos (by simp [Event.isStarved, waiting]), BitVec.ofNat_add,
      ← balanced.incomplete]
    rfl
  highWater := by
    rw [List.filterMap_cons_none (by simp [Event.acceptedDepth])]
    exact balanced.highWater
  bounded := balanced.bounded

/-- Each result of a receive that consumed its frame moves exactly one of the four counters. -/
theorem received_spec {ret : EndpointResult}
    (results : ret ∈ [.ok, .ring .badCrc, .ring .invalid, .staleFrame]) (stats : PriorityStats) :
    (stats.received ret).rxOk + (stats.received ret).rxBadCrc + (stats.received ret).rxInvalid +
        (stats.received ret).rxStale =
      stats.rxOk + stats.rxBadCrc + stats.rxInvalid + stats.rxStale + 1 ∧
    (stats.received ret).rxIncomplete = stats.rxIncomplete := by
  simp only [List.mem_cons, List.not_mem_nil, or_false] at results
  rcases results with rfl | rfl | rfl | rfl
  · refine ⟨?_, rfl⟩
    simp only [PriorityStats.received]
    bv_omega
  · refine ⟨?_, rfl⟩
    simp only [PriorityStats.received]
    bv_omega
  · refine ⟨?_, rfl⟩
    simp only [PriorityStats.received]
    bv_omega
  · refine ⟨?_, rfl⟩
    simp only [PriorityStats.received]
    bv_omega

/-- No result of a receive moves a counter of the sender. -/
theorem received_sameSent (ret : EndpointResult) (stats : PriorityStats) :
    SameSent stats (stats.received ret) := by
  unfold PriorityStats.received
  split <;> constructor <;> rfl

/-- A receive that released the slot at the head. -/
theorem Balanced.consumed (balanced : Balanced sender priority transmitted received ring log)
    {ring' : Ring} (wellFormed : ring.WellFormed) (wellFormed' : ring'.WellFormed)
    (shrunk : ring.occupied = ring'.occupied + 1) {ret : EndpointResult}
    (results : ret ∈ [.ok, .ring .badCrc, .ring .invalid, .staleFrame]) (depth : Int) :
    Balanced sender priority transmitted (received.received ret) ring'
      (.received sender.peer priority ret depth true :: log) := by
  obtain ⟨counted, rxIncomplete⟩ := received_spec results received
  constructor
  · rw [counted, wellFormed'.ringCount_eq, BitVec.ofInt_natCast, balanced.frames,
      wellFormed.ringCount_eq, shrunk, BitVec.ofInt_natCast, BitVec.ofNat_add]
    bv_omega
  · exact balanced.doorbells
  · rw [List.countP_cons_of_neg (by simp [Event.isFull])]
    exact balanced.full
  · rw [rxIncomplete, List.countP_cons_of_neg (by simp [Event.isStarved])]
    exact balanced.incomplete
  · rw [List.filterMap_cons_none (by simp [Event.acceptedDepth])]
    exact balanced.highWater
  · exact balanced.bounded

end Outcomes

/-! ### The whole ledger -/

/-- Both endpoints stay bound to the session of the region, and every direction and priority
balances. -/
structure Ledger (state : State) : Prop where
  bound : ∀ party, (state.endpoints party).role = some party
  session : ∀ party, endpointSessionValid (state.endpoints party) state.shared = .ok
  wellFormed : ∀ sender priority, (state.shared.ring sender priority).WellFormed
  balanced : ∀ sender priority,
    Balanced sender priority ((state.endpoints sender).stats priority)
      ((state.endpoints sender.peer).stats priority) (state.shared.ring sender priority) state.log

theorem Ledger.start {state : State} (start : Start state) : Ledger state := by
  have binding : ∀ party, (state.endpoints party).role = some party ∧
      endpointSessionValid (state.endpoints party) state.shared = .ok ∧
      (state.endpoints party).stats = fun _ => .zero := by
    intro party
    obtain ⟨before, bound⟩ := start.bound party
    have accepted : (endpointBind before state.shared party).1 = .ok := by rw [bound]
    have facts := endpointBind_ok accepted
    rw [bound] at facts
    obtain ⟨role, generation, nonzero, magic, version⟩ := facts
    refine ⟨role, ?_, ?_⟩
    · rw [endpointSessionValid_ok_iff, role, generation]
      exact ⟨rfl, nonzero, magic, version, rfl⟩
    · have fresh := congrArg (fun outcome => outcome.2.stats) bound
      simpa [endpointBind, magic, version, nonzero] using fresh.symm
  constructor
  · exact fun party => (binding party).1
  · exact fun party => (binding party).2.1
  · exact start.wellFormed
  · intro sender priority
    rw [(binding sender).2.2, (binding sender.peer).2.2, start.log]
    exact Balanced.start (start.wellFormed sender priority) (start.empty sender priority)

/-- A call of `actor` that concerns one priority: it keeps its binding and the header, and the
counters and rings of the other priorities. -/
structure Concerned (state : State) (actor : Role) (priority : Priority) (endpoint : Endpoint)
    (shared : Shared) : Prop where
  binding : (state.endpoints actor).SameBinding endpoint
  header : ∀ party, endpointSessionValid party shared = endpointSessionValid party state.shared
  wellFormed : ∀ sender, (shared.ring sender priority).WellFormed
  otherStats : ∀ other ≠ priority, endpoint.stats other = (state.endpoints actor).stats other
  otherRings : ∀ sender, ∀ other ≠ priority, shared.ring sender other =
    state.shared.ring sender other

/-- A counter update of one priority, read at that priority. -/
theorem updateStats_self (endpoint : Endpoint) (priority : Priority)
    (update : PriorityStats → PriorityStats) :
    (endpoint.updateStats priority update).stats priority = update (endpoint.stats priority) := by
  simp [Endpoint.updateStats]

/-- A counter update of one priority, read at another. -/
theorem updateStats_of_ne (endpoint : Endpoint) {priority other : Priority}
    (different : other ≠ priority) (update : PriorityStats → PriorityStats) :
    (endpoint.updateStats priority update).stats other = endpoint.stats other := by
  simp [Endpoint.updateStats, different]

namespace Concerned

variable {state : State} {actor : Role} {priority : Priority}

/-- A call that changes nothing. -/
theorem refl (ledger : Ledger state) (actor : Role) (priority : Priority) :
    Concerned state actor priority (state.endpoints actor) state.shared where
  binding := .refl _
  header := fun _ => rfl
  wellFormed := fun sender => ledger.wellFormed sender priority
  otherStats := fun _ _ => rfl
  otherRings := fun _ _ _ => rfl

/-- A call that counts. -/
theorem counted {endpoint : Endpoint} {shared : Shared}
    (concerned : Concerned state actor priority endpoint shared)
    (update : PriorityStats → PriorityStats) :
    Concerned state actor priority (endpoint.updateStats priority update) shared where
  binding := ⟨concerned.binding.role, concerned.binding.generation⟩
  header := concerned.header
  wellFormed := concerned.wellFormed
  otherStats := by
    intro other different
    rw [updateStats_of_ne endpoint different]
    exact concerned.otherStats other different
  otherRings := concerned.otherRings

/-- A call that draws a sequence. -/
theorem drawn {endpoint : Endpoint} {shared : Shared}
    (concerned : Concerned state actor priority endpoint shared) :
    Concerned state actor priority endpoint.drawn shared :=
  ⟨⟨concerned.binding.role, concerned.binding.generation⟩, concerned.header, concerned.wellFormed,
    concerned.otherStats, concerned.otherRings⟩

/-- A call that writes a ring of its priority. -/
theorem written {endpoint : Endpoint} {shared : Shared}
    (concerned : Concerned state actor priority endpoint shared) {sender : Role} {ring : Ring}
    (wellFormed : ring.WellFormed) :
    Concerned state actor priority endpoint (shared.setRing sender priority ring) where
  binding := concerned.binding
  header := by
    intro party
    rw [endpointSessionValid_setRing]
    exact concerned.header party
  wellFormed := by
    intro direction
    by_cases own : direction = sender
    · rw [own, Shared.ring_setRing_self]
      exact wellFormed
    · rw [Shared.ring_setRing_of_ne _ _ _ _ (.inl own)]
      exact concerned.wellFormed direction
  otherStats := concerned.otherStats
  otherRings := by
    intro direction other different
    rw [Shared.ring_setRing_of_ne _ _ _ _ (.inr different)]
    exact concerned.otherRings direction other different

end Concerned

/-- The call of one party at one priority: the other priorities are not concerned, and the two
directions at this priority are looked at one by one. -/
theorem Ledger.call {state : State} (ledger : Ledger state) {actor : Role} {priority : Priority}
    {endpoint : Endpoint} {shared : Shared} {event : Event}
    (concerned : Concerned state actor priority endpoint shared)
    (otherEvents : ∀ sender, ∀ other ≠ priority, event.isFull sender other = false ∧
      event.isStarved sender other = false ∧ event.acceptedDepth sender other = none)
    (outgoing : Balanced actor priority (endpoint.stats priority)
      ((state.endpoints actor.peer).stats priority) (shared.ring actor priority)
        (event :: state.log))
    (incoming : Balanced actor.peer priority ((state.endpoints actor.peer).stats priority)
      (endpoint.stats priority) (shared.ring actor.peer priority) (event :: state.log)) :
    Ledger
      { shared := shared
        endpoints := Function.update state.endpoints actor endpoint
        log := event :: state.log } := by
  have own : Function.update state.endpoints actor endpoint actor = endpoint := by simp
  have peer : Function.update state.endpoints actor endpoint actor.peer =
      state.endpoints actor.peer := by simp
  have parties : ∀ party, party = actor ∨ party = actor.peer := by
    intro party
    cases party <;> cases actor <;> simp [Role.peer]
  constructor
  · intro party
    rcases parties party with rfl | rfl
    · simpa [own, concerned.binding.role] using ledger.bound party
    · simpa only [peer] using ledger.bound actor.peer
  · intro party
    rcases parties party with rfl | rfl
    · simpa only [own, concerned.header, concerned.binding.session] using ledger.session party
    · simpa only [peer, concerned.header] using ledger.session actor.peer
  · intro sender other
    by_cases here : other = priority
    · rw [here]
      exact concerned.wellFormed sender
    · simpa only [concerned.otherRings sender other here] using ledger.wellFormed sender other
  · intro sender other
    by_cases here : other = priority
    · rw [here]
      rcases parties sender with rfl | rfl
      · simpa only [own, peer] using outgoing
      · simpa only [own, peer, Role.peer_peer] using incoming
    · have stats : ∀ party, (Function.update state.endpoints actor endpoint party).stats other =
          (state.endpoints party).stats other := by
        intro party
        rcases parties party with rfl | rfl
        · rw [own]
          exact concerned.otherStats other here
        · rw [peer]
      have ring := concerned.otherRings sender other here
      obtain ⟨notFull, -, notAccepted⟩ := otherEvents sender other here
      obtain ⟨-, notStarved, -⟩ := otherEvents sender.peer other here
      have before := ledger.balanced sender other
      refine before.uncounted ?_ ?_ ?_ notFull notStarved notAccepted
      · rw [stats]
        exact SameSent.refl _
      · rw [stats]
        exact SameReceived.refl _
      · rw [ring]

/-- A send concerns its own priority only. -/
theorem Event.sent_other {priority other : Priority} (different : other ≠ priority) {sender : Role}
    (direction : Role) (ret : EndpointResult) (depth : Int) :
    (Event.sent sender priority ret depth).isFull direction other = false ∧
      (Event.sent sender priority ret depth).isStarved direction other = false ∧
      (Event.sent sender priority ret depth).acceptedDepth direction other = none := by
  simp [Event.isFull, Event.isStarved, Event.acceptedDepth, different.symm]

/-- A receive concerns its own priority only. -/
theorem Event.received_other {priority other : Priority} (different : other ≠ priority)
    {receiver : Role} (direction : Role) (ret : EndpointResult) (depth : Int) (consumed : Bool) :
    (Event.received receiver priority ret depth consumed).isFull direction other = false ∧
      (Event.received receiver priority ret depth consumed).isStarved direction other = false ∧
      (Event.received receiver priority ret depth consumed).acceptedDepth direction
        other = none := by
  simp [Event.isFull, Event.isStarved, Event.acceptedDepth, different.symm]

theorem Ledger.send {state : State} (ledger : Ledger state) (sender : Role) (priority : Priority)
    (type : U32) (payload : Option (Nat → U8)) (length : U32) (result : SendResult)
    (notifyResult : Int) :
    Ledger (send state sender priority type payload length result notifyResult) := by
  unfold Accounting.send
  simp only
  have effect := endpointSend_effect (ledger.bound sender) state.shared priority type payload length
    result notifyResult
  revert effect
  generalize (endpointSend (fun _ backend => (notifyResult, backend)) () (state.endpoints sender)
    state.shared priority type payload length result).1 = outcome
  intro effect
  have before := ledger.balanced sender priority
  have opposite := ledger.balanced sender.peer priority
  rw [Role.peer_peer] at opposite
  -- The opposite direction counts neither this send nor any counter that it moves.
  have incoming : ∀ (stats : PriorityStats) (ring : Ring),
      SameReceived ((state.endpoints sender).stats priority) stats →
      ring = state.shared.ring sender.peer priority →
      Balanced sender.peer priority ((state.endpoints sender.peer).stats priority) stats ring
        (.sent sender priority outcome.ret (ringCount (outcome.shared.ring sender priority)) ::
          state.log) := by
    intro stats ring gotten same
    apply opposite.uncounted (SameSent.refl _) gotten (by rw [same])
    · simp [Event.isFull]
    · rfl
    · simp [Event.acceptedDepth]
  cases effect with
  | refused notOk notFull sameEndpoint sameShared =>
      apply ledger.call
      · rw [sameEndpoint, sameShared]
        exact .refl ledger sender priority
      · exact fun direction other different => Event.sent_other different direction _ _
      · rw [sameEndpoint, sameShared]
        apply before.uncounted (SameSent.refl _) (SameReceived.refl _) rfl
        · simp [Event.isFull, notFull]
        · rfl
        · simp [Event.acceptedDepth, notOk]
      · apply incoming
        · rw [sameEndpoint]
          exact SameReceived.refl _
        · rw [sameShared]
  | full ret sameShared counted =>
      apply ledger.call
      · rw [counted, sameShared]
        exact (Concerned.refl ledger sender priority).drawn.counted _
      · exact fun direction other different => Event.sent_other different direction _ _
      · rw [counted, updateStats_self, sameShared, ret]
        exact before.refusedFull _
      · apply incoming
        · rw [counted, updateStats_self]
          constructor <;> rfl
        · rw [sameShared]
  | queued message ret pushed published counted =>
      have wellFormed := ledger.wellFormed sender priority
      have ring : outcome.shared.ring sender priority =
          (ringPush (state.shared.ring sender priority) message).2 := by
        rw [published]
        simp
      apply ledger.call
      · rw [counted, published]
        exact ((Concerned.refl ledger sender priority).drawn.counted _).written
          (wellFormed.push message)
      · exact fun direction other different => Event.sent_other different direction _ _
      · rw [counted, updateStats_self, ring, ret]
        exact before.accepted wellFormed (wellFormed.push message) (wellFormed.occupied_push pushed)
          notifyResult
      · apply incoming
        · rw [counted, updateStats_self]
          obtain ⟨-, -, -, -, same⟩ := notifiedStats_spec notifyResult
            (enqueuedStats (ringCount (ringPush (state.shared.ring sender priority) message).2)
              ((state.endpoints sender).stats priority))
          exact ⟨same.rxOk, same.rxIncomplete, same.rxBadCrc, same.rxInvalid, same.rxStale⟩
        · rw [published]
          exact Shared.ring_setRing_of_ne _ _ _ _ (.inl (Role.peer_ne sender))

theorem Ledger.receive {state : State} (ledger : Ledger state) (receiver : Role)
    (priority : Priority) : Ledger (receive state receiver priority) := by
  unfold Accounting.receive
  simp only
  have effect := endpointReceive_effect (ledger.bound receiver) (ledger.session receiver) priority
  revert effect
  generalize endpointReceive (state.endpoints receiver) state.shared priority = outcome
  intro effect
  have before := ledger.balanced receiver.peer priority
  have opposite := ledger.balanced receiver priority
  have wellFormed := ledger.wellFormed receiver.peer priority
  rw [Role.peer_peer] at before
  -- The receiver's own direction counts neither this receive nor any counter that it moves.
  have outgoing : ∀ (stats : PriorityStats) (ring : Ring) (consumed : Bool),
      SameSent ((state.endpoints receiver).stats priority) stats →
      ring = state.shared.ring receiver priority →
      Balanced receiver priority stats ((state.endpoints receiver.peer).stats priority) ring
        (.received receiver priority outcome.ret
          (ringCount (state.shared.ring receiver.peer priority)) consumed :: state.log) := by
    intro stats ring consumed sent same
    apply opposite.uncounted sent (SameReceived.refl _) (by rw [same])
    · rfl
    · simp [Event.isStarved]
    · rfl
  cases effect with
  | empty nothing sameEndpoint sameShared =>
      have none : ringCount (state.shared.ring receiver.peer priority) = 0 := by
        rw [wellFormed.ringCount_eq, wellFormed.occupied_eq_zero_iff.mpr nothing]
        rfl
      apply ledger.call
      · rw [sameEndpoint, sameShared]
        exact .refl ledger receiver priority
      · exact fun direction other different => Event.received_other different direction _ _ _
      · apply outgoing
        · rw [sameEndpoint]
          exact SameSent.refl _
        · rw [sameShared]
      · rw [sameEndpoint, sameShared]
        apply before.uncounted (SameSent.refl _) (SameReceived.refl _) rfl
        · rfl
        · simp [Event.isStarved, none]
        · rfl
  | incomplete waiting sameShared counted =>
      have occupied : ringCount (state.shared.ring receiver.peer priority) ≠ 0 := by
        rw [wellFormed.ringCount_eq]
        intro none
        exact waiting (wellFormed.occupied_eq_zero_iff.mp (by omega))
      apply ledger.call
      · rw [counted, sameShared]
        exact (Concerned.refl ledger receiver priority).counted _
      · exact fun direction other different => Event.received_other different direction _ _ _
      · apply outgoing
        · rw [counted, updateStats_self]
          constructor <;> rfl
        · rw [sameShared]
      · rw [counted, updateStats_self, sameShared, bne_self_eq_false]
        have starved := before.starved occupied outcome.ret
        rw [Role.peer_peer] at starved
        exact starved
  | consumed waiting results released counted =>
      have ring : outcome.shared.ring receiver.peer priority =
          { state.shared.ring receiver.peer priority with
            consumer := ringNext (state.shared.ring receiver.peer priority).consumer } := by
        rw [released]
        simp
      have wellFormed' : (outcome.shared.ring receiver.peer priority).WellFormed := by
        rw [ring]
        exact ⟨wellFormed.producer, ringNext_lt _⟩
      have shrunk := wellFormed.occupied_release waiting
      rw [← ring] at shrunk
      have moved : ((outcome.shared.ring receiver.peer priority).consumer !=
          (state.shared.ring receiver.peer priority).consumer) = true := by
        rw [ring, bne_iff_ne]
        exact ringNext_ne _
      apply ledger.call
      · rw [counted, released]
        rw [ring] at wellFormed'
        exact ((Concerned.refl ledger receiver priority).counted _).written wellFormed'
      · exact fun direction other different => Event.received_other different direction _ _ _
      · apply outgoing
        · rw [counted, updateStats_self]
          exact received_sameSent _ _
        · rw [released]
          exact Shared.ring_setRing_of_ne _ _ _ _ (.inl (Role.ne_peer receiver))
      · rw [counted, updateStats_self, moved]
        have consumed := before.consumed wellFormed wellFormed' shrunk results
          (ringCount (state.shared.ring receiver.peer priority))
        rw [Role.peer_peer] at consumed
        exact consumed

/-- Altering the contents of a slot moves no index and no counter. -/
theorem Ledger.alter {state : State} (ledger : Ledger state) (sender : Role) (priority : Priority)
    (offset : Nat) (contents : Message) :
    Ledger { state with
      shared := state.shared.setRing sender priority
        (alterSlot (state.shared.ring sender priority) offset contents) } := by
  have ring : ∀ direction other,
      ((state.shared.setRing sender priority
          (alterSlot (state.shared.ring sender priority) offset contents)).ring
            direction other).producer =
        (state.shared.ring direction other).producer ∧
      ((state.shared.setRing sender priority
          (alterSlot (state.shared.ring sender priority) offset contents)).ring
            direction other).consumer =
        (state.shared.ring direction other).consumer := by
    intro direction other
    by_cases own : direction = sender ∧ other = priority
    · rw [own.1, own.2, Shared.ring_setRing_self]
      exact ⟨rfl, rfl⟩
    · rw [Shared.ring_setRing_of_ne _ _ _ _ (by tauto)]
      exact ⟨rfl, rfl⟩
  have count : ∀ direction other,
      ringCount ((state.shared.setRing sender priority
        (alterSlot (state.shared.ring sender priority) offset contents)).ring direction other) =
      ringCount (state.shared.ring direction other) := by
    intro direction other
    unfold ringCount
    rw [(ring direction other).1, (ring direction other).2]
  constructor
  · exact ledger.bound
  · intro party
    rw [endpointSessionValid_setRing]
    exact ledger.session party
  · intro direction other
    constructor
    · rw [(ring direction other).1]
      exact (ledger.wellFormed direction other).producer
    · rw [(ring direction other).2]
      exact (ledger.wellFormed direction other).consumer
  · intro direction other
    have before := ledger.balanced direction other
    refine ⟨?_, before.doorbells, before.full, before.incomplete, before.highWater, before.bounded⟩
    rw [count]
    exact before.frames

/-- Every step keeps the ledger. -/
theorem Ledger.step {state next : State} {label : Label} (ledger : Ledger state)
    (taken : step state label = some next) : Ledger next := by
  cases label with
  | send sender priority type payload length result notifyResult =>
      cases taken
      exact ledger.send sender priority type payload length result notifyResult
  | receive receiver priority =>
      cases taken
      exact ledger.receive receiver priority
  | alter sender priority offset contents =>
      simp only [Accounting.step] at taken
      split at taken
      · cases taken
        exact ledger.alter sender priority offset contents
      · cases taken

/-- In every state of every run, each direction and priority is accounted for: what the sender
enqueued is what the receiver consumed plus what the ring holds, each enqueued frame has one
doorbell outcome, FULL and starved calls are counted one by one, and the high-water mark is the
largest count that an accepted send left. -/
theorem frame_accounting {state : State} (reached : machine.Reachable state) (sender : Role)
    (priority : Priority) :
    Balanced sender priority ((state.endpoints sender).stats priority)
      ((state.endpoints sender.peer).stats priority) (state.shared.ring sender priority)
      state.log := by
  have ledger : Ledger state := by
    refine reached.invariant ?_ ?_
    · exact fun _ start => Ledger.start start
    · exact fun _ _ _ _ earlier taken => Ledger.step earlier taken
  exact ledger.balanced sender priority

/-- Both parties bound to a fresh region. -/
def demoStart : State where
  shared := sessionRegion 7
  endpoints := fun party => (endpointBind .zero (sessionRegion 7) party).2
  log := []

/-- Linux sends two frames, the first is altered in its slot, CPU3 receives three times. -/
def demoLabels : List Label :=
  [.send .linux 1 2 none 0 .pending 0, .send .linux 1 2 none 0 .pending 1,
    .alter .linux 1 0 { Message.zero with generation := 7, sequence := 1, commit := 1 },
    .receive .cpu3 1, .receive .cpu3 1, .receive .cpu3 1]

/-- Of two frames, one of them damaged, one is delivered and one is counted as damaged. -/
theorem frame_accounting_demo :
    ∃ state, machine.Reachable state ∧ ((state.endpoints .linux).stats 1).txEnqueued = 2 ∧
      ((state.endpoints .cpu3).stats 1).rxBadCrc = 1 ∧ ((state.endpoints .cpu3).stats 1).rxOk = 1 ∧
      Balanced .linux 1 ((state.endpoints .linux).stats 1) ((state.endpoints .cpu3).stats 1)
        (state.shared.ring .linux 1) state.log := by
  have start : machine.init demoStart := by
    constructor
    · exact fun party => ⟨.zero, rfl⟩
    · intro sender priority
      cases sender <;> exact Ring.zero_wellFormed
    · intro sender priority
      cases sender <;> rfl
    · rfl
  have executed : ((machine.run demoStart demoLabels).any fun state =>
      decide (((state.endpoints .linux).stats 1).txEnqueued = 2 ∧
        ((state.endpoints .cpu3).stats 1).rxBadCrc = 1 ∧
        ((state.endpoints .cpu3).stats 1).rxOk = 1)) = true := by
    decide +kernel
  obtain ⟨state, run, counters⟩ := Machine.exists_of_run_any executed
  have reached : machine.Reachable state := (Machine.Reachable.init start).run run
  obtain ⟨enqueued, damaged, delivered⟩ := of_decide_eq_true counters
  exact ⟨state, reached, enqueued, damaged, delivered, frame_accounting reached .linux 1⟩

end MailMsg.Accounting
