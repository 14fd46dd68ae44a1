/-
Module: MailMsg.Protocol.Endpoint
Purpose: One party's endpoint of the shared region: binding to a session, sending with its
  statistics and its doorbell, receiving, and what each call can do to the eight rings.
Source: LZAMP/protocol/mailmsg/mailmsg_endpoint.c, mailmsg_endpoint.h, mailmsg_notify.h
Trusted boundary: human-reviewed embedding of the source
Main exports: Shared, Endpoint, endpointBind, endpointSessionValid, endpointEnqueue, endpointSend,
  endpointReceive, endpointHasReceived, endpointEnqueue_spec, endpointReceive_spec, Found,
  endpointReceive_found
-/
import MailMsg.Protocol.Ring

namespace MailMsg

/-! ### Data -/

/-- `enum mailmsg_endpoint_role`. -/
inductive Role where
  | linux
  | cpu3
deriving DecidableEq, Repr

/-- The other party. -/
def Role.peer : Role → Role
  | .linux => .cpu3
  | .cpu3 => .linux

@[simp] theorem Role.peer_peer (role : Role) : role.peer.peer = role := by cases role <;> rfl

@[simp] theorem Role.peer_ne (role : Role) : role.peer ≠ role := by cases role <;> simp [Role.peer]

@[simp] theorem Role.ne_peer (role : Role) : role ≠ role.peer := by cases role <;> simp [Role.peer]

/-- `struct mailmsg_shared`: the header and the two directions, four rings each. -/
structure Shared where
  magic : U32
  version : U32
  generation : U32
  linuxToCpu3 : Priority → Ring
  cpu3ToLinux : Priority → Ring

/-- A zeroed region. -/
def Shared.zero : Shared where
  magic := 0
  version := 0
  generation := 0
  linuxToCpu3 := fun _ => .zero
  cpu3ToLinux := fun _ => .zero

/-- The ring that `sender` produces into at a priority. -/
def Shared.ring (shared : Shared) (sender : Role) (priority : Priority) : Ring :=
  match sender with
  | .linux => shared.linuxToCpu3 priority
  | .cpu3 => shared.cpu3ToLinux priority

/-- Replace the ring that `sender` produces into at a priority. -/
def Shared.setRing (shared : Shared) (sender : Role) (priority : Priority) (ring : Ring) : Shared :=
  match sender with
  | .linux => { shared with linuxToCpu3 := Function.update shared.linuxToCpu3 priority ring }
  | .cpu3 => { shared with cpu3ToLinux := Function.update shared.cpu3ToLinux priority ring }

section SetRing

variable (shared : Shared) (sender : Role) (priority : Priority) (ring : Ring)

@[simp] theorem Shared.setRing_magic :
    (shared.setRing sender priority ring).magic = shared.magic := by
  cases sender <;> rfl

@[simp] theorem Shared.setRing_version :
    (shared.setRing sender priority ring).version = shared.version := by
  cases sender <;> rfl

@[simp] theorem Shared.setRing_generation :
    (shared.setRing sender priority ring).generation = shared.generation := by
  cases sender <;> rfl

@[simp] theorem Shared.ring_setRing_self :
    (shared.setRing sender priority ring).ring sender priority = ring := by
  cases sender <;> simp [Shared.setRing, Shared.ring]

theorem Shared.ring_setRing_of_ne {other : Role} {priority' : Priority}
    (different : other ≠ sender ∨ priority' ≠ priority) :
    (shared.setRing sender priority ring).ring other priority' = shared.ring other priority' := by
  cases sender <;> cases other <;> simp_all [Shared.setRing, Shared.ring]

@[simp] theorem Shared.setRing_ring :
    shared.setRing sender priority (shared.ring sender priority) = shared := by
  cases sender <;> simp [Shared.setRing, Shared.ring]

@[simp] theorem Shared.setRing_linux_cpu3ToLinux :
    (shared.setRing .linux priority ring).cpu3ToLinux = shared.cpu3ToLinux := rfl

@[simp] theorem Shared.setRing_cpu3_linuxToCpu3 :
    (shared.setRing .cpu3 priority ring).linuxToCpu3 = shared.linuxToCpu3 := rfl

end SetRing

/-- `struct mailmsg_priority_stats`. -/
structure PriorityStats where
  txEnqueued : U32
  txFull : U32
  txHighWater : U32
  notifySent : U32
  notifyCoalesced : U32
  notifyFailed : U32
  rxOk : U32
  rxIncomplete : U32
  rxBadCrc : U32
  rxInvalid : U32
  rxStale : U32
deriving DecidableEq, Repr

/-- `(struct mailmsg_priority_stats){ 0 }`. -/
def PriorityStats.zero : PriorityStats := ⟨0, 0, 0, 0, 0, 0, 0, 0, 0, 0, 0⟩

/-- `struct mailmsg_endpoint`.  The pointers are those of one shared region; `role` is absent while
they are null, and selects `tx` and `rx` otherwise. -/
structure Endpoint where
  role : Option Role
  nextSequence : U32
  generation : U32
  stats : Priority → PriorityStats

/-- The endpoint is unbound or bound by this party. -/
def Endpoint.BoundBy (endpoint : Endpoint) (party : Role) : Prop :=
  ∀ role, endpoint.role = some role → role = party

/-- An endpoint of zero bytes. -/
def Endpoint.zero : Endpoint where
  role := none
  nextSequence := 0
  generation := 0
  stats := fun _ => .zero

/-- `enum mailmsg_endpoint_result`, which endpoint calls mix with the ring results. -/
inductive EndpointResult where
  | ring (result : RingResult)
  | invalid
  | protocolMismatch
  | staleSession
  | staleFrame
deriving DecidableEq, Repr

/-- `MAILMSG_ENDPOINT_OK`. -/
abbrev EndpointResult.ok : EndpointResult := .ring .ok

/-- The integer each endpoint result is in C. -/
def EndpointResult.code : EndpointResult → Int
  | .ring result => result.code
  | .invalid => -100
  | .protocolMismatch => -101
  | .staleSession => -102
  | .staleFrame => -103

/-- Only OK is the C truth value 0. -/
theorem EndpointResult.code_eq_zero_iff (result : EndpointResult) : result.code = 0 ↔
    result = .ok := by
  cases result with
  | ring result => cases result <;> simp [EndpointResult.code, RingResult.code]
  | invalid | protocolMismatch | staleSession | staleFrame => simp [EndpointResult.code]

/-- `struct mailmsg_send_result`. -/
structure SendResult where
  queueResult : RingResult
  notifyResult : Int
  notifyAttempted : Bool
  sequence : U32
deriving DecidableEq, Repr

/-- `MAILMSG_NOTIFY_SENT` and `MAILMSG_NOTIFY_COALESCED`. -/
def notifySent : Int := 0
def notifyCoalesced : Int := 1

/-- `mailmsg_notify_accepted`. -/
def notifyAccepted (result : Int) : Bool := result == notifySent || result == notifyCoalesced

/-! ### Operations -/

/-- `mailmsg_endpoint_next_sequence`: advance, skipping zero. -/
def endpointNextSequence (endpoint : Endpoint) : U32 := nextNonzero endpoint.nextSequence

/-- `mailmsg_endpoint_session_valid`. -/
def endpointSessionValid (endpoint : Endpoint) (shared : Shared) : EndpointResult :=
  if endpoint.role.isNone ∨ endpoint.generation = 0#32 then .invalid
  else if shared.magic ≠ protocolMagic ∨ shared.version ≠ protocolVersion then .protocolMismatch
  else if shared.generation ≠ endpoint.generation then .staleSession
  else .ok

/-- `mailmsg_endpoint_bind` with valid arguments.  A refused bind leaves the endpoint as it was. -/
def endpointBind (endpoint : Endpoint) (shared : Shared) (role : Role) :
    EndpointResult × Endpoint :=
  if shared.magic ≠ protocolMagic ∨
    shared.version ≠ protocolVersion then (.protocolMismatch, endpoint)
  else if shared.generation = 0#32 then (.staleSession, endpoint)
  else
    (.ok,
      { role := some role
        nextSequence := 0
        generation := shared.generation
        stats := fun _ => .zero })

/-- The region as `start_store` initialises it for a session: zeroed, then the header. -/
def sessionRegion (generation : U32) : Shared :=
  { Shared.zero with
    magic := protocolMagic
    version := protocolVersion
    generation := generation }

/-- What a send leaves behind. -/
structure SendOutcome where
  ret : EndpointResult
  result : SendResult
  endpoint : Endpoint
  shared : Shared

/-- The message that a send builds: zero-initialised, with the first `length` payload bytes
copied. -/
def sendMessage (generation type sequence length : U32) (payload : Option (Nat → U8)) : Message :=
  { Message.zero with
    generation := generation
    type := type
    sequence := sequence
    length := length
    payload := fun index =>
      if index.val < length.toNat then (payload.map fun bytes => bytes index.val).getD 0 else 0 }

section SendMessage

variable (generation type sequence length : U32) (payload : Option (Nat → U8))

@[simp] theorem sendMessage_generation :
    (sendMessage generation type sequence length payload).generation = generation := rfl

@[simp] theorem sendMessage_type :
    (sendMessage generation type sequence length payload).type = type := rfl

@[simp] theorem sendMessage_sequence :
    (sendMessage generation type sequence length payload).sequence = sequence := rfl

@[simp] theorem sendMessage_length :
    (sendMessage generation type sequence length payload).length = length := rfl

end SendMessage

/-- Replace the statistics of one priority. -/
def Endpoint.updateStats (endpoint : Endpoint) (priority : Priority)
    (update : PriorityStats → PriorityStats) : Endpoint :=
  { endpoint with
    stats := Function.update endpoint.stats priority (update (endpoint.stats priority)) }

/-- The refusals that `mailmsg_endpoint_send` makes before it touches its result. -/
def sendArgumentsValid (endpoint : Endpoint) (payload : Option (Nat → U8)) (length : U32) : Bool :=
  endpoint.role.isSome && decide (length.toNat ≤ payloadBytes) && (length == 0#32 || payload.isSome)

/-- The structure that a send fills in before it checks the session. -/
def SendResult.pending : SendResult where
  queueResult := .invalid
  notifyResult := -1
  notifyAttempted := false
  sequence := 0

/-- `mailmsg_endpoint_send` after its session check and before its doorbell: draw a sequence, push
the frame and account for it.  A send that is suspended after the check resumes here. -/
def endpointPush (endpoint : Endpoint) (role : Role) (shared : Shared) (priority : Priority)
    (type : U32) (payload : Option (Nat → U8)) (length : U32) : SendOutcome :=
  let sequence := endpointNextSequence endpoint
  let endpoint := { endpoint with nextSequence := sequence }
  let message := sendMessage endpoint.generation type sequence length payload
  let pushed := ringPush (shared.ring role priority) message
  let result := { SendResult.pending with queueResult := pushed.1 }
  if pushed.1 ≠ .ok then
    let endpoint :=
      if pushed.1 = .full then
        endpoint.updateStats priority fun stats => { stats with txFull := stats.txFull + 1 }
      else endpoint
    -- The generated value was never committed and is not a frame identifier.
    ⟨.ring pushed.1, { result with sequence := 0 }, endpoint, shared⟩
  else
    let shared := shared.setRing role priority pushed.2
    let depth := ringCount (shared.ring role priority)
    let endpoint := endpoint.updateStats priority fun stats =>
      { stats with
        txEnqueued := stats.txEnqueued + 1
        txHighWater :=
          if 0 < depth ∧ (stats.txHighWater.toNat : Int) < depth then BitVec.ofInt 32 depth
          else stats.txHighWater }
    ⟨.ok, { result with sequence := sequence }, endpoint, shared⟩

/-- `mailmsg_endpoint_send` up to the point where the frame is in the ring and accounted for; the
doorbell follows.  `result` is the caller's structure, untouched when the arguments are refused. -/
def endpointEnqueue (endpoint : Endpoint) (shared : Shared) (priority : Priority) (type : U32)
    (payload : Option (Nat → U8)) (length : U32) (result : SendResult) : SendOutcome :=
  match endpoint.role with
  | none => ⟨.invalid, result, endpoint, shared⟩
  | some role =>
      if ¬ sendArgumentsValid endpoint payload length then
        ⟨.invalid, result, endpoint, shared⟩
      else if endpointSessionValid endpoint shared ≠ .ok then
        ⟨endpointSessionValid endpoint shared, .pending, endpoint, shared⟩
      else endpointPush endpoint role shared priority type payload length

/-- The doorbell half of `mailmsg_endpoint_send`: account for what the notification backend
answered. -/
def endpointNotified (priority : Priority) (notifyResult : Int)
    (outcome : SendOutcome) : SendOutcome :=
  { outcome with
    result := { outcome.result with notifyAttempted := true, notifyResult := notifyResult }
    endpoint := outcome.endpoint.updateStats priority fun stats =>
      if notifyResult = notifySent then { stats with notifySent := stats.notifySent + 1 }
      else if notifyResult = notifyCoalesced then
        { stats with notifyCoalesced := stats.notifyCoalesced + 1 }
      else { stats with notifyFailed := stats.notifyFailed + 1 } }

/-- `mailmsg_endpoint_send` over a notification backend with its own state.  The backend is called
once, after the frame is in the ring, and only when the frame is in the ring. -/
def endpointSend {Backend : Type*} (notify : Priority → Backend → Int × Backend) (backend : Backend)
    (endpoint : Endpoint) (shared : Shared) (priority : Priority) (type : U32)
    (payload : Option (Nat → U8)) (length : U32) (result : SendResult) : SendOutcome × Backend :=
  let outcome := endpointEnqueue endpoint shared priority type payload length result
  if outcome.ret ≠ .ok then (outcome, backend)
  else
    let answered := notify priority backend
    (endpointNotified priority answered.1 outcome, answered.2)

/-- What a receive leaves behind.  The message is the one that pop copied out, if it did. -/
structure ReceiveOutcome where
  ret : EndpointResult
  endpoint : Endpoint
  shared : Shared
  message : Option Message

/-- The statistics that one receive result moves. -/
def PriorityStats.received (stats : PriorityStats) : EndpointResult → PriorityStats
  | .ring .ok => { stats with rxOk := stats.rxOk + 1 }
  | .ring .incomplete => { stats with rxIncomplete := stats.rxIncomplete + 1 }
  | .ring .badCrc => { stats with rxBadCrc := stats.rxBadCrc + 1 }
  | .ring .invalid => { stats with rxInvalid := stats.rxInvalid + 1 }
  | .staleFrame => { stats with rxStale := stats.rxStale + 1 }
  | _ => stats

/-- Pop's result as receive reports it: a good frame of another generation is consumed as stale. -/
def receiveResult (generation : U32) (popped : RingResult) (message : Option Message) :
    EndpointResult :=
  if popped = .ok ∧ message.any (fun frame => frame.generation ≠ generation) then .staleFrame
  else .ring popped

/-- `mailmsg_endpoint_receive`. -/
def endpointReceive (endpoint : Endpoint) (shared : Shared)
    (priority : Priority) : ReceiveOutcome :=
  match endpoint.role with
  | none => ⟨.invalid, endpoint, shared, none⟩
  | some role =>
      let session := endpointSessionValid endpoint shared
      if session ≠ .ok then ⟨session, endpoint, shared, none⟩
      else
        let popped := ringPop (shared.ring role.peer priority)
        let ret := receiveResult endpoint.generation popped.1 popped.2.2
        ⟨ret, endpoint.updateStats priority fun stats => stats.received ret,
          shared.setRing role.peer priority popped.2.1, popped.2.2⟩

/-- `mailmsg_endpoint_has_received`: 1, 0, or the code of `MAILMSG_RING_INVALID`. -/
def endpointHasReceived (endpoint : Endpoint) (shared : Shared) (priority : Priority) : Int :=
  match endpoint.role with
  | none => RingResult.invalid.code
  | some role =>
      if endpointSessionValid endpoint shared ≠ .ok then RingResult.invalid.code
      else ringHasData (shared.ring role.peer priority)

/-! ### What the calls can do -/

/-- The sequence generator never yields zero. -/
theorem endpointNextSequence_ne_zero (endpoint : Endpoint) : endpointNextSequence endpoint ≠ 0#32 :=
  nextNonzero_ne_zero _

/-- A valid session: the endpoint is bound, its generation is non-zero, and the header carries the
magic, the version and that generation. -/
theorem endpointSessionValid_ok_iff (endpoint : Endpoint) (shared : Shared) :
    endpointSessionValid endpoint shared = .ok ↔
      endpoint.role.isSome ∧ endpoint.generation ≠ 0#32 ∧ shared.magic = protocolMagic ∧
        shared.version = protocolVersion ∧ shared.generation = endpoint.generation := by
  unfold endpointSessionValid
  cases endpoint.role with
  | none => simp
  | some role =>
      by_cases zero : endpoint.generation = 0#32
      · simp [zero]
      · by_cases magic : shared.magic = protocolMagic
        · by_cases version : shared.version = protocolVersion
          · by_cases generation : shared.generation = endpoint.generation
            · simp [zero, magic, version, generation]
            · simp [zero, magic, version, generation]
          · simp [zero, version]
        · simp [zero, magic]

/-- A failed session check answers one of the endpoint's own codes, never a ring result. -/
theorem endpointSessionValid_ne {endpoint : Endpoint} {shared : Shared}
    (failed : endpointSessionValid endpoint shared ≠ .ok) :
    (∀ result, endpointSessionValid endpoint shared ≠ .ring result) ∧
      endpointSessionValid endpoint shared ≠ .staleFrame := by
  unfold endpointSessionValid at failed ⊢
  split
  · simp
  · split
    · simp
    · split
      · simp
      · simp_all

/-- The session check reads only the header. -/
theorem endpointSessionValid_setRing (endpoint : Endpoint) (shared : Shared) (sender : Role)
    (priority : Priority) (ring : Ring) :
    endpointSessionValid endpoint (shared.setRing sender priority ring) =
      endpointSessionValid endpoint shared := by
  simp [endpointSessionValid]

/-- A successful bind adopts the region's generation, which is not zero. -/
theorem endpointBind_ok {endpoint : Endpoint} {shared : Shared} {role : Role}
    (bound : (endpointBind endpoint shared role).1 = .ok) :
    (endpointBind endpoint shared role).2.role = some role ∧
      (endpointBind endpoint shared role).2.generation = shared.generation ∧
      shared.generation ≠ 0#32 ∧ shared.magic = protocolMagic ∧
        shared.version = protocolVersion := by
  unfold endpointBind at bound ⊢
  split at bound
  · cases bound
  · rename_i header
    split at bound
    · cases bound
    · rename_i nonzero
      have magic : shared.magic = protocolMagic := by
        by_contra wrong
        exact header (.inl wrong)
      have version : shared.version = protocolVersion := by
        by_contra wrong
        exact header (.inr wrong)
      simp [nonzero, magic, version]

/-- A message built by a valid send passes push's checks. -/
theorem sendMessage_wellFormed {generation type sequence length : U32} {payload : Option (Nat → U8)}
    (nonzero : generation ≠ 0#32) (numbered : sequence ≠ 0#32)
    (short : length.toNat ≤ payloadBytes) :
    ¬ (sendMessage generation type sequence length payload).malformed := by
  simp only [Message.malformed, Frame.malformed, Message.frame, sendMessage]
  have fits : ¬ payloadBytes < length.toNat := by omega
  simp [nonzero, numbered, fits]

/-- The endpoint after a send drew its sequence. -/
def Endpoint.drawn (endpoint : Endpoint) : Endpoint :=
  { endpoint with nextSequence := endpointNextSequence endpoint }

/-- Everything that the part of a send after its session check can do. -/
inductive Pushed (endpoint : Endpoint) (role : Role) (shared : Shared) (priority : Priority)
    (message : Message) (outcome : SendOutcome) : Prop where
  /-- The ring is full: a sequence is drawn and the region does not change. -/
  | full (noSpace : ringNext (shared.ring role priority).producer =
        (shared.ring role priority).consumer)
      (ret : outcome.ret = .ring .full) (queueResult : outcome.result.queueResult = .full)
      (sameShared : outcome.shared = shared)
      (counted : outcome.endpoint = endpoint.drawn.updateStats priority fun stats =>
        { stats with txFull := stats.txFull + 1 })
  /-- One committed frame is appended to the ring. -/
  | queued (space : ringNext (shared.ring role priority).producer ≠
        (shared.ring role priority).consumer)
      (ret : outcome.ret = .ok) (sequence : outcome.result.sequence = message.sequence)
      (pushed : (ringPush (shared.ring role priority) message).1 = .ok)
      (published : outcome.shared = shared.setRing role priority
        (ringPush (shared.ring role priority) message).2)
      (sameRole : outcome.endpoint.role = endpoint.role)
      (sameGeneration : outcome.endpoint.generation = endpoint.generation)
      (drawn : outcome.endpoint.nextSequence = endpointNextSequence endpoint)

theorem endpointPush_spec {endpoint : Endpoint} (nonzero : endpoint.generation ≠ 0#32) (role : Role)
    (shared : Shared) (priority : Priority) (type : U32) (payload : Option (Nat → U8))
    {length : U32} (short : length.toNat ≤ payloadBytes) :
    Pushed endpoint role shared priority
      (sendMessage endpoint.generation type (endpointNextSequence endpoint) length payload)
      (endpointPush endpoint role shared priority type payload length) := by
  have valid : ¬ (sendMessage endpoint.generation type (endpointNextSequence endpoint) length
      payload).malformed :=
    sendMessage_wellFormed nonzero (endpointNextSequence_ne_zero endpoint) short
  rcases ringPush_cases (shared.ring role priority)
      (sendMessage endpoint.generation type (endpointNextSequence endpoint) length payload)
    with ⟨malformed, -⟩ | ⟨-, noSpace, pushed⟩ | ⟨-, space, pushed⟩
  · exact absurd malformed valid
  · refine .full noSpace ?_ ?_ ?_ ?_ <;> simp [endpointPush, pushed, Endpoint.drawn]
  · refine .queued space ?_ ?_ (by rw [pushed]) ?_ ?_ ?_ ?_ <;>
      simp [endpointPush, pushed, Endpoint.updateStats]

/-- Everything that the queueing half of a send can do. -/
inductive Enqueued (endpoint : Endpoint) (shared : Shared) (priority : Priority) (type : U32)
    (payload : Option (Nat → U8)) (length : U32) (outcome : SendOutcome) : Prop where
  /-- The arguments or the session are refused and nothing changes. -/
  | refused (ret : outcome.ret ≠ .ok) (notFull : outcome.ret ≠ .ring .full)
      (sameEndpoint : outcome.endpoint = endpoint) (sameShared : outcome.shared = shared)
      (cause : ¬ sendArgumentsValid endpoint payload length ∨
        endpointSessionValid endpoint shared ≠ .ok)
  /-- The checks pass and the frame is offered to the endpoint's own ring. -/
  | pushed (role : Role) (bound : endpoint.role = some role)
      (session : endpointSessionValid endpoint shared = .ok)
      (arguments : sendArgumentsValid endpoint payload length)
      (push : Pushed endpoint role shared priority
        (sendMessage endpoint.generation type (endpointNextSequence endpoint) length payload) outcome)

/-- The length of a send that passes its initial check. -/
theorem sendArgumentsValid_length {endpoint : Endpoint} {payload : Option (Nat → U8)} {length : U32}
    (arguments : sendArgumentsValid endpoint payload length) : length.toNat ≤ payloadBytes := by
  simp only [sendArgumentsValid, Bool.and_eq_true, decide_eq_true_eq] at arguments
  exact arguments.1.2

theorem endpointEnqueue_spec (endpoint : Endpoint) (shared : Shared) (priority : Priority)
    (type : U32) (payload : Option (Nat → U8)) (length : U32) (result : SendResult) :
    Enqueued endpoint shared priority type payload length
      (endpointEnqueue endpoint shared priority type payload length result) := by
  cases bound : endpoint.role with
  | none =>
      have refusal : ¬ sendArgumentsValid endpoint payload length := by
        simp [sendArgumentsValid, bound]
      refine .refused ?_ ?_ ?_ ?_ (.inl refusal) <;> simp [endpointEnqueue, bound]
  | some role =>
      by_cases arguments : sendArgumentsValid endpoint payload length
      · by_cases session : endpointSessionValid endpoint shared = .ok
        · obtain ⟨-, nonzero, -⟩ := (endpointSessionValid_ok_iff endpoint shared).mp session
          have executed : endpointEnqueue endpoint shared priority type payload length result =
              endpointPush endpoint role shared priority type payload length := by
            simp [endpointEnqueue, bound, arguments, session]
          rw [executed]
          exact .pushed role bound session arguments
            (endpointPush_spec nonzero role shared priority type payload
              (sendArgumentsValid_length arguments))
        · refine .refused ?_ ?_ ?_ ?_ (.inr session)
          · simp [endpointEnqueue, bound, arguments, session]
          · have code := (endpointSessionValid_ne session).1 .full
            simpa [endpointEnqueue, bound, arguments, session] using code
          · simp [endpointEnqueue, bound, arguments, session]
          · simp [endpointEnqueue, bound, arguments, session]
      · refine .refused ?_ ?_ ?_ ?_ (.inl arguments) <;> simp [endpointEnqueue, bound, arguments]

/-- The doorbell half of a send changes statistics and the notification fields only. -/
structure SameQueueing (queued sent : SendOutcome) : Prop where
  ret : sent.ret = queued.ret
  shared : sent.shared = queued.shared
  queueResult : sent.result.queueResult = queued.result.queueResult
  sequence : sent.result.sequence = queued.result.sequence
  role : sent.endpoint.role = queued.endpoint.role
  generation : sent.endpoint.generation = queued.endpoint.generation
  nextSequence : sent.endpoint.nextSequence = queued.endpoint.nextSequence

theorem endpointSend_sameQueueing {Backend : Type*} (notify : Priority → Backend → Int × Backend)
    (backend : Backend) (endpoint : Endpoint) (shared : Shared) (priority : Priority) (type : U32)
    (payload : Option (Nat → U8)) (length : U32) (result : SendResult) :
    SameQueueing (endpointEnqueue endpoint shared priority type payload length result)
      (endpointSend notify backend endpoint shared priority type payload length result).1 := by
  unfold endpointSend
  generalize endpointEnqueue endpoint shared priority type payload length result = queued
  by_cases failed : queued.ret = .ok
  · simp only [failed, ne_eq, not_true_eq_false, if_false]
    exact ⟨rfl, rfl, rfl, rfl, rfl, rfl, rfl⟩
  · simp only [failed, ne_eq, not_false_eq_true, if_true]
    exact ⟨rfl, rfl, rfl, rfl, rfl, rfl, rfl⟩

/-- A receive answers OK exactly for a good frame of the endpoint's generation. -/
theorem receiveResult_ok {generation : U32} {ring : Ring}
    (ok : receiveResult generation (ringPop ring).1 (ringPop ring).2.2 = .ok) :
    ∃ message, ringPop ring = (.ok, (ringPop ring).2.1, some message) ∧
      message.generation = generation := by
  rcases ringPop_cases ring with ⟨-, same⟩ | ⟨-, -, same⟩ | ⟨-, -, result, -, -, same⟩
  · simp [same, receiveResult] at ok
  · simp [same, receiveResult] at ok
  · rw [same] at ok ⊢
    refine ⟨ring.slot ring.consumer, ?_, ?_⟩
    · by_cases good : result = .ok
      · rw [good]
      · simp [receiveResult, good] at ok
    · by_contra different
      by_cases good : result = .ok
      · simp [receiveResult, good, different] at ok
      · simp [receiveResult, good] at ok

/-- Everything that a receive can do. -/
inductive Received (endpoint : Endpoint) (shared : Shared) (priority : Priority)
    (outcome : ReceiveOutcome) : Prop where
  /-- No ring is touched: unbound endpoint or invalid session. -/
  | refused (ret : ∀ result, outcome.ret ≠ .ring result) (notStale : outcome.ret ≠ .staleFrame)
      (sameEndpoint : outcome.endpoint = endpoint)
      (sameShared : outcome.shared = shared) (nothing : outcome.message = none)
      (cause : endpointSessionValid endpoint shared ≠ .ok)
  /-- The peer's ring was popped; the pop may have found nothing to take. -/
  | popped (role : Role) (bound : endpoint.role = some role)
      (session : endpointSessionValid endpoint shared = .ok)
      (ret : outcome.ret = receiveResult endpoint.generation
        (ringPop (shared.ring role.peer priority)).1 (ringPop (shared.ring role.peer priority)).2.2)
      (released : outcome.shared = shared.setRing role.peer priority
        (ringPop (shared.ring role.peer priority)).2.1)
      (message : outcome.message = (ringPop (shared.ring role.peer priority)).2.2)
      (counted : outcome.endpoint = endpoint.updateStats priority fun stats =>
        stats.received outcome.ret)

theorem endpointReceive_spec (endpoint : Endpoint) (shared : Shared) (priority : Priority) :
    Received endpoint shared priority (endpointReceive endpoint shared priority) := by
  cases bound : endpoint.role with
  | none =>
      have invalid : endpointSessionValid endpoint shared ≠ .ok := by
        simp [endpointSessionValid, bound]
      refine .refused ?_ ?_ ?_ ?_ ?_ invalid <;> simp [endpointReceive, bound]
  | some role =>
      by_cases session : endpointSessionValid endpoint shared = .ok
      · refine .popped role bound session ?_ ?_ ?_ ?_ <;> simp [endpointReceive, bound, session]
      · refine .refused ?_ ?_ ?_ ?_ ?_ session
        · intro result
          have code := (endpointSessionValid_ne session).1 result
          simpa [endpointReceive, bound, session] using code
        · have code := (endpointSessionValid_ne session).2
          simpa [endpointReceive, bound, session] using code
        · simp [endpointReceive, bound, session]
        · simp [endpointReceive, bound, session]
        · simp [endpointReceive, bound, session]

/-- The slot that the consumer reads next. -/
def Ring.head (ring : Ring) : Message := ring.slot ring.consumer

/-- The ring after the consumer released that slot. -/
def Ring.released (ring : Ring) : Ring := { ring with consumer := ringNext ring.consumer }

/-- Everything that a receive on a valid session can find in its ring, with the answer, the ring
that it leaves and the message that it copies out. -/
inductive Found (generation : U32) (ring : Ring) : EndpointResult → Ring →
    Option Message → Prop where
  | empty (nothing : ring.consumer = ring.producer) : Found generation ring (.ring .empty) ring none
  | incomplete (something : ring.consumer ≠ ring.producer)
      (pending : ring.head.commit ≠ ring.head.sequence) :
      Found generation ring (.ring .incomplete) ring none
  | invalid (something : ring.consumer ≠ ring.producer)
      (committed : ring.head.commit = ring.head.sequence) (malformed : ring.head.malformed) :
      Found generation ring (.ring .invalid) ring.released (some ring.head)
  | badCrc (something : ring.consumer ≠ ring.producer)
      (committed : ring.head.commit = ring.head.sequence) (wellFormed : ¬ ring.head.malformed)
      (mismatch : ring.head.crc32 ≠ frameCrc32 ring.head) :
      Found generation ring (.ring .badCrc) ring.released (some ring.head)
  | stale (something : ring.consumer ≠ ring.producer)
      (committed : ring.head.commit = ring.head.sequence) (wellFormed : ¬ ring.head.malformed)
      (matching : ring.head.crc32 = frameCrc32 ring.head)
      (old : ring.head.generation ≠ generation) :
      Found generation ring .staleFrame ring.released (some ring.head)
  | good (something : ring.consumer ≠ ring.producer)
      (committed : ring.head.commit = ring.head.sequence) (wellFormed : ¬ ring.head.malformed)
      (matching : ring.head.crc32 = frameCrc32 ring.head)
      (current : ring.head.generation = generation) :
      Found generation ring .ok ring.released (some ring.head)

theorem ringPop_found (generation : U32) (ring : Ring) :
    Found generation ring (receiveResult generation (ringPop ring).1 (ringPop ring).2.2)
      (ringPop ring).2.1 (ringPop ring).2.2 := by
  by_cases nothing : ring.consumer = ring.producer
  · have popped : ringPop ring = (.empty, ring, none) := by simp [ringPop, nothing]
    rw [popped]
    exact .empty nothing
  · by_cases committed : ring.head.commit = ring.head.sequence
    · have complete : (ring.slot ring.consumer).commit = (ring.slot ring.consumer).sequence :=
        committed
      by_cases malformed : ring.head.malformed
      · have popped : ringPop ring = (.invalid, ring.released, some ring.head) := by
          have refused : (ring.slot ring.consumer).malformed := malformed
          simp [ringPop, nothing, complete, refused, Ring.released, Ring.head]
        rw [popped]
        exact .invalid nothing committed malformed
      · have accepted : ¬ (ring.slot ring.consumer).malformed := malformed
        by_cases matching : ring.head.crc32 = frameCrc32 ring.head
        · have popped : ringPop ring = (.ok, ring.released, some ring.head) := by
            have sound : (ring.slot ring.consumer).crc32 = frameCrc32 (ring.slot ring.consumer) :=
              matching
            simp [ringPop, nothing, complete, accepted, sound, Ring.released, Ring.head]
          rw [popped]
          by_cases current : ring.head.generation = generation
          · simpa [receiveResult, current] using
              Found.good nothing committed malformed matching current
          · simpa [receiveResult, current] using
              Found.stale nothing committed malformed matching current
        · have popped : ringPop ring = (.badCrc, ring.released, some ring.head) := by
            have damaged : (ring.slot ring.consumer).crc32 ≠ frameCrc32 (ring.slot ring.consumer) :=
              matching
            simp [ringPop, nothing, complete, accepted, damaged, Ring.released, Ring.head]
          rw [popped]
          exact .badCrc nothing committed malformed matching
    · have popped : ringPop ring = (.incomplete, ring, none) := by
        have pending : (ring.slot ring.consumer).commit ≠ (ring.slot ring.consumer).sequence :=
          committed
        simp [ringPop, nothing, pending]
      rw [popped]
      exact .incomplete nothing committed

/-- A receive on a valid session, by what it finds in its ring. -/
theorem endpointReceive_found {endpoint : Endpoint} {shared : Shared} {role : Role}
    (priority : Priority) (bound : endpoint.role = some role)
    (session : endpointSessionValid endpoint shared = .ok) :
    ∃ ret ring message,
      Found endpoint.generation (shared.ring role.peer priority) ret ring message ∧
      endpointReceive endpoint shared priority =
        ⟨ret, endpoint.updateStats priority fun stats => stats.received ret,
          shared.setRing role.peer priority ring, message⟩ := by
  refine ⟨_, _, _, ringPop_found endpoint.generation (shared.ring role.peer priority), ?_⟩
  simp [endpointReceive, bound, session]

/-- A frame taken from a ring was its head. -/
theorem Found.contents {generation : U32} {ring ring' : Ring} {ret : EndpointResult}
    {message : Option Message}
    (wellFormed : ring.WellFormed) (found : Found generation ring ret ring' message) :
    ring'.WellFormed ∧ ring.contents = message.toList ++ ring'.contents := by
  have released (something : ring.consumer ≠ ring.producer) :
      ring.released.WellFormed ∧
        ring.contents = (some ring.head).toList ++ ring.released.contents :=
    ⟨⟨wellFormed.producer, ringNext_lt _⟩, wellFormed.contents_release something⟩
  cases found with
  | empty nothing => exact ⟨wellFormed, rfl⟩
  | incomplete something pending => exact ⟨wellFormed, rfl⟩
  | invalid something committed malformed => exact released something
  | badCrc something committed accepted mismatch => exact released something
  | stale something committed accepted matching old => exact released something
  | good something committed accepted matching current => exact released something

/-- A committed frame of the generation at the head is what a receive finds. -/
theorem Found.of_committed {generation : U32} {ring ring' : Ring} {ret : EndpointResult}
    {message : Option Message} (found : Found generation ring ret ring' message)
    (something : ring.consumer ≠ ring.producer) {frame : Frame} (head : ring.head = frame.committed)
    (valid : ¬ frame.malformed) (current : frame.generation = generation) :
    ret = .ok ∧ ring' = ring.released ∧ message = some frame.committed := by
  cases found with
  | empty nothing => exact absurd nothing something
  | incomplete _ pending =>
      rw [head] at pending
      exact absurd rfl pending
  | invalid _ committed malformed =>
      rw [head] at malformed
      exact absurd malformed valid
  | badCrc _ committed wellFormed mismatch =>
      rw [head] at mismatch
      exact absurd rfl mismatch
  | stale _ committed wellFormed matching old =>
      rw [head] at old
      exact absurd current old
  | good _ committed wellFormed matching _ => exact ⟨rfl, rfl, by rw [head]⟩

/-! ### Calls on rings of committed frames -/

/-- The calls that draw a sequence or count keep what the endpoint is bound to. -/
structure Endpoint.SameBinding (before after : Endpoint) : Prop where
  role : after.role = before.role
  generation : after.generation = before.generation

theorem Endpoint.SameBinding.refl (endpoint : Endpoint) :
    endpoint.SameBinding endpoint := ⟨rfl, rfl⟩

theorem Endpoint.sameBinding_updateStats (endpoint : Endpoint) (priority : Priority)
    (update : PriorityStats → PriorityStats) :
    endpoint.SameBinding (endpoint.updateStats priority update) := ⟨rfl, rfl⟩

/-- The session check reads the binding and the header. -/
theorem Endpoint.SameBinding.session {before after : Endpoint} (same : before.SameBinding after)
    (shared : Shared) : endpointSessionValid after shared = endpointSessionValid before shared := by
  simp [endpointSessionValid, same.role, same.generation]

section Committed

variable {endpoint : Endpoint} {shared : Shared} (priority : Priority) {role : Role}
  {frames : List Frame}

/-- A receive on a ring of committed frames takes the oldest one. -/
theorem endpointReceive_cons {frame : Frame} (bound : endpoint.role = some role)
    (session : endpointSessionValid endpoint shared = .ok)
    (holds : (shared.ring role.peer priority).Holds (frame :: frames))
    (current : frame.generation = endpoint.generation) :
    (ringPop (shared.ring role.peer priority)).2.1.Holds frames ∧
      endpointReceive endpoint shared priority =
        ⟨.ok, endpoint.updateStats priority fun stats => stats.received .ok,
          shared.setRing role.peer priority (ringPop (shared.ring role.peer priority)).2.1,
          some frame.committed⟩ := by
  obtain ⟨good, message, rest⟩ := holds.pop_cons
  have fresh : frame.committed.generation = endpoint.generation := current
  refine ⟨rest, ?_⟩
  simp [endpointReceive, bound, session, good, message, receiveResult, fresh]

/-- A receive on an empty ring changes nothing. -/
theorem endpointReceive_nil (bound : endpoint.role = some role)
    (session : endpointSessionValid endpoint shared = .ok)
    (holds : (shared.ring role.peer priority).Holds []) :
    endpointReceive endpoint shared priority = ⟨.ring .empty, endpoint, shared, none⟩ := by
  have same : endpoint.updateStats priority (fun stats => stats.received (.ring .empty)) =
      endpoint := by
    simp [Endpoint.updateStats, PriorityStats.received]
  simp [endpointReceive, bound, session, holds.pop_nil, receiveResult, same]

/-- The availability test on a ring of committed frames. -/
theorem endpointHasReceived_eq_one_iff (bound : endpoint.role = some role)
    (session : endpointSessionValid endpoint shared = .ok)
    (holds : (shared.ring role.peer priority).Holds frames) :
    endpointHasReceived endpoint shared priority = 1 ↔ frames ≠ [] := by
  rw [ne_eq, ← holds.empty_iff]
  simp [endpointHasReceived, bound, session, ringHasData, eq_comm]

/-- A send on a ring of committed frames with room appends its frame. -/
theorem endpointEnqueue_room (type : U32) {length : U32} {payload : Option (Nat → U8)}
    (result : SendResult)
    (bound : endpoint.role = some role) (session : endpointSessionValid endpoint shared = .ok)
    (arguments : sendArgumentsValid endpoint payload length)
    (holds : (shared.ring role priority).Holds frames) (room : frames.length < ringSlots - 1) :
    ∃ (ring : Ring) (after : Endpoint) (report : SendResult),
      ring.Holds (frames ++
        [(sendMessage endpoint.generation type (endpointNextSequence endpoint) length payload).frame]) ∧
      endpoint.SameBinding after ∧ after.nextSequence = endpointNextSequence endpoint ∧
      report.sequence = endpointNextSequence endpoint ∧
      endpointEnqueue endpoint shared priority type payload length result =
        ⟨.ok, report, after, shared.setRing role priority ring⟩ := by
  have spec := endpointEnqueue_spec endpoint shared priority type payload length result
  generalize endpointEnqueue endpoint shared priority type payload length result = outcome at spec
  cases spec with
  | refused ret notFull sameEndpoint sameShared cause =>
      rcases cause with wrong | wrong
      · exact absurd arguments wrong
      · exact absurd session wrong
  | pushed own hasRole valid checked push =>
      rw [bound] at hasRole
      cases hasRole
      cases push with
      | full noSpace ret queueResult sameShared counted =>
          have seven := holds.full_iff.mp noSpace
          omega
      | queued space ret sequence pushed published sameRole sameGeneration drawn =>
          refine ⟨_, outcome.endpoint, outcome.result, holds.push pushed,
            ⟨sameRole, sameGeneration⟩, drawn, sequence, ?_⟩
          obtain ⟨outRet, outResult, outEndpoint, outShared⟩ := outcome
          simp only at ret published
          rw [ret, published]

end Committed

end MailMsg
