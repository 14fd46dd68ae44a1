/-
Module: MailMsg.Protocol.Sending
Purpose: The whole of `mailmsg_endpoint_send`, from its argument check to its doorbell: a send
  either commits one frame and rings once, or leaves the region and the backend as they were.
Source: LZAMP/protocol/mailmsg/mailmsg_endpoint.c, LZAMP/protocol/mailmsg/mailmsg_notify.h
Trusted boundary: human-reviewed embedding of the source
Main exports: endpointSendCall, endpointSendCall_priority, SendRefused, SendCommitted,
  endpointSend_atomic
-/
import MailMsg.Protocol.Endpoint

namespace MailMsg

/-! ### The call -/

/-- A notification backend with its own state.  It is handed the region as it is at the call, so
that what it could observe is part of the model. -/
abbrev NotifyOps (Backend : Type*) := Priority → Shared → Backend → Int × Backend

/-- A `priority` argument as the callers pass it, a word; the endpoint calls refuse it from
`MAILMSG_PRIORITY_COUNT` on. -/
def priorityArgument (word : U32) : Option Priority :=
  if inside : word.toNat < priorityCount then some ⟨word.toNat, inside⟩ else none

/-- What a send leaves behind, with the state of the backend. -/
structure SendCall (Backend : Type*) where
  outcome : SendOutcome
  backend : Backend

/-- `mailmsg_endpoint_send` on a word for the priority, over any notification backend. -/
def endpointSendCall {Backend : Type*} (notify : NotifyOps Backend) (backend : Backend)
    (endpoint : Endpoint) (shared : Shared) (priority : U32) (type : U32)
    (payload : Option (Nat → U8)) (length : U32) (result : SendResult) : SendCall Backend :=
  match priorityArgument priority with
  | none => ⟨⟨.invalid, result, endpoint, shared⟩, backend⟩
  | some priority =>
      let outcome := endpointEnqueue endpoint shared priority type payload length result
      if outcome.ret ≠ .ok then ⟨outcome, backend⟩
      else
        -- The frame is in the ring and its producer index is published before the doorbell.
        let answered := notify priority outcome.shared backend
        ⟨endpointNotified priority answered.1 outcome, answered.2⟩

/-- The initial check of the call: a priority of the protocol, a bound endpoint, and a payload that
is there and short enough. -/
def sendCallAccepted (endpoint : Endpoint) (priority : U32) (payload : Option (Nat → U8))
    (length : U32) : Bool :=
  (priorityArgument priority).isSome && sendArgumentsValid endpoint payload length

@[simp] theorem priorityArgument_ofNat (priority : Priority) :
    priorityArgument (BitVec.ofNat 32 priority.val) = some priority := by
  have small : priority.val < 4 := priority.isLt
  have word : (BitVec.ofNat 32 priority.val).toNat = priority.val := by
    rw [BitVec.toNat_ofNat]
    omega
  simp [priorityArgument, word]

/-- A word that is accepted as a priority is its number. -/
theorem priorityArgument_val {word : U32} {priority : Priority}
    (accepted : priorityArgument word = some priority) : priority.val = word.toNat := by
  unfold priorityArgument at accepted
  split at accepted
  · cases accepted
    rfl
  · cases accepted

/-- On a priority of the protocol, and a backend that does not look at the region, the call is the
send that the two parties' models use. -/
theorem endpointSendCall_priority {Backend : Type*} (notify : Priority → Backend → Int × Backend)
    (backend : Backend) (endpoint : Endpoint) (shared : Shared) (priority : Priority) (type : U32)
    (payload : Option (Nat → U8)) (length : U32) (result : SendResult) :
    endpointSendCall (fun priority _ backend => notify priority backend) backend endpoint shared
        (BitVec.ofNat 32 priority.val) type payload length result =
      ⟨(endpointSend notify backend endpoint shared priority type payload length result).1,
        (endpointSend notify backend endpoint shared priority type payload length result).2⟩ := by
  simp only [endpointSendCall, priorityArgument_ofNat, endpointSend]
  split
  · rfl
  · rfl

/-! ### The backend's calls -/

/-- The backend with a record of its calls: the priority and the region of each, oldest first. -/
def NotifyOps.recorded {Backend : Type*} (notify : NotifyOps Backend) :
    NotifyOps (Backend × List (Priority × Shared)) := fun priority shared state =>
  ((notify priority shared state.1).1,
    (notify priority shared state.1).2, state.2 ++ [(priority, shared)])

/-- A send over a backend whose calls are recorded from this send on. -/
def recordedSend {Backend : Type*} (notify : NotifyOps Backend) (backend : Backend)
    (endpoint : Endpoint) (shared : Shared) (priority : U32) (type : U32)
    (payload : Option (Nat → U8)) (length : U32) (result : SendResult) :
    SendCall (Backend × List (Priority × Shared)) :=
  endpointSendCall notify.recorded (backend, []) endpoint shared priority type payload length result

/-- The record does not change what the backend is and answers. -/
theorem recordedSend_erased {Backend : Type*} (notify : NotifyOps Backend) (backend : Backend)
    (endpoint : Endpoint) (shared : Shared) (priority : U32) (type : U32)
    (payload : Option (Nat → U8)) (length : U32) (result : SendResult) :
    endpointSendCall notify backend endpoint shared priority type payload length result =
      ⟨(recordedSend notify backend endpoint shared priority type payload length result).outcome,
        (recordedSend notify backend endpoint shared priority type payload length
          result).backend.1⟩ := by
  unfold recordedSend endpointSendCall
  cases priorityArgument priority with
  | none => rfl
  | some own =>
      dsimp only
      split
      · rfl
      · rfl

/-! ### What a send promises -/

/-- A send that did not return OK: nothing was written, nobody was notified, and the only counter
that moved is `tx_full` of the priority of a full ring. -/
structure SendRefused {Backend : Type*} (endpoint : Endpoint) (shared : Shared) (backend : Backend)
    (priority : U32) (payload : Option (Nat → U8)) (length : U32)
    (call : SendCall (Backend × List (Priority × Shared))) : Prop where
  sameShared : call.outcome.shared = shared
  sameBackend : call.backend = (backend, [])
  stats : ∀ other, call.outcome.endpoint.stats other =
    if call.outcome.ret = .ring .full ∧ other.val = priority.toNat then
      { endpoint.stats other with txFull := (endpoint.stats other).txFull + 1 }
    else endpoint.stats other
  report : sendCallAccepted endpoint priority payload length →
    call.outcome.result.sequence = 0#32 ∧ call.outcome.result.notifyAttempted = false

/-- The frame that a send commits: the endpoint's generation, the caller's type and length, the
payload padded with zeros, and the sequence that the caller is told. -/
structure SentMessage (generation type length sequence : U32) (payload : Option (Nat → U8))
    (message : Message) : Prop where
  ofSession : message.generation = generation
  typed : message.type = type
  sized : message.length = length
  padded : ∀ index, message.payload index =
    if index.val < length.toNat then (payload.getD fun _ => 0#8) index.val else 0#8
  reported : message.sequence = sequence
  numbered : message.sequence ≠ 0#32
  commit : message.commit = message.sequence
  crc32 : message.crc32 = frameCrc32 message

/-- A send that returned OK: one frame is appended to the endpoint's ring of that priority, every
other ring and the header are as they were, and the backend was called once, with that frame
published. -/
structure SendCommitted {Backend : Type*} (notify : NotifyOps Backend) (endpoint : Endpoint)
    (shared : Shared) (backend : Backend) (role : Role) (priority : Priority) (type : U32)
    (payload : Option (Nat → U8)) (length : U32)
    (call : SendCall (Backend × List (Priority × Shared))) : Prop where
  bound : endpoint.role = some role
  fits : length.toNat ≤ payloadBytes
  given : length ≠ 0#32 → payload.isSome
  appended : ∃ message,
    SentMessage endpoint.generation type length call.outcome.result.sequence payload message ∧
      (call.outcome.shared.ring role priority).contents =
        (shared.ring role priority).contents ++ [message]
  published : (call.outcome.shared.ring role priority).producer =
    ringNext (shared.ring role priority).producer
  consumer : (call.outcome.shared.ring role priority).consumer =
    (shared.ring role priority).consumer
  otherRings : ∀ sender other, (sender, other) ≠ (role, priority) →
    call.outcome.shared.ring sender other = shared.ring sender other
  magic : call.outcome.shared.magic = shared.magic
  version : call.outcome.shared.version = shared.version
  generation : call.outcome.shared.generation = shared.generation
  calls : call.backend.2 = [(priority, call.outcome.shared)]
  answered : call.backend.1 = (notify priority call.outcome.shared backend).2
  notifyAttempted : call.outcome.result.notifyAttempted = true
  notifyResult : call.outcome.result.notifyResult = (notify priority call.outcome.shared backend).1

/-! ### Every refusal leaves nothing behind

A send can fail at the arguments, at the session, in the push or at the doorbell.  Only at the
doorbell has anything been committed.
-/

section Refusal

variable (endpoint : Endpoint) (shared : Shared) (type : U32) (payload : Option (Nat → U8))
  (length : U32) (result : SendResult)

/-- A send whose arguments were accepted and that is refused later reports no frame. -/
theorem endpointEnqueue_report (priority : Priority)
    (accepted : sendArgumentsValid endpoint payload length)
    (refused : (endpointEnqueue endpoint shared priority type payload length result).ret ≠ .ok) :
    (endpointEnqueue endpoint shared priority type payload length result).result.sequence = 0#32 ∧
      (endpointEnqueue endpoint shared priority type payload length result).result.notifyAttempted =
        false := by
  cases bound : endpoint.role with
  | none => simp [sendArgumentsValid, bound] at accepted
  | some role =>
      by_cases session : endpointSessionValid endpoint shared = .ok
      · have executed : endpointEnqueue endpoint shared priority type payload length result =
            endpointPush endpoint role shared priority type payload length := by
          simp [endpointEnqueue, bound, accepted, session]
        rw [executed] at refused ⊢
        unfold endpointPush at refused ⊢
        dsimp only at refused ⊢
        split at refused
        · rename_i failed
          rw [if_pos failed]
          exact ⟨rfl, rfl⟩
        · exact absurd rfl refused
      · have executed : endpointEnqueue endpoint shared priority type payload length result =
            ⟨endpointSessionValid endpoint shared, .pending, endpoint, shared⟩ := by
          simp [endpointEnqueue, bound, accepted, session]
        rw [executed]
        exact ⟨rfl, rfl⟩

/-- A refused send counts a full ring of its own priority and nothing else. -/
theorem endpointEnqueue_refused_stats (priority : Priority)
    (refused : (endpointEnqueue endpoint shared priority type payload length result).ret ≠ .ok) :
    ∀ other, (endpointEnqueue endpoint shared priority type payload length
        result).endpoint.stats other =
      if (endpointEnqueue endpoint shared priority type payload length result).ret = .ring .full ∧
          other = priority then
        { endpoint.stats other with txFull := (endpoint.stats other).txFull + 1 }
      else endpoint.stats other := by
  have spec := endpointEnqueue_spec endpoint shared priority type payload length result
  generalize endpointEnqueue endpoint shared priority type payload length result = outcome
    at refused spec ⊢
  intro other
  cases spec with
  | refused ret notFull sameEndpoint sameShared cause => simp [notFull, sameEndpoint]
  | pushed role bound session arguments push =>
      cases push with
      | queued space ret sequence pushed published sameRole sameGeneration drawn =>
          exact absurd ret refused
      | full noSpace ret queueResult sameShared counted =>
          by_cases own : other = priority
          · rw [own, counted]
            simp [ret, Endpoint.updateStats, Endpoint.drawn]
          · rw [counted]
            simp [own, Endpoint.updateStats, Endpoint.drawn]

/-- A refused send leaves the region. -/
theorem endpointEnqueue_refused_shared (priority : Priority)
    (refused : (endpointEnqueue endpoint shared priority type payload length result).ret ≠ .ok) :
    (endpointEnqueue endpoint shared priority type payload length result).shared = shared := by
  cases endpointEnqueue_spec endpoint shared priority type payload length result with
  | refused ret notFull sameEndpoint sameShared cause => exact sameShared
  | pushed role bound session arguments push =>
      cases push with
      | queued space ret sequence pushed published sameRole sameGeneration drawn =>
          exact absurd ret refused
      | full noSpace ret queueResult sameShared counted => exact sameShared

end Refusal

/-! ### What an accepted send appends -/

/-- The committed frame of a send's message is what the caller asked for. -/
theorem sentMessage_committed {endpoint : Endpoint} (type length : U32)
    (payload : Option (Nat → U8)) :
    SentMessage endpoint.generation type length (endpointNextSequence endpoint) payload
      (sendMessage endpoint.generation type (endpointNextSequence endpoint) length
        payload).frame.committed where
  ofSession := rfl
  typed := rfl
  sized := rfl
  padded := by
    intro index
    cases payload with
    | none => simp [Frame.committed, Message.frame, sendMessage]
    | some bytes => simp [Frame.committed, Message.frame, sendMessage]
  reported := rfl
  numbered := endpointNextSequence_ne_zero endpoint
  commit := rfl
  crc32 := rfl

/-- The send with its doorbell, once the queueing half has put a frame into the ring. -/
theorem sendCommitted_of_pushed {Backend : Type*} (notify : NotifyOps Backend) (backend : Backend)
    {endpoint : Endpoint} {shared : Shared} {role : Role} {priority : Priority} {type length : U32}
    {payload : Option (Nat → U8)} {outcome : SendOutcome} (bound : endpoint.role = some role)
    (arguments : sendArgumentsValid endpoint payload length)
    (wellFormed : (shared.ring role priority).WellFormed)
    (push : Pushed endpoint role shared priority
      (sendMessage endpoint.generation type (endpointNextSequence endpoint) length payload) outcome)
    (ok : outcome.ret = .ok) :
    SendCommitted notify endpoint shared backend role priority type payload length
      ⟨endpointNotified priority (notify.recorded priority outcome.shared (backend, [])).1 outcome,
        (notify.recorded priority outcome.shared (backend, [])).2⟩ := by
  cases push with
  | full noSpace ret queueResult sameShared counted =>
      rw [ret] at ok
      cases ok
  | queued space ret sequence pushed published sameRole sameGeneration drawn =>
      rw [(ringPush_ok pushed).2] at published
      simp only [sendArgumentsValid, Bool.and_eq_true, Bool.or_eq_true, beq_iff_eq] at arguments
      exact
        { bound := bound
          fits := of_decide_eq_true arguments.1.2
          given := fun nonzero => arguments.2.resolve_left nonzero
          appended := by
            refine ⟨(sendMessage endpoint.generation type (endpointNextSequence endpoint) length
              payload).frame.committed, ?_, ?_⟩
            · change SentMessage _ _ _ outcome.result.sequence _ _
              rw [sequence]
              exact sentMessage_committed type length payload
            · change (outcome.shared.ring role priority).contents = _
              rw [published, Shared.ring_setRing_self]
              exact wellFormed.contents_publish space _
          published := by
            change (outcome.shared.ring role priority).producer = _
            rw [published, Shared.ring_setRing_self]
            rfl
          consumer := by
            change (outcome.shared.ring role priority).consumer = _
            rw [published, Shared.ring_setRing_self]
            rfl
          otherRings := by
            intro sender other different
            change outcome.shared.ring sender other = _
            rw [published]
            apply Shared.ring_setRing_of_ne
            by_contra same
            push Not at same
            exact different (Prod.ext same.1 same.2)
          magic := by
            change outcome.shared.magic = _
            rw [published, Shared.setRing_magic]
          version := by
            change outcome.shared.version = _
            rw [published, Shared.setRing_version]
          generation := by
            change outcome.shared.generation = _
            rw [published, Shared.setRing_generation]
          calls := rfl
          answered := rfl
          notifyAttempted := rfl
          notifyResult := rfl }

/-- A send is atomic and touches one ring only.  For every endpoint, region, backend and arguments,
a call that does not return OK leaves the region and the backend and counts at most a full ring; a
call that returns OK appends the one frame that was asked for and notifies once, after publishing
it, whatever the backend answers. -/
theorem endpointSend_atomic {Backend : Type*} (notify : NotifyOps Backend) (backend : Backend)
    (endpoint : Endpoint) (shared : Shared) (priority type : U32) (payload : Option (Nat → U8))
    (length : U32) (result : SendResult)
    (indices : ∀ role, endpoint.role = some role → ∀ priority,
      (shared.ring role priority).WellFormed) :
    ((recordedSend notify backend endpoint shared priority type payload length result).outcome.ret ≠
          .ok →
        SendRefused endpoint shared backend priority payload length
          (recordedSend notify backend endpoint shared priority type payload length result)) ∧
      ((recordedSend notify backend endpoint shared priority type payload length result).outcome.ret =
          .ok →
        ∃ role own, own.val = priority.toNat ∧
          SendCommitted notify endpoint shared backend role own type payload length
            (recordedSend notify backend endpoint shared priority type payload length result)) := by
  unfold recordedSend endpointSendCall
  cases accepted : priorityArgument priority with
  | none =>
      -- A priority past the last ring is refused before the caller's result is touched.
      constructor
      · intro refused
        exact ⟨rfl, rfl, by simp, by simp [sendCallAccepted, accepted]⟩
      · intro ok
        cases ok
  | some own =>
      have number := priorityArgument_val accepted
      dsimp only
      constructor
      · intro refused
        by_cases ok : (endpointEnqueue endpoint shared own type payload length result).ret = .ok
        · rw [if_neg (not_not.mpr ok)] at refused
          exact absurd ok refused
        · rw [if_pos ok]
          refine ⟨?_, rfl, ?_, ?_⟩
          · exact endpointEnqueue_refused_shared endpoint shared type payload length result own ok
          · intro other
            have counted := endpointEnqueue_refused_stats endpoint shared type payload length result
              own ok other
            rw [counted]
            simp only [Fin.ext_iff, number]
          · intro arguments
            simp only [sendCallAccepted, Bool.and_eq_true] at arguments
            exact endpointEnqueue_report endpoint shared type payload length result own
              arguments.2 ok
      · intro done
        by_cases ok : (endpointEnqueue endpoint shared own type payload length result).ret = .ok
        · rw [if_neg (not_not.mpr ok)]
          cases endpointEnqueue_spec endpoint shared own type payload length result with
          | refused ret notFull sameEndpoint sameShared cause => exact absurd ok ret
          | pushed role bound session arguments push =>
              exact ⟨role, own, number, sendCommitted_of_pushed notify backend bound arguments
                (indices role bound own) push ok⟩
        · rw [if_pos ok] at done
          exact absurd done ok

/-- A party's endpoint of a fresh session. -/
def freshEndpoint (role : Role) (generation : U32) : Endpoint :=
  { Endpoint.zero with role := some role, generation := generation }

/-- A fresh session's rings have their indices in the array. -/
theorem sessionRegion_wellFormed (generation : U32) (role : Role) (priority : Priority) :
    ((sessionRegion generation).ring role priority).WellFormed := by
  cases role with
  | linux => exact Ring.zero_wellFormed
  | cpu3 => exact Ring.zero_wellFormed

/-- Priority 3 of a fresh session over a backend that answers -16: the frame is committed.  Priority
4 is refused. -/
theorem endpointSend_atomic_fresh :
    (∃ role own, own.val = (3#32).toNat ∧
      SendCommitted (fun _ _ calls => (-16, calls + 1)) (freshEndpoint .linux 7) (sessionRegion 7) 0
        role own MessageType.ping (some fun _ => 0xab) 4
        (recordedSend (fun _ _ calls => (-16, calls + 1)) 0 (freshEndpoint .linux 7) (sessionRegion 7) 3
          MessageType.ping (some fun _ => 0xab) 4 .pending)) ∧
      SendRefused (freshEndpoint .linux 7) (sessionRegion 7) 0 4 (some fun _ => 0xab) 4
        (recordedSend (fun _ _ calls => (-16, calls + 1)) 0 (freshEndpoint .linux 7) (sessionRegion 7) 4
          MessageType.ping (some fun _ => 0xab) 4 .pending) := by
  constructor
  · apply (endpointSend_atomic (fun _ _ (calls : Nat) => (-16, calls + 1)) 0 (freshEndpoint .linux 7)
      (sessionRegion 7) 3 MessageType.ping (some fun _ => 0xab) 4 .pending
      (fun role _ priority => sessionRegion_wellFormed 7 role priority)).2
    decide
  · apply (endpointSend_atomic (fun _ _ (calls : Nat) => (-16, calls + 1)) 0 (freshEndpoint .linux 7)
      (sessionRegion 7) 4 MessageType.ping (some fun _ => 0xab) 4 .pending
      (fun role _ priority => sessionRegion_wellFormed 7 role priority)).1
    decide

end MailMsg
