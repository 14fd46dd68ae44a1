/-
Module: MailMsg.Protocol.Independence
Purpose: Two runs of the same calls over different notification backends: the doorbell's answers
  reach the notification report and the notification counters, and nothing else.
Source: LZAMP/protocol/mailmsg/mailmsg_endpoint.c
Trusted boundary: none
Main exports: Endpoint.quiet, SendOutcome.quiet, endpointSendCall_quiet, endpointReceive_quiet,
  Independence.run, Independence.run_quiet
-/
import MailMsg.Protocol.Sending

namespace MailMsg

/-! ### What the doorbell may change

A backend answers after the frame is committed, so the answer reaches the result of the call and the
counters of notifications.
-/

/-- The statistics with the notification counters erased. -/
def PriorityStats.quiet (stats : PriorityStats) : PriorityStats :=
  { stats with notifySent := 0, notifyCoalesced := 0, notifyFailed := 0 }

/-- The endpoint with the notification counters erased. -/
def Endpoint.quiet (endpoint : Endpoint) : Endpoint :=
  { endpoint with stats := fun priority => (endpoint.stats priority).quiet }

/-- The report of a send with the doorbell's answer erased. -/
def SendResult.quiet (result : SendResult) : SendResult := { result with notifyResult := 0 }

/-- The outcome of a send without what the doorbell may change. -/
def SendOutcome.quiet (outcome : SendOutcome) : SendOutcome :=
  { outcome with result := outcome.result.quiet, endpoint := outcome.endpoint.quiet }

/-- What the erased outcome still says. -/
theorem SendOutcome.of_quiet {left right : SendOutcome} (same : left.quiet = right.quiet) :
    left.ret = right.ret ∧ left.shared = right.shared ∧ left.result.quiet = right.result.quiet ∧
      left.endpoint.quiet = right.endpoint.quiet := by
  obtain ⟨ret, result, endpoint, shared⟩ := left
  obtain ⟨otherRet, otherResult, otherEndpoint, otherShared⟩ := right
  simp only [SendOutcome.quiet, SendOutcome.mk.injEq] at same
  obtain ⟨sameRet, sameResult, sameEndpoint, sameShared⟩ := same
  exact ⟨sameRet, sameShared, sameResult, sameEndpoint⟩

/-- What the erased endpoint still says. -/
theorem Endpoint.of_quiet {left right : Endpoint} (same : left.quiet = right.quiet) :
    left.role = right.role ∧ left.generation = right.generation := by
  obtain ⟨role, sequence, generation, stats⟩ := left
  obtain ⟨otherRole, otherSequence, otherGeneration, otherStats⟩ := right
  simp only [Endpoint.quiet, Endpoint.mk.injEq] at same
  exact ⟨same.1, same.2.2.1⟩

/-- An update of the statistics that does not look at the notification counters. -/
theorem Endpoint.quiet_updateStats (endpoint : Endpoint) (priority : Priority)
    {update : PriorityStats → PriorityStats}
    (blind : ∀ stats, (update stats).quiet = (update stats.quiet).quiet) :
    (endpoint.quiet.updateStats priority update).quiet =
      (endpoint.updateStats priority update).quiet := by
  unfold Endpoint.updateStats Endpoint.quiet
  congr 1
  funext other
  by_cases here : other = priority
  · subst here
    simp only [Function.update_self]
    exact (blind _).symm
  · simp only [Function.update_of_ne here]
    rfl

section Queueing

variable (endpoint : Endpoint) (shared : Shared) (priority : Priority) (type : U32)
  (payload : Option (Nat → U8)) (length : U32) (result : SendResult)

/-- Drawing, pushing and accounting do not look at the notification counters. -/
theorem endpointPush_quiet (role : Role) :
    (endpointPush endpoint.quiet role shared priority type payload length).quiet =
      (endpointPush endpoint role shared priority type payload length).quiet := by
  have drawn : endpointNextSequence endpoint.quiet = endpointNextSequence endpoint := rfl
  have generation : endpoint.quiet.generation = endpoint.generation := rfl
  simp only [endpointPush, drawn, generation]
  split
  · split
    · simp only [SendOutcome.quiet]
      congr 1
      exact Endpoint.quiet_updateStats endpoint.drawn priority fun _ => rfl
    · rfl
  · simp only [SendOutcome.quiet]
    congr 1
    exact Endpoint.quiet_updateStats endpoint.drawn priority fun _ => rfl

theorem endpointEnqueue_quiet :
    (endpointEnqueue endpoint.quiet shared priority type payload length result).quiet =
      (endpointEnqueue endpoint shared priority type payload length result).quiet := by
  have role : endpoint.quiet.role = endpoint.role := rfl
  have arguments : sendArgumentsValid endpoint.quiet payload length =
      sendArgumentsValid endpoint payload length := rfl
  have session : endpointSessionValid endpoint.quiet shared =
    endpointSessionValid endpoint shared := rfl
  simp only [endpointEnqueue, role, arguments, session]
  cases endpoint.role with
  | none => rfl
  | some own =>
      dsimp only
      split
      · rfl
      · split
        · rfl
        · exact endpointPush_quiet endpoint shared priority type payload length own

end Queueing

/-- Endpoints that differ in notification counters queue alike. -/
theorem endpointEnqueue_congr {left right : Endpoint} (same : left.quiet = right.quiet)
    (shared : Shared) (priority : Priority) (type : U32) (payload : Option (Nat → U8))
    (length : U32) (result : SendResult) :
    (endpointEnqueue left shared priority type payload length result).quiet =
      (endpointEnqueue right shared priority type payload length result).quiet := by
  rw [← endpointEnqueue_quiet left, ← endpointEnqueue_quiet right, same]

/-- Whatever the doorbell answers, the rest of the outcome is what the queueing half left. -/
theorem endpointNotified_quiet (priority : Priority) (answer : Int) (outcome : SendOutcome) :
    (endpointNotified priority answer outcome).quiet =
      { outcome.quiet with result := { outcome.quiet.result with notifyAttempted := true } } := by
  have counters : (endpointNotified priority answer outcome).endpoint.quiet =
      outcome.endpoint.quiet := by
    simp only [endpointNotified, Endpoint.updateStats, Endpoint.quiet]
    congr 1
    funext other
    by_cases here : other = priority
    · subst here
      simp only [Function.update_self]
      split
      · rfl
      · split <;> rfl
    · simp only [Function.update_of_ne here]
  simp only [SendOutcome.quiet, counters]
  rfl

/-- A send over any two backends: only the doorbell's answer and the notification counters may
differ. -/
theorem endpointSendCall_quiet {Left Right : Type*} (notify : NotifyOps Left) (backend : Left)
    (otherNotify : NotifyOps Right) (otherBackend : Right) {left right : Endpoint}
    (same : left.quiet = right.quiet) (shared : Shared) (priority type : U32)
    (payload : Option (Nat → U8)) (length : U32) (result : SendResult) :
    (endpointSendCall notify backend left shared priority type payload length result).outcome.quiet =
      (endpointSendCall otherNotify otherBackend right shared priority type payload length
        result).outcome.quiet := by
  unfold endpointSendCall
  cases priorityArgument priority with
  | none => simp only [SendOutcome.quiet, same]
  | some own =>
      have queued := endpointEnqueue_congr same shared own type payload length result
      have ret : (endpointEnqueue left shared own type payload length result).ret =
          (endpointEnqueue right shared own type payload length result).ret :=
        (SendOutcome.of_quiet queued).1
      dsimp only
      rw [ret]
      split
      · exact queued
      · dsimp only
        rw [endpointNotified_quiet, endpointNotified_quiet, queued]

/-- A receive does not look at the notification counters. -/
theorem endpointReceive_quiet {left right : Endpoint} (same : left.quiet = right.quiet)
    (shared : Shared) (priority : Priority) :
    (endpointReceive left shared priority).ret = (endpointReceive right shared priority).ret ∧
      (endpointReceive left shared priority).message =
        (endpointReceive right shared priority).message ∧
      (endpointReceive left shared priority).shared =
        (endpointReceive right shared priority).shared ∧
      (endpointReceive left shared priority).endpoint.quiet =
        (endpointReceive right shared priority).endpoint.quiet := by
  obtain ⟨role, generation⟩ := Endpoint.of_quiet same
  have session : endpointSessionValid left shared = endpointSessionValid right shared := by
    simp only [endpointSessionValid, role, generation]
  simp only [endpointReceive, role, session, generation]
  cases right.role with
  | none => exact ⟨rfl, rfl, rfl, same⟩
  | some own =>
      dsimp only
      split
      · exact ⟨rfl, rfl, rfl, same⟩
      · refine ⟨rfl, rfl, rfl, ?_⟩
        generalize receiveResult right.generation (ringPop (shared.ring own.peer priority)).1
          (ringPop (shared.ring own.peer priority)).2.2 = ret
        have blind : ∀ stats : PriorityStats,
            (stats.received ret).quiet = (stats.quiet.received ret).quiet := by
          intro stats
          cases ret with
          | ring result => cases result <;> rfl
          | invalid | protocolMismatch | staleSession | staleFrame => rfl
        rw [← Endpoint.quiet_updateStats left priority blind,
          ← Endpoint.quiet_updateStats right priority blind, same]

/-! ### Runs -/

namespace Independence

/-- A call on one of the two endpoints of a region. -/
inductive Call where
  | send (caller : Role) (priority type : U32) (payload : Option (Nat → U8)) (length : U32)
      (result : SendResult)
  | receive (caller : Role) (priority : U32)

/-- What a call hands to its caller. -/
inductive Answer where
  | sent (ret : EndpointResult) (result : SendResult)
  | received (ret : EndpointResult) (message : Option Message)

/-- An answer without what the doorbell may change. -/
def Answer.quiet : Answer → Answer
  | .sent ret result => .sent ret result.quiet
  | .received ret message => .received ret message

/-- Two endpoints over one region, each with its notification backend. -/
structure State (Backend : Type*) where
  endpoint : Role → Endpoint
  shared : Shared
  backend : Backend

variable {Backend Left Right : Type*}

/-- One call.  The backend sees the region at its call and does not touch it. -/
def step (notify : Role → NotifyOps Backend) (state : State Backend) : Call → Answer × State Backend
  | .send caller priority type payload length result =>
      let sent := endpointSendCall (notify caller) state.backend
        (state.endpoint caller) state.shared
        priority type payload length result
      (.sent sent.outcome.ret sent.outcome.result,
        { endpoint := Function.update state.endpoint caller sent.outcome.endpoint
          shared := sent.outcome.shared
          backend := sent.backend })
  | .receive caller priority =>
      match priorityArgument priority with
      | none => (.received .invalid none, state)
      | some priority =>
          let received := endpointReceive (state.endpoint caller) state.shared priority
          (.received received.ret received.message,
            { state with
              endpoint := Function.update state.endpoint caller received.endpoint
              shared := received.shared })

/-- A sequence of calls, with the answers in order. -/
def run (notify : Role → NotifyOps Backend) (state : State Backend) :
    List Call → List Answer × State Backend
  | [] => ([], state)
  | call :: calls =>
      let first := step notify state call
      let rest := run notify first.2 calls
      (first.1 :: rest.1, rest.2)

/-- States that agree on everything but the notification counters and the backend. -/
structure Alike (left : State Left) (right : State Right) : Prop where
  shared : left.shared = right.shared
  endpoint : ∀ role, (left.endpoint role).quiet = (right.endpoint role).quiet

theorem Alike.update {left : State Left} {right : State Right}
    (alike : Alike left right) (role : Role)
    {leftEndpoint rightEndpoint : Endpoint} (same : leftEndpoint.quiet = rightEndpoint.quiet)
    (other : Role) :
    (Function.update left.endpoint role leftEndpoint other).quiet =
      (Function.update right.endpoint role rightEndpoint other).quiet := by
  by_cases here : other = role
  · subst here
    simpa using same
  · simpa [Function.update_of_ne here] using alike.endpoint other

/-- One call over two backends. -/
theorem step_quiet (notify : Role → NotifyOps Left) (otherNotify : Role → NotifyOps Right)
    {left : State Left} {right : State Right} (alike : Alike left right) (call : Call) :
    (step notify left call).1.quiet = (step otherNotify right call).1.quiet ∧
      Alike (step notify left call).2 (step otherNotify right call).2 := by
  cases call with
  | send caller priority type payload length result =>
      have outcome := endpointSendCall_quiet (notify caller) left.backend (otherNotify caller)
        right.backend (alike.endpoint caller) left.shared priority type payload length result
      simp only [step, Answer.quiet]
      rw [← alike.shared]
      obtain ⟨ret, shared, report, endpoint⟩ := SendOutcome.of_quiet outcome
      exact ⟨by rw [ret, report], shared, alike.update caller endpoint⟩
  | receive caller priority =>
      simp only [step]
      cases priorityArgument priority with
      | none => exact ⟨rfl, alike⟩
      | some own =>
          obtain ⟨ret, message, shared, endpoint⟩ :=
            endpointReceive_quiet (alike.endpoint caller) left.shared own
          dsimp only
          rw [← alike.shared]
          refine ⟨?_, shared, alike.update caller endpoint⟩
          rw [ret, message]

/-- A whole run over two backends. -/
theorem run_quiet (notify : Role → NotifyOps Left) (otherNotify : Role → NotifyOps Right)
    {left : State Left} {right : State Right} (alike : Alike left right) (calls : List Call) :
    (run notify left calls).1.map Answer.quiet = (run otherNotify right calls).1.map Answer.quiet ∧
      Alike (run notify left calls).2 (run otherNotify right calls).2 := by
  induction calls generalizing left right with
  | nil => exact ⟨rfl, alike⟩
  | cons call calls inductionHypothesis =>
      obtain ⟨answer, next⟩ := step_quiet notify otherNotify alike call
      obtain ⟨answers, last⟩ := inductionHypothesis next
      refine ⟨?_, last⟩
      simp only [run, List.map_cons, answer, answers]

end Independence

end MailMsg
