/-
Module: MailMsg.Amp.Window
Purpose: How many PINGs one client may keep in flight: a window under which no ring fills, so that
  CPU3 answers every request completely and in order.
Source: LZAMP/firmware/zephyr/app/src/main.c (mailmsg_pingpong_test_service),
  LZAMP/protocol/mailmsg/mailmsg_endpoint.c (mailmsg_endpoint_send)
Trusted boundary: none beyond the models of the two sides
Main exports: Exchange.outstanding, exchangeStep, windowMachine, safeWindow, safe_window
-/
import MailMsg.Amp.Exchange

namespace MailMsg

/-! ### A client with a window -/

/-- Replies to one request. -/
def replyCount (priority : Priority) : Nat := if priorityIsReliable priority then 2 else 1

/-- The requests whose PONG the client has not read. -/
def Exchange.outstanding (exchange : Exchange) : Nat :=
  exchange.written.length -
    exchange.received.countP fun frame => frame.type == MessageType.pong

/-- The client writes only while its window is open. -/
def Exchange.allows (exchange : Exchange) (priority : Priority) (window : Nat) (label : AmpLabel) :
    Bool :=
  exchange.proper priority label &&
    match label with
    | .linux (.write id count copied frame) =>
        !DriverLabel.uses exchange.amp.system priority (.write id count copied frame) ||
          decide (exchange.outstanding < window)
    | _ => true

/-- A step of the board with a client that keeps its window. -/
def exchangeStep (priority : Priority) (window : Nat) (exchange : Exchange) (label : AmpLabel) :
    Option Exchange :=
  if exchange.allows priority window label then exchange.advance priority label else none

/-- The runs of a client that keeps its window. -/
def windowMachine (priority : Priority) (window : Nat) : Machine Exchange AmpLabel where
  init exchange := exchange.Fresh priority
  step := exchangeStep priority window

/-- The largest window that is safe on a priority. -/
def safeWindow (priority : Priority) : Nat := if priorityIsReliable priority then 3 else 7

/-! ### Counting answers

A request costs one answer, or two where the priority is reliable.  Counting the answers of the flow
turns a bound on requests into a bound on the ring.
-/

/-- An ACK on the reliable priorities, and a PONG everywhere. -/
theorem replyCount_eq (priority : Priority) : replyCount priority = 1 ∨
    replyCount priority = 2 := by
  unfold replyCount
  split
  · exact .inr rfl
  · exact .inl rfl

theorem Request.answers_length (priority : Priority) (request : Request) :
    (request.answers priority).length = replyCount priority := by
  unfold Request.answers replyCount
  split <;> rfl

theorem flatMap_answers_length (priority : Priority) (requests : List Request) :
    (requests.flatMap (Request.answers priority)).length =
      replyCount priority * requests.length := by
  induction requests with
  | nil => rfl
  | cons request requests inductionHypothesis =>
      rw [List.flatMap_cons, List.length_append, inductionHypothesis, Request.answers_length,
        List.length_cons, Nat.mul_succ, Nat.add_comm]

/-- The PONG closes the answers of a request, so what was read of them holds a full set for each
PONG. -/
theorem pongs_le_of_prefix {priority : Priority} {requests : List Request} {read : List Answer}
    (start : read <+: requests.flatMap (Request.answers priority)) :
    replyCount priority * read.countP (fun answer => answer.type == MessageType.pong) ≤
      read.length := by
  induction requests generalizing read with
  | nil =>
      rw [List.flatMap_nil, List.prefix_nil] at start
      simp [start]
  | cons request requests inductionHypothesis =>
      rw [List.flatMap_cons] at start
      cases reliable : priorityIsReliable priority with
      | true =>
          have pair : request.answers priority =
              [⟨MessageType.ack, 8, request.sequence, 0⟩,
                ⟨MessageType.pong, 4, request.value + 1, 0⟩] := by
            simp [Request.answers, reliable]
          have count : replyCount priority = 2 := by simp [replyCount, reliable]
          rw [pair, List.cons_append, List.cons_append, List.nil_append] at start
          match read, start with
          | [], _ => simp
          | [first], start =>
              obtain ⟨rfl, -⟩ := List.cons_prefix_cons.mp start
              simp [MessageType.ack, MessageType.pong]
          | first :: second :: rest, start =>
              obtain ⟨rfl, tail⟩ := List.cons_prefix_cons.mp start
              obtain ⟨rfl, later⟩ := List.cons_prefix_cons.mp tail
              have bound := inductionHypothesis later
              rw [count] at bound ⊢
              simp [MessageType.ack, MessageType.pong] at bound ⊢
              omega
      | false =>
          have single : request.answers priority =
              [⟨MessageType.pong, 4, request.value + 1, 0⟩] := by
            simp [Request.answers, reliable]
          have count : replyCount priority = 1 := by simp [replyCount, reliable]
          rw [single, List.cons_append, List.nil_append] at start
          match read, start with
          | [], _ => simp
          | first :: rest, start =>
              obtain ⟨rfl, later⟩ := List.cons_prefix_cons.mp start
              have bound := inductionHypothesis later
              rw [count] at bound ⊢
              simp [MessageType.pong] at bound ⊢
              omega

namespace Flow

variable {priority : Priority} {exchange : Exchange} {consumed : List Request}
  {waiting replies : List Frame}

/-- What was read holds a full set of answers for each PONG. -/
theorem pongs_le (flow : Flow priority exchange consumed waiting replies) :
    replyCount priority * exchange.received.countP (fun frame => frame.type == MessageType.pong) ≤
      exchange.received.length := by
  have start : exchange.received.map UserFrame.answer <+:
      consumed.flatMap (Request.answers priority) := by
    rw [← flow.answered, List.append_assoc]
    exact List.prefix_append _ _
  have bound := pongs_le_of_prefix start
  rw [List.countP_map, List.length_map] at bound
  exact bound

theorem answered_length (flow : Flow priority exchange consumed waiting replies) :
    exchange.received.length + replies.length +
      (exchange.amp.firmware.worker.owes priority).length =
      replyCount priority * consumed.length := by
  have lengths := congrArg List.length flow.answered
  rw [flatMap_answers_length, List.length_append, List.length_append, List.length_map,
    List.length_map] at lengths
  exact lengths

theorem written_length (flow : Flow priority exchange consumed waiting replies) :
    exchange.written.length = consumed.length + waiting.length := by
  rw [flow.written, List.length_append, List.length_map]

/-- A request waits in the forward ring only while it is outstanding. -/
theorem waiting_le (flow : Flow priority exchange consumed waiting replies) :
    waiting.length ≤ exchange.outstanding := by
  have pongs := flow.pongs_le
  have answered := flow.answered_length
  have written := flow.written_length
  unfold Exchange.outstanding
  rcases replyCount_eq priority with count | count
  · rw [count] at pongs answered
    omega
  · rw [count] at pongs answered
    omega

/-- The answers that are not yet read belong to outstanding requests. -/
theorem unread_le (flow : Flow priority exchange consumed waiting replies) {window : Nat}
    (bound : exchange.outstanding ≤ window) :
    replies.length + (exchange.amp.firmware.worker.owes priority).length ≤
      replyCount priority * window := by
  have pongs := flow.pongs_le
  have answered := flow.answered_length
  have written := flow.written_length
  unfold Exchange.outstanding at bound
  rcases replyCount_eq priority with count | count
  · rw [count] at pongs answered ⊢
    omega
  · rw [count] at pongs answered ⊢
    omega

/-- With a safe window a reply on the priority always finds room. -/
theorem room (flow : Flow priority exchange consumed waiting replies) {window : Nat}
    (small : window ≤ safeWindow priority) (bound : exchange.outstanding ≤ window)
    (owing : exchange.amp.firmware.worker.owes priority ≠ []) : replies.length < ringSlots - 1 := by
  have unread := flow.unread_le bound
  have positive := List.length_pos_iff.mpr owing
  unfold replyCount at unread
  unfold safeWindow at small
  simp only [ringSlots]
  split at unread
  · rename_i reliable
    rw [if_pos reliable] at small
    omega
  · rename_i plain
    rw [if_neg plain] at small
    omega

/-- With a safe window that is open a request always finds room. -/
theorem room_forward (flow : Flow priority exchange consumed waiting replies) {window : Nat}
    (small : window ≤ safeWindow priority) (isOpen : exchange.outstanding < window) :
    waiting.length < ringSlots - 1 := by
  have waiting := flow.waiting_le
  unfold safeWindow at small
  simp only [ringSlots]
  split at small <;> omega

/-- With a safe window the push of a reply on the client's priority finds room. -/
theorem space (flow : Flow priority exchange consumed waiting replies) {window : Nat}
    (small : window ≤ safeWindow priority) (bound : exchange.outstanding ≤ window) :
    exchange.HasSpace priority := by
  intro visit reply next position here full
  have owing : exchange.amp.firmware.worker.owes priority ≠ [] := by
    rw [position]
    simp [Worker.owes, here]
  have room := flow.room small bound owing
  have seven := flow.reverse.full_iff.mp full
  omega

end Flow

/-! ### The window -/

/-- What holds in every state of a client that keeps its window. -/
structure WindowInvariant (priority : Priority) (window : Nat) (exchange : Exchange) : Prop
    extends Served priority exchange where
  window : exchange.outstanding ≤ window

namespace WindowInvariant

variable {priority : Priority} {window : Nat} {exchange next : Exchange}

/-- A window that is small enough leaves room for every reply. -/
theorem hasSpace (invariant : WindowInvariant priority window exchange)
    (small : window ≤ safeWindow priority) : exchange.HasSpace priority := by
  obtain ⟨consumed, waiting, replies, flow⟩ := invariant.flow
  exact flow.space small invariant.window

/-- A step adds an outstanding request only if it is a write of the client, for which the window was
open. -/
theorem outstanding_le (invariant : WindowInvariant priority window exchange) {label : AmpLabel}
    (allowed : exchange.allows priority window label = true)
    (taken : exchange.advance priority label = some next) : next.outstanding ≤ window := by
  obtain ⟨amp, boardStep, active, rfl⟩ := advance_eq_some taken
  have bound := invariant.window
  simp only [Exchange.outstanding] at bound
  simp only [Exchange.outstanding, List.length_append, List.countP_append]
  cases label with
  | linux label =>
      cases used : label.uses exchange.amp.system priority with
      | false =>
          rw [(unused_notes used amp).1, List.length_nil]
          omega
      | true =>
          cases label with
          | write id count copied frame =>
              have isOpen : (!DriverLabel.uses exchange.amp.system priority
                  (.write id count copied frame) ||
                    decide (exchange.outstanding < window)) = true :=
                (Bool.and_eq_true_iff.mp allowed).2
              rw [used, Bool.not_true, Bool.false_or, decide_eq_true_eq] at isOpen
              simp only [Exchange.outstanding] at isOpen
              have short : (exchange.wrote priority amp
                  (.linux (.write id count copied frame))).length ≤ 1 := by
                simp only [Exchange.wrote]
                repeat' split
                all_goals simp
              omega
          | _ =>
              simp only [Exchange.wrote, List.length_nil]
              omega
  | boot | cpu3 label =>
      simp only [Exchange.wrote, List.length_nil]
      omega

/-- One step of the exchange. -/
theorem step (invariant : WindowInvariant priority window exchange)
    (small : window ≤ safeWindow priority) {label : AmpLabel}
    (taken : exchangeStep priority window exchange label = some next) :
    WindowInvariant priority window next := by
  simp only [exchangeStep] at taken
  split at taken
  · rename_i allowed
    have proper := (Bool.and_eq_true_iff.mp allowed).1
    exact ⟨invariant.toServed.step (invariant.hasSpace small) proper taken,
      invariant.outstanding_le allowed taken⟩
  · cases taken

/-- In every run. -/
theorem reachable (small : window ≤ safeWindow priority)
    (reached : (windowMachine priority window).Reachable exchange) :
    WindowInvariant priority window exchange := by
  induction reached with
  | init start =>
      refine ⟨Exchange.Fresh.served start, ?_⟩
      simp [Exchange.outstanding, Exchange.Fresh.written start]
  | step _ taken inductionHypothesis => exact inductionHypothesis.step small taken

end WindowInvariant

/-- What a forward ring still holds for CPU3. -/
def Ring.requests (ring : Ring) : List Request := ring.contents.map fun slot => slot.frame.request

/-- What a reverse ring still holds for the client. -/
def Ring.answers (ring : Ring) : List Answer := ring.contents.map fun slot => slot.frame.answer

/-- With a window of three requests on the reliable priorities and of seven on the others, no send
on the client's priority finds its ring full: not the client's, not the service's, and the main
thread sends nothing more.  Every request that CPU3 consumed has exactly its answers, in request
order, with the client, in the reverse ring or in the worker's hands, and every other request is
still in the forward ring. -/
theorem safe_window {priority : Priority} {window : Nat} (small : window ≤ safeWindow priority)
    {exchange : Exchange} (reached : (windowMachine priority window).Reachable exchange) :
    (exchange.outstanding < window → ∀ type payload length,
        (linuxSend exchange.amp.system priority type payload length).1.ret ≠ .ring .full) ∧
      (∀ visit reply next, exchange.amp.firmware.worker = .replying visit reply next →
        visit.priority = priority → (exchange.amp.board.enqueue priority reply).1.ret = .ok) ∧
      exchange.amp.firmware.announced = true ∧
      ∃ consumed : List Request,
        exchange.written =
          consumed ++ (exchange.amp.system.hardware.shared.linuxToCpu3 priority).requests ∧
        exchange.received.map UserFrame.answer ++
            (exchange.amp.system.hardware.shared.cpu3ToLinux priority).answers ++
            exchange.amp.firmware.worker.owes priority =
          consumed.flatMap (Request.answers priority) := by
  have invariant := WindowInvariant.reachable small reached
  have linked := invariant.linked
  obtain ⟨consumed, waiting, replies, flow⟩ := invariant.flow
  refine ⟨?_, ?_, linked.announced, consumed, ?_, ?_⟩
  · intro isOpen type payload length
    have room := flow.room_forward small isOpen
    have queueing := endpointSend_sameQueueing (fun priority system => notifyLocked system priority)
      exchange.amp.system exchange.amp.system.driver.endpoint exchange.amp.system.hardware.shared
      priority type payload length .zero
    have spec := endpointEnqueue_spec exchange.amp.system.driver.endpoint
      exchange.amp.system.hardware.shared priority type payload length .zero
    intro full
    have queued := queueing.ret.symm.trans full
    cases spec with
    | refused ret notFull sameEndpoint sameShared cause => exact notFull queued
    | pushed role hasRole session arguments push =>
        rw [linked.linux] at hasRole
        cases hasRole
        cases push with
        | full noSpace ret queueResult sameShared counted =>
            have seven := flow.forward.full_iff.mp noSpace
            omega
        | queued space ret sequence pushed published sameRole sameGeneration drawn =>
            rw [ret] at queued
            cases queued
  · intro visit reply next position here
    obtain ⟨offered, -⟩ := exchange.amp.board.enqueue_spec priority reply linked.cpu3Bound
    cases offered with
    | refused ret hardware cause =>
        rcases cause with invalid | full
        · exact absurd linked.cpu3Session invalid
        · exact absurd full (invariant.hasSpace small visit reply next position here)
    | pushed ret space valid published => exact ret
  · rw [flow.written, Ring.requests, flow.forward.contents, List.map_map]
    rfl
  · rw [← flow.answered, Ring.answers, flow.reverse.contents, List.map_map]
    rfl

/-- A PING on p1. -/
def demoRecord (value : U8) : UserFrame :=
  ⟨1, MessageType.ping, 0, 4, fun index => if index = 0 then value else 0⟩

/-- Two requests on p1, and CPU3 up to the ACK of the first. -/
def demoRequests : List AmpLabel :=
  [.linux (.openFile 1 true), .linux (.claim 0), .linux (.write 0 48 true (demoRecord 41)),
    .linux (.write 0 48 true (demoRecord 42)), .cpu3 (.interrupt 1), .cpu3 .isr, .cpu3 .isr,
    .cpu3 .isr] ++
    List.replicate 6 (.cpu3 .worker)

/-- The rings of a priority are empty and the worker owes nothing on it. -/
def Amp.unused (amp : Amp) (priority : Priority) : Bool :=
  amp.power == .on && amp.system.driver.mailmsgState == .active &&
    decide ((amp.system.hardware.shared.linuxToCpu3 priority).producer.toNat < ringSlots) &&
    (amp.system.hardware.shared.linuxToCpu3 priority).consumer ==
      (amp.system.hardware.shared.linuxToCpu3 priority).producer &&
    decide ((amp.system.hardware.shared.cpu3ToLinux priority).producer.toNat < ringSlots) &&
    (amp.system.hardware.shared.cpu3ToLinux priority).consumer ==
      (amp.system.hardware.shared.cpu3ToLinux priority).producer &&
    amp.firmware.worker.owes priority == []

theorem Amp.unused_init {build : Build} {amp : Amp} {priority : Priority} (window : Nat)
    (reached : (ampMachine build).Reachable amp) (unused : amp.unused priority = true) :
    (windowMachine priority window).init ⟨amp, [], []⟩ := by
  simp only [Amp.unused, Bool.and_eq_true, beq_iff_eq, decide_eq_true_eq] at unused
  obtain ⟨⟨⟨⟨⟨⟨running, active⟩, forward⟩, forwardSame⟩, reverse⟩, reverseSame⟩, silent⟩ := unused
  exact ⟨⟨build, reached⟩, running, active, .of_indices forward forwardSame,
    .of_indices reverse reverseSame, silent, rfl, rfl⟩

/-- The theorem at a window of three on p1, with two requests under way. -/
theorem safe_window_demo :
    ∃ amp exchange, (ampMachine demoStopBuild).run demoAmp demoSession = some amp ∧
      (windowMachine 1 3).run ⟨amp, [], []⟩ demoRequests = some exchange ∧
      exchange.outstanding = 2 ∧
      (∀ type payload length,
        (linuxSend exchange.amp.system 1 type payload length).1.ret ≠ .ring .full) ∧
      exchange.amp.firmware.worker.owes 1 =
        [⟨MessageType.ack, 8, 1, 0⟩, ⟨MessageType.pong, 4, 42, 0⟩] := by
  have checked : ((ampMachine demoStopBuild).run demoAmp demoSession).any (fun amp =>
      amp.unused 1 && ((windowMachine 1 3).run ⟨amp, [], []⟩ demoRequests).any fun exchange =>
        exchange.outstanding == 2 && exchange.amp.firmware.worker.owes 1 ==
          [⟨MessageType.ack, 8, 1, 0⟩, ⟨MessageType.pong, 4, 42, 0⟩]) = true := by
    decide +kernel
  obtain ⟨amp, session, passed⟩ := (ampMachine demoStopBuild).exists_of_run_any checked
  obtain ⟨unused, served⟩ := Bool.and_eq_true_iff.mp passed
  obtain ⟨exchange, executed, seen⟩ := (windowMachine 1 3).exists_of_run_any served
  simp only [Bool.and_eq_true, beq_iff_eq] at seen
  have start := Amp.unused_init 3 (Machine.Reachable.run (.init demoAmp_init) session) unused
  have safe := safe_window (by decide) (Machine.Reachable.run (.init start) executed)
  exact ⟨amp, exchange, session, executed, seen.1, safe.1 (by rw [seen.1]; decide), seen.2⟩

end MailMsg
