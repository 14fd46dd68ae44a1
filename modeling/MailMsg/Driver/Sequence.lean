/-
Module: MailMsg.Driver.Sequence
Purpose: The sequence numbers of one endpoint since its bind: two generators advance one counter,
  failed sends burn values, and the numbers still identify frames and STOP_REQUESTs.
Source: LZAMP/protocol/mailmsg/mailmsg_endpoint.c, LZAMP/linux/drivers/lzamp_amp_mailmsg.c
Trusted boundary: none
Main exports: nextNonzero_iterate_toNat, Sequence.machine, Sequence.Numbered, StopHistory,
  sequences_identify_frames
-/
import MailMsg.Driver.StopReply

namespace MailMsg

/-! ### The counter

The source draws from a 32-bit counter that skips zero.  Counted from a bind it runs from 1 to the
last word and starts over at 1, so draws less than one period apart differ, and fewer draws than one
period are in order.
-/

/-- The values that the counter takes before it repeats: all words but zero. -/
abbrev sequencePeriod : Nat := 2 ^ 32 - 1

/-- The counter after any number of draws: it runs from 1 to the last word and starts over at 1. -/
theorem nextNonzero_iterate_toNat (count : Nat) :
    (nextNonzero^[count + 1] 0#32).toNat = count % sequencePeriod + 1 := by
  induction count with
  | zero => rfl
  | succ count inductionHypothesis =>
      rw [Function.iterate_succ_apply']
      generalize nextNonzero^[count + 1] 0#32 = value at inductionHypothesis
      simp only [sequencePeriod] at inductionHypothesis ⊢
      unfold nextNonzero
      split
      · rename_i wrapped
        have sum := congrArg BitVec.toNat wrapped
        simp only [BitVec.toNat_add, BitVec.toNat_ofNat] at sum ⊢
        omega
      · rename_i further
        have sum : (value.toNat + 1) % 2 ^ 32 ≠ 0 := by
          intro zero
          apply further
          apply BitVec.eq_of_toNat_eq
          simpa using zero
        simp only [BitVec.toNat_add, BitVec.toNat_ofNat]
        omega

/-- Draws less than one period apart differ. -/
theorem nextNonzero_iterate_ne {earlier later : Nat} (ordered : earlier < later)
    (near : later < earlier + sequencePeriod) :
    nextNonzero^[earlier + 1] 0#32 ≠ nextNonzero^[later + 1] 0#32 := by
  intro same
  have values := congrArg BitVec.toNat same
  rw [nextNonzero_iterate_toNat, nextNonzero_iterate_toNat] at values
  simp only [sequencePeriod] at near values
  omega

/-- Before the counter starts over, later draws are larger. -/
theorem nextNonzero_iterate_lt {earlier later : Nat} (ordered : earlier < later)
    (below : later < sequencePeriod) :
    (nextNonzero^[earlier + 1] 0#32).toNat < (nextNonzero^[later + 1] 0#32).toNat := by
  rw [nextNonzero_iterate_toNat, nextNonzero_iterate_toNat, Nat.mod_eq_of_lt below,
    Nat.mod_eq_of_lt (ordered.trans below)]
  omega

/-- The first `count` draws since a bind, in order. -/
def drawsSinceBind (count : Nat) : List U32 :=
  (List.range count).map fun index => nextNonzero^[index + 1] 0#32

/-- The newest draw comes last. -/
theorem drawsSinceBind_succ (count : Nat) :
    drawsSinceBind (count + 1) = drawsSinceBind count ++ [nextNonzero^[count + 1] 0#32] := by
  simp [drawsSinceBind, List.range_succ]

@[simp] theorem length_drawsSinceBind (count : Nat) : (drawsSinceBind count).length = count := by
  simp [drawsSinceBind]

/-- The draw at an index, if there were that many. -/
theorem drawsSinceBind_getElem? (count index : Nat) :
    (drawsSinceBind count)[index]? =
      if index < count then some (nextNonzero^[index + 1] 0#32) else none := by
  simp only [drawsSinceBind, List.getElem?_map]
  split <;> simp_all

/-- Zero is never drawn. -/
theorem drawsSinceBind_ne_zero {count : Nat} {value : U32} (member : value ∈ drawsSinceBind count) :
    value ≠ 0#32 := by
  obtain ⟨index, -, rfl⟩ := List.mem_map.mp member
  rw [Function.iterate_succ_apply']
  exact nextNonzero_ne_zero _

/-- Fewer draws than one period are in increasing order. -/
theorem drawsSinceBind_increasing {count : Nat} (few : count < sequencePeriod) :
    (drawsSinceBind count).Pairwise fun earlier later => earlier.toNat < later.toNat := by
  rw [drawsSinceBind, List.pairwise_map]
  refine List.pairwise_lt_range.imp_of_mem ?_
  intro earlier later _ member ordered
  exact nextNonzero_iterate_lt ordered ((List.mem_range.mp member).trans few)

/-! ### Every mix of calls since a bind

A machine of its own: the calls that use the endpoint, in any order and with any answer of the
doorbell, and beside it the numbers drawn and the frames committed.
-/

/-- The sequence numbers that a step drew: a draw moves the counter. -/
def drawnBy (before after : Endpoint) : List U32 :=
  if after.nextSequence = before.nextSequence then [] else [after.nextSequence]

theorem drawnBy_same {before after : Endpoint} (same : after.nextSequence = before.nextSequence) :
    drawnBy before after = [] := if_pos same

/-- The step drew, as `nextNonzero` never stands still. -/
theorem drawnBy_next {before after : Endpoint}
    (next : after.nextSequence = endpointNextSequence before) :
    drawnBy before after = [endpointNextSequence before] := by
  have moved : after.nextSequence ≠ before.nextSequence := by
    rw [next]
    exact nextNonzero_ne_self _
  rw [drawnBy, if_neg moved, next]

/-- The frame that a step committed to a ring: the slot that its producer index left. -/
def committedTo (before after : Ring) : Option Message :=
  if after.producer = before.producer then none else some (after.slot before.producer)

theorem committedTo_self (ring : Ring) : committedTo ring ring = none := if_pos rfl

/-- A publish moves the producer index, so it shows. -/
theorem committedTo_publish (ring : Ring) (slot : Message) :
    committedTo ring (ring.publish slot) = some slot := by
  have moved : (ring.publish slot).producer ≠ ring.producer := ringNext_ne _
  rw [committedTo, if_neg moved]
  exact congrArg some (Function.update_self _ _ _)

namespace Sequence

/-- The calls on an endpoint since its bind.  The answer of the notification backend and everything
that the peer does to the region are the environment's choice. -/
inductive Call where
  | send (priority : Priority) (type : U32) (payload : Option (Nat → U8)) (length : U32)
      (result : SendResult) (answer : Int)
  | testEnqueue (priority : Priority) (value : U32) (corrupt : Bool)
  | receive (priority : Priority)
  | region (shared : Shared)

/-- The system after a call. -/
def Call.apply (system : System) : Call → System
  | .send priority type payload length result answer =>
      let sent := (endpointSend (fun _ (_ : Unit) => (answer, ())) () system.driver.endpoint
        system.hardware.shared priority type payload length result).1
      system.store sent.endpoint sent.shared
  | .testEnqueue priority value corrupt => (testEnqueueLocked system priority value corrupt).2
  | .receive priority =>
      let received := endpointReceive system.driver.endpoint system.hardware.shared priority
      system.store received.endpoint received.shared
  | .region shared => { system with hardware := { system.hardware with shared := shared } }

/-- The ring that a call may commit a frame to. -/
def Call.target (endpoint : Endpoint) : Call → Option (Role × Priority)
  | .send priority .. => endpoint.role.map fun role => (role, priority)
  | .testEnqueue priority .. => some (.linux, priority)
  | .receive _ | .region _ => none

/-- The frames that a call committed, with their priority. -/
def Call.commits (call : Call) (before after : System) : List (Priority × Message) :=
  match call.target before.driver.endpoint with
  | none => []
  | some (role, priority) =>
      ((committedTo (before.hardware.shared.ring role priority)
        (after.hardware.shared.ring role priority)).map fun slot => (priority, slot)).toList

/-- A system with the sequence numbers drawn and the frames committed since the bind. -/
structure State where
  system : System
  drawn : List U32
  committed : List (Priority × Message)

/-- One call. -/
def step (state : State) (call : Call) : State where
  system := call.apply state.system
  drawn := state.drawn ++ drawnBy state.system.driver.endpoint
    (call.apply state.system).driver.endpoint
  committed := state.committed ++ call.commits state.system (call.apply state.system)

/-- Every run since a successful bind. -/
def machine : Machine State Call where
  init state :=
    (∃ endpoint role,
      (endpointBind endpoint state.system.hardware.shared role).1 = .ok ∧
        state.system.driver.endpoint =
          (endpointBind endpoint state.system.hardware.shared role).2) ∧
      state.drawn = [] ∧ state.committed = []
  step state call := some (step state call)

/-- Everything that one call can do to the counter and the rings it may commit to. -/
inductive CallStep (before : System) (call : Call) (after : System) : Prop where
  | unnumbered (same : after.driver.endpoint.nextSequence = before.driver.endpoint.nextSequence)
      (nothing : call.commits before after = [])
  | burned (next : after.driver.endpoint.nextSequence = endpointNextSequence before.driver.endpoint)
      (nothing : call.commits before after = [])
  | numbered (priority : Priority) (slot : Message)
      (next : after.driver.endpoint.nextSequence = endpointNextSequence before.driver.endpoint)
      (frame : call.commits before after = [(priority, slot)])
      (carries : slot.sequence = endpointNextSequence before.driver.endpoint)

/-- A send refuses without a draw, draws without a commit, or commits what it drew. -/
theorem send_callStep (system : System) (priority : Priority) (type : U32)
    (payload : Option (Nat → U8)) (length : U32) (result : SendResult) (answer : Int) :
    CallStep system (.send priority type payload length result answer)
      (Call.apply system (.send priority type payload length result answer)) := by
  have queueing := endpointSend_sameQueueing (fun _ (_ : Unit) => (answer, ())) ()
    system.driver.endpoint system.hardware.shared priority type payload length result
  have spec := endpointEnqueue_spec system.driver.endpoint system.hardware.shared
    priority type payload
    length result
  simp only [Call.apply]
  generalize (endpointSend (fun _ (_ : Unit) => (answer, ())) () system.driver.endpoint
    system.hardware.shared priority type payload length result).1 = sent at *
  generalize endpointEnqueue system.driver.endpoint system.hardware.shared priority type
    payload length
    result = queued at *
  -- The doorbell half of the send moves neither the counter nor the region.
  have counter : (system.store sent.endpoint sent.shared).driver.endpoint.nextSequence =
      queued.endpoint.nextSequence := queueing.nextSequence
  have region : (system.store sent.endpoint sent.shared).hardware.shared = queued.shared :=
    queueing.shared
  have unmoved : queued.shared = system.hardware.shared →
      Call.commits (.send priority type payload length result answer) system
        (system.store sent.endpoint sent.shared) = [] := by
    intro same
    simp only [Call.commits, Call.target, region, same]
    cases system.driver.endpoint.role with
    | none => rfl
    | some role => simp [committedTo_self]
  cases spec with
  | refused ret notFull sameEndpoint sameShared cause =>
      refine .unnumbered ?_ (unmoved sameShared)
      rw [counter, sameEndpoint]
  | pushed role bound session arguments push =>
      cases push with
      | full noSpace ret queueResult sameShared counted =>
          refine .burned ?_ (unmoved sameShared)
          rw [counter, counted]
          rfl
      | queued space ret sequence pushed published sameRole sameGeneration drawn =>
          obtain ⟨-, appended⟩ := ringPush_ok pushed
          refine .numbered priority (sendMessage system.driver.endpoint.generation type
            (endpointNextSequence system.driver.endpoint) length payload).frame.committed
            (counter.trans drawn) ?_ rfl
          simp only [Call.commits, Call.target, region, bound, published, appended, Option.map_some,
            Shared.ring_setRing_self, committedTo_publish]
          rfl

/-- The push without a doorbell does the same. -/
theorem testEnqueue_callStep (system : System) (priority : Priority) (value : U32)
    (corrupt : Bool) :
    CallStep system (.testEnqueue priority value corrupt)
      (Call.apply system (.testEnqueue priority value corrupt)) := by
  simp only [Call.apply, testEnqueueLocked]
  split
  · refine .unnumbered rfl ?_
    simp [Call.commits, Call.target, committedTo_self]
  · rcases linuxRingPush_cases (system.hardware.shared.linuxToCpu3 priority)
        (sendMessage system.driver.endpoint.generation MessageType.ping
          (endpointNextSequence system.driver.endpoint) 4
          (some (storePayloadU32 (fun _ => 0) 0 value))) corrupt with
      same | ⟨slot, -, -, numbered, -, -, published⟩
    · refine .burned rfl ?_
      simp only [Call.commits, Call.target, System.store, Shared.ring_setRing_self, same]
      change (Option.map _ (committedTo (system.hardware.shared.linuxToCpu3 priority) _)).toList = []
      rw [committedTo_self]
      rfl
    · refine .numbered priority slot rfl ?_ numbered
      simp only [Call.commits, Call.target, System.store, Shared.ring_setRing_self, published]
      change (Option.map _ (committedTo (system.hardware.shared.linuxToCpu3 priority) _)).toList = _
      rw [committedTo_publish]
      rfl

/-- Every call of the mix. -/
theorem apply_callStep (system : System) (call : Call) :
    CallStep system call (call.apply system) := by
  cases call with
  | send priority type payload length result answer =>
      exact send_callStep system priority type payload length result answer
  | testEnqueue priority value corrupt => exact testEnqueue_callStep system priority value corrupt
  | receive priority =>
      refine .unnumbered ?_ rfl
      cases endpointReceive_spec system.driver.endpoint system.hardware.shared priority with
      | refused ret notStale sameEndpoint => exact congrArg Endpoint.nextSequence sameEndpoint
      | popped role bound session ret released message counted =>
          change (endpointReceive _ _ _).endpoint.nextSequence = _
          rw [counted]
          rfl
  | region shared => exact .unnumbered rfl rfl

/-- What holds in every run: the draws are those of the counter from its start, and the frames carry
some of them in order. -/
structure Numbered (state : State) : Prop where
  counter : state.system.driver.endpoint.nextSequence = nextNonzero^[state.drawn.length] 0#32
  draws : state.drawn = drawsSinceBind state.drawn.length
  frames : (state.committed.map fun entry => entry.2.sequence).Sublist state.drawn

/-- Before the first call nothing is drawn. -/
theorem Numbered.init {state : State} (start : machine.init state) : Numbered state := by
  obtain ⟨⟨endpoint, role, bound, same⟩, drawn, committed⟩ := start
  refine ⟨?_, by rw [drawn]; rfl, by rw [committed, drawn]; exact .slnil⟩
  have zero : (endpointBind endpoint state.system.hardware.shared role).2.nextSequence = 0 := by
    unfold endpointBind at bound ⊢
    split at bound
    · cases bound
    · split at bound
      · cases bound
      · simp_all
  rw [drawn, same, zero]
  rfl

/-- The next draw is the next value of the sequence. -/
theorem Numbered.draw {state : State} (numbered : Numbered state) :
    endpointNextSequence state.system.driver.endpoint =
        nextNonzero^[state.drawn.length + 1] 0#32 ∧
      state.drawn ++ [endpointNextSequence state.system.driver.endpoint] =
        drawsSinceBind (state.drawn.length + 1) := by
  have next : endpointNextSequence state.system.driver.endpoint =
      nextNonzero^[state.drawn.length + 1] 0#32 := by
    rw [endpointNextSequence, numbered.counter, Function.iterate_succ_apply']
  refine ⟨next, ?_⟩
  rw [drawsSinceBind_succ, ← numbered.draws, next]

/-- A call that draws extends the list by one, and commits at most that number. -/
theorem Numbered.step {state : State} (numbered : Numbered state) (call : Call) :
    Numbered (step state call) := by
  obtain ⟨next, extended⟩ := numbered.draw
  cases apply_callStep state.system call with
  | unnumbered same nothing =>
      refine ⟨?_, ?_, ?_⟩
      · simpa [Sequence.step, drawnBy_same same, same] using numbered.counter
      · simpa [Sequence.step, drawnBy_same same] using numbered.draws
      · simpa [Sequence.step, drawnBy_same same, nothing] using numbered.frames
  | burned moved nothing =>
      refine ⟨?_, ?_, ?_⟩
      · simp [Sequence.step, drawnBy_next moved, moved, next]
      · simp [Sequence.step, drawnBy_next moved, extended]
      · simp only [Sequence.step, drawnBy_next moved, nothing, List.append_nil]
        exact numbered.frames.trans (List.sublist_append_left _ _)
  | numbered priority slot moved frame carries =>
      refine ⟨?_, ?_, ?_⟩
      · simp [Sequence.step, drawnBy_next moved, moved, next]
      · simp [Sequence.step, drawnBy_next moved, extended]
      · simp only [Sequence.step, drawnBy_next moved, frame, List.map_append, List.map_cons,
          List.map_nil, carries]
        exact numbered.frames.append (.refl _)

/-- In every run. -/
theorem Numbered.reachable {state : State} (reached : machine.Reachable state) :
    Numbered state := by
  refine reached.invariant (fun _ start => .init start) ?_
  intro state call next _ numbered taken
  cases taken
  exact numbered.step call

end Sequence

/-! ### The counter of the driver's endpoint -/

/-- A step draws at most one sequence number. -/
def AtMostOneDraw (before after : Endpoint) : Prop :=
  after.nextSequence = before.nextSequence ∨ after.nextSequence = endpointNextSequence before

/-- A send draws at most once, and an accepted one has drawn. -/
theorem linuxSend_draw (system : System) (priority : Priority) (type : U32)
    (payload : Option (Nat → U8)) (length : U32) :
    AtMostOneDraw system.driver.endpoint
        (linuxSend system priority type payload length).2.driver.endpoint ∧
      ((linuxSend system priority type payload length).1.ret = .ok →
        (linuxSend system priority type payload length).2.driver.endpoint.nextSequence =
          endpointNextSequence system.driver.endpoint) := by
  have queueing := endpointSend_sameQueueing (fun priority system => notifyLocked system priority)
    system system.driver.endpoint system.hardware.shared priority type payload length .zero
  have spec := endpointEnqueue_spec system.driver.endpoint system.hardware.shared
    priority type payload
    length .zero
  simp only [linuxSend, System.store, AtMostOneDraw, queueing.nextSequence, queueing.ret]
  cases spec with
  | refused ret notFull sameEndpoint sameShared cause =>
      exact ⟨.inl (by rw [sameEndpoint]), fun ok => absurd ok ret⟩
  | pushed role bound session arguments push =>
      cases push with
      | full noSpace ret queueResult sameShared counted =>
          have drawn : (endpointEnqueue system.driver.endpoint system.hardware.shared priority type
              payload length .zero).endpoint.nextSequence =
                endpointNextSequence system.driver.endpoint := by
            rw [counted]
            rfl
          exact ⟨.inr drawn, fun _ => drawn⟩
      | queued space ret sequence pushed published sameRole sameGeneration drawn =>
          exact ⟨.inr drawn, fun _ => drawn⟩

/-- A receive does not draw. -/
theorem linuxReceive_counter (system : System) (priority : Priority) :
    (linuxReceive system priority).2.driver.endpoint.nextSequence =
      system.driver.endpoint.nextSequence := by
  simp only [linuxReceive, System.store]
  cases endpointReceive_spec system.driver.endpoint system.hardware.shared priority with
  | refused ret notStale sameEndpoint => rw [sameEndpoint]
  | popped role bound session ret released message counted =>
      rw [counted]
      rfl

/-- The push without a doorbell draws at most once. -/
theorem testEnqueueLocked_draw (system : System) (priority : Priority) (value : U32)
    (corrupt : Bool) :
    AtMostOneDraw system.driver.endpoint
      (testEnqueueLocked system priority value corrupt).2.driver.endpoint := by
  simp only [testEnqueueLocked]
  split
  · exact .inl rfl
  · exact .inr rfl

/-- A stop draws at most once, for its STOP_REQUEST. -/
theorem requestStop_draw (system : System) :
    AtMostOneDraw system.driver.endpoint (requestStop system).2.driver.endpoint := by
  have sent := (linuxSend_draw system.stopping .critical MessageType.stopRequest none 0).1
  simp only [requestStop]
  split
  · exact sent
  · exact sent

/-- What one step can do to the counter and the session counter. -/
inductive CounterStep (before after : System) : Prop where
  | session (epoch : after.epoch = before.epoch)
      (draw : AtMostOneDraw before.driver.endpoint after.driver.endpoint)
  | rebound (epoch : after.epoch = before.epoch + 1)
      (reset : after.driver.endpoint.nextSequence = 0#32)

/-- What leaves the endpoint alone leaves the counter alone. -/
theorem CounterStep.of_endpoint {before after : System} (epoch : after.epoch = before.epoch)
    (same : after.driver.endpoint = before.driver.endpoint) : CounterStep before after :=
  .session epoch (.inl (by rw [same]))

/-- The verdict over a reply does not use the endpoint. -/
theorem controlResponse_endpoint (system : System) (response : Message) :
    (controlResponse system response).driver.endpoint = system.driver.endpoint := by
  simp only [controlResponse]
  repeat' split
  all_goals rfl

/-- The loop of `control_work` receives and never sends. -/
theorem controlIterate_counter (system : System) :
    (controlIterate system).driver.endpoint.nextSequence = system.driver.endpoint.nextSequence := by
  have received := linuxReceive_counter system .critical
  simp only [controlIterate]
  split
  · exact received
  · split
    · exact received
    · split
      · split
        · split <;> exact received
        · split <;> exact received
      · split
        · rw [(setTimeoutLocked_identity _).endpoint]
          exact received
        · rw [controlResponse_endpoint]
          exact received

/-- The loop of `mailmsg_response` receives and never sends. -/
theorem responseIterate_counter (system : System) (priority : Priority)
    (lines : List ResponseLine) :
    (responseIterate system priority lines).driver.endpoint.nextSequence =
      system.driver.endpoint.nextSequence := by
  have received := linuxReceive_counter system priority
  simp only [responseIterate]
  repeat' split
  all_goals exact received

/-- A PING attribute draws at most once. -/
theorem sendPing_draw (system : System) (numbers : Option (U32 × U32)) (count : Nat)
    (corrupt : Bool) :
    AtMostOneDraw system.driver.endpoint (sendPing system numbers count corrupt).2.driver.endpoint := by
  cases numbers with
  | none => exact .inl rfl
  | some pair =>
      simp only [sendPing]
      split
      · rename_i inRange
        have queued := testEnqueueLocked_draw system ⟨pair.1.toNat, inRange⟩ pair.2 true
        split
        · exact .inl rfl
        · split
          · split
            · exact queued
            · rw [(notifyLocked_step _ _).endpoint]
              exact queued
          · exact (linuxSend_draw system _ _ _ _).1
      · exact .inl rfl

/-- `mailmsg_queue_push` draws at most once. -/
theorem queuePushStore_draw (system : System) (numbers : Option (U32 × U32)) (count : Nat) :
    AtMostOneDraw system.driver.endpoint (queuePushStore system numbers count).2.driver.endpoint := by
  cases numbers with
  | none => exact .inl rfl
  | some pair =>
      simp only [queuePushStore]
      split
      · split
        · exact .inl rfl
        · exact testEnqueueLocked_draw system _ _ _
      · exact .inl rfl

/-- `write` draws at most once. -/
theorem userWrite_draw (system : System) (file : UserFile) (count : Nat) (copied : Bool)
    (frame : UserFrame) :
    AtMostOneDraw system.driver.endpoint
      (userWrite system file count copied frame).2.driver.endpoint := by
  simp only [userWrite]
  split
  · exact .inl rfl
  · split
    · exact .inl rfl
    · split
      · exact .inl rfl
      · split
        · exact .inl rfl
        · exact (linuxSend_draw system _ _ _ _).1

/-- A read and the two doorbells draw nothing; each of the sends draws at most once. -/
theorem DataOperation.draw {system next : System} {label : DriverLabel}
    (operation : DataOperation system label next) :
    AtMostOneDraw system.driver.endpoint next.driver.endpoint := by
  cases operation with
  | @read id file copied found claimed =>
      rw [userRead_system]
      split
      · exact .inl rfl
      · exact .inl (linuxReceive_counter system file.priority)
  | write count copied frame found => exact userWrite_draw system _ count copied frame
  | mailmsgPing numbers count corrupt => exact sendPing_draw system numbers count corrupt
  | queuePush numbers count => exact queuePushStore_draw system numbers count
  | notifyInject text count =>
      exact .inl (congrArg Endpoint.nextSequence (notifyInjectStore_step system text count).endpoint)
  | doorbell numbers count =>
      exact .inl (congrArg Endpoint.nextSequence (doorbellStore_step system numbers count).endpoint)

/-- The effects that send, draw; a launch binds the endpoint anew and begins at zero. -/
theorem LockedEffect.counter {system next : System} {label : DriverLabel}
    (effect : LockedEffect system label next) (bound : system.driver.endpoint.BoundBy .linux) :
    CounterStep system next := by
  cases effect with
  | unchanged | imageWritten | opened | released | claimed
  | responding => exact .of_endpoint rfl rfl
  | work work => exact .of_endpoint work.record.epoch work.record.identity.endpoint
  | launched cpuOn launched unsent => exact .rebound launched.epoch unsent
  | rearmed => exact .rebound rfl rfl
  | stopped active passed =>
      exact .session (requestStop_spec system bound).session.epoch (requestStop_draw system)
  | data operation => exact .session (operation.step bound).epoch operation.draw

/-- The loop of `control_work` belongs to one session. -/
theorem controlIterate_epoch (system : System) (bound : system.driver.endpoint.BoundBy .linux) :
    (controlIterate system).epoch = system.epoch := by
  have kept := (linuxReceive_effect system .critical bound).data.epoch
  simp only [controlIterate, controlResponse]
  repeat' split
  all_goals exact kept

/-- Only start and rearm begin a new session; they reset the counter. -/
theorem driverStep_counter {system next : System} {label : DriverLabel}
    (invariant : SessionInvariant system) (taken : driverStep system label = some next) :
    CounterStep system next := by
  cases driverStep_kind taken with
  | tick elapsed | b2aAcknowledge channel | rxCallback channel message | peer write =>
      exact .of_endpoint rfl rfl
  | dequeue item => cases item <;> exact .of_endpoint rfl rfl
  | control held =>
      exact .session (controlIterate_epoch system invariant.bound)
        (.inl (controlIterate_counter system))
  | response priority lines held =>
      exact .session (responseIterate_step system priority lines invariant.bound).1.epoch
        (.inl (responseIterate_counter system priority lines))
  | locked free executed => exact (lockedStep_effect executed).counter invariant.bound

/-! ### The STOP_REQUESTs of a session -/

/-- A system with the number of draws and the sequence numbers of the STOP_REQUESTs since the last
bind. -/
structure StopHistory where
  system : System
  draws : Nat
  stops : List U32

/-- The record after a step.  A new session starts a new record; STOPPING is entered by a
STOP_REQUEST. -/
def StopHistory.after (history : StopHistory) (next : System) : StopHistory :=
  if next.epoch ≠ history.system.epoch then ⟨next, 0, []⟩
  else
    { system := next
      draws := history.draws +
        (drawnBy history.system.driver.endpoint next.driver.endpoint).length
      stops :=
        if history.system.driver.mailmsgState ≠ .stopping ∧ next.driver.mailmsgState =
          .stopping then
          history.stops ++ [next.driver.stopRequestSequence]
        else history.stops }

/-- Every run of the driver since probe, with the record. -/
def stopHistoryMachine : Machine StopHistory DriverLabel where
  init history := driverMachine.init history.system ∧ history.draws = 0 ∧ history.stops = []
  step history label := (driverStep history.system label).map history.after

theorem StopHistory.after_system (history : StopHistory) (next : System) :
    (history.after next).system = next := by
  simp only [StopHistory.after]
  split <;> rfl

/-- Forgetting the history leaves a run of the driver. -/
theorem StopHistory.reachable_system {history : StopHistory}
    (reached : stopHistoryMachine.Reachable history) : driverMachine.Reachable history.system := by
  induction reached with
  | init start => exact .init start.1
  | step earlier taken inductionHypothesis =>
      obtain ⟨next, stepped, rfl⟩ := Option.map_eq_some_iff.mp taken
      rw [StopHistory.after_system]
      exact inductionHypothesis.step stepped

/-- Each STOP_REQUEST of the session carries a value drawn after those of the earlier ones, and the
current one is the last. -/
structure StopsNumbered (history : StopHistory) : Prop where
  counter : history.system.driver.endpoint.nextSequence = nextNonzero^[history.draws] 0#32
  drawn : history.stops.Sublist (drawsSinceBind history.draws)
  current : history.system.driver.mailmsgState = .stopping →
    history.stops.getLast? = some history.system.driver.stopRequestSequence

/-- STOPPING is entered under the sequence number that the step drew. -/
theorem driverStep_stop_sequence {system next : System} {label : DriverLabel}
    (invariant : SessionInvariant system) (taken : driverStep system label = some next)
    (outside : system.driver.mailmsgState ≠ .stopping)
    (stopping : next.driver.mailmsgState = .stopping) :
    next.driver.endpoint.nextSequence = endpointNextSequence system.driver.endpoint ∧
      next.driver.stopRequestSequence = endpointNextSequence system.driver.endpoint := by
  cases driverStep_lifecycle invariant.bound invariant.control taken with
  | quiet session state =>
      rw [state] at stopping
      exact absurd stopping outside
  | offline session answer poweredOn seenOn watched state =>
      rw [state] at stopping
      cases stopping
  | startTimeout session expired starting state =>
      rw [state] at stopping
      cases stopping
  | stopTimeout session expired already => exact absurd already outside
  | ready response ready =>
      rw [ready.active] at stopping
      cases stopping
  | refused response refused => exact absurd refused.stopping outside
  | stop issued =>
      obtain ⟨count, rfl⟩ := issued.label
      cases driverStep_kind taken with
      | locked free executed =>
          cases lockedStep_effect executed with
          | unchanged => exact absurd stopping outside
          | work work => cases work
          | launched cpuOn launched =>
              obtain ⟨other, isStart⟩ := launched.label
              cases isStart
          | data operation => cases operation
          | stopped active passed =>
              have requested := requestStop_spec system invariant.bound
              rcases requested.state with ⟨-, accepted, sequence⟩ | ⟨stillActive, -⟩
              · refine ⟨?_, sequence⟩
                rw [requested.endpoint]
                exact (linuxSend_draw system.stopping .critical MessageType.stopRequest none 0).2
                  accepted
              · rw [stillActive] at stopping
                cases stopping
  | launched cpuOn launched =>
      rw [launched.state] at stopping
      split at stopping <;> cases stopping
  | rearmed rearmed =>
      rw [rearmed.state] at stopping
      cases stopping

/-- While STOPPING lasts its request stays the same. -/
theorem driverStep_stop_kept {system next : System} {label : DriverLabel}
    (invariant : SessionInvariant system) (taken : driverStep system label = some next)
    (before : system.driver.mailmsgState = .stopping)
    (after : next.driver.mailmsgState = .stopping) :
    next.driver.stopRequestSequence = system.driver.stopRequestSequence := by
  cases driverStep_lifecycle invariant.bound invariant.control taken with
  | quiet session | offline session | startTimeout session | stopTimeout session =>
      exact session.stopRequestSequence
  | ready response ready =>
      rw [ready.active] at after
      cases after
  | refused response refused => exact refused.session.stopRequestSequence
  | stop issued =>
      rw [issued.active] at before
      cases before
  | launched cpuOn launched =>
      rw [launched.state] at after
      split at after <;> cases after
  | rearmed rearmed =>
      rw [rearmed.state] at after
      cases after

/-- A new session is not in STOPPING. -/
theorem driverStep_epoch_not_stopping {system next : System} {label : DriverLabel}
    (invariant : SessionInvariant system) (taken : driverStep system label = some next)
    (renewed : next.epoch ≠ system.epoch) : next.driver.mailmsgState ≠ .stopping := by
  intro stopping
  cases driverStep_lifecycle invariant.bound invariant.control taken with
  | quiet session | offline session | startTimeout session | stopTimeout session =>
      exact renewed session.epoch
  | ready response ready => exact renewed ready.session.epoch
  | refused response refused => exact renewed refused.session.epoch
  | stop issued => exact renewed issued.session.epoch
  | launched cpuOn launched =>
      rw [launched.state] at stopping
      split at stopping <;> cases stopping
  | rearmed rearmed =>
      rw [rearmed.state] at stopping
      cases stopping

/-- A stop appends the number that it drew, and a start forgets them all. -/
theorem StopsNumbered.step {history : StopHistory} {next : System} {label : DriverLabel}
    (invariant : SessionInvariant history.system) (numbered : StopsNumbered history)
    (taken : driverStep history.system label = some next) : StopsNumbered (history.after next) := by
  by_cases renewed : next.epoch = history.system.epoch
  · have shape : history.after next =
        { system := next
          draws := history.draws +
            (drawnBy history.system.driver.endpoint next.driver.endpoint).length
          stops :=
            if history.system.driver.mailmsgState ≠ .stopping ∧
                next.driver.mailmsgState = .stopping then
              history.stops ++ [next.driver.stopRequestSequence]
            else history.stops } := if_neg (not_not.mpr renewed)
    have value : endpointNextSequence history.system.driver.endpoint =
        nextNonzero^[history.draws + 1] 0#32 := by
      rw [endpointNextSequence, numbered.counter, Function.iterate_succ_apply']
    have draw : AtMostOneDraw history.system.driver.endpoint next.driver.endpoint := by
      cases driverStep_counter invariant taken with
      | session epoch draw => exact draw
      | rebound epoch reset => omega
    rw [shape]
    by_cases enters : history.system.driver.mailmsgState ≠ .stopping ∧
        next.driver.mailmsgState = .stopping
    · obtain ⟨drawn, request⟩ := driverStep_stop_sequence invariant taken enters.1 enters.2
      refine ⟨?_, ?_, fun _ => ?_⟩
      · simp [drawnBy_next drawn, drawn, value]
      · simp only [if_pos enters, drawnBy_next drawn, List.length_singleton, drawsSinceBind_succ,
          request, value]
        exact numbered.drawn.append (.refl _)
      · simp [if_pos enters]
    · have current : next.driver.mailmsgState = .stopping →
          history.stops.getLast? = some next.driver.stopRequestSequence := by
        intro stopping
        have before : history.system.driver.mailmsgState = .stopping := by
          by_contra outside
          exact enters ⟨outside, stopping⟩
        rw [driverStep_stop_kept invariant taken before stopping]
        exact numbered.current before
      rcases draw with same | drawn
      · refine ⟨?_, ?_, ?_⟩
        · simpa [drawnBy_same same, same] using numbered.counter
        · simpa [drawnBy_same same, if_neg enters] using numbered.drawn
        · simpa [if_neg enters] using current
      · refine ⟨?_, ?_, ?_⟩
        · simp [drawnBy_next drawn, drawn, value]
        · simp only [if_neg enters, drawnBy_next drawn, List.length_singleton, drawsSinceBind_succ]
          exact numbered.drawn.trans (List.sublist_append_left _ _)
        · simpa [if_neg enters] using current
  · have shape : history.after next = ⟨next, 0, []⟩ := if_pos renewed
    have reset : next.driver.endpoint.nextSequence = 0#32 := by
      cases driverStep_counter invariant taken with
      | session epoch draw => exact absurd epoch renewed
      | rebound epoch reset => exact reset
    rw [shape]
    exact ⟨reset, .slnil, fun stopping =>
      absurd stopping (driverStep_epoch_not_stopping invariant taken renewed)⟩

/-- In every run with its history. -/
theorem StopsNumbered.reachable {history : StopHistory}
    (reached : stopHistoryMachine.Reachable history) : StopsNumbered history := by
  refine reached.invariant ?_ ?_
  · intro history start
    obtain ⟨⟨config, image, hardware, jiffies, same⟩, draws, stops⟩ := start
    refine ⟨?_, ?_, ?_⟩
    · rw [same, draws]
      rfl
    · rw [stops]
      exact List.nil_sublist _
    · intro stopping
      rw [same] at stopping
      cases stopping
  · intro history label next reached numbered taken
    obtain ⟨system, stepped, rfl⟩ := Option.map_eq_some_iff.mp taken
    exact numbered.step (.reachable (StopHistory.reachable_system reached)) stepped

/-- In a session of fewer draws than one period no earlier STOP_REQUEST has the number of the
current one. -/
theorem StopsNumbered.earlier_ne {history : StopHistory} (numbered : StopsNumbered history)
    (few : history.draws < sequencePeriod)
    (stopping : history.system.driver.mailmsgState = .stopping)
    {earlier : U32} (member : earlier ∈ history.stops.dropLast) :
    earlier ≠ history.system.driver.stopRequestSequence := by
  have increasing := (drawsSinceBind_increasing few).sublist numbered.drawn
  obtain ⟨front, shape⟩ := List.getLast?_eq_some_iff.mp (numbered.current stopping)
  rw [shape, List.pairwise_append] at increasing
  rw [shape, List.dropLast_concat] at member
  intro same
  have ordered := increasing.2.2 earlier member _ (List.mem_singleton_self _)
  rw [same] at ordered
  exact Nat.lt_irrefl _ ordered

/-- A reply that carries the number of an earlier STOP_REQUEST is not taken. -/
theorem StopsNumbered.stale_reply_ignored {history : StopHistory} (numbered : StopsNumbered history)
    (invariant : SessionInvariant history.system) (few : history.draws < sequencePeriod)
    (stopping : history.system.driver.mailmsgState = .stopping) {response : Message}
    (next : history.system.nextControl = some response)
    (stale : payloadU32 response.payloadAt 0 ∈ history.stops.dropLast) {after : System}
    (taken : driverStep history.system .controlIterate = some after) :
    after.driver.stopReplyType = history.system.driver.stopReplyType ∧
      after.driver.mailmsgState ≠ .active := by
  have different := numbered.earlier_ne few stopping stale
  have halting : history.system.driver.mailmsgState.halting = true := by
    rw [stopping]
    rfl
  cases driverStep_stopStep invariant halting taken with
  | same state record epoch unasked =>
      refine ⟨congrArg Prod.fst record, ?_⟩
      rw [state, stopping]
      simp
  | offline answer state record epoch => cases answer
  | timedOut before expired cause state reply deadline epoch =>
      refine ⟨reply, ?_⟩
      rw [state]
      simp
  | damaged iterates before met state reply deadline epoch =>
      refine ⟨reply, ?_⟩
      rw [state, stopping]
      simp
  | replied iterates met state epoch =>
      simp [System.repliesNext, next, stopReplyAccepted, different] at met
  | rearmed rearms state epoch =>
      obtain ⟨count, label⟩ := rearms
      cases label

namespace Sequence

/-- Frames that carry drawn numbers in order are told apart by them. -/
theorem Numbered.identifies {state : State} (numbered : Numbered state)
    (few : state.drawn.length < sequencePeriod) :
    state.committed.Pairwise fun earlier later =>
      earlier.2.sequence.toNat < later.2.sequence.toNat := by
  have increasing := drawsSinceBind_increasing few
  rw [← numbered.draws] at increasing
  have ordered := increasing.sublist numbered.frames
  rw [List.pairwise_map] at ordered
  exact ordered

/-- With fewer draws than one period a number names at most one committed frame. -/
theorem Numbered.names_one {state : State} (numbered : Numbered state)
    (few : state.drawn.length < sequencePeriod) (peerSequence : U32) :
    (state.committed.filter fun entry => entry.2.sequence = peerSequence).length ≤ 1 := by
  have apart := (numbered.identifies few).filter fun entry => entry.2.sequence = peerSequence
  cases shape : state.committed.filter fun entry => entry.2.sequence = peerSequence with
  | nil => simp
  | cons first rest =>
      cases rest with
      | nil => simp
      | cons second rest =>
          rw [shape] at apart
          have ordered := (List.pairwise_cons.mp apart).1 second (by simp)
          have named : ∀ entry ∈ first :: second :: rest, entry.2.sequence = peerSequence := by
            intro entry member
            rw [← shape] at member
            simpa using (List.mem_filter.mp member).2
          rw [named first (by simp), named second (by simp)] at ordered
          exact absurd ordered (Nat.lt_irrefl _)

end Sequence

/-- Sequence numbers identify frames within a session.  In every mix of calls since a bind zero is
never used and draws less than one period apart differ; with fewer draws than one period the
committed frames of all priorities carry increasing numbers, so that a number names at most one of
them.  In every run of the driver a reply to an earlier STOP_REQUEST of the session is not taken for
the current one. -/
theorem sequences_identify_frames :
    (∀ state, Sequence.machine.Reachable state →
      (∀ value ∈ state.drawn, value ≠ 0#32) ∧
        (∀ entry ∈ state.committed, entry.2.sequence ≠ 0#32) ∧
        (∀ earlier later, earlier < later → later < earlier + (2 ^ 32 - 1) →
          later < state.drawn.length → state.drawn[earlier]? ≠ state.drawn[later]?) ∧
        (state.drawn.length < 2 ^ 32 - 1 →
          (state.committed.Pairwise fun earlier later =>
            earlier.2.sequence.toNat < later.2.sequence.toNat) ∧
          ∀ peerSequence : U32,
            (state.committed.filter fun entry => entry.2.sequence = peerSequence).length ≤ 1)) ∧
      ∀ history, stopHistoryMachine.Reachable history → history.draws < 2 ^ 32 - 1 →
        history.system.driver.mailmsgState = .stopping →
        ∀ response, history.system.nextControl = some response →
          payloadU32 response.payloadAt 0 ∈ history.stops.dropLast →
          ∀ next, driverStep history.system .controlIterate = some next →
            next.driver.stopReplyType = history.system.driver.stopReplyType ∧
              next.driver.mailmsgState ≠ .active := by
  constructor
  · intro state reached
    have numbered := Sequence.Numbered.reachable reached
    have nonzero : ∀ value ∈ state.drawn, value ≠ 0#32 := by
      intro value member
      rw [numbered.draws] at member
      exact drawsSinceBind_ne_zero member
    refine ⟨nonzero, ?_, ?_, fun few => ⟨numbered.identifies few, numbered.names_one few⟩⟩
    · intro entry member
      exact nonzero _ (numbered.frames.subset (List.mem_map_of_mem member))
    · intro earlier later ordered near inside
      rw [numbered.draws, drawsSinceBind_getElem?, drawsSinceBind_getElem?, if_pos inside,
        if_pos (ordered.trans inside)]
      exact fun same => nextNonzero_iterate_ne ordered near (Option.some.inj same)
  · intro history reached few stopping response next stale after taken
    exact (StopsNumbered.reachable reached).stale_reply_ignored
      (.reachable (StopHistory.reachable_system reached)) few stopping next stale taken

/-- A refused stop, a second one, and a late STOP_READY that still carries the first one's
number. -/
def demoStaleReply : List DriverLabel :=
  demoActivation ++
    [.stop true 4, .peer (.slot .critical 1 (stopReplyFrame MessageType.stopRefused 2)),
      .peer (.producer .critical 2), .peer (.consumer .critical 1), .peer (.acknowledge .critical),
      .controlEnter, .controlIterate, .stop true 4,
      .peer (.slot .critical 2 (stopReplyFrame MessageType.stopReady 3)),
      .peer (.producer .critical 3), .controlEnter]

/-- The theorem at a session with two stops, with a reply to the refused one still in the ring. -/
theorem sequences_identify_frames_demo :
    ∃ history next, stopHistoryMachine.run ⟨demoProbed, 0, []⟩ demoStaleReply = some history ∧
      history.stops = [1, 2] ∧ driverStep history.system .controlIterate = some next ∧
      next.driver.stopReplyType = 0#32 ∧ next.driver.mailmsgState ≠ .active := by
  have checked : (stopHistoryMachine.run ⟨demoProbed, 0, []⟩ demoStaleReply).any (fun history =>
      history.stops = [1, 2] ∧ history.draws = 2 ∧ history.system.driver.mailmsgState = .stopping ∧
        history.system.driver.stopReplyType = 0#32 ∧
        history.system.nextControl = some (stopReplyFrame MessageType.stopReady 3) ∧
        (driverStep history.system .controlIterate).isSome = true) = true := by
    decide +kernel
  obtain ⟨history, executed, passed⟩ := Machine.exists_of_run_any checked
  obtain ⟨stops, draws, stopping, unreplied, frame, enabled⟩ := of_decide_eq_true passed
  obtain ⟨next, taken⟩ := Option.isSome_iff_exists.mp enabled
  have reached : stopHistoryMachine.Reachable history :=
    Machine.Reachable.run (.init ⟨demoProbed_init, rfl, rfl⟩) executed
  have stale : payloadU32 (stopReplyFrame MessageType.stopReady 3).payloadAt 0 ∈
      history.stops.dropLast := by
    rw [stops]
    decide
  obtain ⟨reply, state⟩ := sequences_identify_frames.2 history reached
    (by rw [draws]; decide) stopping
    _ frame stale next taken
  exact ⟨history, next, executed, stops, taken, reply.trans unreplied, state⟩

end MailMsg
