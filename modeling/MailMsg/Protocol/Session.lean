/-
Module: MailMsg.Protocol.Session
Purpose: Runs over one shared region with any number of session starts, re-binds of any number of
  endpoint objects, sends that are suspended between their session check and their push, and
  receives.  A delivered frame always comes from the receiver's own session.
Source: LZAMP/protocol/mailmsg/mailmsg_endpoint.c, LZAMP/linux/drivers/lzamp_amp_mailmsg.c
  (start_store)
Trusted boundary: human-reviewed embedding of the source; pushes and pops do not overlap here (their
  overlapping is the subject of MailMsg.Protocol.Interleaving)
Main exports: Session.State, Session.machine, Session.Invariant, Session.session_isolation
-/
import MailMsg.Lib.Transition
import MailMsg.Protocol.Endpoint

namespace MailMsg.Session

/-! ### The machine -/

/-- A send whose arguments and session were accepted and whose push has not happened yet. -/
structure Suspended where
  sender : Nat
  priority : Priority
  type : U32
  payload : Option (Nat → U8)
  length : U32

/-- A frame in a ring together with what its sender was bound to when it pushed. -/
structure Sent where
  sender : Nat
  role : Role
  session : Nat
  generation : U32
  frame : Frame

/-- A finished receive: what the endpoint was bound to, the header generation its check read, its
result, the message that pop copied out and the frame that this message came from. -/
structure ReceiveRecord where
  receiver : Nat
  role : Option Role
  session : Nat
  generation : U32
  headerGeneration : U32
  ret : EndpointResult
  message : Option Message
  origin : Option Sent

/-- The region, the driver's generation counter and the endpoint objects.  `starts` numbers the
sessions and `session` records the one that each endpoint was last bound in; these two, the queues
and the logs are history that no operation reads. -/
structure State where
  shared : Shared
  sessionGeneration : U32
  endpoints : Nat → Endpoint
  suspended : List Suspended
  starts : Nat
  session : Nat → Nat
  queues : Role → Priority → List Sent
  sent : List Sent
  receives : List ReceiveRecord

/-- One operation.  Every endpoint object may be bound, re-bound and used at any time. -/
inductive Label where
  | start
  | bind (id : Nat) (role : Role)
  | send (id : Nat) (priority : Priority) (type : U32) (payload : Option (Nat → U8)) (length : U32)
  | resume (position : Nat) (notifyResult : Int)
  | receive (id : Nat) (priority : Priority)

/-- One queue replaced. -/
def setQueue (queues : Role → Priority → List Sent) (role : Role) (priority : Priority)
    (queue : List Sent) : Role → Priority → List Sent :=
  Function.update queues role (Function.update (queues role) priority queue)

/-- `start_store`: advance the generation, zero the region and write its header. -/
def start (state : State) : State :=
  let generation := nextNonzero state.sessionGeneration
  { state with
    shared := sessionRegion generation
    sessionGeneration := generation
    starts := state.starts + 1
    queues := fun _ _ => [] }

/-- `mailmsg_endpoint_bind`.  A refused bind changes nothing.  A bind that would adopt leftovers
from before the first start is not part of a run: Linux binds inside `start_store` and CPU3 is
powered on by it. -/
def bind (state : State) (id : Nat) (role : Role) : Option State :=
  let bound := endpointBind (state.endpoints id) state.shared role
  if bound.1 ≠ .ok then some state
  else if state.starts = 0 then none
  else
    some
      { state with
        endpoints := Function.update state.endpoints id bound.2
        session := Function.update state.session id state.starts }

/-- `mailmsg_endpoint_send` up to its session check: refused at once, or suspended before the
push. -/
def send (state : State) (request : Suspended) : State :=
  let endpoint := state.endpoints request.sender
  if sendArgumentsValid endpoint request.payload request.length ∧
      endpointSessionValid endpoint state.shared = .ok then
    { state with suspended := state.suspended ++ [request] }
  else state

/-- The rest of a suspended send, over the region and the endpoint as they are now. -/
def resume (state : State) (position : Nat) (notifyResult : Int) : Option State :=
  match state.suspended[position]? with
  | none => none
  | some request =>
      let endpoint := state.endpoints request.sender
      match endpoint.role with
      | none => none
      | some role =>
          let outcome := endpointPush endpoint role state.shared request.priority request.type
            request.payload request.length
          let remaining := state.suspended.eraseIdx position
          if outcome.ret ≠ .ok then
            some
              { state with
                shared := outcome.shared
                endpoints := Function.update state.endpoints request.sender outcome.endpoint
                suspended := remaining }
          else
            let message := sendMessage endpoint.generation request.type
              (endpointNextSequence endpoint) request.length request.payload
            let sent : Sent :=
              { sender := request.sender
                role := role
                session := state.session request.sender
                generation := endpoint.generation
                frame := message.frame }
            some
              { state with
                shared := outcome.shared
                endpoints := Function.update state.endpoints request.sender
                  (endpointNotified request.priority notifyResult outcome).endpoint
                suspended := remaining
                queues := setQueue state.queues role request.priority
                  (state.queues role request.priority ++ [sent])
                sent := state.sent ++ [sent] }

/-- `mailmsg_endpoint_receive`. -/
def receive (state : State) (id : Nat) (priority : Priority) : State :=
  let endpoint := state.endpoints id
  let outcome := endpointReceive endpoint state.shared priority
  let sender := (endpoint.role.getD .linux).peer
  let record : ReceiveRecord :=
    { receiver := id
      role := endpoint.role
      session := state.session id
      generation := endpoint.generation
      headerGeneration := state.shared.generation
      ret := outcome.ret
      message := outcome.message
      origin := if outcome.message.isSome then (state.queues sender priority).head? else none }
  { state with
    shared := outcome.shared
    endpoints := Function.update state.endpoints id outcome.endpoint
    queues :=
      if outcome.message.isSome then
        setQueue state.queues sender priority (state.queues sender priority).tail
      else state.queues
    receives := state.receives ++ [record] }

/-- The machine.  Memory before the first start is arbitrary and no endpoint is bound to it. -/
def machine : Machine State Label where
  init state :=
    state.sessionGeneration = 0#32 ∧ (∀ id, (state.endpoints id).role = none) ∧
      state.suspended = [] ∧ state.starts = 0 ∧ (∀ role priority, state.queues role priority = []) ∧
      state.sent = [] ∧ state.receives = []
  step state
    | .start => some (start state)
    | .bind id role => bind state id role
    | .send id priority type payload length =>
        some (send state ⟨id, priority, type, payload, length⟩)
    | .resume position notifyResult => resume state position notifyResult
    | .receive id priority => some (receive state id priority)

/-! ### The invariant -/

/-- The generation that the `session`-th start writes. -/
def sessionGenerationOf (session : Nat) : U32 := nextNonzero^[session] 0#32

theorem sessionGenerationOf_succ (session : Nat) :
    sessionGenerationOf (session + 1) = nextNonzero (sessionGenerationOf session) :=
  Function.iterate_succ_apply' _ _ _

theorem sessionGenerationOf_ne_zero {session : Nat} (positive : 1 ≤ session) :
    sessionGenerationOf session ≠ 0#32 := by
  obtain ⟨earlier, rfl⟩ := Nat.exists_eq_add_of_le' positive
  rw [sessionGenerationOf_succ]
  exact nextNonzero_ne_zero _

/-- Fewer than `2 ^ 32` sessions have pairwise different generations. -/
theorem sessionGenerationOf_injective {left right : Nat} (leftSmall : left < 2 ^ 32)
    (rightSmall : right < 2 ^ 32) (same : sessionGenerationOf left = sessionGenerationOf right) :
    left = right := by
  rw [sessionGenerationOf, sessionGenerationOf, nextNonzero_iterate leftSmall,
    nextNonzero_iterate rightSmall] at same
  have values := congrArg BitVec.toNat same
  simp only [BitVec.toNat_ofNat] at values
  omega

/-- What is known of every pushed frame. -/
structure Sent.Valid (starts : Nat) (sent : Sent) : Prop where
  positive : 1 ≤ sent.session
  bounded : sent.session ≤ starts
  generation : sent.generation = sessionGenerationOf sent.session
  frame : sent.frame.generation = sent.generation

/-- What is known of every receive that took a frame out of a ring. -/
structure ReceiveRecord.Consumed (log : List Sent) (record : ReceiveRecord) (message : Message)
    (sent : Sent) : Prop where
  logged : sent ∈ log
  origin : record.origin = some sent
  message : message = sent.frame.committed
  direction : record.role = some sent.role.peer
  ret : record.ret = if sent.generation = record.generation then .ok else .staleFrame

/-- What is known of every finished receive. -/
structure ReceiveRecord.Valid (starts : Nat) (log : List Sent) (record : ReceiveRecord) : Prop where
  consumed : ∀ message, record.message = some message →
    1 ≤ record.session ∧ record.session ≤ starts ∧
      record.generation = sessionGenerationOf record.session ∧
      record.headerGeneration = record.generation ∧ ∃ sent, record.Consumed log message sent
  refused : record.message = none → record.ret ≠ .ok ∧ record.origin = none

/-- The rings hold exactly the logged frames that were pushed since the last start and not yet
taken; generations are those of the session that each endpoint is bound in. -/
structure Invariant (state : State) : Prop where
  counted : state.sessionGeneration = sessionGenerationOf state.starts
  header : state.starts ≠ 0 → state.shared.magic = protocolMagic ∧
    state.shared.version = protocolVersion ∧ state.shared.generation = state.sessionGeneration
  bound : ∀ id, (state.endpoints id).role.isSome → 1 ≤ state.session id ∧
    state.session id ≤ state.starts ∧
    (state.endpoints id).generation = sessionGenerationOf (state.session id)
  suspended : ∀ request ∈ state.suspended, (state.endpoints request.sender).role.isSome ∧
    request.length.toNat ≤ payloadBytes
  rings : state.starts ≠ 0 → ∀ role priority,
    (state.shared.ring role priority).Holds ((state.queues role priority).map Sent.frame)
  queued : ∀ role priority, ∀ sent ∈ state.queues role priority, sent ∈ state.sent ∧
    sent.role = role
  sent : ∀ sent ∈ state.sent, sent.Valid state.starts
  receives : ∀ record ∈ state.receives, record.Valid state.starts state.sent

namespace Invariant

variable {state : State}

theorem initial (start : machine.init state) : Invariant state := by
  obtain ⟨generation, unbound, suspended, starts, queues, sent, receives⟩ := start
  refine ⟨?_, ?_, ?_, ?_, ?_, ?_, ?_, ?_⟩
  · rw [generation, starts]
    rfl
  · simp [starts]
  · simp [unbound]
  · simp [suspended]
  · simp [starts]
  · simp [queues]
  · simp [sent]
  · simp [receives]

/-- A bound endpoint never has generation zero. -/
theorem generation_ne_zero (invariant : Invariant state) {id : Nat}
    (isBound : (state.endpoints id).role.isSome) : (state.endpoints id).generation ≠ 0#32 := by
  obtain ⟨positive, -, generation⟩ := invariant.bound id isBound
  rw [generation]
  exact sessionGenerationOf_ne_zero positive

/-- A bound endpoint implies that a session was started. -/
theorem started (invariant : Invariant state) {id : Nat}
    (isBound : (state.endpoints id).role.isSome) : state.starts ≠ 0 := by
  obtain ⟨positive, bounded, -⟩ := invariant.bound id isBound
  omega

/-! Facts about the past survive a longer history. -/

theorem sent_mono {starts starts' : Nat} {sent : Sent} (valid : sent.Valid starts)
    (later : starts ≤ starts') : sent.Valid starts' :=
  ⟨valid.positive, valid.bounded.trans later, valid.generation, valid.frame⟩

theorem record_mono {starts starts' : Nat} {log log' : List Sent} {record : ReceiveRecord}
    (valid : record.Valid starts log) (later : starts ≤ starts')
    (grown : ∀ sent ∈ log, sent ∈ log') : record.Valid starts' log' := by
  refine ⟨?_, valid.refused⟩
  intro message copied
  obtain ⟨positive, bounded, generation, header, sent, consumed⟩ := valid.consumed message copied
  exact ⟨positive, bounded.trans later, generation, header, sent,
    ⟨grown sent consumed.logged, consumed.origin, consumed.message, consumed.direction,
      consumed.ret⟩⟩

/-! ### One step

A start counts the generation on; every other step works with generations of starts that have been.
-/

theorem start (invariant : Invariant state) : Invariant (start state) where
  counted := by
    simp only [Session.start]
    rw [sessionGenerationOf_succ, invariant.counted]
  header := by simp [Session.start, sessionRegion]
  bound := by
    intro id isBound
    obtain ⟨positive, bounded, generation⟩ := invariant.bound id isBound
    exact ⟨positive, Nat.le_succ_of_le bounded, generation⟩
  suspended := invariant.suspended
  rings := by
    -- A zeroed region has eight empty rings.
    intro _ role priority
    cases role <;> exact Ring.Holds.zero
  queued := by simp [Session.start]
  sent := fun sent member => sent_mono (invariant.sent sent member) (Nat.le_succ _)
  receives := fun record member =>
    record_mono (invariant.receives record member) (Nat.le_succ _) (fun _ logged => logged)

/-- Replacing an endpoint by one with the same binding keeps what is known of endpoints. -/
theorem bound_update (invariant : Invariant state) (id : Nat) {endpoint : Endpoint}
    (sameRole : endpoint.role = (state.endpoints id).role)
    (sameGeneration : endpoint.generation = (state.endpoints id).generation) (other : Nat)
    (isBound : (Function.update state.endpoints id endpoint other).role.isSome) :
    1 ≤ state.session other ∧ state.session other ≤ state.starts ∧
      (Function.update state.endpoints id endpoint other).generation =
        sessionGenerationOf (state.session other) := by
  by_cases same : other = id
  · subst same
    simp only [Function.update_self] at isBound ⊢
    rw [sameRole] at isBound
    rw [sameGeneration]
    exact invariant.bound other isBound
  · simp only [Function.update_of_ne same] at isBound ⊢
    exact invariant.bound other isBound

/-- An update that binds an endpoint or keeps its role unbinds nothing. -/
theorem isSome_update {endpoints : Nat → Endpoint} {id other : Nat} {endpoint : Endpoint}
    (kept : (endpoints id).role.isSome → endpoint.role.isSome)
    (isBound : (endpoints other).role.isSome) :
    (Function.update endpoints id endpoint other).role.isSome := by
  by_cases same : other = id
  · subst same
    simpa using kept isBound
  · simpa [Function.update_of_ne same] using isBound

theorem bind {id : Nat} {role : Role} {next : State} (invariant : Invariant state)
    (taken : bind state id role = some next) : Invariant next := by
  simp only [Session.bind] at taken
  split at taken
  · cases taken
    exact invariant
  · rename_i ok
    have accepted := not_not.mp ok
    split at taken
    · cases taken
    · rename_i started
      cases taken
      obtain ⟨roleSet, generation, -⟩ := endpointBind_ok accepted
      obtain ⟨-, -, headerGeneration⟩ := invariant.header started
      refine ⟨invariant.counted, invariant.header, ?_, ?_, invariant.rings, invariant.queued,
        invariant.sent, invariant.receives⟩
      · intro other isBound
        by_cases same : other = id
        · subst same
          simp only [Function.update_self]
          refine ⟨by omega, le_refl _, ?_⟩
          rw [generation, headerGeneration, invariant.counted]
        · simp only [Function.update_of_ne same] at isBound ⊢
          exact invariant.bound other isBound
      · intro request member
        obtain ⟨isBound, short⟩ := invariant.suspended request member
        exact ⟨isSome_update (by simp [roleSet]) isBound, short⟩

theorem send (invariant : Invariant state) (request : Suspended) :
    Invariant (send state request) := by
  simp only [Session.send]
  split
  · rename_i accepted
    obtain ⟨arguments, session⟩ := accepted
    obtain ⟨isBound, -⟩ := (endpointSessionValid_ok_iff _ _).mp session
    refine ⟨invariant.counted, invariant.header, invariant.bound, ?_, invariant.rings,
      invariant.queued, invariant.sent, invariant.receives⟩
    intro other member
    rcases List.mem_append.mp member with old | new
    · exact invariant.suspended other old
    · rw [List.mem_singleton.mp new]
      exact ⟨isBound, sendArgumentsValid_length arguments⟩
  · exact invariant

theorem setQueue_cases (queues : Role → Priority → List Sent) (role : Role) (priority : Priority)
    (queue : List Sent) (role' : Role) (priority' : Priority) :
    (role' = role ∧ priority' = priority ∧
      setQueue queues role priority queue role' priority' = queue) ∨
      ((role' ≠ role ∨ priority' ≠ priority) ∧
        setQueue queues role priority queue role' priority' = queues role' priority') := by
  by_cases sameRole : role' = role
  · subst sameRole
    by_cases samePriority : priority' = priority
    · subst samePriority
      exact .inl ⟨rfl, rfl, by simp [setQueue]⟩
    · exact .inr ⟨.inr samePriority, by simp [setQueue, Function.update_of_ne samePriority]⟩
  · exact .inr ⟨.inl sameRole, by simp [setQueue, Function.update_of_ne sameRole]⟩

/-- A member of one of the queues after one was replaced. -/
theorem mem_setQueue {queues : Role → Priority → List Sent} {role role' : Role}
    {priority priority' : Priority} {queue : List Sent} {sent : Sent}
    (member : sent ∈ setQueue queues role priority queue role' priority') :
    (role' = role ∧ priority' = priority ∧ sent ∈ queue) ∨ sent ∈ queues role' priority' := by
  rcases setQueue_cases queues role priority queue role' priority' with
    ⟨sameRole, samePriority, value⟩ | ⟨-, value⟩
  · exact .inl ⟨sameRole, samePriority, value ▸ member⟩
  · exact .inr (value ▸ member)

/-- Replacing one ring and its queue together keeps the other seven. -/
theorem rings_setRing {shared : Shared} {queues : Role → Priority → List Sent} {role : Role}
    {priority : Priority} {ring : Ring} {queue : List Sent}
    (rings : ∀ role priority, (shared.ring role priority).Holds ((queues role priority).map Sent.frame))
    (replaced : ring.Holds (queue.map Sent.frame)) (role' : Role) (priority' : Priority) :
    ((shared.setRing role priority ring).ring role' priority').Holds
      ((setQueue queues role priority queue role' priority').map Sent.frame) := by
  rcases setQueue_cases queues role priority queue role' priority' with
    ⟨rfl, rfl, value⟩ | ⟨different, value⟩
  · rw [value, Shared.ring_setRing_self]
    exact replaced
  · rw [value, Shared.ring_setRing_of_ne _ _ _ _ different]
    exact rings role' priority'

/-- What a resumed send pushes is a valid log entry. -/
theorem resumed_valid (invariant : Invariant state) {id : Nat}
    (isBound : (state.endpoints id).role.isSome) (role : Role) (type sequence length : U32)
    (payload : Option (Nat → U8)) :
    Sent.Valid state.starts
      { sender := id
        role := role
        session := state.session id
        generation := (state.endpoints id).generation
        frame :=
          (sendMessage (state.endpoints id).generation type sequence length payload).frame } := by
  obtain ⟨positive, bounded, generation⟩ := invariant.bound id isBound
  exact ⟨positive, bounded, generation, rfl⟩

theorem resume {position : Nat} {notifyResult : Int} {next : State} (invariant : Invariant state)
    (taken : resume state position notifyResult = some next) : Invariant next := by
  simp only [Session.resume] at taken
  split at taken
  · cases taken
  · rename_i request found
    have member : request ∈ state.suspended := List.mem_of_getElem? found
    obtain ⟨isBound, short⟩ := invariant.suspended request member
    have remaining : ∀ other ∈ state.suspended.eraseIdx position, other ∈ state.suspended :=
      fun other kept => List.mem_of_mem_eraseIdx kept
    split at taken
    · cases taken
    · rename_i role hasRole
      have push := endpointPush_spec (invariant.generation_ne_zero isBound) role state.shared
        request.priority request.type request.payload short
      have started := invariant.started isBound
      cases push with
      | full noSpace ret queueResult sameShared counted =>
          rw [if_pos (by simp [ret]), sameShared] at taken
          cases taken
          refine ⟨invariant.counted, invariant.header, ?_, ?_, invariant.rings, invariant.queued,
            invariant.sent, invariant.receives⟩
          · exact invariant.bound_update _ (by rw [counted]; rfl) (by rw [counted]; rfl)
          · intro other kept
            obtain ⟨otherBound, otherShort⟩ := invariant.suspended other (remaining other kept)
            exact ⟨isSome_update (by rw [counted]; exact fun same => same) otherBound, otherShort⟩
      | queued space ret sequence pushed published sameRole sameGeneration drawn =>
          rw [if_neg (by simp [ret])] at taken
          cases taken
          have header : ∀ role priority ring,
              (state.shared.setRing role priority ring).magic = protocolMagic ∧
                (state.shared.setRing role priority ring).version = protocolVersion ∧
                (state.shared.setRing role priority ring).generation = state.sessionGeneration := by
            intro role priority ring
            simpa using invariant.header started
          refine ⟨invariant.counted, ?_, ?_, ?_, ?_, ?_, ?_, ?_⟩
          · intro _
            rw [published]
            exact header _ _ _
          · exact invariant.bound_update _ sameRole sameGeneration
          · intro other kept
            obtain ⟨otherBound, otherShort⟩ := invariant.suspended other (remaining other kept)
            refine ⟨isSome_update ?_ otherBound, otherShort⟩
            intro _
            exact sameRole ▸ isBound
          · intro _
            rw [published]
            refine rings_setRing (invariant.rings started) ?_
            rw [List.map_append]
            exact (invariant.rings started role request.priority).push pushed
          · intro role' priority' sent queued
            rcases mem_setQueue queued with ⟨rfl, rfl, listed⟩ | old
            · rcases List.mem_append.mp listed with old | new
              · obtain ⟨logged, direction⟩ := invariant.queued _ _ sent old
                exact ⟨List.mem_append_left _ logged, direction⟩
              · exact ⟨List.mem_append_right _ new, by rw [List.mem_singleton.mp new]⟩
            · obtain ⟨logged, direction⟩ := invariant.queued role' priority' sent old
              exact ⟨List.mem_append_left _ logged, direction⟩
          · intro sent logged
            rcases List.mem_append.mp logged with old | new
            · exact invariant.sent sent old
            · rw [List.mem_singleton.mp new]
              exact invariant.resumed_valid isBound _ _ _ _ _
          · intro record finished
            exact record_mono (invariant.receives record finished) (le_refl _)
              (fun _ logged => List.mem_append_left _ logged)

/-- What a receive of a valid session records, from the queue that its ring holds. -/
theorem received_valid (invariant : Invariant state) {id : Nat} {role : Role} (priority : Priority)
    (hasRole : (state.endpoints id).role = some role)
    (session : endpointSessionValid (state.endpoints id) state.shared = .ok) :
    let popped := ringPop (state.shared.ring role.peer priority)
    ReceiveRecord.Valid state.starts state.sent
      { receiver := id
        role := some role
        session := state.session id
        generation := (state.endpoints id).generation
        headerGeneration := state.shared.generation
        ret := receiveResult (state.endpoints id).generation popped.1 popped.2.2
        message := popped.2.2
        origin := if popped.2.2.isSome then (state.queues role.peer priority).head?
          else none } := by
  have isBound : (state.endpoints id).role.isSome := by simp [hasRole]
  obtain ⟨positive, bounded, generation⟩ := invariant.bound id isBound
  obtain ⟨-, -, -, -, header⟩ := (endpointSessionValid_ok_iff _ _).mp session
  have holds := invariant.rings (invariant.started isBound) role.peer priority
  cases queue : state.queues role.peer priority with
  | nil =>
      rw [queue, List.map_nil] at holds
      rw [holds.pop_nil]
      exact ⟨by simp, by simp [receiveResult]⟩
  | cons sent rest =>
      rw [queue, List.map_cons] at holds
      obtain ⟨ok, copied, -⟩ := holds.pop_cons
      obtain ⟨logged, direction⟩ := invariant.queued role.peer priority sent (by simp [queue])
      have frame := (invariant.sent sent logged).frame
      intro popped
      refine ⟨?_, by simp [popped, copied]⟩
      intro message delivered
      refine ⟨positive, bounded, generation, header, sent, ⟨logged, ?_, ?_, ?_, ?_⟩⟩
      · simp [popped, copied]
      · simpa [popped, copied] using delivered.symm
      · simp [direction]
      · -- The popped frame carries its sender's generation, which receive compares with its own.
        have carried : sent.frame.committed.generation = sent.generation := frame
        by_cases same : sent.generation = (state.endpoints id).generation
        · simp [receiveResult, popped, ok, copied, carried, same]
        · simp [receiveResult, popped, ok, copied, carried, same]

theorem receive (invariant : Invariant state) (id : Nat) (priority : Priority) :
    Invariant (receive state id priority) := by
  have spec := endpointReceive_spec (state.endpoints id) state.shared priority
  simp only [Session.receive]
  generalize endpointReceive (state.endpoints id) state.shared priority = outcome at spec ⊢
  cases spec with
  | refused ret notStale sameEndpoint sameShared nothing cause =>
      simp only [sameEndpoint, sameShared, nothing, Option.isSome_none,
        Bool.false_eq_true, if_false, Function.update_eq_self]
      refine ⟨invariant.counted, invariant.header, invariant.bound, invariant.suspended,
        invariant.rings, invariant.queued, invariant.sent, ?_⟩
      intro record member
      rcases List.mem_append.mp member with old | new
      · exact invariant.receives record old
      · rw [List.mem_singleton.mp new]
        exact ⟨by simp, by simp [ret]⟩
  | popped role hasRole session ret released message counted =>
      have isBound : (state.endpoints id).role.isSome := by simp [hasRole]
      have started := invariant.started isBound
      have record := invariant.received_valid priority hasRole session
      have sameRole : outcome.endpoint.role = (state.endpoints id).role := by
        rw [counted]
        rfl
      have sameGeneration : outcome.endpoint.generation = (state.endpoints id).generation := by
        rw [counted]
        rfl
      refine ⟨invariant.counted, ?_, ?_, ?_, ?_, ?_, invariant.sent, ?_⟩
      · intro _
        rw [released]
        simpa using invariant.header started
      · exact invariant.bound_update id sameRole sameGeneration
      · intro request member
        obtain ⟨otherBound, short⟩ := invariant.suspended request member
        exact ⟨isSome_update (fun same => sameRole ▸ same) otherBound, short⟩
      · intro _ role' priority'
        have holds := invariant.rings started role.peer priority
        rw [released, message, hasRole, Option.getD_some]
        cases queue : state.queues role.peer priority with
        | nil =>
            rw [queue, List.map_nil] at holds
            rw [holds.pop_nil, Shared.setRing_ring]
            exact invariant.rings started role' priority'
        | cons sent rest =>
            rw [queue, List.map_cons] at holds
            obtain ⟨-, copied, remaining⟩ := holds.pop_cons
            rw [copied, Option.isSome_some, if_pos rfl]
            exact rings_setRing (invariant.rings started) remaining role' priority'
      · intro role' priority' sent queued
        split at queued
        · rcases mem_setQueue queued with ⟨rfl, rfl, listed⟩ | old
          · exact invariant.queued _ _ sent (List.mem_of_mem_tail listed)
          · exact invariant.queued role' priority' sent old
        · exact invariant.queued role' priority' sent queued
      · intro other member
        rcases List.mem_append.mp member with old | new
        · exact invariant.receives other old
        · rw [List.mem_singleton.mp new, ret, message, hasRole]
          exact record

theorem reachable (reached : machine.Reachable state) : Invariant state := by
  refine reached.invariant (fun _ start => initial start) ?_
  intro earlier label next _ invariant taken
  cases label with
  | start =>
      cases taken
      exact invariant.start
  | bind id role => exact invariant.bind taken
  | send id priority type payload length =>
      cases taken
      exact invariant.send _
  | resume position notifyResult => exact invariant.resume taken
  | receive id priority =>
      cases taken
      exact invariant.receive id priority

end Invariant

/-! ### Isolation -/

/-- In a run with fewer than `2 ^ 32 - 1` starts, a receive answers OK only for a frame that an
endpoint bound in the receiver's own session pushed in the opposite direction, and only when the
header carried the receiver's generation; a frame of another session is consumed as a stale frame;
no bound endpoint and no started session has generation zero. -/
theorem session_isolation {state : State} (reached : machine.Reachable state)
    (fewStarts : state.starts < 2 ^ 32 - 1) :
    (∀ record ∈ state.receives, record.ret = .ok →
      record.headerGeneration = record.generation ∧
        ∃ sent ∈ state.sent, record.origin = some sent ∧
          record.message = some sent.frame.committed ∧ record.role = some sent.role.peer ∧
          sent.generation = record.generation ∧ sent.session = record.session) ∧
      (∀ record ∈ state.receives, ∀ message, record.message = some message →
        ∃ sent ∈ state.sent, record.origin = some sent ∧ message = sent.frame.committed ∧
          (sent.session ≠ record.session → record.ret = .staleFrame)) ∧
      (∀ id, (state.endpoints id).role.isSome → (state.endpoints id).generation ≠ 0#32) ∧
      (state.starts ≠ 0 → state.sessionGeneration ≠ 0#32 ∧
        state.shared.generation = state.sessionGeneration) := by
  have invariant := Invariant.reachable reached
  refine ⟨?_, ?_, fun id isBound => invariant.generation_ne_zero isBound, ?_⟩
  · intro record member ok
    have valid := invariant.receives record member
    cases delivered : record.message with
    | none => exact absurd ok (valid.refused delivered).1
    | some message =>
        obtain ⟨-, bounded, generation, header, sent, consumed⟩ := valid.consumed message delivered
        have same : sent.generation = record.generation := by
          by_contra different
          have ret := consumed.ret
          rw [if_neg different, ok] at ret
          cases ret
        have pushed := invariant.sent sent consumed.logged
        have sessions : sent.session = record.session := by
          have sentBounded := pushed.bounded
          apply sessionGenerationOf_injective (by omega) (by omega)
          rw [← pushed.generation, ← generation, same]
        exact ⟨header, sent, consumed.logged, consumed.origin, by rw [consumed.message],
          consumed.direction, same, sessions⟩
  · intro record member message delivered
    obtain ⟨-, bounded, generation, -, sent, consumed⟩ :=
      (invariant.receives record member).consumed message delivered
    refine ⟨sent, consumed.logged, consumed.origin, consumed.message, ?_⟩
    intro different
    have pushed := invariant.sent sent consumed.logged
    have sentBounded := pushed.bounded
    rw [consumed.ret, if_neg]
    intro same
    rw [pushed.generation, generation] at same
    exact different (sessionGenerationOf_injective (by omega) (by omega) same)
  · intro started
    obtain ⟨-, -, header⟩ := invariant.header started
    refine ⟨?_, header⟩
    rw [invariant.counted]
    exact sessionGenerationOf_ne_zero (Nat.one_le_iff_ne_zero.mpr started)

/-- Before the first start: no endpoint is bound. -/
def demoInitial : State where
  shared := { Shared.zero with magic := 0xffffffff }
  sessionGeneration := 0
  endpoints := fun _ => .zero
  suspended := []
  starts := 0
  session := fun _ => 0
  queues := fun _ _ => []
  sent := []
  receives := []

/-- Endpoint 0 passes its session check in the first session and pushes in the second one, where
endpoint 1 pushes too; endpoint 2 of the second session receives both frames. -/
def demoLabels : List Label :=
  [.start, .bind 0 .linux, .send 0 1 MessageType.ping none 0, .start, .bind 1 .linux, .bind 2 .cpu3,
    .resume 0 notifySent, .send 1 1 MessageType.ping none 0, .resume 0 notifySent,
    .receive 2 1, .receive 2 1]

/-- The theorem at a run in which the frame of the old session is consumed as stale and the frame of
the current one is delivered. -/
theorem session_isolation_demo :
    ∃ state, machine.run demoInitial demoLabels = some state ∧
      state.receives.map (fun record => (record.ret, record.session)) =
        [(.staleFrame, 2), (.ok, 2)] ∧
      ∀ record ∈ state.receives, record.ret = .ok →
        record.headerGeneration = record.generation := by
  have initial : machine.init demoInitial :=
    ⟨rfl, fun _ => rfl, rfl, rfl, fun _ _ => rfl, rfl, rfl⟩
  have checked : (machine.run demoInitial demoLabels).any (fun state =>
      state.receives.map (fun record => (record.ret, record.session)) =
        [(.staleFrame, 2), (.ok, 2)] ∧ state.starts < 2 ^ 32 - 1) = true := by
    decide +kernel
  obtain ⟨state, executed, passed⟩ := machine.exists_of_run_any checked
  obtain ⟨results, fewStarts⟩ := of_decide_eq_true passed
  have isolated := session_isolation (Machine.Reachable.run (.init initial) executed) fewStarts
  exact ⟨state, executed, results, fun record member ok => (isolated.1 record member ok).1⟩

end MailMsg.Session
