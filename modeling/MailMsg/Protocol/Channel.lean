/-
Module: MailMsg.Protocol.Channel
Purpose: What the protocol is for: two parties connected by a bounded FIFO channel for each
  direction and priority.  Two bound endpoints over a shared region answer every sequence of calls
  as these channels do.
Source: LZAMP/protocol/mailmsg/mailmsg_endpoint.c, LZAMP/protocol/mailmsg/mailmsg.c
Trusted boundary: human-reviewed embedding of the source; each call is one step
Main exports: Channel.Connection, Channel.connection, Channel.endpoints, Channel.refinement,
  Channel.endpoints_answer_as_channels
-/
import MailMsg.Lib.Object
import MailMsg.Protocol.Endpoint

namespace MailMsg.Channel

/-! ### Calls and answers -/

/-- What a party sends and its peer receives. -/
@[ext]
structure Packet where
  type : U32
  sequence : U32
  length : U32
  payload : Fin payloadBytes → U8

/-- One call of the endpoint interface.  `result` is the caller's structure before a send, and
`notifyResult` what the notification backend answers. -/
inductive Call where
  | send (party : Role) (priority : Priority) (type : U32) (payload : Option (Nat → U8))
      (length : U32)
      (result : SendResult) (notifyResult : Int)
  | receive (party : Role) (priority : Priority)
  | hasReceived (party : Role) (priority : Priority)

/-- What the caller sees. -/
inductive Answer where
  | sent (ret : EndpointResult) (result : SendResult)
  | received (ret : EndpointResult) (packet : Option Packet)
  | available (value : Int)

/-! ### The channels -/

/-- Two connected parties: the number of the last packet that each has drawn, and what is under
way. -/
structure Connection where
  last : Role → U32
  queue : Role → Priority → List Packet

/-- No packet has been sent. -/
def Connection.fresh : Connection where
  last := fun _ => 0
  queue := fun _ _ => []

/-- How many packets a channel takes. -/
def capacity : Nat := ringSlots - 1

/-- The packet of a send. -/
def packetOf (type sequence length : U32) (payload : Option (Nat → U8)) : Packet where
  type := type
  sequence := sequence
  length := length
  payload := fun index =>
    if index.val < length.toNat then (payload.map fun bytes => bytes index.val).getD 0 else 0

/-- The same connection with another queue in one direction and priority. -/
def Connection.setQueue (connection : Connection) (sender : Role) (priority : Priority)
    (packets : List Packet) : Connection :=
  { connection with
    queue := Function.update connection.queue sender
      (Function.update (connection.queue sender) priority packets) }

/-- A send is refused for its arguments, or draws the party's next number and takes a free place. -/
def Connection.send (connection : Connection) (party : Role) (priority : Priority) (type : U32)
    (payload : Option (Nat → U8)) (length : U32) (result : SendResult) (notifyResult : Int) :
    Answer × Connection :=
  if length.toNat ≤ payloadBytes ∧ (length = 0#32 ∨ payload.isSome) then
    let sequence := nextNonzero (connection.last party)
    let drawn := { connection with last := Function.update connection.last party sequence }
    let packets := connection.queue party priority
    if packets.length = capacity then
      (.sent (.ring .full) { SendResult.pending with queueResult := .full }, drawn)
    else
      (.sent .ok ⟨.ok, notifyResult, true, sequence⟩,
        drawn.setQueue party priority (packets ++ [packetOf type sequence length payload]))
  else (.sent .invalid result, connection)

/-- A receive takes the oldest packet of the peer. -/
def Connection.receive (connection : Connection) (party : Role) (priority : Priority) :
    Answer × Connection :=
  match connection.queue party.peer priority with
  | [] => (.received (.ring .empty) none, connection)
  | packet :: packets =>
      (.received .ok (some packet), connection.setQueue party.peer priority packets)

/-- The channels as an object. -/
def connection : Object Connection Call Answer where
  call connection
    | .send party priority type payload length result notifyResult =>
        connection.send party priority type payload length result notifyResult
    | .receive party priority => connection.receive party priority
    | .hasReceived party priority =>
        (.available (if connection.queue party.peer priority = [] then 0 else 1), connection)

/-! ### The endpoints -/

/-- Both endpoints over their shared region. -/
structure Pair where
  shared : Shared
  endpoints : Role → Endpoint

/-- The packet in a slot that a receive has copied. -/
def packet (message : Message) : Packet where
  type := message.type
  sequence := message.sequence
  length := message.length
  payload := message.payload

/-- The endpoint calls of `mailmsg_endpoint.c` as an object. -/
def endpoints : Object Pair Call Answer where
  call pair
    | .send party priority type payload length result notifyResult =>
        let outcome := (endpointSend (fun _ backend => (notifyResult, backend)) ()
          (pair.endpoints party)
          pair.shared priority type payload length result).1
        (.sent outcome.ret outcome.result,
          { shared := outcome.shared
            endpoints := Function.update pair.endpoints party outcome.endpoint })
    | .receive party priority =>
        let outcome := endpointReceive (pair.endpoints party) pair.shared priority
        (.received outcome.ret (outcome.message.map packet),
          { shared := outcome.shared
            endpoints := Function.update pair.endpoints party outcome.endpoint })
    | .hasReceived party priority =>
        (.available (endpointHasReceived (pair.endpoints party) pair.shared priority), pair)

/-! ### The refinement

A ring stands for the frames between its indices, so an endpoint call is a channel operation on that
list and its counters do not matter.
-/

/-- The frame of a packet in a session. -/
def Packet.frame (packet : Packet) (generation : U32) : Frame where
  generation := generation
  type := packet.type
  sequence := packet.sequence
  length := packet.length
  payload := packet.payload

@[simp] theorem packet_frame (sent : Packet) (generation : U32) :
    packet (sent.frame generation).committed = sent := rfl

theorem frame_packetOf (generation type sequence length : U32) (payload : Option (Nat → U8)) :
    (sendMessage generation type sequence length payload).frame =
      (packetOf type sequence length payload).frame generation := rfl

/-- The endpoints are bound to the region's session, each ring holds the packets of its channel, and
the next numbers agree. -/
structure Represents (pair : Pair) (connection : Connection) : Prop where
  bound : ∀ party, (pair.endpoints party).role = some party
  session : ∀ party, endpointSessionValid (pair.endpoints party) pair.shared = .ok
  last : ∀ party, (pair.endpoints party).nextSequence = connection.last party
  rings : ∀ sender priority, (pair.shared.ring sender priority).Holds
    ((connection.queue sender priority).map fun packet => packet.frame pair.shared.generation)

namespace Represents

variable {pair : Pair} {connection : Connection}

theorem generation (represents : Represents pair connection) (party : Role) :
    (pair.endpoints party).generation = pair.shared.generation := by
  obtain ⟨-, -, -, -, same⟩ := (endpointSessionValid_ok_iff _ _).mp (represents.session party)
  exact same.symm

/-- A channel is full exactly when its ring is. -/
theorem full_iff (represents : Represents pair connection) (party : Role) (priority : Priority) :
    ringNext (pair.shared.ring party priority).producer =
      (pair.shared.ring party priority).consumer ↔
      (connection.queue party priority).length = capacity := by
  rw [(represents.rings party priority).full_iff, List.length_map]
  rfl

/-- The argument checks of a send by a bound endpoint. -/
theorem arguments_iff (represents : Represents pair connection) (party : Role)
    (payload : Option (Nat → U8)) (length : U32) :
    sendArgumentsValid (pair.endpoints party) payload length = true ↔
      length.toNat ≤ payloadBytes ∧ (length = 0#32 ∨ payload.isSome) := by
  simp [sendArgumentsValid, represents.bound party]

/-- Another state of one endpoint with the same binding, over a region whose rings hold these
queues. -/
theorem update (represents : Represents pair connection) {party : Role} {endpoint : Endpoint}
    {shared : Shared} {next : Connection}
    (binding : (pair.endpoints party).SameBinding endpoint)
    (magic : shared.magic = pair.shared.magic) (version : shared.version = pair.shared.version)
    (generation : shared.generation = pair.shared.generation)
    (last : ∀ other, (Function.update pair.endpoints party endpoint other).nextSequence =
      next.last other)
    (rings : ∀ sender priority, (shared.ring sender priority).Holds
      ((next.queue sender priority).map fun packet => packet.frame shared.generation)) :
    Represents ⟨shared, Function.update pair.endpoints party endpoint⟩ next := by
  have same (other : Role) :
      (pair.endpoints other).SameBinding (Function.update pair.endpoints party endpoint other) := by
    by_cases own : other = party
    · rw [own, Function.update_self]
      exact binding
    · rw [Function.update_of_ne own]
      exact .refl _
  refine ⟨?_, ?_, last, rings⟩
  · intro other
    exact (same other).role.trans (represents.bound other)
  · intro other
    rw [(same other).session shared, ← represents.session other]
    simp [endpointSessionValid, magic, version, generation]

end Represents

/-- One ring changes as its channel does. -/
theorem Represents.setRing {pair : Pair} {abstract : Connection}
    (represents : Represents pair abstract)
    (last : Role → U32) {sender : Role} {priority : Priority} {ring : Ring} {packets : List Packet}
    (holds : ring.Holds (packets.map fun packet => packet.frame pair.shared.generation))
    (sender' : Role) (priority' : Priority) :
    ((pair.shared.setRing sender priority ring).ring sender' priority').Holds
      (((({ abstract with last := last } : Connection).setQueue sender priority packets).queue sender'
        priority').map fun packet => packet.frame (pair.shared.setRing sender
          priority ring).generation) := by
  rw [Shared.setRing_generation]
  by_cases here : sender' = sender ∧ priority' = priority
  · obtain ⟨rfl, rfl⟩ := here
    simpa [Connection.setQueue] using holds
  · have elsewhere : sender' ≠ sender ∨ priority' ≠ priority := by
      by_contra both
      rw [not_or, not_not, not_not] at both
      exact here both
    rw [Shared.ring_setRing_of_ne _ _ _ _ elsewhere]
    have same : (({ abstract with last := last } : Connection).setQueue sender priority
      packets).queue sender'
        priority' = abstract.queue sender' priority' := by
      unfold Connection.setQueue
      dsimp only
      by_cases own : sender' = sender
      · subst own
        rw [Function.update_self,
          Function.update_of_ne (elsewhere.resolve_left (fun other => other rfl))]
      · rw [Function.update_of_ne own]
    rw [same]
    exact represents.rings sender' priority'

/-- The number that a party draws. -/
theorem Represents.drawn {pair : Pair} {abstract : Connection}
    (represents : Represents pair abstract)
    {party : Role} {endpoint : Endpoint} {sequence : U32} (drawn : endpoint.nextSequence = sequence)
    (other : Role) :
    (Function.update pair.endpoints party endpoint other).nextSequence =
      Function.update abstract.last party sequence other := by
  by_cases own : other = party
  · rw [own, Function.update_self, Function.update_self]
    exact drawn
  · rw [Function.update_of_ne own, Function.update_of_ne own]
    exact represents.last other

section Sends

variable {pair : Pair} {party : Role} {priority : Priority} {type length : U32}
  {payload : Option (Nat → U8)} {result : SendResult} (notifyResult : Int)

/-- The message of a send. -/
def Pair.message (pair : Pair) (party : Role) (type length : U32)
    (payload : Option (Nat → U8)) : Message :=
  sendMessage (pair.endpoints party).generation type (endpointNextSequence (pair.endpoints party))
    length payload

/-- A send that passes its checks and finds no room. -/
theorem send_full
    (enqueued : endpointEnqueue (pair.endpoints party) pair.shared priority type payload length result =
      endpointPush (pair.endpoints party) party pair.shared priority type payload length)
    (pushed : ringPush (pair.shared.ring party priority) (pair.message party type length payload) =
      (.full, pair.shared.ring party priority)) :
    endpoints.call pair (.send party priority type payload length result notifyResult) =
      (.sent (.ring .full) { SendResult.pending with queueResult := .full },
        ⟨pair.shared, Function.update pair.endpoints party
          ((pair.endpoints party).drawn.updateStats priority fun stats =>
            { stats with txFull := stats.txFull + 1 })⟩) := by
  unfold Pair.message at pushed
  simp [endpoints, endpointSend, enqueued, endpointPush, pushed, Endpoint.drawn, SendResult.pending]

/-- A send that passes its checks and finds room. -/
theorem send_room {ring : Ring}
    (enqueued : endpointEnqueue (pair.endpoints party) pair.shared priority type payload length result =
      endpointPush (pair.endpoints party) party pair.shared priority type payload length)
    (pushed : ringPush (pair.shared.ring party priority) (pair.message party type length payload) =
      (.ok, ring)) :
    ∃ endpoint, (pair.endpoints party).SameBinding endpoint ∧
      endpoint.nextSequence = endpointNextSequence (pair.endpoints party) ∧
      endpoints.call pair (.send party priority type payload length result notifyResult) =
        (.sent .ok ⟨.ok, notifyResult, true, endpointNextSequence (pair.endpoints party)⟩,
          ⟨pair.shared.setRing party priority ring,
            Function.update pair.endpoints party endpoint⟩) := by
  unfold Pair.message at pushed
  simp only [endpoints, endpointSend, enqueued, endpointPush, pushed, ne_eq,
    not_true_eq_false, if_false, endpointNotified]
  refine ⟨_, ?_, ?_, rfl⟩
  · exact ⟨rfl, rfl⟩
  · rfl

end Sends

/-- A send over bound endpoints. -/
theorem send_refines {pair : Pair} {abstract : Connection} (represents : Represents pair abstract)
    (party : Role) (priority : Priority) (type : U32) (payload : Option (Nat → U8)) (length : U32)
    (result : SendResult) (notifyResult : Int) :
    (endpoints.call pair (.send party priority type payload length result notifyResult)).1 =
        (abstract.send party priority type payload length result notifyResult).1 ∧
      Represents (endpoints.call pair (.send party priority type payload length result notifyResult)).2
        (abstract.send party priority type payload length result notifyResult).2 := by
  have bound := represents.bound party
  by_cases arguments : length.toNat ≤ payloadBytes ∧ (length = 0#32 ∨ payload.isSome)
  · have checked := (represents.arguments_iff party payload length).mpr arguments
    have enqueued : endpointEnqueue (pair.endpoints party) pair.shared priority type payload
      length result =
        endpointPush (pair.endpoints party) party pair.shared priority type payload length := by
      simp [endpointEnqueue, bound, checked, represents.session party]
    have numbered : endpointNextSequence (pair.endpoints party) =
        nextNonzero (abstract.last party) := by
      rw [← represents.last party]
      rfl
    obtain ⟨-, nonzero, -⟩ := (endpointSessionValid_ok_iff _ _).mp (represents.session party)
    have valid : ¬ (pair.message party type length payload).malformed :=
      sendMessage_wellFormed nonzero (endpointNextSequence_ne_zero (pair.endpoints party)) arguments.1
    rcases ringPush_cases (pair.shared.ring party priority) (pair.message party type length payload)
      with ⟨malformed, -⟩ | ⟨-, noSpace, pushed⟩ | ⟨-, space, pushed⟩
    · exact absurd malformed valid
    · have full := (represents.full_iff party priority).mp noSpace
      rw [send_full notifyResult enqueued pushed, Connection.send, if_pos arguments]
      dsimp only
      rw [if_pos full]
      exact ⟨rfl, represents.update ⟨rfl, rfl⟩ rfl rfl rfl (represents.drawn numbered) represents.rings⟩
    · have room : ¬ (abstract.queue party priority).length = capacity :=
        fun full => space ((represents.full_iff party priority).mpr full)
      obtain ⟨endpoint, binding, drawn, called⟩ := send_room notifyResult enqueued pushed
      have grown := (represents.rings party priority).push (congrArg Prod.fst pushed)
      have sent : (pair.message party type length payload).frame =
          (packetOf type (nextNonzero (abstract.last party)) length
            payload).frame pair.shared.generation := by
        unfold Pair.message
        rw [frame_packetOf, numbered, represents.generation party]
      have listed : ((abstract.queue party priority ++
            [packetOf type (nextNonzero (abstract.last party)) length payload]).map
              fun packet => packet.frame pair.shared.generation) =
          ((abstract.queue party priority).map fun packet => packet.frame pair.shared.generation) ++
            [(packetOf type (nextNonzero (abstract.last party)) length payload).frame
              pair.shared.generation] := by
        rw [List.map_append]
        rfl
      rw [sent, ← listed, pushed] at grown
      rw [called, Connection.send, if_pos arguments]
      dsimp only
      rw [if_neg room, numbered]
      refine ⟨rfl, represents.update binding (by simp) (by simp) (by simp)
        (represents.drawn (drawn.trans numbered)) ?_⟩
      exact represents.setRing _ grown
  · have checked : ¬ sendArgumentsValid (pair.endpoints party) payload length = true :=
      fun valid => arguments ((represents.arguments_iff party payload length).mp valid)
    have enqueued : endpointEnqueue (pair.endpoints party) pair.shared priority type payload
      length result =
        ⟨.invalid, result, pair.endpoints party, pair.shared⟩ := by
      simp [endpointEnqueue, bound, checked]
    have refused : endpoints.call pair (.send party priority type payload length result notifyResult) =
        (.sent .invalid result, pair) := by
      simp [endpoints, endpointSend, enqueued]
    rw [refused, Connection.send, if_neg arguments]
    exact ⟨rfl, represents⟩

/-- A receive over bound endpoints. -/
theorem receive_refines {pair : Pair} {abstract : Connection}
    (represents : Represents pair abstract) (party : Role) (priority : Priority) :
    (endpoints.call pair (.receive party priority)).1 = (abstract.receive party priority).1 ∧
      Represents (endpoints.call pair (.receive party priority)).2
        (abstract.receive party priority).2 := by
  have bound := represents.bound party
  have session := represents.session party
  have holds := represents.rings party.peer priority
  cases queued : abstract.queue party.peer priority with
  | nil =>
      rw [queued] at holds
      have nothing := endpointReceive_nil priority bound session holds
      have called : endpoints.call pair (.receive party priority) =
          (.received (.ring .empty) none, pair) := by
        simp [endpoints, nothing]
      rw [called, Connection.receive, queued]
      exact ⟨rfl, represents⟩
  | cons packet packets =>
      rw [queued, List.map_cons] at holds
      obtain ⟨rest, taken⟩ := endpointReceive_cons priority bound session holds
        (represents.generation party).symm
      have called : endpoints.call pair (.receive party priority) =
          (.received .ok (some packet),
            ⟨pair.shared.setRing party.peer priority
              (ringPop (pair.shared.ring party.peer priority)).2.1,
              Function.update pair.endpoints party ((pair.endpoints party).updateStats priority
                fun stats => stats.received .ok)⟩) := by
        simp [endpoints, taken]
      rw [called, Connection.receive, queued]
      refine ⟨rfl, represents.update ⟨rfl, rfl⟩ (by simp) (by simp) (by simp) ?_ ?_⟩
      · intro other
        have kept : ((pair.endpoints party).updateStats priority fun stats =>
          stats.received .ok).nextSequence =
            abstract.last party := represents.last party
        have same : (Function.update pair.endpoints party _ other).nextSequence =
            Function.update abstract.last party _ other := represents.drawn kept other
        rw [Function.update_eq_self] at same
        exact same
      · exact represents.setRing abstract.last rest

/-- The availability test over bound endpoints. -/
theorem hasReceived_refines {pair : Pair} {abstract : Connection}
    (represents : Represents pair abstract) (party : Role) (priority : Priority) :
    endpointHasReceived (pair.endpoints party) pair.shared priority =
      if abstract.queue party.peer priority = [] then 0 else 1 := by
  have holds := represents.rings party.peer priority
  have empty := holds.empty_iff
  rw [List.map_eq_nil_iff] at empty
  rw [← if_congr empty rfl rfl]
  simp only [endpointHasReceived, represents.bound party, represents.session party, ne_eq,
    not_true_eq_false, if_false, ringHasData]
  by_cases same : (pair.shared.ring party.peer priority).consumer =
      (pair.shared.ring party.peer priority).producer
  · rw [if_pos same, if_neg (not_not_intro same.symm)]
  · rw [if_neg same, if_pos (Ne.symm same)]

/-- Bound endpoints answer as channels do, call by call. -/
def refinement : Object.Simulation endpoints connection where
  Related := Represents
  answer call represents := by
    cases call with
    | send party priority type payload length result notifyResult =>
        exact (send_refines represents party priority type payload length result notifyResult).1
    | receive party priority => exact (receive_refines represents party priority).1
    | hasReceived party priority =>
        exact congrArg Answer.available (hasReceived_refines represents party priority)
  preserved call represents := by
    cases call with
    | send party priority type payload length result notifyResult =>
        exact (send_refines represents party priority type payload length result notifyResult).2
    | receive party priority => exact (receive_refines represents party priority).2
    | hasReceived party priority => exact represents

/-! ### What passes through a channel -/

/-- The packet that a finished call put into a channel. -/
def accepted (sender : Role) (priority : Priority) (call : Call) (answer : Answer) : List Packet :=
  match call with
  | .send party priority' type payload length _ _ =>
      match answer with
      | .sent ret result =>
          if ret = .ok ∧ party = sender ∧ priority' = priority then
            [packetOf type result.sequence length payload]
          else []
      | .received _ _ | .available _ => []
  | .receive _ _ | .hasReceived _ _ => []

/-- The packet that a finished call took out of a channel. -/
def delivered (sender : Role) (priority : Priority) (call : Call) (answer : Answer) : List Packet :=
  match call with
  | .receive party priority' =>
      match answer with
      | .received _ packet => if party.peer = sender ∧
          priority' = priority then packet.toList else []
      | .sent _ _ | .available _ => []
  | .send _ _ _ _ _ _ _ | .hasReceived _ _ => []

/-- All packets that went into, or came out of, a channel during a sequence of calls. -/
def passed (packets : Call → Answer → List Packet) (calls : List Call) (answers : List Answer) :
    List Packet :=
  (List.zipWith packets calls answers).flatten

theorem setQueue_self (abstract : Connection) (sender : Role) (priority : Priority)
    (packets : List Packet) :
    (abstract.setQueue sender priority packets).queue sender priority = packets := by
  simp [Connection.setQueue]

theorem setQueue_of_ne (abstract : Connection) {sender sender' : Role}
    {priority priority' : Priority}
    (packets : List Packet) (different : ¬ (sender = sender' ∧ priority = priority')) :
    (abstract.setQueue sender priority packets).queue sender' priority' =
      abstract.queue sender' priority' := by
  unfold Connection.setQueue
  dsimp only
  by_cases own : sender' = sender
  · subst own
    have other : priority' ≠ priority := fun same => different ⟨rfl, same.symm⟩
    rw [Function.update_self, Function.update_of_ne other]
  · rw [Function.update_of_ne own]

/-- A call moves the packets of a channel in order. -/
theorem call_fifo (abstract : Connection) (call : Call) (sender : Role) (priority : Priority) :
    abstract.queue sender priority ++ accepted sender priority call
      (connection.call abstract call).1 =
      delivered sender priority call (connection.call abstract call).1 ++
        (connection.call abstract call).2.queue sender priority := by
  cases call with
  | send party priority' type payload length result notifyResult =>
      by_cases arguments : length.toNat ≤ payloadBytes ∧ (length = 0#32 ∨ payload.isSome)
      · by_cases full : (abstract.queue party priority').length = capacity
        · simp [connection, Connection.send, accepted, delivered, arguments, full]
        · by_cases here : party = sender ∧ priority' = priority
          · obtain ⟨rfl, rfl⟩ := here
            simp [connection, Connection.send, accepted, delivered, arguments, full, setQueue_self]
          · simp [connection, Connection.send, accepted, delivered, arguments, full,
              setQueue_of_ne _ _ here, here]
      · simp [connection, Connection.send, accepted, delivered, arguments]
  | receive party priority' =>
      cases queued : abstract.queue party.peer priority' with
      | nil => simp [connection, Connection.receive, accepted, delivered, queued]
      | cons packet packets =>
          by_cases here : party.peer = sender ∧ priority' = priority
          · obtain ⟨rfl, rfl⟩ := here
            simp [connection, Connection.receive, accepted, delivered, queued, setQueue_self]
          · simp [connection, Connection.receive, accepted, delivered, queued,
              setQueue_of_ne _ _ here, here]
  | hasReceived party priority' => simp [connection, accepted, delivered]

/-- No channel loses, duplicates or reorders a packet. -/
theorem connection_fifo (abstract : Connection) (calls : List Call) (sender : Role)
    (priority : Priority) :
    abstract.queue sender priority ++
        passed (accepted sender priority) calls (connection.answers abstract calls) =
      passed (delivered sender priority) calls (connection.answers abstract calls) ++
        (connection.after abstract calls).queue sender priority := by
  induction calls generalizing abstract with
  | nil => simp [passed, Object.after]
  | cons call calls inductionHypothesis =>
      have here := call_fifo abstract call sender priority
      have later := inductionHypothesis (connection.call abstract call).2
      unfold passed at later ⊢
      rw [Object.answers, Object.after, List.zipWith_cons_cons, List.zipWith_cons_cons,
        List.flatten_cons, List.flatten_cons, ← List.append_assoc, here, List.append_assoc, later,
        List.append_assoc]

/-! ### Two endpoints of one session -/

/-- Both parties have just bound to the region and every ring is empty.  The slots may hold
anything. -/
structure Started (pair : Pair) : Prop where
  bound : ∀ party, ∃ before, endpointBind before pair.shared party = (.ok, pair.endpoints party)
  wellFormed : ∀ sender priority, (pair.shared.ring sender priority).WellFormed
  empty : ∀ sender priority,
    (pair.shared.ring sender priority).consumer = (pair.shared.ring sender priority).producer

theorem Started.represents {pair : Pair} (started : Started pair) : Represents pair .fresh where
  bound party := by
    obtain ⟨before, bound⟩ := started.bound party
    have role := (endpointBind_ok (congrArg Prod.fst bound)).1
    rw [bound] at role
    exact role
  session party := by
    obtain ⟨before, bound⟩ := started.bound party
    obtain ⟨role, generation, nonzero, magic, version⟩ := endpointBind_ok (congrArg Prod.fst bound)
    rw [bound] at role generation
    simp only at role generation
    rw [endpointSessionValid_ok_iff]
    refine ⟨by simp [role], ?_, magic, version, generation.symm⟩
    rw [generation]
    exact nonzero
  last party := by
    obtain ⟨before, bound⟩ := started.bound party
    unfold endpointBind at bound
    split at bound
    · cases congrArg Prod.fst bound
    · split at bound
      · cases congrArg Prod.fst bound
      · exact congrArg (fun outcome => outcome.2.nextSequence) bound.symm
  rings sender priority := by
    have wellFormed := started.wellFormed sender priority
    have contents := wellFormed.contents_eq_nil_iff.mpr (started.empty sender priority)
    exact ⟨wellFormed, contents, by simp [Connection.fresh]⟩

/-- From a fresh session on, the endpoints answer every sequence of calls by the two parties as the
channels do: what the receiver of a direction and priority has taken, followed by at most seven
packets that are still under way, is what its peer has sent with success. -/
theorem endpoints_answer_as_channels {pair : Pair} (started : Started pair) (calls : List Call) :
    endpoints.answers pair calls = connection.answers .fresh calls ∧
      ∀ sender priority, ∃ underWay : List Packet, underWay.length ≤ capacity ∧
        passed (accepted sender priority) calls (endpoints.answers pair calls) =
          passed (delivered sender priority) calls (endpoints.answers pair calls) ++ underWay := by
  have same := refinement.answers started.represents calls
  have after := refinement.after started.represents calls
  refine ⟨same, ?_⟩
  intro sender priority
  refine ⟨(connection.after .fresh calls).queue sender priority, ?_, ?_⟩
  · have bounded := (after.rings sender priority).length_le
    rw [List.length_map] at bounded
    exact bounded
  · rw [same]
    exact connection_fifo .fresh calls sender priority

/-- Session 7 with both endpoints bound. -/
def demoPair : Pair where
  shared := sessionRegion 7
  endpoints := fun party => (endpointBind .zero (sessionRegion 7) party).2

/-- A PING of Linux on p1, taken by CPU3, and one that stays in its channel. -/
def demoCalls : List Call :=
  [.send .linux 1 MessageType.ping (some fun _ => 0x2a) 4 .pending notifySent, .hasReceived .cpu3 1,
    .receive .cpu3 1, .receive .cpu3 1, .send .linux 1 MessageType.ping none 0 .pending
      notifyCoalesced]

theorem demoPair_started : Started demoPair where
  bound party := ⟨.zero, by cases party <;> rfl⟩
  wellFormed sender priority := by cases sender <;> exact Ring.zero_wellFormed
  empty sender priority := by cases sender <;> rfl

/-- The theorem on these calls: one packet arrives, and one is under way. -/
theorem endpoints_answer_as_channels_demo :
    (passed (delivered .linux 1) demoCalls (endpoints.answers demoPair demoCalls)).length = 1 ∧
      (passed (accepted .linux 1) demoCalls (endpoints.answers demoPair demoCalls)).length = 2 ∧
      ∃ underWay : List Packet, underWay.length ≤ capacity ∧
        passed (accepted .linux 1) demoCalls (endpoints.answers demoPair demoCalls) =
          passed (delivered .linux 1) demoCalls (endpoints.answers demoPair demoCalls) ++ underWay :=
  ⟨by decide +kernel, by decide +kernel,
    (endpoints_answer_as_channels demoPair_started demoCalls).2 .linux 1⟩

end MailMsg.Channel
