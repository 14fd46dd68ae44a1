/-
Module: MailMsg.Firmware.Drain
Purpose: One call of the CPU3 service from its entry to its return, whatever happens around it, and
  exactly which queues it drains.
Source: LZAMP/firmware/zephyr/app/src/main.c (mailmsg_pingpong_test_service)
Trusted boundary: between two steps of the call the interrupt handler may run and Linux may do
  anything but write its own rings or the header
Main exports: Service.Undisturbed, Service.serviceCall, Service.leftover, Service.Drainable,
  Service.service_drains_iff
-/
import MailMsg.Firmware.Effects

namespace MailMsg.Service

/-! ### One call -/

/-- What may happen between two steps of a call: the interrupt handler, and Linux on the reverse
direction and on the doorbells. -/
structure Undisturbed (before after : Board) : Prop where
  firmware : after.firmware =
    { before.firmware with
      pendingPriorities := after.firmware.pendingPriorities
      workSem := after.firmware.workSem
      isr := after.firmware.isr
      irqCount := after.firmware.irqCount }
  magic : after.hardware.shared.magic = before.hardware.shared.magic
  version : after.hardware.shared.version = before.hardware.shared.version
  generation : after.hardware.shared.generation = before.hardware.shared.generation
  forward : after.hardware.shared.linuxToCpu3 = before.hardware.shared.linuxToCpu3

/-- The steps of one call, each after the surroundings had their turn, until the service returns.
`index` numbers the turns of the surroundings. -/
def serviceCall (surroundings : Nat → Board → Board) (index : Nat) :
    Nat → Board → Option (Round × Board)
  | 0, _ => none
  | fuel + 1, board =>
      match board.firmware.worker with
      | .reporting round => some (round, board)
      | _ =>
          match workerStep (surroundings index board) with
          | none => none
          | some next => serviceCall surroundings (index + 1) fuel next

/-- The call returns with a result of this kind. -/
def Returns (surroundings : Nat → Board → Board) (index : Nat) (board : Board)
    (result : Round → Board → Prop) : Prop :=
  ∃ fuel round after, serviceCall surroundings index fuel board = some (round, after) ∧
    result round after

/-- The service has returned. -/
def isReporting : Worker → Bool
  | .reporting _ => true
  | _ => false

section Steps

variable {surroundings : Nat → Board → Board} {index : Nat} {board next : Board}
  {result : Round → Board → Prop}

theorem serviceCall_step (running : isReporting board.firmware.worker = false) (fuel : Nat) :
    serviceCall surroundings index (fuel + 1) board =
      (workerStep (surroundings index board)).bind
        (serviceCall surroundings (index + 1) fuel) := by
  simp only [serviceCall]
  split
  · rename_i round position
    rw [position] at running
    cases running
  · cases workerStep (surroundings index board) <;> rfl

/-- A call that has returned stays there. -/
theorem returns_reporting {round : Round} (position : board.firmware.worker = .reporting round) :
    Returns surroundings index board result ↔ result round board := by
  constructor
  · rintro ⟨fuel, round', after, returned, holds⟩
    cases fuel with
    | zero => cases returned
    | succ fuel =>
        simp only [serviceCall, position, Option.some.injEq, Prod.mk.injEq] at returned
        obtain ⟨rfl, rfl⟩ := returned
        exact holds
  · intro holds
    exact ⟨1, round, board, by simp [serviceCall, position], holds⟩

/-- A step inside the call does not change how it ends. -/
theorem returns_step (running : isReporting board.firmware.worker = false)
    (stepped : workerStep (surroundings index board) = some next) :
    Returns surroundings index board result ↔ Returns surroundings (index + 1) next result := by
  constructor
  · rintro ⟨fuel, round, after, returned, holds⟩
    cases fuel with
    | zero => cases returned
    | succ fuel =>
        rw [serviceCall_step running, stepped] at returned
        exact ⟨fuel, round, after, returned, holds⟩
  · rintro ⟨fuel, round, after, returned, holds⟩
    refine ⟨fuel + 1, round, after, ?_, holds⟩
    rw [serviceCall_step running, stepped]
    exact returned

/-- A worker that stands still inside the call never returns from it. -/
theorem not_returns_of_stuck (running : isReporting board.firmware.worker = false)
    (stuck : workerStep (surroundings index board) = none) :
    ¬ Returns surroundings index board result := by
  rintro ⟨fuel, round, after, returned, -⟩
  cases fuel with
  | zero => cases returned
  | succ fuel =>
      rw [serviceCall_step running, stuck] at returned
      cases returned

end Steps

/-- Two moments of the same call end alike. -/
def Leads (surroundings : Nat → Board → Board) (index : Nat) (board : Board) (index' : Nat)
    (board' : Board) : Prop :=
  ∀ result, Returns surroundings index board result ↔ Returns surroundings index' board' result

theorem Leads.refl (surroundings : Nat → Board → Board) (index : Nat) (board : Board) :
    Leads surroundings index board index board := fun _ => Iff.rfl

theorem Leads.trans {surroundings : Nat → Board → Board} {index index' index'' : Nat}
    {board board' board'' : Board} (first : Leads surroundings index board index' board')
    (second : Leads surroundings index' board' index'' board'') :
    Leads surroundings index board index'' board'' :=
      fun result => (first result).trans (second result)

theorem Leads.step {surroundings : Nat → Board → Board} {index : Nat} {board next : Board}
    (running : isReporting board.firmware.worker = false)
    (stepped : workerStep (surroundings index board) = some next) :
    Leads surroundings index board (index + 1) next := fun _ => returns_step running stepped

/-! ### The queues that a call sees -/

/-- The board during a call: the image, its session, and the frames waiting in each ring. -/
structure Serving (build : Build) (generation : U32) (rings : Priority → List Message)
    (board : Board) : Prop where
  build : board.firmware.build = build
  bound : board.firmware.endpoint.role = some .cpu3
  session : endpointSessionValid board.firmware.endpoint board.hardware.shared = .ok
  generation : board.firmware.endpoint.generation = generation
  wellFormed : ∀ priority, (board.hardware.shared.linuxToCpu3 priority).WellFormed
  contents : ∀ priority, (board.hardware.shared.linuxToCpu3 priority).contents = rings priority

section Serving

variable {build : Build} {generation : U32} {rings : Priority → List Message} {before after : Board}

/-- The session check reads the binding and the header. -/
theorem session_congr {endpoint endpoint' : Endpoint} {shared shared' : Shared}
    (binding : endpoint.SameBinding endpoint') (magic : shared'.magic = shared.magic)
    (version : shared'.version = shared.version)
    (generation : shared'.generation = shared.generation) :
    endpointSessionValid endpoint' shared' = endpointSessionValid endpoint shared := by
  simp [endpointSessionValid, binding.role, binding.generation, magic, version, generation]

/-- Steps that keep the image, the binding, the header and the forward rings keep the view. -/
theorem Serving.carry (serving : Serving build generation rings before)
    (sameBuild : after.firmware.build = before.firmware.build)
    (binding : before.firmware.endpoint.SameBinding after.firmware.endpoint)
    (magic : after.hardware.shared.magic = before.hardware.shared.magic)
    (version : after.hardware.shared.version = before.hardware.shared.version)
    (header : after.hardware.shared.generation = before.hardware.shared.generation)
    (forward : after.hardware.shared.linuxToCpu3 = before.hardware.shared.linuxToCpu3) :
    Serving build generation rings after where
  build := sameBuild.trans serving.build
  bound := binding.role.trans serving.bound
  session := (session_congr binding magic version header).trans serving.session
  generation := binding.generation.trans serving.generation
  wellFormed := by
    rw [forward]
    exact serving.wellFormed
  contents := by
    rw [forward]
    exact serving.contents

theorem Serving.undisturbed (serving : Serving build generation rings before)
    (quiet : Undisturbed before after) : Serving build generation rings after := by
  apply serving.carry _ _ quiet.magic quiet.version quiet.generation quiet.forward
  · rw [quiet.firmware]
  · rw [quiet.firmware]
    exact .refl _

theorem Serving.sent (serving : Serving build generation rings before)
    (frame : SendFrame before after) : Serving build generation rings after := by
  apply serving.carry _ frame.binding frame.hardware.magic frame.hardware.version
    frame.hardware.generation frame.hardware.forward
  rw [frame.firmware]

theorem Serving.work (serving : Serving build generation rings before) (worker : Worker) :
    Serving build generation rings (before.work worker) :=
  serving.carry rfl (.refl _) rfl rfl rfl rfl

theorem Undisturbed.worker (quiet : Undisturbed before after) :
    after.firmware.worker = before.firmware.worker := by rw [quiet.firmware]

end Serving

/-! ### The frames of one queue -/

/-- A frame that the service's receive answers with OK: well formed, of the right CRC and of the
session's generation. -/
def served (generation : U32) (frame : Message) : Bool :=
  !frame.malformed && frame.crc32 == frameCrc32 frame && frame.generation == generation

/-- What one visit leaves of a queue: it stops behind the first frame that it does not serve. -/
def leftover (generation : U32) : List Message → List Message
  | [] => []
  | frame :: rest => if served generation frame then leftover generation rest else rest

/-- The visit reaches a frame that powers the core off. -/
def surrenders (build : Build) (generation : U32) (priority : Priority) : List Message → Bool
  | [] => false
  | frame :: rest =>
      served generation frame &&
        (build.selfOff priority frame || surrenders build generation priority rest)

theorem leftover_eq_nil_iff (generation : U32) (queue : List Message) :
    leftover generation queue = [] ↔ ∀ frame ∈ queue.dropLast, served generation frame := by
  induction queue with
  | nil => simp [leftover]
  | cons frame rest inductionHypothesis =>
      cases rest with
      | nil => cases good : served generation frame <;> simp [leftover, good]
      | cons second rest =>
          cases good : served generation frame with
          | false => simp [leftover, good]
          | true =>
              simp only [leftover, good, if_true, List.dropLast_cons_cons, List.mem_cons,
                forall_eq_or_imp, true_and]
              exact inductionHypothesis

/-- In a queue that is served to its end, the core goes off when some served frame asks for it. -/
theorem surrenders_eq_true_iff {build : Build} {generation : U32} {priority : Priority}
    {queue : List Message} (drained : ∀ frame ∈ queue.dropLast, served generation frame) :
    surrenders build generation priority queue = true ↔
      ∃ frame ∈ queue, served generation frame ∧ build.selfOff priority frame := by
  induction queue with
  | nil => simp [surrenders]
  | cons frame rest inductionHypothesis =>
      cases rest with
      | nil => simp [surrenders]
      | cons second rest =>
          have good : served generation frame = true := drained frame (by simp)
          have behind : ∀ frame ∈ (second :: rest).dropLast, served generation frame = true :=
            fun frame member => drained frame (by simp [member])
          rw [surrenders, good, Bool.true_and, Bool.or_eq_true, inductionHypothesis behind]
          simp [good]

/-! ### One receive -/

section Receive

variable {build : Build} {generation : U32} {rings : Priority → List Message} {board : Board}

/-- A pop leaves the rest of the queue in its ring and the other rings alone. -/
theorem Serving.popped (serving : Serving build generation rings board) (priority : Priority)
    {endpoint : Endpoint} (binding : board.firmware.endpoint.SameBinding endpoint)
    {rest : List Message}
    (contents : (ringPop (board.hardware.shared.linuxToCpu3 priority)).2.1.contents = rest) :
    Serving build generation (Function.update rings priority rest)
      (board.popped priority endpoint) where
  build := serving.build
  bound := binding.role.trans serving.bound
  session := by
    have session := (binding.session board.hardware.shared).trans serving.session
    rw [← session]
    apply endpointSessionValid_setRing
  generation := binding.generation.trans serving.generation
  wellFormed := by
    intro other
    by_cases same : other = priority
    · simp [Board.popped, Shared.setRing, same, (serving.wellFormed priority).pop]
    · simp [Board.popped, Shared.setRing, same, serving.wellFormed other]
  contents := by
    intro other
    by_cases same : other = priority
    · simp [Board.popped, Shared.setRing, same, contents]
    · simp [Board.popped, Shared.setRing, same, serving.contents other]

/-- The receive of the service pops the forward ring of its priority. -/
theorem receive_popped (serving : Serving build generation rings board) (priority : Priority) :
    ∃ endpoint, board.firmware.endpoint.SameBinding endpoint ∧
      board.received (endpointReceive board.firmware.endpoint board.hardware.shared priority) =
        board.popped priority endpoint ∧
      (endpointReceive board.firmware.endpoint board.hardware.shared priority).ret =
        receiveResult generation (ringPop (board.hardware.shared.linuxToCpu3 priority)).1
          (ringPop (board.hardware.shared.linuxToCpu3 priority)).2.2 ∧
      (endpointReceive board.firmware.endpoint board.hardware.shared priority).message =
        (ringPop (board.hardware.shared.linuxToCpu3 priority)).2.2 := by
  cases endpointReceive_spec board.firmware.endpoint board.hardware.shared priority with
  | refused _ _ _ _ _ cause => exact absurd serving.session cause
  | popped role bound session ret released message counted =>
      obtain rfl : role = .cpu3 := Option.some.inj (bound.symm.trans serving.bound)
      refine ⟨(endpointReceive board.firmware.endpoint board.hardware.shared priority).endpoint,
        ?_, ?_, ?_, message⟩
      · rw [counted]
        apply Endpoint.sameBinding_updateStats
      · simp only [Board.received, Board.popped, released]
        rfl
      · rw [ret, serving.generation]
        rfl

/-- A receive on an empty queue. -/
theorem receive_nil (serving : Serving build generation rings board) {priority : Priority}
    (listed : rings priority = []) :
    (endpointReceive board.firmware.endpoint board.hardware.shared priority).ret = .ring .empty ∧
      Serving build generation rings
        (board.received (endpointReceive board.firmware.endpoint board.hardware.shared priority)) := by
  have empty := (serving.wellFormed priority).contents_eq_nil_iff.mp
    ((serving.contents priority).trans listed)
  have nothing : ringPop (board.hardware.shared.linuxToCpu3 priority) =
      (.empty, board.hardware.shared.linuxToCpu3 priority, none) := by
    simp [ringPop, empty]
  obtain ⟨endpoint, binding, received, ret, -⟩ := receive_popped serving priority
  constructor
  · rw [ret, nothing]
    rfl
  · have kept := serving.popped priority binding
      (congrArg (fun popped => popped.2.1.contents) nothing)
    rw [serving.contents, Function.update_eq_self] at kept
    rw [received]
    exact kept

/-- The results of a receive that took a frame. -/
def taken (ret : EndpointResult) : Prop :=
  ret = .ok ∨ ret = .ring .badCrc ∨ ret = .ring .invalid ∨ ret = .staleFrame

/-- A receive on a queue whose head is committed takes the head, and answers OK when the head is to
be served. -/
theorem receive_cons (serving : Serving build generation rings board) {priority : Priority}
    {frame : Message} {rest : List Message} (listed : rings priority = frame :: rest)
    (committed : frame.commit = frame.sequence) :
    (endpointReceive board.firmware.endpoint board.hardware.shared priority).message = some frame ∧
      taken (endpointReceive board.firmware.endpoint board.hardware.shared priority).ret ∧
      ((endpointReceive board.firmware.endpoint board.hardware.shared priority).ret = .ok ↔
        served generation frame) ∧
      Serving build generation (Function.update rings priority rest)
        (board.received (endpointReceive board.firmware.endpoint board.hardware.shared priority)) := by
  obtain ⟨endpoint, binding, received, ret, message⟩ := receive_popped serving priority
  obtain ⟨copied, contents, okIff⟩ := ringPop_contents (serving.wellFormed priority)
    ((serving.contents priority).trans listed) committed
  have results : (ringPop (board.hardware.shared.linuxToCpu3 priority)).1 = .ok ∨
      (ringPop (board.hardware.shared.linuxToCpu3 priority)).1 = .badCrc ∨
      (ringPop (board.hardware.shared.linuxToCpu3 priority)).1 = .invalid := by
    rcases ringPop_cases (board.hardware.shared.linuxToCpu3 priority) with
      ⟨-, same⟩ | ⟨-, -, same⟩ | ⟨-, -, result, results, -, same⟩
    · rw [same] at copied
      cases copied
    · rw [same] at copied
      cases copied
    · rw [same]
      exact results
  rw [copied] at message
  refine ⟨message, ?_, ?_, ?_⟩
  · rw [ret]
    unfold receiveResult taken
    split
    · simp
    · rcases results with good | crc | invalid
      · exact .inl (by rw [good])
      · exact .inr (.inl (by rw [crc]))
      · exact .inr (.inr (.inl (by rw [invalid])))
  · rw [ret, copied]
    unfold receiveResult served
    split
    · rename_i stale
      have different : (frame.generation == generation) = false := by simpa using stale.2
      simp [different]
    · rename_i current
      by_cases good : (ringPop (board.hardware.shared.linuxToCpu3 priority)).1 = .ok
      · have same : frame.generation = generation := by simpa [good] using current
        simpa [good, same] using okIff.mp good
      · have bad := mt okIff.mpr good
        simp only [EndpointResult.ring.injEq, good, false_iff]
        intro claimed
        simp only [Bool.and_eq_true, Bool.not_eq_true', beq_iff_eq] at claimed
        exact bad ⟨by simp [claimed.1.1], claimed.1.2⟩
  · rw [received]
    exact serving.popped priority binding contents

end Receive

/-! ### One iteration of the drain loop

The frame at the head decides: it is answered, rejected or dropped, and only a good one lets the
loop go on.
-/

/-- The locals of the call that a visit leaves alone. -/
structure SameVisit (before after : Visit) : Prop where
  priority : after.priority = before.priority
  pending : after.round.pending = before.round.pending
  reschedule : after.round.reschedule = before.round.reschedule

theorem SameVisit.refl (visit : Visit) : SameVisit visit visit := ⟨rfl, rfl, rfl⟩

theorem SameVisit.trans {first second third : Visit} (left : SameVisit first second)
    (right : SameVisit second third) : SameVisit first third where
  priority := right.priority.trans left.priority
  pending := right.pending.trans left.pending
  reschedule := right.reschedule.trans left.reschedule

theorem SameVisit.next (visit : Visit) : SameVisit visit visit.next := ⟨rfl, rfl, rfl⟩

/-- On the way out of the drain loop, with or without a NACK. -/
inductive Leaving (visit : Visit) : Worker → Prop where
  | checking : Leaving visit (.checking visit)
  | nack (reply : Reply) : Leaving visit (.replying visit reply .leave)

theorem reject_leaving (visit : Visit) (frame : Message) (reason : U32) :
    Leaving visit (reject visit frame reason) := by
  unfold reject
  split
  · exact .nack _
  · exact .checking

section Iteration

variable {build : Build} {generation : U32} {rings : Priority → List Message} {board : Board}
  {visit : Visit}

/-- An empty queue, or a used-up quota, ends the loop. -/
theorem drain_nil (serving : Serving build generation rings board)
    (listed : rings visit.priority = []) :
    (drain board visit).firmware.worker = .checking visit ∧
      Serving build generation rings (drain board visit) := by
  unfold drain
  split
  · obtain ⟨ret, kept⟩ := receive_nil serving listed
    simp only [ret]
    exact ⟨rfl, kept.work _⟩
  · exact ⟨rfl, serving.work _⟩

/-- A frame to be served is taken and answered. -/
theorem drain_served (serving : Serving build generation rings board) {frame : Message}
    {rest : List Message} (listed : rings visit.priority = frame :: rest)
    (committed : frame.commit = frame.sequence) (quota : visit.handled < drainQuota)
    (good : served generation frame) :
    (drain board visit).firmware.worker = answer build visit.next frame ∧
      Serving build generation (Function.update rings visit.priority rest) (drain board visit) := by
  obtain ⟨message, -, okIff, kept⟩ := receive_cons serving listed committed
  simp only [drain, if_pos quota, okIff.mpr good, message]
  refine ⟨?_, kept.work _⟩
  rw [← serving.build]
  rfl

/-- A frame not to be served is taken and ends the loop. -/
theorem drain_refused (serving : Serving build generation rings board) {frame : Message}
    {rest : List Message} (listed : rings visit.priority = frame :: rest)
    (committed : frame.commit = frame.sequence) (quota : visit.handled < drainQuota)
    (bad : served generation frame = false) :
    (∃ visit', SameVisit visit visit' ∧ visit'.handled ≤ visit.handled + 1 ∧
        Leaving visit' (drain board visit).firmware.worker) ∧
      Serving build generation (Function.update rings visit.priority rest) (drain board visit) := by
  obtain ⟨message, results, okIff, kept⟩ := receive_cons serving listed committed
  rcases results with good | ret | ret | ret
  · rw [okIff.mp good] at bad
    cases bad
  · simp only [drain, if_pos quota, ret, message]
    refine ⟨⟨visit.next, .next visit, le_refl _, reject_leaving ..⟩, ?_⟩
    exact kept.carry rfl (.refl _) rfl rfl rfl rfl
  · simp only [drain, if_pos quota, ret, message]
    refine ⟨⟨visit.next, .next visit, le_refl _, reject_leaving ..⟩, ?_⟩
    exact kept.carry rfl (.refl _) rfl rfl rfl rfl
  · simp only [drain, if_pos quota, ret, message]
    exact ⟨⟨visit, .refl visit, Nat.le_succ _, .checking⟩, kept.work _⟩

/-- A frame that powers the core off is no stop request. -/
theorem answer_selfOff {frame : Message} (surrender : build.selfOff visit.priority frame) :
    answer build visit frame = .stopping frame := by
  have ping : frame.type = MessageType.ping := by
    unfold Build.selfOff at surrender
    cases value : build.selfOffValue with
    | none => simp [value] at surrender
    | some word =>
        simp only [value, Option.any_some, Bool.and_eq_true, beq_iff_eq] at surrender
        exact surrender.1.1.2
  have different : MessageType.ping ≠ MessageType.stopRequest := by decide
  simp [answer, ping, different, surrender]

/-- Without stop control every other answer is a reply, or two, on the way back into the loop. -/
theorem answer_replying {frame : Message} (noStop : build.stopControl = false)
    (stays : build.selfOff visit.priority frame = false) :
    ∃ reply next, answer build visit frame = .replying visit reply next ∧
      (next = .drain ∨ ∃ request, next = .pong request) := by
  unfold answer
  split
  · split
    · exact ⟨_, _, rfl, .inl rfl⟩
    · simp only [noStop]
      exact ⟨_, _, rfl, .inl rfl⟩
  · rw [stays, if_neg Bool.false_ne_true]
    split
    · exact ⟨_, _, rfl, .inr ⟨_, rfl⟩⟩
    · exact ⟨_, _, rfl, .inl rfl⟩

end Iteration

/-! ### Replies -/

section Replies

variable {surroundings : Nat → Board → Board} {build : Build} {generation : U32}
  {rings : Priority → List Message} (index : Nat) {board : Board} {visit : Visit}

/-- A reply, whether its frame finds room or not, goes on to where it was to go. -/
theorem reply_leads (quiet : ∀ turn board, Undisturbed board (surroundings turn board))
    (serving : Serving build generation rings board) {reply : Reply} {next : Continuation}
    (position : board.firmware.worker = .replying visit reply next) :
    ∃ index' board' accepted, Leads surroundings index board index' board' ∧
      Serving build generation rings board' ∧
      board'.firmware.worker = next.resume visit accepted := by
  have before := serving.undisturbed (quiet index board)
  have stands : (surroundings index board).firmware.worker = .replying visit reply next :=
    (quiet index board).worker.trans position
  have bound : (surroundings index board).firmware.endpoint.BoundBy .cpu3 := by
    intro role hasRole
    exact Option.some.inj (hasRole.symm.trans before.bound)
  have stepped : workerStep (surroundings index board) =
      some (sendReply (surroundings index board) visit reply next) := by
    simp [workerStep, stands]
  have first := Leads.step (by simp [position, isReporting]) stepped
  cases sendReply_spec (surroundings index board) visit reply next bound with
  | refused noted frame _ _ moved =>
      refine ⟨_, _, false, first, ?_, ?_⟩
      · rw [moved]
        exact (before.sent frame).work _
      · rw [moved]
        rfl
  | queued pushed result frame _ _ _ moved =>
      rw [moved] at first stepped
      have kept := (before.sent frame).work (.ringing visit result next)
      have quietly := quiet (index + 1) (pushed.work (.ringing visit result next))
      have ringing : (surroundings (index + 1)
          (pushed.work (.ringing visit result next))).firmware.worker =
            .ringing visit result next :=
        quietly.worker
      obtain ⟨rung, rungFrame, moved'⟩ := ringReply_spec
        (surroundings (index + 1) (pushed.work (.ringing visit result next))) visit result next
      have stepped' : workerStep (surroundings (index + 1)
          (pushed.work (.ringing visit result next))) =
            some (rung.work (next.resume visit true)) := by
        simp only [workerStep, ringing, moved']
      have second : Leads surroundings (index + 1) (pushed.work (.ringing visit result next))
          (index + 1 + 1) (rung.work (next.resume visit true)) := Leads.step rfl stepped'
      refine ⟨_, _, true, first.trans second, ?_, rfl⟩
      exact ((kept.undisturbed quietly).sent rungFrame.toSendFrame).work _

/-- An answer that keeps the core on leads back to the head of the loop. -/
theorem answer_leads (quiet : ∀ turn board, Undisturbed board (surroundings turn board))
    (noStop : build.stopControl = false) (serving : Serving build generation rings board)
    {frame : Message} (stays : build.selfOff visit.priority frame = false)
    (position : board.firmware.worker = answer build visit frame) :
    ∃ index' board', Leads surroundings index board index' board' ∧
      Serving build generation rings board' ∧ board'.firmware.worker = .draining visit := by
  obtain ⟨reply, next, replying, nexts⟩ := answer_replying noStop stays
  obtain ⟨index', board', accepted, leads, kept, resumed⟩ :=
    reply_leads index quiet serving (position.trans replying)
  rcases nexts with rfl | ⟨request, rfl⟩
  · exact ⟨index', board', leads, kept, resumed⟩
  · obtain ⟨index'', board'', accepted', leads', kept', resumed'⟩ :=
      reply_leads index' quiet kept resumed
    exact ⟨index'', board'', leads.trans leads', kept', resumed'⟩

/-- The way out of the loop leads to the test behind it. -/
theorem leaving_leads (quiet : ∀ turn board, Undisturbed board (surroundings turn board))
    (serving : Serving build generation rings board)
    (leaving : Leaving visit board.firmware.worker) :
    ∃ index' board', Leads surroundings index board index' board' ∧
      Serving build generation rings board' ∧ board'.firmware.worker = .checking visit := by
  generalize position : board.firmware.worker = worker at leaving
  cases leaving with
  | checking => exact ⟨index, board, Leads.refl surroundings index board, serving, position⟩
  | nack reply =>
      obtain ⟨index', board', accepted, leads, kept, resumed⟩ :=
        reply_leads index quiet serving position
      exact ⟨index', board', leads, kept, resumed⟩

/-- CPU_OFF is never returned from. -/
theorem stopping_not_returns (quiet : ∀ turn board, Undisturbed board (surroundings turn board))
    {request : Message} (position : board.firmware.worker = .stopping request)
    (result : Round → Board → Prop) : ¬ Returns surroundings index board result := by
  have stepOf : ∀ {turn : Nat} {here next : Board},
      isReporting here.firmware.worker = false →
      workerStep (surroundings turn here) = some next →
      ¬ Returns surroundings (turn + 1) next result → ¬ Returns surroundings turn here result :=
    fun running stepped never => mt (returns_step running stepped).mp never
  have stands : (surroundings index board).firmware.worker = .stopping request :=
    (quiet index board).worker.trans position
  refine stepOf (by simp [position, isReporting]) (by simp only [workerStep, stands]; rfl) ?_
  refine stepOf rfl (by simp only [workerStep, (quiet _ _).worker]; rfl) ?_
  refine stepOf rfl (by simp only [workerStep, (quiet _ _).worker, Board.work]; rfl) ?_
  apply not_returns_of_stuck rfl
  simp only [workerStep, (quiet _ _).worker]

end Replies

/-! ### Visits and rounds

Iterations make up the visit of a priority and visits make up the round, so each is a run of the
worker whose frames are the front part of the queues.
-/

section Visits

variable {surroundings : Nat → Board → Board} {build : Build} {generation : U32}

/-- A whole visit, by induction on the queue: it leaves what is behind the first frame it does not
serve, unless it powers the core off before. -/
theorem visit_leads (quiet : ∀ turn board, Undisturbed board (surroundings turn board))
    (noStop : build.stopControl = false) (queue : List Message)
    (committed : ∀ frame ∈ queue, frame.commit = frame.sequence) :
    ∀ {rings : Priority → List Message} {board : Board} {visit : Visit} (index : Nat),
      Serving build generation rings board → rings visit.priority = queue →
      visit.handled + queue.length ≤ drainQuota → board.firmware.worker = .draining visit →
      (surrenders build generation visit.priority queue = true ∧
        ∀ result, ¬ Returns surroundings index board result) ∨
      (surrenders build generation visit.priority queue = false ∧
        ∃ index' board' visit', Leads surroundings index board index' board' ∧
          Serving build generation
            (Function.update rings visit.priority (leftover generation queue)) board' ∧
          SameVisit visit visit' ∧ board'.firmware.worker = .checking visit' ∧
          visit'.handled + (leftover generation queue).length ≤ drainQuota) := by
  induction queue with
  | nil =>
      intro rings board visit index serving listed within position
      have before := serving.undisturbed (quiet index board)
      have stands := (quiet index board).worker.trans position
      obtain ⟨moved, kept⟩ := drain_nil before listed
      refine .inr ⟨rfl, index + 1, _, visit, Leads.step ?_ ?_, ?_, .refl visit, moved, within⟩
      · simp [position, isReporting]
      · simp only [workerStep, stands]
      · rw [leftover, ← listed, Function.update_eq_self]
        exact kept
  | cons frame rest inductionHypothesis =>
      intro rings board visit index serving listed within position
      have before := serving.undisturbed (quiet index board)
      have stands := (quiet index board).worker.trans position
      have head := committed frame (by simp)
      have quota : visit.handled < drainQuota := by
        rw [List.length_cons] at within
        omega
      have running : isReporting board.firmware.worker = false := by simp [position, isReporting]
      have stepped : workerStep (surroundings index board) =
          some (drain (surroundings index board) visit) := by
        simp only [workerStep, stands]
      have first := Leads.step running stepped
      cases good : served generation frame with
      | false =>
          obtain ⟨⟨visit', same, counted, leaving⟩, kept⟩ :=
            drain_refused before listed head quota good
          obtain ⟨index', board', leads, kept', checking⟩ :=
            leaving_leads (index + 1) quiet kept leaving
          refine .inr ⟨by simp [surrenders, good], index', board', visit',
            first.trans leads, ?_, same, checking, ?_⟩
          · simpa [leftover, good] using kept'
          · simp only [leftover, good, Bool.false_eq_true, if_false]
            rw [List.length_cons] at within
            omega
      | true =>
          obtain ⟨answered, kept⟩ := drain_served before listed head quota good
          cases stays : build.selfOff visit.priority frame with
          | true =>
              refine .inl ⟨by simp [surrenders, good, stays], fun result => ?_⟩
              have surrender : build.selfOff visit.next.priority frame = true := stays
              have stopping := answered.trans (answer_selfOff surrender)
              exact mt (first result).mp (stopping_not_returns (index + 1) quiet stopping result)
          | false =>
              have keeps : build.selfOff visit.next.priority frame = false := stays
              obtain ⟨index', board', leads, kept', draining⟩ :=
                answer_leads (index + 1) quiet noStop kept keeps answered
              have listed' : Function.update rings visit.priority rest
                  visit.next.priority = rest := by
                simp [Visit.next]
              have within' : visit.next.handled + rest.length ≤ drainQuota := by
                rw [List.length_cons] at within
                simp only [Visit.next]
                omega
              have reached := first.trans leads
              have spent : surrenders build generation visit.priority (frame :: rest) =
                  surrenders build generation visit.priority rest := by
                simp [surrenders, good, stays]
              have left : leftover generation (frame :: rest) = leftover generation rest := by
                simp [leftover, good]
              rw [spent, left]
              rcases inductionHypothesis (fun frame member => committed frame (by simp [member]))
                  index' kept' listed' within' draining with
                ⟨surrender, never⟩ |
                ⟨stay, index'', board'', visit', leads', kept'', same, checking, bound⟩
              · exact .inl ⟨surrender, fun result => mt (reached result).mp (never result)⟩
              · refine .inr ⟨stay, index'', board'', visit', reached.trans leads', ?_,
                  (SameVisit.next visit).trans same, checking, bound⟩
                simpa [Visit.next] using kept''

/-- Behind a visit no bit is set: a used-up quota leaves no frame. -/
theorem check_quiet {rings : Priority → List Message} {board : Board} {visit : Visit}
    (serving : Serving build generation rings board)
    (bound : visit.handled + (rings visit.priority).length ≤ drainQuota) :
    check board visit = board.work (.scanning visit.round (visit.priority.val + 1)) := by
  have nothing : (decide (visit.handled = drainQuota) &&
      endpointHasReceived board.firmware.endpoint board.hardware.shared visit.priority == 1) =
        false := by
    by_cases used : visit.handled = drainQuota
    · have empty : rings visit.priority = [] := by
        apply List.eq_nil_of_length_eq_zero
        omega
      have indices := (serving.wellFormed visit.priority).contents_eq_nil_iff.mp
        ((serving.contents visit.priority).trans empty)
      have same : board.hardware.shared.ring Role.cpu3.peer visit.priority =
          board.hardware.shared.linuxToCpu3 visit.priority := rfl
      simp [endpointHasReceived, serving.bound, serving.session, same, ringHasData, indices]
    · simp [used]
  simp only [check, nothing]
  rfl

/-- The priorities that a round will still visit. -/
def visited (build : Build) (round : Round) (start : Nat) (priority : Priority) : Bool :=
  decide (start ≤ priority.val) && round.pending priority &&
    !decide (build.skipPriority = some priority)

/-- The rings that the rest of a round leaves. -/
def afterRound (build : Build) (generation : U32) (round : Round) (start : Nat)
    (rings : Priority → List Message) (priority : Priority) : List Message :=
  if visited build round start priority then leftover generation (rings priority)
  else rings priority

/-- Past the priority at its head, a round visits the same priorities. -/
theorem visited_succ {build : Build} {round : Round} {start : Nat} {priority : Priority}
    (other : priority.val ≠ start) :
    visited build round (start + 1) priority = visited build round start priority := by
  have same : decide (start + 1 ≤ priority.val) = decide (start ≤ priority.val) := by
    apply decide_eq_decide.mpr
    omega
  simp only [visited, same]

theorem visited_past {build : Build} {round : Round} {start : Nat} {priority : Priority}
    (past : priority.val < start) : visited build round start priority = false := by
  have before : ¬ start ≤ priority.val := by omega
  simp [visited, before]

theorem leftover_subset {generation : U32} {queue : List Message} {frame : Message}
    (member : frame ∈ leftover generation queue) : frame ∈ queue := by
  induction queue with
  | nil => cases member
  | cons head rest inductionHypothesis =>
      simp only [leftover] at member
      split at member
      · exact List.mem_cons_of_mem _ (inductionHypothesis member)
      · exact List.mem_cons_of_mem _ member

/-- A ring never holds more than the quota. -/
theorem Serving.length_le {rings : Priority → List Message} {board : Board}
    (serving : Serving build generation rings board) (priority : Priority) :
    (rings priority).length ≤ drainQuota := by
  have bound : (board.hardware.shared.linuxToCpu3 priority).occupied < 8 :=
    (serving.wellFormed priority).occupied_lt
  rw [← serving.contents priority, Ring.contents_length]
  unfold drainQuota
  simp only [ringSlots]
  omega

/-- A round does not visit a priority that is not pending, or that the build skips. -/
theorem visited_skipped {build : Build} {round : Round} {start : Nat}
    (inRange : start < priorityCount)
    (skipped : ¬ round.pending ⟨start, inRange⟩ ∨ build.skipPriority = some ⟨start, inRange⟩)
    (priority : Priority) :
    visited build round (start + 1) priority = visited build round start priority := by
  by_cases here : priority.val = start
  · have unvisited : visited build round start priority = false := by
      have named : priority = ⟨start, inRange⟩ := Fin.ext here
      rw [named]
      rcases skipped with absent | excluded
      · simp [visited, absent]
      · simp [visited, excluded]
    rw [unvisited]
    exact visited_past (by omega)
  · exact visited_succ here

/-- The round behind a visit visits the other priorities as before. -/
theorem visited_elsewhere {build : Build} {round round' : Round} {start : Nat}
    (inRange : start < priorityCount) (pending : round'.pending = round.pending)
    {priority : Priority} (elsewhere : priority ≠ ⟨start, inRange⟩) :
    visited build round' (start + 1) priority = visited build round start priority := by
  rw [visited_succ fun here => elsewhere (Fin.ext here)]
  simp only [visited, pending]

/-- The rings behind a round are those behind a visit and the rest of the round. -/
theorem afterRound_visit {build : Build} {generation : U32} {round round' : Round} {start : Nat}
    (inRange : start < priorityCount) (pending : round'.pending = round.pending)
    (visits : visited build round start ⟨start, inRange⟩ = true) (rings : Priority → List Message) :
    afterRound build generation round' (start + 1)
        (Function.update rings ⟨start, inRange⟩ (leftover generation (rings ⟨start, inRange⟩))) =
      afterRound build generation round start rings := by
  have past : visited build round' (start + 1) ⟨start, inRange⟩ = false :=
    visited_past (Nat.lt_succ_self start)
  funext priority
  by_cases here : priority = ⟨start, inRange⟩
  · simp [afterRound, here, past, visits]
  · simp [afterRound, here, visited_elsewhere inRange pending here]

/-- How the rest of a round ends: at a frame that surrenders the CPU it does not return, and
otherwise it reports behind the visits. -/
def RoundEnds (surroundings : Nat → Board → Board) (build : Build) (generation : U32)
    (rings : Priority → List Message) (round : Round) (start index : Nat) (board : Board) : Prop :=
  ((∃ priority, visited build round start priority ∧
      surrenders build generation priority (rings priority)) ∧
    ∀ result, ¬ Returns surroundings index board result) ∨
  ((∀ priority, visited build round start priority →
      surrenders build generation priority (rings priority) = false) ∧
    ∃ index' board' round', Leads surroundings index board index' board' ∧
      Serving build generation (afterRound build generation round start rings) board' ∧
      round'.reschedule = round.reschedule ∧ board'.firmware.worker = .reporting round')

namespace RoundEnds

variable {rings : Priority → List Message} {round round' : Round} {start index index' : Nat}
  {board board' : Board}

/-- A moment of the call that leads to another one ends as that one does. -/
theorem after (first : Leads surroundings index board index' board')
    (ends : RoundEnds surroundings build generation rings round start index' board') :
    RoundEnds surroundings build generation rings round start index board := by
  rcases ends with ⟨surrender, never⟩ | ⟨stay, last, final, reported, leads, kept⟩
  · exact .inl ⟨surrender, fun result => mt (first result).mp (never result)⟩
  · exact .inr ⟨stay, last, final, reported, first.trans leads, kept⟩

/-- A priority that is skipped changes nothing. -/
theorem skip (inRange : start < priorityCount)
    (skipped : ¬ round.pending ⟨start, inRange⟩ ∨ build.skipPriority = some ⟨start, inRange⟩)
    (ends : RoundEnds surroundings build generation rings round (start + 1) index board) :
    RoundEnds surroundings build generation rings round start index board := by
  have same := visited_skipped inRange skipped
  have rest : afterRound build generation round (start + 1) rings =
      afterRound build generation round start rings := by
    funext priority
    simp only [afterRound, same]
  simp only [RoundEnds, same, rest] at ends
  exact ends

/-- A visit that stays, and the rest of the round behind it. -/
theorem visit (inRange : start < priorityCount)
    (visits : visited build round start ⟨start, inRange⟩ = true)
    (stay : surrenders build generation ⟨start, inRange⟩ (rings ⟨start, inRange⟩) = false)
    (pending : round'.pending = round.pending) (reschedule : round'.reschedule = round.reschedule)
    (ends : RoundEnds surroundings build generation
      (Function.update rings ⟨start, inRange⟩ (leftover generation (rings ⟨start, inRange⟩))) round'
      (start + 1) index board) :
    RoundEnds surroundings build generation rings round start index board := by
  have further {priority : Priority} (elsewhere : priority ≠ ⟨start, inRange⟩) :
      visited build round' (start + 1) priority = visited build round start priority :=
    visited_elsewhere inRange pending elsewhere
  rcases ends with ⟨⟨priority, reaches, surrender⟩, never⟩ |
    ⟨stays, index', board', reported, leads, kept, unchanged, reporting⟩
  · have elsewhere : priority ≠ ⟨start, inRange⟩ := by
      rintro rfl
      rw [visited_past (Nat.lt_succ_self start)] at reaches
      cases reaches
    rw [Function.update_of_ne elsewhere] at surrender
    rw [further elsewhere] at reaches
    exact .inl ⟨⟨priority, reaches, surrender⟩, never⟩
  · rw [afterRound_visit inRange pending visits] at kept
    refine .inr ⟨?_, index', board', reported, leads, kept, unchanged.trans reschedule, reporting⟩
    intro priority reaches
    by_cases here : priority = ⟨start, inRange⟩
    · rw [here]
      exact stay
    · rw [← further here] at reaches
      have later := stays priority reaches
      rwa [Function.update_of_ne here] at later

end RoundEnds

/-- The rest of a round, by induction on the priorities that remain. -/
theorem round_leads (quiet : ∀ turn board, Undisturbed board (surroundings turn board))
    (noStop : build.stopControl = false) (remaining : Nat) :
    ∀ {rings : Priority → List Message} {board : Board} {round : Round} {start : Nat} (index : Nat),
      start + remaining = priorityCount → Serving build generation rings board →
      (∀ priority, ∀ frame ∈ rings priority, frame.commit = frame.sequence) →
      board.firmware.worker = .scanning round start →
      RoundEnds surroundings build generation rings round start index board := by
  induction remaining with
  | zero =>
      intro rings board round start index finished serving committed position
      have past : ∀ priority, visited build round start priority = false := by
        intro priority
        exact visited_past (by have bound := priority.isLt; omega)
      have stands := (quiet index board).worker.trans position
      have stepped : workerStep (surroundings index board) =
          some ((surroundings index board).work (.reporting round)) := by
        simp only [workerStep, stands]
        rw [dif_neg (by omega)]
      refine .inr ⟨fun priority reaches => ?_, index + 1, _, round,
        Leads.step ?_ stepped, ?_, rfl, rfl⟩
      · rw [past priority] at reaches
        cases reaches
      · simp [position, isReporting]
      · have same : afterRound build generation round start rings = rings := by
          funext priority
          simp [afterRound, past priority]
        rw [same]
        exact (serving.undisturbed (quiet index board)).work _
  | succ remaining inductionHypothesis =>
      intro rings board round start index finished serving committed position
      have before := serving.undisturbed (quiet index board)
      have stands := (quiet index board).worker.trans position
      have running : isReporting board.firmware.worker = false := by simp [position, isReporting]
      have inRange : start < priorityCount := by omega
      by_cases skipped : ¬ round.pending ⟨start, inRange⟩ ∨
        build.skipPriority = some ⟨start, inRange⟩
      · have stepped : workerStep (surroundings index board) =
            some ((surroundings index board).work (.scanning round (start + 1))) := by
          simp only [workerStep, stands]
          rw [dif_pos inRange, before.build, if_pos skipped]
        have ends := inductionHypothesis (index + 1) (by omega) (before.work _) committed
          (rfl : _ = Worker.scanning round (start + 1))
        exact (ends.skip inRange skipped).after (Leads.step running stepped)
      · have visits : visited build round start ⟨start, inRange⟩ = true := by
          simp only [not_or, not_not] at skipped
          simp [visited, skipped.1, skipped.2]
        have stepped : workerStep (surroundings index board) =
            some ((surroundings index board).work (.draining ⟨round, ⟨start, inRange⟩, 0⟩)) := by
          simp only [workerStep, stands]
          rw [dif_pos inRange, before.build, if_neg skipped]
        have first := Leads.step running stepped
        have within : 0 + (rings ⟨start, inRange⟩).length ≤ drainQuota := by
          rw [Nat.zero_add]
          exact serving.length_le ⟨start, inRange⟩
        rcases visit_leads quiet noStop (rings ⟨start, inRange⟩) (committed ⟨start, inRange⟩)
            (index + 1) (before.work _) rfl within
            (rfl : _ = Worker.draining ⟨round, ⟨start, inRange⟩, 0⟩) with
          ⟨surrender, never⟩ | ⟨stay, index', board', visit', leads, kept, same, checking, bound⟩
        · exact .inl ⟨⟨_, visits, surrender⟩, fun result => mt (first result).mp (never result)⟩
        · have priority' : visit'.priority = ⟨start, inRange⟩ := same.priority
          have before' := kept.undisturbed (quiet index' board')
          have stepped' : workerStep (surroundings index' board') =
              some ((surroundings index' board').work (.scanning visit'.round (start + 1))) := by
            simp only [workerStep, (quiet index' board').worker.trans checking]
            rw [check_quiet before' (by simpa [priority'] using bound), priority']
          have second := Leads.step (by simp [checking, isReporting]) stepped'
          have committed' : ∀ priority, ∀ frame ∈ Function.update rings ⟨start, inRange⟩
              (leftover generation (rings ⟨start, inRange⟩)) priority,
              frame.commit = frame.sequence := by
            intro priority frame member
            by_cases here : priority = ⟨start, inRange⟩
            · rw [here, Function.update_self] at member
              exact committed _ frame (leftover_subset member)
            · rw [Function.update_of_ne here] at member
              exact committed priority frame member
          have ends := inductionHypothesis (index' + 1) (by omega) (before'.work _) committed'
            (rfl : _ = Worker.scanning visit'.round (start + 1))
          apply RoundEnds.after ((first.trans leads).trans second)
          exact ends.visit inRange visits stay same.pending same.reschedule

end Visits

/-! ### The call as a whole -/

/-- The queue of a pending priority is drained by one call: the priority is not skipped unless the
queue is empty, only the last frame may fail its checks, and no frame powers the core off. -/
structure Drainable (build : Build) (generation : U32) (priority : Priority)
    (queue : List Message) : Prop where
  skipped : build.skipPriority = some priority → queue = []
  good : build.skipPriority ≠ some priority → ∀ frame ∈ queue.dropLast, served generation frame
  stays : build.skipPriority ≠ some priority → ∀ frame ∈ queue, served generation frame →
    build.selfOff priority frame = false

/-- One call of the service on committed frames, with the endpoint bound, its session valid and
SESSION_READY published, in a build without stop control: the call returns with every pending queue
empty or marked for another round exactly when every pending queue is drainable. -/
theorem service_drains_iff {surroundings : Nat → Board → Board}
    (quiet : ∀ turn board, Undisturbed board (surroundings turn board)) {board : Board}
    {mask : Priority → Bool} (entered : board.firmware.worker = .entering mask)
    (ready : board.firmware.endpointReady) (published : board.firmware.sessionReadyPublished)
    (noStop : board.firmware.build.stopControl = false)
    (bound : board.firmware.endpoint.role = some .cpu3)
    (session : endpointSessionValid board.firmware.endpoint board.hardware.shared = .ok)
    (wellFormed : ∀ priority, (board.hardware.shared.linuxToCpu3 priority).WellFormed)
    (committed : ∀ priority, ∀ frame ∈ (board.hardware.shared.linuxToCpu3 priority).contents,
      frame.commit = frame.sequence) :
    Returns surroundings 0 board (fun round after => ∀ priority, mask priority →
        (after.hardware.shared.linuxToCpu3 priority).occupied = 0 ∨ round.reschedule priority) ↔
      ∀ priority, mask priority → Drainable board.firmware.build board.firmware.endpoint.generation
        priority (board.hardware.shared.linuxToCpu3 priority).contents := by
  have serving : Serving board.firmware.build board.firmware.endpoint.generation
      (fun priority => (board.hardware.shared.linuxToCpu3 priority).contents) board :=
    ⟨rfl, bound, session, rfl, wellFormed, fun _ => rfl⟩
  have before := serving.undisturbed (quiet 0 board)
  have stepped : workerStep (surroundings 0 board) =
      some ((surroundings 0 board).work (.scanning (.start mask) 0)) := by
    have gate : (surroundings 0 board).firmware.serviceOpen = true := by
      rw [(quiet 0 board).firmware]
      simp [Firmware.serviceOpen, ready, published]
    simp [workerStep, (quiet 0 board).worker.trans entered, gate]
  have first := Leads.step (by simp [entered, isReporting]) stepped
  have scanning : ((surroundings 0 board).work (.scanning (.start mask) 0)).firmware.worker =
      .scanning (.start mask) 0 := rfl
  have reaches : ∀ priority, visited board.firmware.build (.start mask) 0 priority = true ↔
      mask priority = true ∧ board.firmware.build.skipPriority ≠ some priority := by
    intro priority
    simp [visited, Round.start]
  rcases round_leads quiet noStop priorityCount 1 (Nat.zero_add _) (before.work _)
    committed scanning
    with ⟨⟨priority, visits, surrender⟩, never⟩ |
      ⟨stay, index', board', round', leads, kept, rescheduled, reporting⟩
  · constructor
    · intro returns
      exact absurd ((first _).mp returns) (never _)
    · intro drainable
      obtain ⟨pending, notSkipped⟩ := (reaches priority).mp visits
      have facts := drainable priority pending
      obtain ⟨frame, member, good, off⟩ :=
        (surrenders_eq_true_iff (facts.good notSkipped)).mp surrender
      rw [facts.stays notSkipped frame member good] at off
      cases off
  · rw [first _, leads _, returns_reporting reporting]
    have quietRound : ∀ priority, round'.reschedule priority = false := by
      intro priority
      rw [rescheduled]
      rfl
    have emptied : ∀ priority, ((board'.hardware.shared.linuxToCpu3 priority).occupied = 0 ↔
        afterRound board.firmware.build board.firmware.endpoint.generation (.start mask) 0
          (fun priority => (board.hardware.shared.linuxToCpu3 priority).contents)
            priority = []) := by
      intro priority
      rw [← kept.contents priority, ← List.length_eq_zero_iff, Ring.contents_length]
    apply forall_congr'
    intro priority
    apply imp_congr_right
    intro pending
    rw [quietRound, emptied]
    simp only [Bool.false_eq_true, or_false]
    by_cases skipped : board.firmware.build.skipPriority = some priority
    · have unvisited : visited board.firmware.build (.start mask) 0 priority = false := by
        simp [visited, skipped]
      rw [afterRound, unvisited, if_neg Bool.false_ne_true]
      exact ⟨fun empty => ⟨fun _ => empty, (absurd skipped ·), (absurd skipped ·)⟩,
        fun facts => facts.skipped skipped⟩
    · have visits := (reaches priority).mpr ⟨pending, skipped⟩
      rw [afterRound, visits, if_pos rfl, leftover_eq_nil_iff]
      constructor
      · intro good
        refine ⟨(absurd · skipped), fun _ => good, fun _ frame member serves => ?_⟩
        by_contra off
        have surrender := (surrenders_eq_true_iff good).mpr
          ⟨frame, member, serves, by simpa using off⟩
        rw [stay priority visits] at surrender
        cases surrender
      · exact fun facts => facts.good skipped

/-- A call that returns does so with one result. -/
theorem returns_iff_of_call {surroundings : Nat → Board → Board} {fuel : Nat} {round : Round}
    {after : Board} {result : Round → Board → Prop} :
    ∀ {index : Nat} {board : Board}, serviceCall surroundings index fuel board =
      some (round, after) →
      (Returns surroundings index board result ↔ result round after) := by
  induction fuel with
  | zero => intro index board returned; cases returned
  | succ fuel inductionHypothesis =>
      intro index board returned
      cases running : isReporting board.firmware.worker with
      | true =>
          cases position : board.firmware.worker with
          | reporting round' =>
              simp only [serviceCall, position, Option.some.injEq, Prod.mk.injEq] at returned
              obtain ⟨rfl, rfl⟩ := returned
              exact returns_reporting position
          | _ => simp [position, isReporting] at running
      | false =>
          rw [serviceCall_step running] at returned
          obtain ⟨next, stepped, later⟩ := Option.bind_eq_some_iff.mp returned
          exact (returns_step running stepped).trans (inductionHypothesis later)

/-! ### A damaged frame in front of a good one -/

/-- Two frames from Linux at priority 1; the CRC of the frame in the given slot is wrong. -/
def demoRing (damaged : U32) : Ring :=
  let first := (ringPush .zero (sendMessage 7 MessageType.ping 1 0 none)).2
  let second := (ringPush first (sendMessage 7 MessageType.ping 2 0 none)).2
  let slot := second.slot damaged
  { second with slot := Function.update second.slot damaged { slot with crc32 := slot.crc32 + 1 } }

/-- The service is entered for priority 1 in a plain build. -/
def demoBoard (damaged : U32) : Board where
  firmware :=
    { Firmware.boot ⟨false, none, none, false⟩ with
      endpoint := (endpointBind .zero (sessionRegion 7) .cpu3).2
      endpointReady := true
      sessionReadyCommitted := true
      sessionReadyPublished := true
      worker := .entering fun priority => priority == 1 }
  hardware :=
    { shared := (sessionRegion 7).setRing .linux 1 (demoRing damaged)
      a2b := .zero
      b2a := .zero }

/-- Nothing happens around the call. -/
def alone (_ : Nat) (board : Board) : Board := board

theorem alone_undisturbed (turn : Nat) (board : Board) : Undisturbed board (alone turn board) :=
  ⟨rfl, rfl, rfl, rfl, rfl⟩

/-- With the damaged frame last, the call drains the queue. -/
theorem service_drains_demo :
    Returns alone 0 (demoBoard 1) (fun round after => ∀ priority : Priority,
      (priority == 1) = true →
      (after.hardware.shared.linuxToCpu3 priority).occupied = 0 ∨ round.reschedule priority) := by
  refine (service_drains_iff alone_undisturbed rfl rfl rfl rfl rfl rfl ?_ ?_).mpr ?_
  · have inside : ∀ priority : Priority,
        ((demoBoard 1).hardware.shared.linuxToCpu3 priority).producer.toNat < ringSlots ∧
          ((demoBoard 1).hardware.shared.linuxToCpu3 priority).consumer.toNat < ringSlots := by
      decide +kernel
    exact fun priority => ⟨(inside priority).1, (inside priority).2⟩
  · decide +kernel
  · intro priority pending
    have frames : ∀ priority : Priority, ∀ frame ∈
        ((demoBoard 1).hardware.shared.linuxToCpu3 priority).contents.dropLast,
        served 7 frame = true := by
      decide +kernel
    refine ⟨?_, fun _ => frames priority, fun _ _ _ _ => rfl⟩
    intro skipped
    cases skipped

/-- With the damaged frame first, the call returns with the good frame still queued behind it and no
bit set for another round. -/
theorem bad_frame_blocks_queue :
    ∃ board mask, board.firmware.worker = .entering mask ∧ board.firmware.endpointReady = true ∧
      board.firmware.sessionReadyPublished = true ∧ board.firmware.build.stopControl = false ∧
      board.firmware.endpoint.role = some .cpu3 ∧
      endpointSessionValid board.firmware.endpoint board.hardware.shared = .ok ∧
      (∀ priority, (board.hardware.shared.linuxToCpu3 priority).WellFormed) ∧
      (∀ priority, ∀ frame ∈ (board.hardware.shared.linuxToCpu3 priority).contents,
        frame.commit = frame.sequence) ∧
      ¬ Returns alone 0 board (fun round after => ∀ priority, mask priority →
        (after.hardware.shared.linuxToCpu3 priority).occupied = 0 ∨ round.reschedule priority) := by
  refine ⟨demoBoard 0, fun priority => priority == 1, rfl, rfl, rfl, rfl, rfl, rfl, ?_, ?_, ?_⟩
  · have inside : ∀ priority : Priority,
        ((demoBoard 0).hardware.shared.linuxToCpu3 priority).producer.toNat < ringSlots ∧
          ((demoBoard 0).hardware.shared.linuxToCpu3 priority).consumer.toNat < ringSlots := by
      decide +kernel
    exact fun priority => ⟨(inside priority).1, (inside priority).2⟩
  · decide +kernel
  · have executed : ((serviceCall alone 0 20 (demoBoard 0)).any fun returned =>
        !decide ((returned.2.hardware.shared.linuxToCpu3 1).occupied = 0) &&
          !returned.1.reschedule 1) = true := by
      decide +kernel
    cases returned : serviceCall alone 0 20 (demoBoard 0) with
    | none =>
        rw [returned] at executed
        cases executed
    | some outcome =>
        rw [returns_iff_of_call returned]
        intro drained
        simp only [returned, Option.any_some, Bool.and_eq_true, Bool.not_eq_true',
          decide_eq_false_iff_not] at executed
        rcases drained 1 rfl with empty | marked
        · exact executed.1 empty
        · rw [executed.2] at marked
          cases marked

end MailMsg.Service
