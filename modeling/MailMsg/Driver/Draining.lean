/-
Module: MailMsg.Driver.Draining
Purpose: When the two loops that drain the reverse rings under the driver's mutex end, for every
  content of the memory that CPU3 writes.
Source: LZAMP/linux/drivers/lzamp_amp_mailmsg.c (r1_amp_mailmsg_control_work, mailmsg_response_show)
Trusted boundary: human-reviewed embedding of the source
Main exports: controlLoop, responseLoop, ControlStops, ResponseStops, draining_loops_end_iff
-/
import MailMsg.Driver.Safety

namespace MailMsg

/-! ### The loops -/

/-- The loop of `r1_amp_mailmsg_control_work` after a number of iterations; iteration `n` reads the
clock at `clock n`. -/
def controlLoop (clock : Nat → Nat) (system : System) : Nat → System
  | 0 => system
  | count + 1 =>
      let current := controlLoop clock system count
      if current.lock = .control then controlIterate { current with jiffies := clock count }
      else current

/-- The loops of `mailmsg_response_show` after a number of receives. -/
def responseLoop (system : System) : Nat → System
  | 0 => system
  | count + 1 =>
      let current := responseLoop system count
      match current.lock with
      | .response priority lines => responseIterate current priority lines
      | .free | .control => current

/-- The slot that the consumer reads after `count` released slots, when no index stops it. -/
def Ring.ahead (ring : Ring) (count : Nat) : Message :=
  ring.slot (BitVec.ofNat 32 ((ring.consumer.toNat + count) % ringSlots))

/-- The frame that `r1_amp_mailmsg_control_work` waits for. -/
def controlAccepts (driver : Driver) (response : Message) : Bool :=
  if driver.mailmsgState = .starting then sessionReadyAccepted driver response
  else stopReplyAccepted driver response

/-- A slot that ends the control loop when it is reached in iteration `count`: it is not committed,
or it is a good frame of the session that carries the awaited reply or comes after the deadline. -/
def ControlStops (clock : Nat → Nat) (system : System) (count : Nat) : Prop :=
  let slot := (system.hardware.shared.ring .cpu3 .critical).ahead count
  slot.commit ≠ slot.sequence ∨
    (¬ slot.malformed ∧ slot.crc32 = frameCrc32 slot ∧
      slot.generation = system.driver.endpoint.generation ∧
      (system.driver.lifecycleDeadline ≤ clock count ∨ controlAccepts system.driver slot))

/-- A slot that ends a loop of `mailmsg_response_show`: it is not committed, or it is a good frame
of another session, whose error code the loop takes for one that consumed nothing. -/
def ResponseStops (generation : U32) (slot : Message) : Prop :=
  slot.commit ≠ slot.sequence ∨
    (¬ slot.malformed ∧ slot.crc32 = frameCrc32 slot ∧ slot.generation ≠ generation)

/-! ### Walking around a ring

Each receive that finds a frame moves the consumer index one slot on.  The index that the producer
shows decides how many such steps there are, and whether the walk meets it at all.
-/

/-- The system after `count` slots of one reverse ring were released; the rest of the region and the
session are as they were. -/
structure Walked (start current : System) (priority : Priority) (count : Nat) : Prop where
  role : current.driver.endpoint.role = some .linux
  generation : current.driver.endpoint.generation = start.driver.endpoint.generation
  session : endpointSessionValid current.driver.endpoint current.hardware.shared = .ok
  producer : (current.hardware.shared.ring .cpu3 priority).producer =
    (start.hardware.shared.ring .cpu3 priority).producer
  slot : (current.hardware.shared.ring .cpu3 priority).slot =
    (start.hardware.shared.ring .cpu3 priority).slot
  consumer : (current.hardware.shared.ring .cpu3 priority).consumer =
    BitVec.ofNat 32 (((start.hardware.shared.ring .cpu3 priority).consumer.toNat + count) % ringSlots)
  others : ∀ other, other ≠ priority →
    current.hardware.shared.ring .cpu3 other = start.hardware.shared.ring .cpu3 other

namespace Walked

variable {start current : System} {priority : Priority} {count : Nat}

theorem refl (role : start.driver.endpoint.role = some .linux)
    (session : endpointSessionValid start.driver.endpoint start.hardware.shared = .ok)
    (inside : (start.hardware.shared.ring .cpu3 priority).consumer.toNat < ringSlots) :
    Walked start start priority 0 where
  role := role
  generation := rfl
  session := session
  producer := rfl
  slot := rfl
  consumer := by
    rw [Nat.add_zero, Nat.mod_eq_of_lt inside]
    simp
  others := fun _ _ => rfl

/-- The loop looks at the slots in turn. -/
theorem head (walked : Walked start current priority count) :
    (current.hardware.shared.ring .cpu3 priority).head =
      (start.hardware.shared.ring .cpu3 priority).ahead count := by
  rw [Ring.head, walked.slot, walked.consumer, Ring.ahead]

/-- A walk depends on the binding and the region only. -/
theorem congr {other : System} (walked : Walked start current priority count)
    (binding : current.driver.endpoint.SameBinding other.driver.endpoint)
    (shared : other.hardware.shared = current.hardware.shared) :
    Walked start other priority count := by
  obtain ⟨role, generation, session, producer, slot, consumer, others⟩ := walked
  constructor
  · rw [binding.role, role]
  · rw [binding.generation, generation]
  · rw [binding.session, shared, session]
  · rw [shared, producer]
  · rw [shared, slot]
  · rw [shared, consumer]
  · intro ring different
    rw [shared, others ring different]

/-- Releasing the slot is one more step of the walk. -/
theorem next (walked : Walked start current priority count)
    (update : PriorityStats → PriorityStats) :
    Walked start
      (current.store (current.driver.endpoint.updateStats priority update)
        (current.hardware.shared.setRing .cpu3 priority
          (current.hardware.shared.ring .cpu3 priority).released)) priority (count + 1) where
  role := walked.role
  generation := walked.generation
  session := by
    change endpointSessionValid (current.driver.endpoint.updateStats priority update)
      (current.hardware.shared.setRing .cpu3 priority _) = .ok
    rw [(current.driver.endpoint.sameBinding_updateStats priority update).session,
      endpointSessionValid_setRing, walked.session]
  producer := by
    change ((current.hardware.shared.setRing .cpu3 priority _).ring .cpu3 priority).producer = _
    rw [Shared.ring_setRing_self]
    exact walked.producer
  slot := by
    change ((current.hardware.shared.setRing .cpu3 priority _).ring .cpu3 priority).slot = _
    rw [Shared.ring_setRing_self]
    exact walked.slot
  consumer := by
    change ((current.hardware.shared.setRing .cpu3 priority _).ring .cpu3 priority).consumer = _
    rw [Shared.ring_setRing_self]
    change ringNext (current.hardware.shared.ring .cpu3 priority).consumer = _
    have small : ∀ index, index % ringSlots < 2 ^ 32 := fun index =>
      Nat.lt_trans (Nat.mod_lt _ (by decide)) (by decide)
    apply BitVec.eq_of_toNat_eq
    rw [ringNext_toNat, walked.consumer, BitVec.toNat_ofNat, BitVec.toNat_ofNat,
      Nat.mod_eq_of_lt (small _), Nat.mod_eq_of_lt (small _), Nat.mod_add_mod, Nat.add_assoc]
  others := by
    intro other different
    change (current.hardware.shared.setRing .cpu3 priority _).ring .cpu3 other = _
    rw [Shared.ring_setRing_of_ne _ _ _ _ (.inr different)]
    exact walked.others other different

/-- A receive in the middle of a walk, by what it finds. -/
theorem received (walked : Walked start current priority count) :
    ∃ ret ring message,
      Found start.driver.endpoint.generation (current.hardware.shared.ring .cpu3 priority) ret ring
        message ∧
      linuxReceive current priority =
        (⟨ret, current.driver.endpoint.updateStats priority fun stats => stats.received ret,
            current.hardware.shared.setRing .cpu3 priority ring, message⟩,
          current.store (current.driver.endpoint.updateStats priority fun stats =>
            stats.received ret)
            (current.hardware.shared.setRing .cpu3 priority ring)) := by
  obtain ⟨ret, ring, message, found, received⟩ :=
    linuxReceive_found priority walked.role walked.session
  rw [walked.generation] at found
  exact ⟨ret, ring, message, found, received⟩

end Walked

/-- The walk meets every slot, so it meets the producer index exactly when that selects one. -/
theorem exists_index_iff {consumer producer : U32} (inside : consumer.toNat < ringSlots) :
    (∃ count, BitVec.ofNat 32 ((consumer.toNat + count) % ringSlots) = producer) ↔
      producer.toNat < ringSlots := by
  have small : ∀ index, index % ringSlots < 2 ^ 32 := fun index =>
    Nat.lt_trans (Nat.mod_lt _ (by decide)) (by decide)
  constructor
  · rintro ⟨count, rfl⟩
    rw [BitVec.toNat_ofNat, Nat.mod_eq_of_lt (small _)]
    exact Nat.mod_lt _ (by decide)
  · intro bound
    refine ⟨Circular.distance ringSlots consumer.toNat producer.toNat, ?_⟩
    rw [Circular.add_distance inside bound]
    simp

/-! ### The control loop

Each iteration that goes on has released one slot and has left alone what the loop compares with.
So where the loop ends can be read off the slots as they were at its start.
-/

/-- The lifecycle fields that the control loop compares with are those of its start. -/
structure ControlKept (start current : System) : Prop where
  state : current.driver.mailmsgState = start.driver.mailmsgState
  sessionGeneration : current.driver.sessionGeneration = start.driver.sessionGeneration
  stopRequestSequence : current.driver.stopRequestSequence = start.driver.stopRequestSequence
  deadline : current.driver.lifecycleDeadline = start.driver.lifecycleDeadline

theorem ControlKept.trans {start middle current : System} (first : ControlKept start middle)
    (second : ControlKept middle current) : ControlKept start current where
  state := second.state.trans first.state
  sessionGeneration := second.sessionGeneration.trans first.sessionGeneration
  stopRequestSequence := second.stopRequestSequence.trans first.stopRequestSequence
  deadline := second.deadline.trans first.deadline

theorem ControlKept.accepts {start current : System} (kept : ControlKept start current)
    (response : Message) :
    controlAccepts current.driver response = controlAccepts start.driver response := by
  simp only [controlAccepts, sessionReadyAccepted, stopReplyAccepted, kept.state,
    kept.sessionGeneration, kept.stopRequestSequence]

/-- A good frame in time ends the control loop exactly when it is the awaited one, and is ignored
otherwise. -/
theorem controlResponse_ignores {system : System} {response : Message}
    (refused : ¬ controlAccepts system.driver response) :
    controlResponse system response = system := by
  simp only [controlAccepts] at refused
  simp only [controlResponse]
  split at refused
  · rename_i starting
    rw [if_pos starting, if_pos refused]
  · rename_i stopping
    rw [if_neg stopping, if_pos refused]

theorem controlResponse_ends {system : System} {response : Message}
    (accepted : controlAccepts system.driver response) :
    (controlResponse system response).lock = .free := by
  simp only [controlAccepts] at accepted
  simp only [controlResponse]
  split at accepted
  · rename_i starting
    rw [if_pos starting, if_neg (not_not.mpr accepted)]
  · rename_i stopping
    rw [if_neg stopping, if_neg (not_not.mpr accepted)]
    split <;> rfl

section Control

variable {clock : Nat → Nat} {start current : System} {count : Nat}

/-- The control loop runs on after `count` iterations, having released a slot in each. -/
structure ControlRound (clock : Nat → Nat) (start current : System) (count : Nat) : Prop where
  walked : Walked start current .critical count
  kept : ControlKept start current
  held : current.lock = .control

/-- The control loop has reached the producer's index or a slot that ends it. -/
def ControlEnds (clock : Nat → Nat) (start : System) (count : Nat) : Prop :=
  BitVec.ofNat 32
      (((start.hardware.shared.ring .cpu3 .critical).consumer.toNat + count) % ringSlots) =
    (start.hardware.shared.ring .cpu3 .critical).producer ∨ ControlStops clock start count

/-- The end of the loop, read off the current ring. -/
theorem ControlRound.ends_iff (round : ControlRound clock start current count) :
    ControlEnds clock start count ↔
      (current.hardware.shared.ring .cpu3 .critical).consumer =
          (current.hardware.shared.ring .cpu3 .critical).producer ∨
        (current.hardware.shared.ring .cpu3 .critical).head.commit ≠
          (current.hardware.shared.ring .cpu3 .critical).head.sequence ∨
        (¬ (current.hardware.shared.ring .cpu3 .critical).head.malformed ∧
          (current.hardware.shared.ring .cpu3 .critical).head.crc32 =
            frameCrc32 (current.hardware.shared.ring .cpu3 .critical).head ∧
          (current.hardware.shared.ring .cpu3 .critical).head.generation =
            start.driver.endpoint.generation ∧
          (current.driver.lifecycleDeadline ≤ clock count ∨
            controlAccepts current.driver (current.hardware.shared.ring .cpu3 .critical).head)) := by
  rw [round.walked.head, round.walked.consumer, round.walked.producer, round.kept.deadline,
    round.kept.accepts]
  rfl

/-- The clock does not matter for a walk. -/
theorem ControlRound.timed (round : ControlRound clock start current count) (jiffies : Nat) :
    Walked start { current with jiffies := jiffies } .critical count :=
  round.walked.congr (.refl _) rfl

/-- A damaged frame is recorded in the result that the loop reports, and the loop goes on. -/
theorem controlIterate_damaged {result : RingResult} {received : ReceiveOutcome} {after : System}
    (taken : linuxReceive current .critical = (received, after)) (ret : received.ret = .ring result)
    (damaged : result = .badCrc ∨ result = .invalid) :
    ∃ driver : Driver, controlIterate current = { after with driver := driver } ∧
      driver.endpoint = after.driver.endpoint ∧
      driver.mailmsgState = after.driver.mailmsgState ∧
      driver.sessionGeneration = after.driver.sessionGeneration ∧
      driver.stopRequestSequence = after.driver.stopRequestSequence ∧
      driver.lifecycleDeadline = after.driver.lifecycleDeadline ∧
      driver.stopReplyType = after.driver.stopReplyType := by
  have iterated : controlIterate current =
      { after with
        driver :=
          if after.driver.mailmsgState = .starting then
            { after.driver with sessionResult := ringResultToErrno result.code }
          else { after.driver with stopResult := ringResultToErrno result.code } } := by
    simp only [controlIterate, taken, ret]
    rcases damaged with rfl | rfl <;> rfl
  refine ⟨_, iterated, ?_⟩
  split <;> exact ⟨rfl, rfl, rfl, rfl, rfl, rfl⟩

/-- A good frame is first held against the deadline. -/
theorem controlIterate_good {received : ReceiveOutcome} {after : System}
    (taken : linuxReceive current .critical = (received, after)) (ret : received.ret = .ok) :
    controlIterate current =
      if after.driver.lifecycleDeadline ≤ after.jiffies then
        { after with
          driver := { setTimeoutLocked after.driver with lifecycleTimeoutQueued := false }
          lock := .free }
      else controlResponse after (received.message.getD .zero) := by
  simp only [controlIterate, taken, ret]
  rfl

/-- A control loop whose iteration released a slot and kept the fields it compares with. -/
theorem ControlRound.advance (round : ControlRound clock start current count) {ret : EndpointResult}
    {driver : Driver} {after : System}
    (released : after = ({ current with jiffies := clock count } : System).store
      (current.driver.endpoint.updateStats .critical fun stats => stats.received ret)
      (current.hardware.shared.setRing .cpu3 .critical
        (current.hardware.shared.ring .cpu3 .critical).released))
    (endpoint : driver.endpoint = after.driver.endpoint)
    (state : driver.mailmsgState = after.driver.mailmsgState)
    (generation : driver.sessionGeneration = after.driver.sessionGeneration)
    (sequence : driver.stopRequestSequence = after.driver.stopRequestSequence)
    (deadline : driver.lifecycleDeadline = after.driver.lifecycleDeadline) :
    ControlRound clock start { after with driver := driver } (count + 1) := by
  subst released
  have next := (round.timed (clock count)).next fun stats => stats.received ret
  exact ⟨next.congr ⟨congrArg Endpoint.role endpoint, congrArg Endpoint.generation endpoint⟩ rfl,
    ⟨state.trans round.kept.state, generation.trans round.kept.sessionGeneration,
      sequence.trans round.kept.stopRequestSequence, deadline.trans round.kept.deadline⟩,
      round.held⟩

/-- One iteration of the control loop ends it or moves on to the next slot. -/
theorem controlIterate_round (round : ControlRound clock start current count) :
    (ControlEnds clock start count →
      (controlIterate { current with jiffies := clock count }).lock = .free) ∧
    (¬ ControlEnds clock start count →
      ControlRound clock start (controlIterate { current with jiffies := clock count })
        (count + 1)) := by
  obtain ⟨ret, ring, message, found, received⟩ := (round.timed (clock count)).received
  rw [round.ends_iff]
  cases found with
  | empty nothing =>
      simp only [controlIterate, received]
      exact ⟨fun _ => rfl, fun running => absurd (.inl nothing) running⟩
  | incomplete something pending =>
      simp only [controlIterate, received]
      exact ⟨fun _ => rfl, fun running => absurd (.inr (.inl pending)) running⟩
  | invalid something committed malformed =>
      constructor
      · rintro (nothing | pending | ⟨wellFormed, -⟩)
        · exact absurd nothing something
        · exact absurd committed pending
        · exact absurd malformed wellFormed
      · intro _
        obtain ⟨driver, iterated, endpoint, state, generation, sequence, deadline, -⟩ :=
          controlIterate_damaged received rfl (.inr rfl)
        rw [iterated]
        exact round.advance rfl endpoint state generation sequence deadline
  | badCrc something committed wellFormed mismatch =>
      constructor
      · rintro (nothing | pending | ⟨-, matching, -⟩)
        · exact absurd nothing something
        · exact absurd committed pending
        · exact absurd matching mismatch
      · intro _
        obtain ⟨driver, iterated, endpoint, state, generation, sequence, deadline, -⟩ :=
          controlIterate_damaged received rfl (.inl rfl)
        rw [iterated]
        exact round.advance rfl endpoint state generation sequence deadline
  | stale something committed wellFormed matching old =>
      constructor
      · rintro (nothing | pending | ⟨-, -, fresh, -⟩)
        · exact absurd nothing something
        · exact absurd committed pending
        · exact absurd fresh old
      · intro _
        simp only [controlIterate, received]
        exact round.advance rfl rfl rfl rfl rfl rfl
  | good something committed wellFormed matching fresh =>
      have iterated := controlIterate_good received rfl
      by_cases late : current.driver.lifecycleDeadline ≤ clock count
      · -- The deadline is looked at only here, so a frame must be good to be late.
        rw [if_pos (by exact late)] at iterated
        constructor
        · intro _
          rw [iterated]
        · intro running
          exact absurd (.inr (.inr ⟨wellFormed, matching, fresh, .inl late⟩)) running
      · rw [if_neg (by exact late)] at iterated
        rw [iterated]
        constructor
        · rintro (nothing | pending | ⟨-, -, -, expired | accepted⟩)
          · exact absurd nothing something
          · exact absurd committed pending
          · exact absurd expired late
          · exact controlResponse_ends accepted
        · intro running
          have refused : ¬ controlAccepts current.driver
              (current.hardware.shared.ring .cpu3 .critical).head := fun accepted =>
            running (.inr (.inr ⟨wellFormed, matching, fresh, .inr accepted⟩))
          rw [controlResponse_ignores (by exact refused)]
          exact round.advance rfl rfl rfl rfl rfl rfl

end Control

/-- The control loop ends exactly when the producer index selects a slot or some slot ends it. -/
theorem controlLoop_ends_iff (clock : Nat → Nat) {system : System}
    (role : system.driver.endpoint.role = some .linux)
    (session : endpointSessionValid system.driver.endpoint system.hardware.shared = .ok)
    (inside : (system.hardware.shared.ring .cpu3 .critical).consumer.toNat < ringSlots)
    (held : system.lock = .control) :
    (∃ count, (controlLoop clock system count).lock = .free) ↔
      (system.hardware.shared.ring .cpu3 .critical).producer.toNat < ringSlots ∨
        ∃ count, ControlStops clock system count := by
  have start : ControlRound clock system (controlLoop clock system 0) 0 :=
    ⟨.refl role session inside, ⟨rfl, rfl, rfl, rfl⟩, held⟩
  have advance : ∀ count, ControlRound clock system (controlLoop clock system count) count →
      ¬ ControlEnds clock system count →
      ControlRound clock system (controlLoop clock system (count + 1)) (count + 1) := by
    intro count round running
    rw [controlLoop, if_pos round.held]
    exact (controlIterate_round round).2 running
  have ends : (∃ count, ControlEnds clock system count) ↔
      (system.hardware.shared.ring .cpu3 .critical).producer.toNat < ringSlots ∨
        ∃ count, ControlStops clock system count := by
    rw [← exists_index_iff inside, ← exists_or]
    rfl
  rw [← ends]
  constructor
  · rintro ⟨count, free⟩
    by_contra never
    have running := Loop.runs_until start advance fun earlier (_ : earlier < count) stopped =>
      never ⟨earlier, stopped⟩
    rw [running.held] at free
    cases free
  · intro stopped
    obtain ⟨count, round, stop⟩ := Loop.reaches_stop start advance stopped
    refine ⟨count + 1, ?_⟩
    rw [controlLoop, if_pos round.held]
    exact (controlIterate_round round).1 stop

/-! ### The loops over the four priorities -/

/-- The loop of one priority runs on after `count` receives. -/
structure ResponseRound (start current : System) (priority : Priority) (count : Nat) : Prop where
  walked : Walked start current priority count
  held : ∃ lines, current.lock = .response priority lines

/-- The loop of one priority has reached the producer's index or a slot that ends it. -/
def ResponseEnds (start : System) (priority : Priority) (count : Nat) : Prop :=
  BitVec.ofNat 32
      (((start.hardware.shared.ring .cpu3 priority).consumer.toNat + count) % ringSlots) =
    (start.hardware.shared.ring .cpu3 priority).producer ∨
  ResponseStops start.driver.endpoint.generation
    ((start.hardware.shared.ring .cpu3 priority).ahead count)

section Response

variable {start current : System} {priority : Priority} {count : Nat}

theorem ResponseRound.ends_iff (round : ResponseRound start current priority count) :
    ResponseEnds start priority count ↔
      (current.hardware.shared.ring .cpu3 priority).consumer =
          (current.hardware.shared.ring .cpu3 priority).producer ∨
        ResponseStops start.driver.endpoint.generation
          (current.hardware.shared.ring .cpu3 priority).head := by
  rw [round.walked.head, round.walked.consumer, round.walked.producer]
  rfl

/-- One receive of the loop of a priority ends that loop or moves on to the next slot. -/
theorem responseIterate_round (round : ResponseRound start current priority count)
    (lines : List ResponseLine) :
    (ResponseEnds start priority count →
      ∃ printed released, (responseIterate current priority lines).lock =
          responseNext priority printed ∧
        Walked start (responseIterate current priority lines) priority released) ∧
    (¬ ResponseEnds start priority count →
      ResponseRound start (responseIterate current priority lines) priority (count + 1)) := by
  obtain ⟨ret, ring, message, found, received⟩ := round.walked.received
  have next := round.walked.next fun stats => stats.received ret
  have stay : Walked start
      (current.store (current.driver.endpoint.updateStats priority fun stats => stats.received ret)
        (current.hardware.shared.setRing .cpu3 priority
          (current.hardware.shared.ring .cpu3 priority))) priority count :=
    round.walked.congr ⟨rfl, rfl⟩ (Shared.setRing_ring current.hardware.shared .cpu3 priority)
  rw [round.ends_iff]
  simp only [responseIterate, received]
  cases found with
  | empty nothing =>
      constructor
      · intro _
        exact ⟨lines, count, rfl, stay.congr (.refl _) rfl⟩
      · intro running
        exact absurd (.inl nothing) running
  | incomplete something pending =>
      constructor
      · intro _
        exact ⟨_, count, rfl, stay.congr (.refl _) rfl⟩
      · intro running
        exact absurd (.inr (.inl pending)) running
  | invalid something committed malformed =>
      constructor
      · rintro (nothing | pending | ⟨wellFormed, -⟩)
        · exact absurd nothing something
        · exact absurd committed pending
        · exact absurd malformed wellFormed
      · intro _
        exact ⟨next.congr (.refl _) rfl, _, rfl⟩
  | badCrc something committed wellFormed mismatch =>
      constructor
      · rintro (nothing | pending | ⟨-, matching, -⟩)
        · exact absurd nothing something
        · exact absurd committed pending
        · exact absurd matching mismatch
      · intro _
        exact ⟨next.congr (.refl _) rfl, _, rfl⟩
  | stale something committed wellFormed matching old =>
      -- A stale frame was consumed, but its code is below `MAILMSG_ENDPOINT_INVALID`.
      constructor
      · intro _
        exact ⟨_, count + 1, rfl, next.congr (.refl _) rfl⟩
      · intro running
        exact absurd (.inr (.inr ⟨wellFormed, matching, old⟩)) running
  | good something committed wellFormed matching fresh =>
      constructor
      · rintro (nothing | pending | ⟨-, -, old⟩)
        · exact absurd nothing something
        · exact absurd committed pending
        · exact absurd fresh old
      · intro _
        exact ⟨next.congr (.refl _) rfl, _, rfl⟩

/-- The loops can be cut anywhere. -/
theorem responseLoop_add (system : System) (first second : Nat) :
    responseLoop system (first + second) = responseLoop (responseLoop system first) second := by
  induction second with
  | zero => rfl
  | succ second inductionHypothesis =>
      rw [← Nat.add_assoc, responseLoop, inductionHypothesis]
      rfl

/-- Nothing happens after the mutex was released. -/
theorem responseLoop_free {system : System} (free : system.lock = .free) (count : Nat) :
    responseLoop system count = system := by
  induction count with
  | zero => rfl
  | succ count inductionHypothesis => simp only [responseLoop, inductionHypothesis, free]

/-- Whether the loops end can be asked at any later receive. -/
theorem responseLoop_ends_later (system : System) (first : Nat) :
    (∃ count, (responseLoop system count).lock = .free) ↔
      ∃ count, (responseLoop (responseLoop system first) count).lock = .free := by
  constructor
  · rintro ⟨count, free⟩
    refine ⟨count, ?_⟩
    rw [← responseLoop_add, Nat.add_comm, responseLoop_add, responseLoop_free free]
    exact free
  · rintro ⟨count, free⟩
    refine ⟨first + count, ?_⟩
    rw [responseLoop_add]
    exact free

/-- The driver's endpoint is bound to a valid session and its own indices select slots. -/
structure Draining (system : System) : Prop where
  role : system.driver.endpoint.role = some .linux
  session : endpointSessionValid system.driver.endpoint system.hardware.shared = .ok
  inside : ∀ priority, (system.hardware.shared.ring .cpu3 priority).consumer.toNat < ringSlots

/-- The receives of one priority come to an end. -/
def PriorityEnds (system : System) (priority : Priority) : Prop :=
  (system.hardware.shared.ring .cpu3 priority).producer.toNat < ringSlots ∨
    ∃ count, ResponseStops system.driver.endpoint.generation
      ((system.hardware.shared.ring .cpu3 priority).ahead count)

theorem Walked.draining (walked : Walked start current priority count) (ready : Draining start) :
    Draining current where
  role := walked.role
  session := walked.session
  inside := by
    intro other
    by_cases same : other = priority
    · rw [same, walked.consumer, BitVec.toNat_ofNat]
      exact Nat.lt_of_le_of_lt (Nat.mod_le _ _) (Nat.mod_lt _ (by decide))
    · rw [walked.others other same]
      exact ready.inside other

/-- A walk over one ring does not change when the others end. -/
theorem Walked.priorityEnds_iff (walked : Walked start current priority count) {other : Priority}
    (different : other ≠ priority) : PriorityEnds current other ↔ PriorityEnds start other := by
  simp only [PriorityEnds, walked.others other different, walked.generation]

/-- The rounds of the loop of one priority. -/
theorem responseLoop_advance (count : Nat)
    (round : ResponseRound start (responseLoop start count) priority count)
    (running : ¬ ResponseEnds start priority count) :
    ResponseRound start (responseLoop start (count + 1)) priority (count + 1) := by
  obtain ⟨lines, held⟩ := round.held
  simp only [responseLoop, held]
  exact (responseIterate_round round lines).2 running

theorem exists_responseEnds_iff (ready : Draining start) :
    (∃ count, ResponseEnds start priority count) ↔ PriorityEnds start priority := by
  rw [PriorityEnds, ← exists_index_iff (ready.inside priority), ← exists_or]
  rfl

/-- A loop that comes to an end hands over to the next priority. -/
theorem responseLoop_leaves (ready : Draining start)
    (held : ∃ lines, start.lock = .response priority lines) (ends : PriorityEnds start priority) :
    ∃ count printed released, (responseLoop start count).lock = responseNext priority printed ∧
      Walked start (responseLoop start count) priority released := by
  have begins : ResponseRound start (responseLoop start 0) priority 0 :=
    ⟨.refl ready.role ready.session (ready.inside priority), held⟩
  obtain ⟨count, round, stop⟩ :=
    Loop.reaches_stop begins responseLoop_advance ((exists_responseEnds_iff ready).mpr ends)
  obtain ⟨lines, current⟩ := round.held
  obtain ⟨printed, released, left, walked⟩ := (responseIterate_round round lines).1 stop
  refine ⟨count + 1, printed, released, ?_, ?_⟩
  · simpa only [responseLoop, current] using left
  · simpa only [responseLoop, current] using walked

/-- A loop that comes to no end keeps the mutex. -/
theorem responseLoop_stays (ready : Draining start)
    (held : ∃ lines, start.lock = .response priority lines) (never : ¬ PriorityEnds start priority)
    (count : Nat) : (responseLoop start count).lock ≠ .free := by
  have begins : ResponseRound start (responseLoop start 0) priority 0 :=
    ⟨.refl ready.role ready.session (ready.inside priority), held⟩
  have round := Loop.runs_until begins responseLoop_advance fun earlier
    (_ : earlier < count) stopped =>
    never ((exists_responseEnds_iff ready).mp ⟨earlier, stopped⟩)
  obtain ⟨lines, current⟩ := round.held
  rw [current]
  exact LockOwner.noConfusion

/-- The loops from one priority on end exactly when each of them does. -/
theorem responseLoop_ends_iff_from (left : Nat) (priority : Priority) {system : System}
    (remaining : priority.val + left + 1 = priorityCount) (ready : Draining system)
    (held : ∃ lines, system.lock = .response priority lines) :
    (∃ count, (responseLoop system count).lock = .free) ↔
      ∀ other : Priority, priority.val ≤ other.val → PriorityEnds system other := by
  -- The induction is on the number of priorities after this one.
  induction left generalizing system priority with
  | zero =>
      by_cases ends : PriorityEnds system priority
      · obtain ⟨count, printed, released, leaves, walked⟩ := responseLoop_leaves ready held ends
        rw [responseNext, dif_neg (by omega)] at leaves
        refine iff_of_true ⟨count, leaves⟩ ?_
        intro other later
        have same : other = priority := by
          apply Fin.ext
          have bound := other.isLt
          omega
        rw [same]
        exact ends
      · refine iff_of_false ?_ fun all => ends (all priority (Nat.le_refl _))
        rintro ⟨count, free⟩
        exact responseLoop_stays ready held ends count free
  | succ left inductionHypothesis =>
      by_cases ends : PriorityEnds system priority
      · obtain ⟨count, printed, released, leaves, walked⟩ := responseLoop_leaves ready held ends
        rw [responseNext, dif_pos (by omega)] at leaves
        rw [responseLoop_ends_later system count,
          inductionHypothesis _ (by simp only; omega) (walked.draining ready) ⟨printed, leaves⟩]
        constructor
        · intro rest other later
          by_cases same : other = priority
          · rw [same]
            exact ends
          · rw [← walked.priorityEnds_iff same]
            apply rest
            have different : other.val ≠ priority.val := fun equal => same (Fin.ext equal)
            simp only
            omega
        · intro all other later
          have below : priority.val < other.val := later
          have different : other ≠ priority := by
            rintro rfl
            omega
          rw [walked.priorityEnds_iff different]
          exact all other (by omega)
      · refine iff_of_false ?_ fun all => ends (all priority (Nat.le_refl _))
        rintro ⟨count, free⟩
        exact responseLoop_stays ready held ends count free

end Response

/-! ### Both loops -/

instance (system : System) : Decidable (Draining system) :=
  decidable_of_iff
    (system.driver.endpoint.role = some .linux ∧
      endpointSessionValid system.driver.endpoint system.hardware.shared = .ok ∧
      ∀ priority, (system.hardware.shared.ring .cpu3 priority).consumer.toNat < ringSlots)
    ⟨fun ⟨role, session, inside⟩ => ⟨role, session, inside⟩,
      fun ready => ⟨ready.role, ready.session, ready.inside⟩⟩

/-- When the two loops end, for every value of the producer indices, every content of the slots and
every reading of the clock.  Going round a ring whose producer index lies outside of it, only a slot
can end them. -/
theorem draining_loops_end_iff (clock : Nat → Nat) {system : System} (ready : Draining system) :
    ((∃ count, (controlLoop clock { system with lock := .control } count).lock = .free) ↔
      (system.hardware.shared.ring .cpu3 .critical).producer.toNat < ringSlots ∨
        ∃ count, ControlStops clock system count) ∧
    ((∃ count, (responseLoop { system with lock := .response 0 [] } count).lock = .free) ↔
      ∀ priority, (system.hardware.shared.ring .cpu3 priority).producer.toNat < ringSlots ∨
        ∃ count, ResponseStops system.driver.endpoint.generation
          ((system.hardware.shared.ring .cpu3 priority).ahead count)) := by
  constructor
  · exact controlLoop_ends_iff clock ready.role ready.session (ready.inside .critical) rfl
  · have begun : Draining { system with lock := .response 0 [] } :=
      ⟨ready.role, ready.session, ready.inside⟩
    rw [responseLoop_ends_iff_from 3 0 rfl begun ⟨[], rfl⟩]
    constructor
    · intro all priority
      exact all priority (Nat.zero_le _)
    · intro all priority _
      exact all priority

/-- Two answers of CPU3 queued on p0 and one on p1, in an active session. -/
def demoQueued : List DriverLabel :=
  let answer (sequence : U32) : Message :=
    (sendMessage 1 MessageType.ack sequence 0 none).frame.committed
  demoActivation ++
    [.peer (.slot .critical 1 (answer 2)), .peer (.slot .critical 2 (answer 3)),
      .peer (.producer .critical 3), .peer (.slot .control 0 (answer 4)),
      .peer (.producer .control 1)]

/-- The theorem with frames in two rings: each loop is still under way after two frames, and
ends. -/
theorem draining_loops_end_iff_demo :
    ∃ system, driverMachine.run demoProbed demoQueued = some system ∧
      (controlLoop (fun _ => 0) { system with lock := .control } 2).lock = .control ∧
      (responseLoop { system with lock := .response 0 [] } 2).lock ≠ .free ∧
      (∃ count, (controlLoop (fun _ => 0) { system with lock := .control } count).lock = .free) ∧
      ∃ count, (responseLoop { system with lock := .response 0 [] } count).lock = .free := by
  have checked : (driverMachine.run demoProbed demoQueued).any (fun system =>
      Draining system ∧
        (controlLoop (fun _ => 0) { system with lock := .control } 2).lock = .control ∧
        (responseLoop { system with lock := .response 0 [] } 2).lock ≠ .free ∧
        ∀ priority, (system.hardware.shared.ring .cpu3 priority).producer.toNat <
          ringSlots) = true := by
    decide +kernel
  obtain ⟨system, executed, passed⟩ := driverMachine.exists_of_run_any checked
  obtain ⟨ready, controlled, responded, bounded⟩ := of_decide_eq_true passed
  have ends := draining_loops_end_iff (fun _ => 0) ready
  refine ⟨system, executed, controlled, responded, ends.1.mpr (.inl (bounded .critical)),
    ends.2.mpr ?_⟩
  intro priority
  exact .inl (bounded priority)

/-- Eight zeroed slots: each counts as committed, and none is a frame. -/
def Ring.blank (ring : Ring) : Bool :=
  (List.range ringSlots).all fun index =>
    (ring.slot (BitVec.ofNat 32 index)).commit == (ring.slot (BitVec.ofNat 32 index)).sequence &&
      (ring.slot (BitVec.ofNat 32 index)).malformed

theorem Ring.blank_ahead {ring : Ring} (blank : ring.blank) (count : Nat) :
    (ring.ahead count).commit = (ring.ahead count).sequence ∧ (ring.ahead count).malformed := by
  have member : (ring.consumer.toNat + count) % ringSlots ∈ List.range ringSlots :=
    List.mem_range.mpr (Nat.mod_lt _ (by decide))
  have slot := List.all_eq_true.mp blank _ member
  rw [Bool.and_eq_true, beq_iff_eq] at slot
  exact slot

/-- CPU3 overwrites a producer index with 8 before it sends anything.  In STARTING the control work
then never releases the mutex, whatever the clock reads; in ACTIVE the same holds for a reader of
`mailmsg_response`. -/
theorem overwritten_producer_spins :
    (∃ system, driverMachine.run demoProbed
        [.imageWrite 0 1 (fun _ => 0), .start true 5 affinityOff 0, .peer (.producer .critical 8),
          .controlEnter] = some system ∧
      Draining system ∧ ∀ clock count, (controlLoop clock system count).lock ≠ .free) ∧
    ∃ system, driverMachine.run demoProbed
        (demoActivation ++ [.peer (.producer .control 8), .responseEnter]) = some system ∧
      Draining system ∧ ∀ count, (responseLoop system count).lock ≠ .free := by
  constructor
  · have checked : (driverMachine.run demoProbed
        [.imageWrite 0 1 (fun _ => 0), .start true 5 affinityOff 0, .peer (.producer .critical 8),
          .controlEnter]).any (fun system =>
        Draining system ∧ system.lock = .control ∧
          (system.hardware.shared.ring .cpu3 .critical).producer = 8 ∧
          (system.hardware.shared.ring .cpu3 .critical).blank) = true := by
      decide +kernel
    obtain ⟨system, executed, passed⟩ := driverMachine.exists_of_run_any checked
    obtain ⟨ready, held, producer, blank⟩ := of_decide_eq_true passed
    refine ⟨system, executed, ready, ?_⟩
    intro clock count free
    have ends := (controlLoop_ends_iff clock ready.role ready.session (ready.inside .critical) held).mp
      ⟨count, free⟩
    rcases ends with bounded | ⟨met, pending | ⟨wellFormed, -⟩⟩
    · rw [producer] at bounded
      exact absurd bounded (by decide)
    · exact pending (Ring.blank_ahead blank met).1
    · exact wellFormed (Ring.blank_ahead blank met).2
  · have checked : (driverMachine.run demoProbed
        (demoActivation ++ [.peer (.producer .control 8), .responseEnter])).any (fun system =>
        Draining system ∧ system.lock = .response 0 [] ∧
          (system.hardware.shared.ring .cpu3 .control).producer = 8 ∧
          (system.hardware.shared.ring .cpu3 .control).blank) = true := by
      decide +kernel
    obtain ⟨system, executed, passed⟩ := driverMachine.exists_of_run_any checked
    obtain ⟨ready, held, producer, blank⟩ := of_decide_eq_true passed
    refine ⟨system, executed, ready, ?_⟩
    intro count free
    have ends := (responseLoop_ends_iff_from 3 0 rfl ready ⟨[], held⟩).mp ⟨count, free⟩ .control
      (Nat.zero_le _)
    rcases ends with bounded | ⟨met, pending | ⟨wellFormed, -⟩⟩
    · rw [producer] at bounded
      exact absurd bounded (by decide)
    · exact pending (Ring.blank_ahead blank met).1
    · exact wellFormed (Ring.blank_ahead blank met).2

end MailMsg
