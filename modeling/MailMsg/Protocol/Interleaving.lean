/-
Module: MailMsg.Protocol.Interleaving
Purpose: One producer and one consumer of a ring, each call executed as its individual loads and
  stores in program order and interleaved arbitrarily with the other party.  The invariant relates
  the two indices, the slot contents and both program counters to the list of published frames; it
  yields that nothing is lost, duplicated, reordered or torn.
Source: LZAMP/protocol/mailmsg/mailmsg.c
Trusted boundary: human-reviewed embedding of the source; memory is coherent and the publish and
  acquire hooks do not change values
Main exports: Spsc.State, Spsc.machine, Spsc.Layout, Spsc.Invariant, Spsc.ring_interleaving_safe
-/
import MailMsg.Lib.Transition
import MailMsg.Protocol.Ring

namespace MailMsg.Spsc

/-! ### Individual memory accesses -/

/-- One scalar of a slot.  A structure assignment moves these one at a time, in an order that the
compiler chooses. -/
inductive Field where
  | generation
  | type
  | sequence
  | length
  | payload (index : Fin payloadBytes)
  | crc32
  | commit
deriving DecidableEq

/-- Every scalar of a slot. -/
def Field.all : List Field :=
  [.generation, .type, .sequence, .length, .crc32, .commit] ++
    (List.finRange payloadBytes).map .payload

theorem Field.mem_all (field : Field) : field ∈ Field.all := by
  cases field <;> simp [Field.all]

/-- Move one scalar of `source` into `target`. -/
def copyField (source target : Message) : Field → Message
  | .generation => { target with generation := source.generation }
  | .type => { target with type := source.type }
  | .sequence => { target with sequence := source.sequence }
  | .length => { target with length := source.length }
  | .payload index =>
      { target with payload := Function.update target.payload index (source.payload index) }
  | .crc32 => { target with crc32 := source.crc32 }
  | .commit => { target with commit := source.commit }

/-- The scalars outside `remaining` have already been moved from `source` to `target`. -/
def CopiedExcept (source target : Message) (remaining : List Field) : Prop :=
  ∀ field, field ∉ remaining → copyField source target field = target

/-- Moving one more scalar. -/
theorem CopiedExcept.copy {source target : Message} {remaining : List Field}
    (copied : CopiedExcept source target remaining) (field : Field) :
    CopiedExcept source (copyField source target field) (remaining.erase field) := by
  intro other absent
  by_cases same : other = field
  · subst same
    cases other <;> simp [copyField]
  · have before := copied other (fun member => absent ((List.mem_erase_of_ne same).mpr member))
    cases other <;> cases field <;> simp_all [copyField, Message.ext_iff]

/-- Once every scalar has been moved, the target is the source. -/
theorem CopiedExcept.done {source target : Message} (copied : CopiedExcept source target []) :
    target = source := by
  have moved := fun field => copied field (List.not_mem_nil)
  have payload : ∀ index, target.payload index = source.payload index := by
    intro index
    have same := congrArg (fun message => message.payload index) (moved (.payload index))
    simpa [copyField] using same.symm
  have generation := moved .generation
  have type := moved .type
  have sequence := moved .sequence
  have length := moved .length
  have crc := moved .crc32
  have commit := moved .commit
  simp only [copyField, Message.ext_iff] at generation type sequence length crc commit
  ext1
  · exact generation.1.symm
  · exact type.2.1.symm
  · exact sequence.2.2.1.symm
  · exact length.2.2.2.1.symm
  · exact funext payload
  · exact crc.2.2.2.2.2.1.symm
  · exact commit.2.2.2.2.2.2.symm

theorem CopiedExcept.start (source target : Message) : CopiedExcept source target Field.all :=
  fun field absent => absurd field.mem_all absent

/-! ### The two parties -/

/-- Where the producer stands inside `mailmsg_ring_push`. -/
inductive PushPc where
  /-- No call is in progress. -/
  | idle
  /-- `ring->producer` has been loaded; the argument checks and the load of `ring->consumer` come
  next. -/
  | loaded (message : Message) (producer : U32)
  /-- `*slot = *message` is in progress. -/
  | copying (message : Message) (producer : U32) (remaining : List Field)
  /-- `slot->commit = 0` is done; `slot->crc32` comes next. -/
  | crc (message : Message) (producer : U32)
  /-- The final `slot->commit` comes next. -/
  | commit (message : Message) (producer : U32)
  /-- The store of `ring->producer` comes next. -/
  | index (message : Message) (producer : U32)
  /-- The index is stored; the call returns next. -/
  | returning (message : Message)

/-- Where the consumer stands inside `mailmsg_ring_pop`. -/
inductive PopPc where
  | idle
  /-- `ring->consumer` has been loaded; the load of `ring->producer` comes next. -/
  | loaded (buffer : Message) (consumer : U32)
  /-- The ring was seen non-empty; the load of `slot->commit` comes next. -/
  | nonempty (buffer : Message) (consumer : U32)
  /-- The load of `slot->sequence` comes next. -/
  | commit (buffer : Message) (consumer : U32) (commit : U32)
  /-- `*message = *slot` is in progress. -/
  | copying (buffer : Message) (consumer : U32) (remaining : List Field)
  /-- The consumer index has been stored; the checks on the copied frame come next. -/
  | checking (buffer : Message)

/-- A finished push, with the ring as it was at the call and at the return. -/
structure PushRecord where
  message : Message
  result : RingResult
  before : Ring
  after : Ring

/-- The ring memory, the two program counters, and the history of the run. -/
structure State where
  ring : Ring
  push : PushPc
  pop : PopPc
  /-- The common value of both indices at the start. -/
  start : Nat
  /-- The ring when the push in progress was called. -/
  called : Ring
  /-- Finished push calls, oldest first. -/
  pushes : List PushRecord
  /-- Frames whose producer-index store has happened, oldest first. -/
  published : List Frame
  /-- Number of consumer-index stores. -/
  consumed : Nat
  /-- Finished pop calls, oldest first. -/
  pops : List (RingResult × Message)

/-- One memory access (or call, or return) of one of the parties. -/
inductive Label where
  | push (message : Message)
  | pushStep
  | pushCopy (field : Field)
  | pop (buffer : Message)
  | popStep
  | popCopy (field : Field)

/-- Store into the slot that the producer writes. -/
def State.storeSlot (state : State) (producer : U32) (slot : Message) : State :=
  { state with ring := { state.ring with slot := Function.update state.ring.slot producer slot } }

/-- Return from push. -/
def State.pushReturn (state : State) (message : Message) (result : RingResult) : State :=
  { state with
    push := .idle
    pushes := state.pushes ++
      [{ message := message, result := result, before := state.called, after := state.ring }] }

/-- Return from pop. -/
def State.popReturn (state : State) (result : RingResult) (buffer : Message) : State :=
  { state with pop := .idle, pops := state.pops ++ [(result, buffer)] }

/-- The next access of the producer in program order. -/
def pushStep (state : State) : Option State :=
  match state.push with
  | .idle => none
  | .loaded message producer =>
      if message.malformed then
        some (state.pushReturn message .invalid)
      else if ringNext producer = state.ring.consumer then
        some (state.pushReturn message .full)
      else
        some { state with push := .copying message producer Field.all }
  | .copying message producer [] =>
      some { state.storeSlot producer { state.ring.slot producer with commit := 0 } with
        push := .crc message producer }
  | .copying _ _ (_ :: _) => none
  | .crc message producer =>
      let slot := state.ring.slot producer
      some { state.storeSlot producer { slot with crc32 := frameCrc32 slot } with
        push := .commit message producer }
  | .commit message producer =>
      some { state.storeSlot producer { state.ring.slot producer with commit := message.sequence } with
        push := .index message producer }
  | .index message producer =>
      some { state with
        ring := { state.ring with producer := ringNext producer }
        published := state.published ++ [message.frame]
        push := .returning message }
  | .returning message => some (state.pushReturn message .ok)

/-- The next access of the consumer in program order. -/
def popStep (state : State) : Option State :=
  match state.pop with
  | .idle => none
  | .loaded buffer consumer =>
      if consumer = state.ring.producer then
        some (state.popReturn .empty buffer)
      else
        some { state with pop := .nonempty buffer consumer }
  | .nonempty buffer consumer =>
      some { state with pop := .commit buffer consumer (state.ring.slot consumer).commit }
  | .commit buffer consumer commit =>
      if commit ≠ (state.ring.slot consumer).sequence then
        some (state.popReturn .incomplete buffer)
      else
        some { state with pop := .copying buffer consumer Field.all }
  | .copying buffer consumer [] =>
      some { state with
        ring := { state.ring with consumer := ringNext consumer }
        consumed := state.consumed + 1
        pop := .checking buffer }
  | .copying _ _ (_ :: _) => none
  | .checking buffer =>
      if buffer.malformed then
        some (state.popReturn .invalid buffer)
      else if buffer.crc32 ≠ frameCrc32 buffer then
        some (state.popReturn .badCrc buffer)
      else
        some (state.popReturn .ok buffer)

/-- One step of either party. -/
def step (state : State) : Label → Option State
  | .push message =>
      match state.push with
      | .idle =>
          some { state with push := .loaded message state.ring.producer, called := state.ring }
      | _ => none
  | .pushStep => pushStep state
  | .pushCopy field =>
      match state.push with
      | .copying message producer remaining =>
          if field ∈ remaining then
            some { state.storeSlot producer (copyField message (state.ring.slot producer) field) with
              push := .copying message producer (remaining.erase field) }
          else none
      | _ => none
  | .pop buffer =>
      match state.pop with
      | .idle => some { state with pop := .loaded buffer state.ring.consumer }
      | _ => none
  | .popStep => popStep state
  | .popCopy field =>
      match state.pop with
      | .copying buffer consumer remaining =>
          if field ∈ remaining then
            some { state with
              pop := .copying (copyField (state.ring.slot consumer) buffer field) consumer
                (remaining.erase field) }
          else none
      | _ => none

/-- An empty ring with both indices at the same slot, arbitrary slot contents, and nobody inside a
call. -/
def Initial (state : State) : Prop :=
  state.ring.producer = state.ring.consumer ∧ state.ring.producer.toNat = state.start ∧
    state.start < ringSlots ∧ state.push = .idle ∧ state.pop = .idle ∧ state.pushes = [] ∧
    state.published = [] ∧ state.consumed = 0 ∧ state.pops = []

/-- Two parties over one ring. -/
def machine : Machine State Label where
  init := Initial
  step := step

/-- The frames that pop delivered, oldest first. -/
def State.delivered (state : State) : List Frame :=
  state.pops.filterMap fun record => if record.1 = .ok then some record.2.frame else none

/-- The frames of the pushes that returned OK, oldest first. -/
def State.accepted (state : State) : List Frame :=
  (state.pushes.filter fun record => record.result = .ok).map fun record => record.message.frame

/-- The frame of a push that has stored its index and not yet returned. -/
def State.inFlight (state : State) : List Frame :=
  match state.push with
  | .returning message => [message.frame]
  | _ => []

/-! ### The ring as a window of the published list -/

/-- The slot that the frame published at `position` occupies. -/
def cell (position : Nat) : U32 := BitVec.ofNat 32 (position % ringSlots)

theorem cell_toNat (position : Nat) : (cell position).toNat = position % ringSlots := by
  have small : position % ringSlots < 2 ^ 32 :=
    Nat.lt_trans (Nat.mod_lt _ (by decide)) (by decide)
  rw [cell, BitVec.toNat_ofNat, Nat.mod_eq_of_lt small]

theorem ringNext_cell (position : Nat) : ringNext (cell position) = cell (position + 1) := by
  apply BitVec.eq_of_toNat_eq
  rw [ringNext_toNat, cell_toNat, cell_toNat]
  simp

/-- Positions less than one revolution apart have different slots. -/
theorem cell_ne {start i j : Nat} (before : i < j) (near : j < i + ringSlots) :
    cell (start + i) ≠ cell (start + j) := by
  intro clash
  have same := congrArg BitVec.toNat clash
  rw [cell_toNat, cell_toNat] at same
  have equal := Circular.position_injective (Nat.le_of_lt before) near same
  omega

/-- The ring memory holds exactly the published frames that have not been released: the indices
count publications and releases from the common start, and every outstanding slot is completely
written. -/
structure Layout (start consumed : Nat) (published : List Frame) (ring : Ring) : Prop where
  producer : ring.producer = cell (start + published.length)
  consumer : ring.consumer = cell (start + consumed)
  ordered : consumed ≤ published.length
  bounded : published.length ≤ consumed + (ringSlots - 1)
  wellFormed : ∀ frame ∈ published, ¬ frame.malformed
  slots : ∀ position, consumed ≤ position → ∀ frame, published[position]? = some frame →
    ring.slot (cell (start + position)) = frame.committed

namespace Layout

variable {start consumed : Nat} {published : List Frame} {ring : Ring}

/-- The producer's test for a full ring is exact. -/
theorem full_iff (layout : Layout start consumed published ring) :
    ringNext ring.producer = ring.consumer ↔ published.length = consumed + (ringSlots - 1) := by
  have ordered := layout.ordered
  have bounded := layout.bounded
  rw [layout.producer, layout.consumer, ringNext_cell]
  constructor
  · intro clash
    by_contra room
    have apart : cell (start + consumed) ≠ cell (start + (published.length + 1)) :=
      cell_ne (by omega) (by simp only [ringSlots] at *; omega)
    rw [Nat.add_assoc] at clash
    exact apart clash.symm
  · intro full
    apply BitVec.eq_of_toNat_eq
    rw [cell_toNat, cell_toNat, full]
    simp only [ringSlots]
    omega

/-- The consumer's test for an empty ring is exact. -/
theorem empty_iff (layout : Layout start consumed published ring) :
    ring.consumer = ring.producer ↔ consumed = published.length := by
  have ordered := layout.ordered
  have bounded := layout.bounded
  rw [layout.producer, layout.consumer]
  constructor
  · intro clash
    by_contra different
    have apart : cell (start + consumed) ≠ cell (start + published.length) :=
      cell_ne (by omega) (by simp only [ringSlots] at *; omega)
    exact apart clash
  · intro same
    rw [same]

/-- A store into the producer's slot does not reach an outstanding slot. -/
theorem outstanding_ne_producer (layout : Layout start consumed published ring)
    {position : Nat} (low : consumed ≤ position) (high : position < published.length) :
    cell (start + position) ≠ ring.producer := by
  have bounded := layout.bounded
  rw [layout.producer]
  exact cell_ne high (by simp only [ringSlots] at *; omega)

/-- Writing the producer's slot keeps the layout. -/
theorem write (layout : Layout start consumed published ring) (slot : Message) :
    Layout start consumed published
      { ring with slot := Function.update ring.slot ring.producer slot } where
  producer := layout.producer
  consumer := layout.consumer
  ordered := layout.ordered
  bounded := layout.bounded
  wellFormed := layout.wellFormed
  slots := by
    intro position low frame listed
    obtain ⟨high, -⟩ := List.getElem?_eq_some_iff.mp listed
    exact (Function.update_of_ne (layout.outstanding_ne_producer low high) _ _).trans
      (layout.slots position low frame listed)

/-- Writing the producer's slot does not change the slot that the consumer reads. -/
theorem write_consumer (layout : Layout start consumed published ring)
    (outstanding : consumed < published.length) (slot : Message) :
    Function.update ring.slot ring.producer slot ring.consumer = ring.slot ring.consumer := by
  apply Function.update_of_ne
  rw [layout.consumer]
  exact layout.outstanding_ne_producer (Nat.le_refl _) outstanding

/-- Storing the producer index over a completely written slot publishes its frame. -/
theorem publish (layout : Layout start consumed published ring) {frame : Frame}
    (room : published.length ≤ consumed + (ringSlots - 2)) (valid : ¬ frame.malformed)
    (written : ring.slot ring.producer = frame.committed) :
    Layout start consumed (published ++ [frame])
      { ring with producer := ringNext ring.producer } where
  producer := by
    rw [layout.producer, ringNext_cell, List.length_append, List.length_singleton, Nat.add_assoc]
  consumer := layout.consumer
  ordered := by
    have ordered := layout.ordered
    rw [List.length_append]
    omega
  bounded := by
    rw [List.length_append, List.length_singleton]
    simp only [ringSlots] at *
    omega
  wellFormed := by
    intro other member
    rcases List.mem_append.mp member with old | new
    · exact layout.wellFormed other old
    · rw [List.mem_singleton.mp new]
      exact valid
  slots := by
    intro position low other listed
    rcases Nat.lt_or_ge position published.length with old | new
    · rw [List.getElem?_append_left old] at listed
      exact layout.slots position low other listed
    · rw [List.getElem?_append_right new] at listed
      have last : position - published.length = 0 := by
        obtain ⟨high, -⟩ := List.getElem?_eq_some_iff.mp listed
        simpa using high
      rw [last, List.getElem?_cons_zero, Option.some.injEq] at listed
      have atEnd : position = published.length := by omega
      rw [atEnd, ← listed, ← written, layout.producer]

/-- The slot at the consumer index holds the oldest outstanding frame. -/
theorem head (layout : Layout start consumed published ring) {frame : Frame}
    (oldest : published[consumed]? = some frame) : ring.slot ring.consumer = frame.committed := by
  rw [layout.consumer]
  exact layout.slots consumed (Nat.le_refl _) frame oldest

/-- Storing the consumer index releases the oldest outstanding frame. -/
theorem release (layout : Layout start consumed published ring)
    (outstanding : consumed < published.length) :
    Layout start (consumed + 1) published { ring with consumer := ringNext ring.consumer } where
  producer := layout.producer
  consumer := by
    rw [layout.consumer, ringNext_cell, Nat.add_assoc]
  ordered := outstanding
  bounded := by
    have bounded := layout.bounded
    omega
  wellFormed := layout.wellFormed
  slots := fun position low => layout.slots position (by omega)

end Layout

/-! ### The invariant

Each program counter says what its party already knows.  The producer knows that a slot is free from
the moment it compared the indices, because only it publishes and the consumer can only make more
room.  The consumer knows that its slot is completely written from the moment it saw the indices
differ, because the producer only writes slots that are not outstanding.
-/

/-- What the producer's position guarantees about the ring. -/
def PushInv (called ring : Ring) (published : List Frame) (consumed : Nat) : PushPc → Prop
  | .idle => True
  | .loaded _ producer =>
      producer = ring.producer ∧ called.producer = ring.producer ∧ called.slot = ring.slot
  | .copying message producer remaining =>
      producer = ring.producer ∧ ¬ message.malformed ∧
        published.length ≤ consumed + (ringSlots - 2) ∧
        CopiedExcept message (ring.slot producer) remaining
  | .crc message producer =>
      producer = ring.producer ∧ ¬ message.malformed ∧
        published.length ≤ consumed + (ringSlots - 2) ∧
        ring.slot producer = { message with commit := 0 }
  | .commit message producer =>
      producer = ring.producer ∧ ¬ message.malformed ∧
        published.length ≤ consumed + (ringSlots - 2) ∧
        ring.slot producer = { message with commit := 0, crc32 := frameCrc32 message }
  | .index message producer =>
      producer = ring.producer ∧ ¬ message.malformed ∧
        published.length ≤ consumed + (ringSlots - 2) ∧
        ring.slot producer = message.frame.committed
  | .returning _ => True

/-- What the consumer's position guarantees about the ring and about its local copy; `delivered`
counts the frames already returned. -/
def PopInv (ring : Ring) (published : List Frame) (consumed delivered : Nat) : PopPc → Prop
  | .idle => delivered = consumed
  | .loaded _ consumer => consumer = ring.consumer ∧ delivered = consumed
  | .nonempty _ consumer =>
      consumer = ring.consumer ∧ delivered = consumed ∧ consumed < published.length
  | .commit _ consumer commit =>
      consumer = ring.consumer ∧ delivered = consumed ∧ consumed < published.length ∧
        commit = (ring.slot consumer).commit
  | .copying buffer consumer remaining =>
      consumer = ring.consumer ∧ delivered = consumed ∧ consumed < published.length ∧
        CopiedExcept (ring.slot consumer) buffer remaining
  | .checking buffer =>
      consumed = delivered + 1 ∧
        ∃ frame, published[delivered]? = some frame ∧ buffer = frame.committed

/-- The consumer's progress does not disturb the producer's knowledge. -/
theorem PushInv.mono {called ring ring' : Ring} {published : List Frame} {consumed consumed' : Nat}
    {pc : PushPc} (known : PushInv called ring published consumed pc) (later : consumed ≤ consumed')
    (producer : ring'.producer = ring.producer) (slot : ring'.slot = ring.slot) :
    PushInv called ring' published consumed' pc := by
  cases pc with
  | idle => trivial
  | loaded => simpa only [PushInv, producer, slot] using known
  | copying =>
      obtain ⟨index, valid, room, copied⟩ := known
      exact ⟨by rw [producer]; exact index, valid, by omega, by rw [slot]; exact copied⟩
  | crc | commit | index =>
      obtain ⟨index, valid, room, written⟩ := known
      exact ⟨by rw [producer]; exact index, valid, by omega, by rw [slot]; exact written⟩
  | returning => trivial

/-- The producer's progress does not disturb the consumer's knowledge. -/
theorem PopInv.mono {ring ring' : Ring} {published published' : List Frame}
    {consumed delivered : Nat} {pc : PopPc} (known : PopInv ring published consumed delivered pc)
    (consumer : ring'.consumer = ring.consumer)
    (slot : consumed < published.length → ring'.slot ring.consumer = ring.slot ring.consumer)
    (grown : published <+: published') : PopInv ring' published' consumed delivered pc := by
  have longer := grown.length_le
  cases pc with
  | idle => exact known
  | loaded => simpa only [PopInv, consumer] using known
  | nonempty =>
      obtain ⟨index, count, outstanding⟩ := known
      exact ⟨index.trans consumer.symm, count, by omega⟩
  | commit =>
      obtain ⟨rfl, count, outstanding, loaded⟩ := known
      exact ⟨consumer.symm, count, by omega, by rw [slot outstanding]; exact loaded⟩
  | copying =>
      obtain ⟨rfl, count, outstanding, copied⟩ := known
      exact ⟨consumer.symm, count, by omega, by rw [slot outstanding]; exact copied⟩
  | checking =>
      obtain ⟨count, frame, listed, copied⟩ := known
      obtain ⟨suffix, rfl⟩ := grown
      obtain ⟨bound, -⟩ := List.getElem?_eq_some_iff.mp listed
      exact ⟨count, frame, by rw [List.getElem?_append_left bound]; exact listed, copied⟩

/-- Push left the memory it owns as it found it. -/
def PushRecord.Untouched (record : PushRecord) : Prop :=
  record.after.producer = record.before.producer ∧ record.after.slot = record.before.slot

/-- The invariant of every interleaving. -/
structure Invariant (state : State) : Prop where
  layout : Layout state.start state.consumed state.published state.ring
  push : PushInv state.called state.ring state.published state.consumed state.push
  pop : PopInv state.ring state.published state.consumed state.delivered.length state.pop
  results : ∀ record ∈ state.pops, record.1 = .empty ∨ record.1 = .ok
  delivered : state.delivered <+: state.published
  accepted : state.published = state.accepted ++ state.inFlight
  refused : ∀ record ∈ state.pushes, record.result ≠ .ok → record.Untouched

theorem Invariant.initial {state : State} (initial : Initial state) : Invariant state := by
  obtain ⟨same, index, bound, push, pop, pushes, published, consumed, pops⟩ := initial
  have producer : state.ring.producer = cell state.start := by
    apply BitVec.eq_of_toNat_eq
    rw [cell_toNat, Nat.mod_eq_of_lt bound, index]
  have delivered : state.delivered = [] := by simp [State.delivered, pops]
  constructor
  · constructor
    · simpa [published] using producer
    · rw [consumed, ← same]
      simpa using producer
    · simp [published, consumed]
    · simp [published, consumed]
    · simp [published]
    · intro position _ frame listed
      simp [published] at listed
  · rw [push]
    trivial
  · rw [pop, delivered, consumed]
    rfl
  · simp [pops]
  · simp [delivered]
  · simp [published, State.accepted, pushes, State.inFlight, push]
  · simp [pushes]

/-- Frames delivered after one more pop record. -/
theorem delivered_popReturn (state : State) (result : RingResult) (buffer : Message) :
    (state.popReturn result buffer).delivered =
      state.delivered ++ if result = .ok then [buffer.frame] else [] := by
  by_cases ok : result = .ok
  · simp [State.delivered, State.popReturn, ok]
  · simp [State.delivered, State.popReturn, ok]

/-- Frames accepted after one more push record. -/
theorem accepted_pushReturn (state : State) (message : Message) (result : RingResult) :
    (state.pushReturn message result).accepted =
      state.accepted ++ if result = .ok then [message.frame] else [] := by
  by_cases ok : result = .ok
  · simp [State.accepted, State.pushReturn, ok]
  · simp [State.accepted, State.pushReturn, ok]

/-- A store into the producer's slot, with the producer's next position. -/
theorem Invariant.storeSlot {state : State} (invariant : Invariant state) {slot : Message}
    {producer : U32} {pc : PushPc} (index : producer = state.ring.producer)
    (quiet : state.inFlight = []) (notReturning : ∀ message, pc ≠ .returning message)
    (known : PushInv state.called (state.storeSlot producer slot).ring state.published state.consumed
      pc) :
    Invariant { state.storeSlot producer slot with push := pc } where
  layout := by
    subst index
    exact invariant.layout.write slot
  push := known
  pop := by
    subst index
    exact invariant.pop.mono rfl (fun outstanding => invariant.layout.write_consumer outstanding slot)
      (List.prefix_refl _)
  results := invariant.results
  delivered := invariant.delivered
  accepted := by
    have flight : State.inFlight { state.storeSlot producer slot with push := pc } = [] := by
      cases pc with
      | returning message => exact absurd rfl (notReturning message)
      | _ => rfl
    rw [flight]
    have before := invariant.accepted
    rw [quiet] at before
    exact before
  refused := invariant.refused

/-- A refused push returns without having written. -/
theorem Invariant.pushRefused {state : State} (invariant : Invariant state) {message : Message}
    {producer : U32} (pc : state.push = .loaded message producer) {result : RingResult}
    (refused : result ≠ .ok) : Invariant (state.pushReturn message result) where
  layout := invariant.layout
  push := trivial
  pop := invariant.pop
  results := invariant.results
  delivered := invariant.delivered
  accepted := by
    have before := invariant.accepted
    rw [accepted_pushReturn, if_neg refused]
    simpa [State.inFlight, pc, State.pushReturn] using before
  refused := by
    have known := invariant.push
    rw [pc] at known
    intro record member failed
    rcases List.mem_append.mp member with old | new
    · exact invariant.refused record old failed
    · rw [List.mem_singleton.mp new]
      exact ⟨known.2.1.symm, known.2.2.symm⟩

/-- A pop that returns without a frame. -/
theorem Invariant.popEmpty {state : State} (invariant : Invariant state) (buffer : Message)
    (count : state.delivered.length = state.consumed) :
    Invariant (state.popReturn .empty buffer) where
  layout := invariant.layout
  push := invariant.push
  pop := by
    rw [delivered_popReturn]
    simpa [PopInv, State.popReturn] using count
  results := by
    intro record member
    rcases List.mem_append.mp member with old | new
    · exact invariant.results record old
    · rw [List.mem_singleton.mp new]
      exact .inl rfl
  delivered := by
    rw [delivered_popReturn]
    simpa [State.popReturn] using invariant.delivered
  accepted := invariant.accepted
  refused := invariant.refused

/-- A pop that returns the oldest frame not yet delivered. -/
theorem Invariant.popOk {state : State} (invariant : Invariant state) {frame : Frame}
    (count : state.consumed = state.delivered.length + 1)
    (listed : state.published[state.delivered.length]? = some frame) :
    Invariant (state.popReturn .ok frame.committed) where
  layout := invariant.layout
  push := invariant.push
  pop := by
    rw [delivered_popReturn]
    simpa [PopInv, State.popReturn] using count.symm
  results := by
    intro record member
    rcases List.mem_append.mp member with old | new
    · exact invariant.results record old
    · rw [List.mem_singleton.mp new]
      exact .inr rfl
  delivered := by
    obtain ⟨rest, split⟩ := invariant.delivered
    have head : rest[0]? = some frame := by
      rw [← split, List.getElem?_append_right (Nat.le_refl _), Nat.sub_self] at listed
      exact listed
    obtain ⟨tail, rfl⟩ : ∃ tail, rest = frame :: tail := by
      cases rest with
      | nil => simp at head
      | cons first tail =>
          rw [List.getElem?_cons_zero, Option.some.injEq] at head
          exact ⟨tail, by rw [head]⟩
    rw [delivered_popReturn]
    exact ⟨tail, by simpa [State.popReturn] using split⟩
  accepted := invariant.accepted
  refused := invariant.refused

/-- Every access of the producer keeps the invariant. -/
theorem Invariant.pushStep {state next : State} (invariant : Invariant state)
    (taken : pushStep state = some next) : Invariant next := by
  have known := invariant.push
  cases pc : state.push with
  | idle => simp [Spsc.pushStep, pc] at taken
  | loaded message producer =>
      rw [pc] at known
      obtain ⟨index, sameProducer, sameSlot⟩ := known
      simp only [Spsc.pushStep, pc] at taken
      split at taken
      · cases taken
        exact invariant.pushRefused pc (by simp)
      · rename_i valid
        split at taken
        · cases taken
          exact invariant.pushRefused pc (by simp)
        · rename_i room
          cases taken
          have bounded := invariant.layout.bounded
          rw [index, invariant.layout.full_iff] at room
          exact
            { layout := invariant.layout
              push := ⟨index, valid, by simp only [ringSlots] at *; omega, .start _ _⟩
              pop := invariant.pop
              results := invariant.results
              delivered := invariant.delivered
              accepted := by simpa [State.inFlight, State.accepted, pc] using invariant.accepted
              refused := invariant.refused }
  | copying message producer remaining =>
      rw [pc] at known
      obtain ⟨index, valid, room, copied⟩ := known
      have quiet : state.inFlight = [] := by simp [State.inFlight, pc]
      cases remaining with
      | nil =>
          simp only [Spsc.pushStep, pc, Option.some.injEq] at taken
          subst taken
          exact invariant.storeSlot index quiet (by simp)
            ⟨index, valid, room, by simp [State.storeSlot, copied.done]⟩
      | cons field rest => simp [Spsc.pushStep, pc] at taken
  | crc message producer =>
      rw [pc] at known
      obtain ⟨index, valid, room, written⟩ := known
      have quiet : state.inFlight = [] := by simp [State.inFlight, pc]
      simp only [Spsc.pushStep, pc, Option.some.injEq] at taken
      subst taken
      -- The CRC does not read the commit word that was just cleared.
      exact invariant.storeSlot index quiet (by simp)
        ⟨index, valid, room, by
          simp only [State.storeSlot, Function.update_self, written]
          rfl⟩
  | commit message producer =>
      rw [pc] at known
      obtain ⟨index, valid, room, written⟩ := known
      have quiet : state.inFlight = [] := by simp [State.inFlight, pc]
      simp only [Spsc.pushStep, pc, Option.some.injEq] at taken
      subst taken
      exact invariant.storeSlot index quiet (by simp)
        ⟨index, valid, room, by
          simp only [State.storeSlot, Function.update_self, written]
          rfl⟩
  | index message producer =>
      rw [pc] at known
      obtain ⟨rfl, valid, room, written⟩ := known
      simp only [Spsc.pushStep, pc, Option.some.injEq] at taken
      subst taken
      exact
        { layout := invariant.layout.publish room valid written
          push := trivial
          pop := invariant.pop.mono rfl (fun _ => rfl) (List.prefix_append _ _)
          results := invariant.results
          delivered := invariant.delivered.trans (List.prefix_append _ _)
          accepted := by
            have before := invariant.accepted
            simp only [State.inFlight, pc, List.append_nil] at before
            simp only [State.inFlight, State.accepted]
            rw [before]
            rfl
          refused := invariant.refused }
  | returning message =>
      simp only [Spsc.pushStep, pc, Option.some.injEq] at taken
      subst taken
      exact
        { layout := invariant.layout
          push := trivial
          pop := invariant.pop
          results := invariant.results
          delivered := invariant.delivered
          accepted := by
            have before := invariant.accepted
            rw [accepted_pushReturn]
            simpa [State.inFlight, pc, State.pushReturn] using before
          refused := by
            intro record member failed
            rcases List.mem_append.mp member with old | new
            · exact invariant.refused record old failed
            · rw [List.mem_singleton.mp new] at failed
              exact absurd rfl failed }

/-- Every access of the consumer keeps the invariant. -/
theorem Invariant.popStep {state next : State} (invariant : Invariant state)
    (taken : popStep state = some next) : Invariant next := by
  have known := invariant.pop
  cases pc : state.pop with
  | idle => simp [Spsc.popStep, pc] at taken
  | loaded buffer consumer =>
      rw [pc] at known
      obtain ⟨index, count⟩ := known
      simp only [Spsc.popStep, pc] at taken
      split at taken
      · cases taken
        exact invariant.popEmpty buffer count
      · rename_i different
        cases taken
        rw [index, invariant.layout.empty_iff] at different
        have outstanding := Nat.lt_of_le_of_ne invariant.layout.ordered different
        exact { invariant with pop := ⟨index, count, outstanding⟩ }
  | nonempty buffer consumer =>
      rw [pc] at known
      obtain ⟨index, count, outstanding⟩ := known
      simp only [Spsc.popStep, pc, Option.some.injEq] at taken
      subst taken
      exact { invariant with pop := ⟨index, count, outstanding, rfl⟩ }
  | commit buffer consumer commit =>
      rw [pc] at known
      obtain ⟨rfl, count, outstanding, loaded⟩ := known
      have oldest := List.getElem?_eq_getElem outstanding
      have slot := invariant.layout.head oldest
      simp only [Spsc.popStep, pc] at taken
      split at taken
      · -- The commit word of an outstanding slot is its sequence, so the slot is never incomplete.
        rename_i incomplete
        rw [loaded, slot] at incomplete
        exact absurd rfl incomplete
      · cases taken
        exact { invariant with pop := ⟨rfl, count, outstanding, .start _ _⟩ }
  | copying buffer consumer remaining =>
      rw [pc] at known
      obtain ⟨rfl, count, outstanding, copied⟩ := known
      cases remaining with
      | nil =>
          have oldest := List.getElem?_eq_getElem outstanding
          have slot := invariant.layout.head oldest
          simp only [Spsc.popStep, pc, Option.some.injEq] at taken
          subst taken
          exact
            { layout := invariant.layout.release outstanding
              push := invariant.push.mono (Nat.le_succ _) rfl rfl
              pop := ⟨congrArg (· + 1) count.symm, state.published[state.consumed],
                (congrArg (state.published[·]?) count).trans oldest, by rw [copied.done, slot]⟩
              results := invariant.results
              delivered := invariant.delivered
              accepted := invariant.accepted
              refused := invariant.refused }
      | cons field rest => simp [Spsc.popStep, pc] at taken
  | checking buffer =>
      rw [pc] at known
      obtain ⟨count, frame, listed, rfl⟩ := known
      have valid : ¬ frame.malformed :=
        invariant.layout.wellFormed frame (List.mem_of_getElem? listed)
      simp only [Spsc.popStep, pc] at taken
      split at taken
      · rename_i malformed
        exact absurd malformed valid
      · split at taken
        · rename_i mismatch
          exact absurd rfl mismatch
        · cases taken
          exact invariant.popOk count listed

/-- Every step of either party keeps the invariant. -/
theorem Invariant.step {state next : State} {label : Label} (invariant : Invariant state)
    (taken : step state label = some next) : Invariant next := by
  cases label with
  | push message =>
      simp only [Spsc.step] at taken
      split at taken
      · rename_i pc
        cases taken
        exact
          { layout := invariant.layout
            push := ⟨rfl, rfl, rfl⟩
            pop := invariant.pop
            results := invariant.results
            delivered := invariant.delivered
            accepted := by simpa [State.inFlight, State.accepted, pc] using invariant.accepted
            refused := invariant.refused }
      · cases taken
  | pushStep => exact invariant.pushStep taken
  | pushCopy field =>
      simp only [Spsc.step] at taken
      split at taken
      · rename_i message producer remaining pc
        split at taken
        · cases taken
          have known := invariant.push
          rw [pc] at known
          obtain ⟨index, valid, room, copied⟩ := known
          exact invariant.storeSlot index (by simp [State.inFlight, pc]) (by simp)
            ⟨index, valid, room, by
              simpa [State.storeSlot] using copied.copy field⟩
        · cases taken
      · cases taken
  | pop buffer =>
      simp only [Spsc.step] at taken
      split at taken
      · rename_i pc
        cases taken
        have known := invariant.pop
        rw [pc] at known
        exact { invariant with pop := ⟨rfl, known⟩ }
      · cases taken
  | popStep => exact invariant.popStep taken
  | popCopy field =>
      simp only [Spsc.step] at taken
      split at taken
      · rename_i buffer consumer remaining pc
        split at taken
        · cases taken
          have known := invariant.pop
          rw [pc] at known
          obtain ⟨index, count, outstanding, copied⟩ := known
          exact { invariant with pop := ⟨index, count, outstanding, copied.copy field⟩ }
        · cases taken
      · cases taken

theorem Invariant.reachable {state : State} (reached : machine.Reachable state) :
    Invariant state :=
  reached.invariant (fun _ => Invariant.initial) (fun _ _ _ _ invariant => invariant.step)

/-- The FIFO list of the ring, between any two accesses, is the published frames not yet
released. -/
theorem Layout.contents {start consumed : Nat} {published : List Frame} {ring : Ring}
    (layout : Layout start consumed published ring) :
    ring.contents = (published.drop consumed).map Frame.committed := by
  have ordered := layout.ordered
  have bounded := layout.bounded
  have occupied : ring.occupied = published.length - consumed := by
    rw [Ring.occupied, layout.producer, layout.consumer, cell_toNat, cell_toNat]
    refine Circular.distance_eq_of_add (Nat.mod_lt _ (by decide)) (Nat.mod_lt _ (by decide))
      (by simp only [ringSlots] at *; omega) ?_
    rw [Nat.mod_add_mod]
    congr 1
    omega
  apply List.ext_getElem?
  intro offset
  rcases Nat.lt_or_ge offset (published.length - consumed) with inside | outside
  · have position : consumed + offset < published.length := by omega
    have slot := layout.slots (consumed + offset) (by omega) _ (List.getElem?_eq_getElem position)
    have index : cell (start + (consumed + offset)) =
        BitVec.ofNat 32 ((ring.consumer.toNat + offset) % ringSlots) := by
      rw [layout.consumer, cell_toNat, Nat.mod_add_mod, cell, Nat.add_assoc]
    rw [index] at slot
    simp [Ring.contents, Circular.window, occupied, inside, slot]
  · rw [List.getElem?_eq_none, List.getElem?_eq_none]
    · simpa using outside
    · simpa [occupied] using outside

/-- In every interleaving of the individual accesses of one producer and one consumer, a finished
pop answers EMPTY or OK; the delivered frames are a prefix of the frames whose index store has
happened; at most seven published frames are unreleased; and a refused push contributes no frame and
leaves the memory that push writes as it was. -/
theorem ring_interleaving_safe {state : State} (reached : machine.Reachable state) :
    (∀ record ∈ state.pops, record.1 = .empty ∨ record.1 = .ok) ∧
      state.delivered <+: state.published ∧
      (state.consumed ≤ state.published.length ∧ state.published.length - state.consumed ≤ 7 ∧
        state.ring.contents = (state.published.drop state.consumed).map Frame.committed) ∧
      state.published = state.accepted ++ state.inFlight ∧
      ∀ record ∈ state.pushes, record.result = .full ∨ record.result = .invalid →
        record.Untouched := by
  have invariant := Invariant.reachable reached
  have bounded := invariant.layout.bounded
  refine ⟨invariant.results, invariant.delivered, ⟨invariant.layout.ordered, ?_,
    invariant.layout.contents⟩, invariant.accepted, ?_⟩
  · simp only [ringSlots] at bounded
    omega
  · intro record member refused
    apply invariant.refused record member
    rcases refused with full | invalid
    · simp [full]
    · simp [invalid]

/-- A ring at index 7 whose slots hold leftovers. -/
def demoInitial : State where
  ring :=
    { producer := 7
      consumer := 7
      slot := fun index => { Message.zero with type := index, commit := 9 } }
  push := .idle
  pop := .idle
  start := 7
  called := .zero
  pushes := []
  published := []
  consumed := 0
  pops := []

/-- A one-byte PING. -/
def demoMessage : Message :=
  { Message.zero with generation := 3, type := MessageType.ping, sequence := 7, length := 1,
                      payload := fun _ => 0x12 }

/-- A push and a pop that overlap: the pop's call precedes the publication it then observes. -/
def demoLabels : List Label :=
  [.push demoMessage, .pushStep] ++ Field.all.map .pushCopy ++
    [.pop .zero, .pushStep, .pushStep, .pushStep, .pushStep, .popStep, .popStep, .popStep] ++
    Field.all.reverse.map .popCopy ++ [.popStep, .popStep, .pushStep]

/-- The theorem at a run that wraps the producer index and delivers one frame. -/
theorem ring_interleaving_safe_demo :
    ∃ state, machine.run demoInitial demoLabels = some state ∧
      state.delivered = [demoMessage.frame] ∧ state.ring.producer = 0 ∧
      state.delivered <+: state.published := by
  have initial : machine.init demoInitial := by
    refine ⟨rfl, rfl, by decide, rfl, rfl, rfl, rfl, rfl, rfl⟩
  have checked : (machine.run demoInitial demoLabels).any (fun state =>
      state.delivered = [demoMessage.frame] ∧ state.ring.producer = 0) = true := by
    decide +kernel
  obtain ⟨state, executed, passed⟩ := machine.exists_of_run_any checked
  obtain ⟨delivered, producer⟩ := of_decide_eq_true passed
  exact ⟨state, executed, delivered, producer,
    (ring_interleaving_safe (Machine.Reachable.run (.init initial) executed)).2.1⟩

end MailMsg.Spsc
