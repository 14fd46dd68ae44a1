/-
Module: MailMsg.Protocol.Ring
Purpose: The single-producer/single-consumer ring, each call taken as one step, and the FIFO list
  that it implements.
Source: LZAMP/protocol/mailmsg/mailmsg.c, LZAMP/protocol/mailmsg/mailmsg.h
Trusted boundary: human-reviewed embedding of the source
Main exports: Ring, ringNext, ringPush, ringPop, ringHasData, ringCount, Ring.WellFormed,
  Ring.contents, ringPush_contents, ringPop_contents, Ring.Holds, Ring.Carries
-/
import Mathlib.Data.List.Forall2
import MailMsg.Lib.Circular
import MailMsg.Protocol.Message

namespace MailMsg

/-- `struct mailmsg_ring`.  C does not check an array index, so `slot` answers for every 32-bit
index: cells 0 to 7 are the array, the others stand for the memory that an unchecked index would
reach. -/
structure Ring where
  producer : U32
  consumer : U32
  slot : U32 → Message

/-- A zeroed ring. -/
def Ring.zero : Ring where
  producer := 0
  consumer := 0
  slot := fun _ => .zero

/-- `mailmsg_next`. -/
def ringNext (value : U32) : U32 := (value + 1) % 8

/-- `mailmsg_ring_push` run without interference.  The publish and acquire hooks do not change
values. -/
def ringPush (ring : Ring) (message : Message) : RingResult × Ring :=
  let producer := ring.producer
  let next := ringNext producer
  if message.malformed then
    (.invalid, ring)
  else if next = ring.consumer then
    (.full, ring)
  else
    -- `*slot = *message`, then the commit word is cleared while the CRC is computed and stored.
    let slot := { message with commit := 0 }
    let slot := { slot with crc32 := frameCrc32 slot }
    let slot := { slot with commit := message.sequence }
    (.ok, { ring with slot := Function.update ring.slot producer slot, producer := next })

/-- `mailmsg_ring_pop` run without interference.  The message is the one copied out of the slot; it
is absent when the call returns before the copy. -/
def ringPop (ring : Ring) : RingResult × Ring × Option Message :=
  let consumer := ring.consumer
  if consumer = ring.producer then
    (.empty, ring, none)
  else
    let slot := ring.slot consumer
    if slot.commit ≠ slot.sequence then
      (.incomplete, ring, none)
    else
      -- A committed slot is always released promptly, whatever the checks below say.
      let released := { ring with consumer := ringNext consumer }
      if slot.malformed then
        (.invalid, released, some slot)
      else if slot.crc32 ≠ frameCrc32 slot then
        (.badCrc, released, some slot)
      else
        (.ok, released, some slot)

/-- `mailmsg_ring_has_data` on a non-null ring: the C truth value of `producer != consumer`. -/
def ringHasData (ring : Ring) : Int := if ring.producer ≠ ring.consumer then 1 else 0

/-- `mailmsg_ring_count`: the occupancy, or the code of `MAILMSG_RING_INVALID`. -/
def ringCount (ring : Ring) : Int :=
  if 8 ≤ ring.producer ∨ 8 ≤ ring.consumer then RingResult.invalid.code
  else if ring.consumer ≤ ring.producer then (ring.producer - ring.consumer).toNat
  else (8 - ring.consumer + ring.producer).toNat

/-! ### The FIFO view

`Ring.Holds` ties the two indices and the slots between them to a list: a push appends to it, a pop
takes its head.
-/

/-- Both indices select a slot of the array. -/
structure Ring.WellFormed (ring : Ring) : Prop where
  producer : ring.producer.toNat < ringSlots
  consumer : ring.consumer.toNat < ringSlots

/-- Number of occupied slots. -/
def Ring.occupied (ring : Ring) : Nat :=
  Circular.distance ringSlots ring.consumer.toNat ring.producer.toNat

/-- The occupied slots from the consumer's index on, oldest first. -/
def Ring.contents (ring : Ring) : List Message :=
  Circular.window (fun index => ring.slot (BitVec.ofNat 32 index)) ringSlots ring.consumer.toNat
    ring.occupied

theorem Ring.zero_wellFormed : Ring.zero.WellFormed := ⟨by decide, by decide⟩

@[simp] theorem Ring.zero_contents : Ring.zero.contents = [] := rfl

@[simp] theorem Ring.contents_length (ring : Ring) : ring.contents.length = ring.occupied := by
  simp [Ring.contents]

theorem ringNext_toNat (value : U32) : (ringNext value).toNat = (value.toNat + 1) % ringSlots := by
  have whole : (ringNext value).toNat = (value.toNat + 1) % 2 ^ 32 % 8 := by
    simp [ringNext, BitVec.toNat_umod, BitVec.toNat_add]
  rw [whole]
  simp only [ringSlots]
  omega

theorem ringNext_lt (value : U32) : (ringNext value).toNat < ringSlots := by
  rw [ringNext_toNat]
  exact Nat.mod_lt _ (by decide)

theorem Ring.WellFormed.occupied_lt {ring : Ring} (_wellFormed : ring.WellFormed) :
    ring.occupied < ringSlots := Circular.distance_lt (by decide)

/-- The occupied slots end where the producer writes next. -/
theorem Ring.WellFormed.producer_eq {ring : Ring} (wellFormed : ring.WellFormed) :
    (ring.consumer.toNat + ring.occupied) % ringSlots = ring.producer.toNat :=
  Circular.add_distance wellFormed.consumer wellFormed.producer

/-- The ring is empty exactly when the indices agree. -/
theorem Ring.WellFormed.occupied_eq_zero_iff {ring : Ring} (wellFormed : ring.WellFormed) :
    ring.occupied = 0 ↔ ring.consumer = ring.producer := by
  rw [Ring.occupied, Circular.distance_eq_zero_iff wellFormed.consumer wellFormed.producer]
  exact BitVec.toNat_inj

theorem Ring.WellFormed.contents_eq_nil_iff {ring : Ring} (wellFormed : ring.WellFormed) :
    ring.contents = [] ↔ ring.consumer = ring.producer := by
  rw [← List.length_eq_zero_iff, Ring.contents_length, wellFormed.occupied_eq_zero_iff]

/-- Push finds the ring full exactly when seven slots are occupied. -/
theorem Ring.WellFormed.full_iff {ring : Ring} (wellFormed : ring.WellFormed) :
    ringNext ring.producer = ring.consumer ↔ ring.occupied = ringSlots - 1 := by
  have bound := wellFormed.occupied_lt
  have endpoint := wellFormed.producer_eq
  have consumerBound := wellFormed.consumer
  rw [← BitVec.toNat_inj, ringNext_toNat, ← endpoint]
  simp only [ringSlots] at *
  omega

/-- Everything that `ringPush` can do. -/
theorem ringPush_cases (ring : Ring) (message : Message) :
    (message.malformed ∧ ringPush ring message = (.invalid, ring)) ∨
      (¬ message.malformed ∧ ringNext ring.producer = ring.consumer ∧
        ringPush ring message = (.full, ring)) ∨
      (¬ message.malformed ∧ ringNext ring.producer ≠ ring.consumer ∧
        ringPush ring message =
          (.ok, { ring with
            slot := Function.update ring.slot ring.producer message.frame.committed
            producer := ringNext ring.producer })) := by
  by_cases malformed : message.malformed
  · exact .inl ⟨malformed, by simp [ringPush, malformed]⟩
  · by_cases full : ringNext ring.producer = ring.consumer
    · exact .inr (.inl ⟨malformed, full, by simp [ringPush, malformed, full]⟩)
    · exact .inr (.inr ⟨malformed, full, by
        simp only [ringPush, malformed, full, if_false]
        rfl⟩)

/-- Everything that `ringPop` can do.  A copied frame always comes with the released slot. -/
theorem ringPop_cases (ring : Ring) :
    (ring.consumer = ring.producer ∧ ringPop ring = (.empty, ring, none)) ∨
      (ring.consumer ≠ ring.producer ∧
        (ring.slot ring.consumer).commit ≠ (ring.slot ring.consumer).sequence ∧
        ringPop ring = (.incomplete, ring, none)) ∨
      (ring.consumer ≠ ring.producer ∧
        (ring.slot ring.consumer).commit = (ring.slot ring.consumer).sequence ∧
        ∃ result, (result = .ok ∨ result = .badCrc ∨ result = .invalid) ∧
          (result = .ok ↔ ¬ (ring.slot ring.consumer).malformed ∧
            (ring.slot ring.consumer).crc32 = frameCrc32 (ring.slot ring.consumer)) ∧
          ringPop ring =
            (result, { ring with consumer := ringNext ring.consumer },
              some (ring.slot ring.consumer))) := by
  by_cases empty : ring.consumer = ring.producer
  · exact .inl ⟨empty, by simp [ringPop, empty]⟩
  · by_cases committed : (ring.slot ring.consumer).commit = (ring.slot ring.consumer).sequence
    · refine .inr (.inr ⟨empty, committed, ?_⟩)
      by_cases malformed : (ring.slot ring.consumer).malformed
      · exact ⟨.invalid, by simp, by simp [malformed], by simp [ringPop, empty, committed, malformed]⟩
      · by_cases crc : (ring.slot ring.consumer).crc32 = frameCrc32 (ring.slot ring.consumer)
        · exact ⟨.ok, by simp, by simp [malformed, crc],
            by simp [ringPop, empty, committed, malformed, crc]⟩
        · exact ⟨.badCrc, by simp, by simp [crc],
            by simp [ringPop, empty, committed, malformed, crc]⟩
    · exact .inr (.inl ⟨empty, committed, by simp [ringPop, empty, committed]⟩)

/-- A frame that a pop hands out as good carries its own CRC. -/
theorem crc_of_ringPop_ok {ring : Ring} (ok : (ringPop ring).1 = .ok) :
    (ring.slot ring.consumer).crc32 = frameCrc32 (ring.slot ring.consumer) := by
  rcases ringPop_cases ring with ⟨-, empty⟩ | ⟨-, -, pending⟩ | ⟨-, -, _, -, okIff, popped⟩
  · rw [empty] at ok
    cases ok
  · rw [pending] at ok
    cases ok
  · rw [popped] at ok
    exact (okIff.mp ok).2

/-- A push keeps both indices inside the array. -/
theorem Ring.WellFormed.push {ring : Ring} (wellFormed : ring.WellFormed) (message : Message) :
    (ringPush ring message).2.WellFormed := by
  rcases ringPush_cases ring message with ⟨-, same⟩ | ⟨-, -, same⟩ | ⟨-, -, same⟩
  · rw [same]
    exact wellFormed
  · rw [same]
    exact wellFormed
  · rw [same]
    exact ⟨ringNext_lt _, wellFormed.consumer⟩

/-- A pop keeps both indices inside the array. -/
theorem Ring.WellFormed.pop {ring : Ring} (wellFormed : ring.WellFormed) :
    (ringPop ring).2.1.WellFormed := by
  rcases ringPop_cases ring with ⟨-, same⟩ | ⟨-, -, same⟩ | ⟨-, -, _, -, -, same⟩
  · rw [same]
    exact wellFormed
  · rw [same]
    exact wellFormed
  · rw [same]
    exact ⟨wellFormed.producer, ringNext_lt _⟩

/-- The producer's slot is not occupied. -/
theorem Ring.WellFormed.occupied_ne_producer {ring : Ring} (wellFormed : ring.WellFormed)
    {offset : Nat} (below : offset < ring.occupied) :
    BitVec.ofNat 32 ((ring.consumer.toNat + offset) % ringSlots) ≠ ring.producer := by
  intro clash
  have bound := wellFormed.occupied_lt
  have small : (ring.consumer.toNat + offset) % ringSlots < 2 ^ 32 :=
    Nat.lt_trans (Nat.mod_lt _ (by decide)) (by decide)
  have index : (ring.consumer.toNat + offset) % ringSlots = ring.producer.toNat := by
    rw [← clash, BitVec.toNat_ofNat, Nat.mod_eq_of_lt small]
  have same := Circular.index_injective (by omega) (by omega)
    (index.trans wellFormed.producer_eq.symm)
  omega

/-- Writing the producer's slot before it is published changes nothing that the ring holds. -/
theorem Ring.WellFormed.contents_stage {ring : Ring} (wellFormed : ring.WellFormed)
    (message : Message) :
    ({ ring with slot := Function.update ring.slot ring.producer message } : Ring).contents =
      ring.contents :=
  Circular.window_congr fun _ below =>
    Function.update_of_ne (wellFormed.occupied_ne_producer below) _ _

/-- Publishing a slot at the producer's index appends it to the FIFO list. -/
theorem Ring.WellFormed.contents_publish {ring : Ring} (wellFormed : ring.WellFormed)
    (space : ringNext ring.producer ≠ ring.consumer) (message : Message) :
    ({ ring with
        slot := Function.update ring.slot ring.producer message
        producer := ringNext ring.producer } : Ring).contents = ring.contents ++ [message] := by
  have bound := wellFormed.occupied_lt
  have notFull : ring.occupied ≠ ringSlots - 1 := fun full => space (wellFormed.full_iff.mpr full)
  have endpoint := wellFormed.producer_eq
  have room : ring.occupied + 1 < ringSlots := by omega
  have grown : Circular.distance ringSlots ring.consumer.toNat (ringNext ring.producer).toNat =
      ring.occupied + 1 := by
    refine Circular.distance_eq_of_add wellFormed.consumer (ringNext_lt _) room ?_
    rw [ringNext_toNat, ← endpoint]
    simp only [Nat.mod_add_mod, Nat.add_assoc]
  have written : BitVec.ofNat 32 ((ring.consumer.toNat + ring.occupied) % ringSlots) =
      ring.producer := by
    rw [endpoint]
    simp
  have kept : ∀ offset < ring.occupied,
      Function.update ring.slot ring.producer message
          (BitVec.ofNat 32 ((ring.consumer.toNat + offset) % ringSlots)) =
        ring.slot (BitVec.ofNat 32 ((ring.consumer.toNat + offset) % ringSlots)) :=
    fun offset below => Function.update_of_ne (wellFormed.occupied_ne_producer below) _ _
  have count : ({ ring with
      slot := Function.update ring.slot ring.producer message
      producer := ringNext ring.producer } : Ring).occupied = ring.occupied + 1 := grown
  unfold Ring.contents
  rw [count, Circular.window_append, written]
  exact congrArg₂ (· ++ ·) (Circular.window_congr kept)
    (congrArg (fun slot => [slot]) (Function.update_self ring.producer message ring.slot))

/-- Releasing the consumer's slot removes the head of the FIFO list. -/
theorem Ring.WellFormed.contents_release {ring : Ring} (wellFormed : ring.WellFormed)
    (nonempty : ring.consumer ≠ ring.producer) :
    ring.contents = ring.slot ring.consumer ::
      ({ ring with consumer := ringNext ring.consumer } : Ring).contents := by
  have positive : ring.occupied ≠ 0 :=
    fun none => nonempty (wellFormed.occupied_eq_zero_iff.mp none)
  obtain ⟨rest, count⟩ := Nat.exists_eq_succ_of_ne_zero positive
  have bound := wellFormed.occupied_lt
  have endpoint := wellFormed.producer_eq
  have shrunk : ({ ring with consumer := ringNext ring.consumer } : Ring).occupied = rest := by
    refine Circular.distance_eq_of_add (ringNext_lt _) wellFormed.producer (by omega) ?_
    change ((ringNext ring.consumer).toNat + rest) % ringSlots = ring.producer.toNat
    rw [ringNext_toNat, ← endpoint, count]
    simp only [Nat.mod_add_mod]
    rw [show ring.consumer.toNat + 1 + rest = ring.consumer.toNat + rest.succ by omega]
  have first : BitVec.ofNat 32 (ring.consumer.toNat % ringSlots) = ring.consumer := by
    rw [Nat.mod_eq_of_lt wellFormed.consumer]
    simp
  unfold Ring.contents
  rw [shrunk, count, Nat.succ_eq_add_one, Circular.window_cons, first]
  simp only [ringNext_toNat]

/-- Push, as an operation on the FIFO list: it refuses a malformed frame and a list of seven, and
otherwise appends the committed frame. -/
theorem ringPush_contents {ring : Ring} (wellFormed : ring.WellFormed) (message : Message) :
    (ringPush ring message).1 =
        (if message.malformed then .invalid
          else if ring.contents.length = ringSlots - 1 then .full else .ok) ∧
      (ringPush ring message).2.contents =
        (if (ringPush ring message).1 = .ok then ring.contents ++ [message.frame.committed]
          else ring.contents) := by
  rw [Ring.contents_length]
  rcases ringPush_cases ring message with
    ⟨malformed, same⟩ | ⟨valid, full, same⟩ | ⟨valid, space, same⟩
  · simp [same, malformed]
  · simp [same, valid, wellFormed.full_iff.mp full]
  · have room : ring.occupied ≠ ringSlots - 1 := fun seven => space (wellFormed.full_iff.mpr seven)
    rw [same]
    refine ⟨by rw [if_neg valid, if_neg room], ?_⟩
    simpa using wellFormed.contents_publish space message.frame.committed

/-- Pop on a non-empty FIFO list of committed slots returns the head and leaves the tail. -/
theorem ringPop_contents {ring : Ring} (wellFormed : ring.WellFormed) {head : Message}
    {rest : List Message} (listed : ring.contents = head :: rest)
    (committed : head.commit = head.sequence) :
    (ringPop ring).2.2 = some head ∧ (ringPop ring).2.1.contents = rest ∧
      ((ringPop ring).1 = .ok ↔ ¬ head.malformed ∧ head.crc32 = frameCrc32 head) := by
  have nonempty : ring.consumer ≠ ring.producer := by
    intro same
    rw [wellFormed.contents_eq_nil_iff.mpr same] at listed
    cases listed
  have split := wellFormed.contents_release nonempty
  rw [listed] at split
  obtain ⟨headEq, restEq⟩ := List.cons.inj split
  rcases ringPop_cases ring with ⟨empty, -⟩ | ⟨-, pending, -⟩ | ⟨-, -, result, -, okIff, same⟩
  · exact absurd empty nonempty
  · rw [← headEq] at pending
    exact absurd committed pending
  · rw [same]
    exact ⟨by rw [headEq], restEq.symm, by rw [headEq]; exact okIff⟩

/-- A slot appended to a ring. -/
def Ring.publish (ring : Ring) (slot : Message) : Ring :=
  { ring with
    slot := Function.update ring.slot ring.producer slot
    producer := ringNext ring.producer }

/-- An accepted push publishes the committed frame of its message. -/
theorem ringPush_ok {ring : Ring} {message : Message} (pushed : (ringPush ring message).1 = .ok) :
    ¬ message.malformed ∧ ringPush ring message = (.ok, ring.publish message.frame.committed) := by
  rcases ringPush_cases ring message with ⟨-, same⟩ | ⟨-, -, same⟩ | ⟨valid, -, same⟩
  · rw [same] at pushed
    cases pushed
  · rw [same] at pushed
    cases pushed
  · exact ⟨valid, same⟩

/-- Advancing an index moves it. -/
theorem ringNext_ne (value : U32) : ringNext value ≠ value := by
  intro same
  have next := congrArg BitVec.toNat same
  rw [ringNext_toNat] at next
  simp only [ringSlots] at next
  omega

/-- Pop never writes a slot. -/
theorem ringPop_slot (ring : Ring) : (ringPop ring).2.1.slot = ring.slot := by
  rcases ringPop_cases ring with ⟨-, same⟩ | ⟨-, -, same⟩ | ⟨-, -, _, -, -, same⟩ <;> rw [same]

/-- Pop never writes the producer index. -/
theorem ringPop_producer (ring : Ring) : (ringPop ring).2.1.producer = ring.producer := by
  rcases ringPop_cases ring with ⟨-, same⟩ | ⟨-, -, same⟩ | ⟨-, -, _, -, -, same⟩ <;> rw [same]

/-- On well-formed indices the count of the source is the number of occupied slots. -/
theorem Ring.WellFormed.ringCount_eq {ring : Ring} (wellFormed : ring.WellFormed) :
    ringCount ring = ring.occupied := by
  have producerBound := wellFormed.producer
  have consumerBound := wellFormed.consumer
  unfold ringCount Ring.occupied Circular.distance
  simp only [ringSlots] at *
  split
  · rename_i outside
    bv_omega
  · split
    · rename_i ordered
      congr 1
      bv_omega
    · rename_i wrapped
      congr 1
      bv_omega

/-- An accepted push occupies one more slot. -/
theorem Ring.WellFormed.occupied_push {ring : Ring} (wellFormed : ring.WellFormed)
    {message : Message} (pushed : (ringPush ring message).1 = .ok) :
    (ringPush ring message).2.occupied = ring.occupied + 1 := by
  have appended := congrArg List.length (ringPush_contents wellFormed message).2
  rw [if_pos pushed] at appended
  simpa using appended

/-- Releasing the consumer's slot frees one slot. -/
theorem Ring.WellFormed.occupied_release {ring : Ring} (wellFormed : ring.WellFormed)
    (nonempty : ring.consumer ≠ ring.producer) :
    ring.occupied = ({ ring with consumer := ringNext ring.consumer } : Ring).occupied + 1 := by
  have removed := congrArg List.length (wellFormed.contents_release nonempty)
  simpa using removed

/-- Publishing keeps both indices inside the array. -/
theorem Ring.WellFormed.publish {ring : Ring} (wellFormed : ring.WellFormed) (slot : Message) :
    (ring.publish slot).WellFormed := ⟨ringNext_lt _, wellFormed.consumer⟩

theorem Ring.WellFormed.mem_publish {ring : Ring} (wellFormed : ring.WellFormed)
    (space : ringNext ring.producer ≠ ring.consumer) {slot message : Message}
    (member : message ∈ (ring.publish slot).contents) : message ∈ ring.contents ∨
      message = slot := by
  have grown : (ring.publish slot).contents = ring.contents ++ [slot] :=
    wellFormed.contents_publish space slot
  rw [grown, List.mem_append, List.mem_singleton] at member
  exact member

/-- What a pop leaves in the ring was there before. -/
theorem Ring.WellFormed.mem_pop {ring : Ring} (wellFormed : ring.WellFormed) {message : Message}
    (member : message ∈ (ringPop ring).2.1.contents) : message ∈ ring.contents := by
  rcases ringPop_cases ring with ⟨-, same⟩ | ⟨-, -, same⟩ | ⟨nonempty, -, _, -, -, same⟩
  · rw [same] at member
    exact member
  · rw [same] at member
    exact member
  · rw [same] at member
    rw [wellFormed.contents_release nonempty]
    exact List.mem_cons_of_mem _ member

/-- What a pop copies out was the head of the ring. -/
theorem Ring.WellFormed.popped_mem {ring : Ring} (wellFormed : ring.WellFormed) {message : Message}
    (copied : (ringPop ring).2.2 = some message) : message ∈ ring.contents := by
  rcases ringPop_cases ring with ⟨-, same⟩ | ⟨-, -, same⟩ | ⟨nonempty, -, _, -, -, same⟩
  · rw [same] at copied
    cases copied
  · rw [same] at copied
    cases copied
  · rw [same] at copied
    cases copied
    rw [wellFormed.contents_release nonempty]
    exact List.mem_cons_self

/-! ### Rings of committed frames -/

/-- The ring holds exactly these frames, each completely written by a push: the refinement of the
ring to a FIFO list of frames. -/
structure Ring.Holds (ring : Ring) (frames : List Frame) : Prop where
  wellFormed : ring.WellFormed
  contents : ring.contents = frames.map Frame.committed
  valid : ∀ frame ∈ frames, ¬ frame.malformed

namespace Ring.Holds

variable {ring : Ring} {frames : List Frame}

theorem zero : Ring.zero.Holds [] := ⟨Ring.zero_wellFormed, rfl, by simp⟩

/-- A ring with equal indices inside the array is empty. -/
theorem of_indices (producer : ring.producer.toNat < ringSlots)
    (same : ring.consumer = ring.producer) : ring.Holds [] where
  wellFormed := ⟨producer, same ▸ producer⟩
  contents := by
    have wellFormed : ring.WellFormed := ⟨producer, same ▸ producer⟩
    rw [wellFormed.contents_eq_nil_iff.mpr same]
    rfl
  valid := by simp

theorem occupied (holds : ring.Holds frames) : ring.occupied = frames.length := by
  rw [← Ring.contents_length, holds.contents, List.length_map]

/-- Eight slots leave room for seven frames. -/
theorem length_le (holds : ring.Holds frames) : frames.length ≤ ringSlots - 1 := by
  have bound := holds.wellFormed.occupied_lt
  rw [holds.occupied] at bound
  omega

theorem full_iff (holds : ring.Holds frames) :
    ringNext ring.producer = ring.consumer ↔ frames.length = ringSlots - 1 := by
  rw [holds.wellFormed.full_iff, holds.occupied]

theorem empty_iff (holds : ring.Holds frames) :
    ring.consumer = ring.producer ↔ frames = [] := by
  rw [← holds.wellFormed.occupied_eq_zero_iff, holds.occupied, List.length_eq_zero_iff]

/-- A successful push appends the frame of the message. -/
theorem push (holds : ring.Holds frames) {message : Message}
    (pushed : (ringPush ring message).1 = .ok) :
    (ringPush ring message).2.Holds (frames ++ [message.frame]) where
  wellFormed := holds.wellFormed.push message
  contents := by
    rw [(ringPush_contents holds.wellFormed message).2, if_pos pushed, holds.contents]
    simp
  valid := by
    intro frame member
    rcases List.mem_append.mp member with old | new
    · exact holds.valid frame old
    · rw [List.mem_singleton.mp new]
      intro malformed
      have refused := (ringPush_contents holds.wellFormed message).1
      rw [pushed, if_pos malformed] at refused
      cases refused

/-- Publishing a complete frame appends it. -/
theorem publish (holds : ring.Holds frames) {frame : Frame}
    (space : ringNext ring.producer ≠ ring.consumer) (valid : ¬ frame.malformed) :
    (ring.publish frame.committed).Holds (frames ++ [frame]) where
  wellFormed := holds.wellFormed.publish frame.committed
  contents := by
    have grown : (ring.publish frame.committed).contents = ring.contents ++ [frame.committed] :=
      holds.wellFormed.contents_publish space frame.committed
    rw [grown, holds.contents, List.map_append]
    rfl
  valid := by
    intro other member
    rcases List.mem_append.mp member with old | new
    · exact holds.valid other old
    · rw [List.mem_singleton.mp new]
      exact valid

/-- Popping an empty ring. -/
theorem pop_nil (holds : ring.Holds []) : ringPop ring = (.empty, ring, none) := by
  have same := holds.empty_iff.mpr rfl
  simp [ringPop, same]

/-- Popping a non-empty ring returns the oldest frame and leaves the others. -/
theorem pop_cons {frame : Frame} {rest : List Frame} (holds : ring.Holds (frame :: rest)) :
    (ringPop ring).1 = .ok ∧ (ringPop ring).2.2 = some frame.committed ∧
      (ringPop ring).2.1.Holds rest := by
  have listed : ring.contents = frame.committed :: rest.map Frame.committed := by
    rw [holds.contents, List.map_cons]
  have valid : ¬ frame.malformed := holds.valid frame (by simp)
  obtain ⟨message, remaining, okIff⟩ := ringPop_contents holds.wellFormed listed rfl
  exact ⟨okIff.mpr ⟨valid, rfl⟩, message,
    ⟨holds.wellFormed.pop, remaining, fun other member => holds.valid other (by simp [member])⟩⟩

/-- Popping a non-empty ring moves the consumer's index. -/
theorem pop_consumer {frame : Frame} {rest : List Frame} (holds : ring.Holds (frame :: rest)) :
    (ringPop ring).2.1.consumer ≠ ring.consumer := by
  rcases ringPop_cases ring with ⟨empty, -⟩ | ⟨-, pending, -⟩ | ⟨-, -, _, -, -, same⟩
  · have nothing := holds.empty_iff.mp empty
    cases nothing
  · have nonempty : ring.consumer ≠ ring.producer := by
      intro empty
      have nothing := holds.empty_iff.mp empty
      cases nothing
    have listed := holds.wellFormed.contents_release nonempty
    rw [holds.contents, List.map_cons] at listed
    rw [← (List.cons.inj listed).1] at pending
    exact absurd rfl pending
  · rw [same]
    exact ringNext_ne _

end Ring.Holds

/-! ### Rings whose frames are known by their origin -/

/-- Each frame of the ring, oldest first, carries what its origin says. -/
structure Ring.Carries {Origin : Type*} (carried : Origin → Message → Prop) (origins : List Origin)
    (ring : Ring) : Prop where
  wellFormed : ring.WellFormed
  carried : List.Forall₂ carried origins ring.contents

namespace Ring.Carries

variable {Origin : Type*} {carried : Origin → Message → Prop} {origins : List Origin} {ring : Ring}

theorem zero (carried : Origin → Message → Prop) : Ring.zero.Carries carried [] :=
  ⟨Ring.zero_wellFormed, .nil⟩

theorem publish (carries : ring.Carries carried origins)
    (space : ringNext ring.producer ≠ ring.consumer) {origin : Origin} {slot : Message}
    (new : carried origin slot) : (ring.publish slot).Carries carried (origins ++ [origin]) where
  wellFormed := carries.wellFormed.publish slot
  carried := by
    have grown : (ring.publish slot).contents = ring.contents ++ [slot] :=
      carries.wellFormed.contents_publish space slot
    rw [grown]
    exact List.rel_append carries.carried (.cons new .nil)

/-- Writing the producer's slot before it is published. -/
theorem stage (carries : ring.Carries carried origins) (slot : Message) :
    Ring.Carries carried origins
      { ring with slot := Function.update ring.slot ring.producer slot } where
  wellFormed := ⟨carries.wellFormed.producer, carries.wellFormed.consumer⟩
  carried := by
    rw [carries.wellFormed.contents_stage]
    exact carries.carried

theorem release (carries : ring.Carries carried origins)
    (nonempty : ring.consumer ≠ ring.producer) :
    Ring.Carries carried origins.tail { ring with consumer := ringNext ring.consumer } where
  wellFormed := ⟨carries.wellFormed.producer, ringNext_lt _⟩
  carried := by
    have split := carries.carried
    rw [carries.wellFormed.contents_release nonempty] at split
    cases split with
    | cons first rest => exact rest

/-- A pop takes the oldest frame, or nothing. -/
theorem pop (carries : ring.Carries carried origins) :
    (ringPop ring).2.1.Carries carried
      (if (ringPop ring).2.1.consumer = ring.consumer then origins else origins.tail) := by
  rcases ringPop_cases ring with ⟨-, same⟩ | ⟨-, -, same⟩ | ⟨nonempty, -, _, -, -, same⟩
  · rw [same, if_pos rfl]
    exact carries
  · rw [same, if_pos rfl]
    exact carries
  · rw [same, if_neg (ringNext_ne _)]
    exact carries.release nonempty

/-- The origin of the frame that the consumer reads next. -/
theorem head (carries : ring.Carries carried origins) {origin : Origin}
    (first : origins.head? = some origin) :
    ring.consumer ≠ ring.producer ∧ carried origin (ring.slot ring.consumer) := by
  obtain ⟨rest, rfl⟩ := List.head?_eq_some_iff.mp first
  have listed := carries.carried
  have nonempty : ring.consumer ≠ ring.producer := by
    intro empty
    rw [carries.wellFormed.contents_eq_nil_iff.mpr empty] at listed
    cases listed
  refine ⟨nonempty, ?_⟩
  rw [carries.wellFormed.contents_release nonempty] at listed
  cases listed with
  | cons first rest => exact first

/-- A ring that holds a frame has an oldest one. -/
theorem exists_head (carries : ring.Carries carried origins)
    (nonempty : ring.consumer ≠ ring.producer) : ∃ origin, origins.head? = some origin := by
  have listed := carries.carried
  rw [carries.wellFormed.contents_release nonempty] at listed
  cases listed with
  | cons first rest => exact ⟨_, rfl⟩

end Ring.Carries

end MailMsg
