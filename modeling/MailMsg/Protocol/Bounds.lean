/-
Module: MailMsg.Protocol.Bounds
Purpose: Which cells of the slot array push and pop subscript, over the whole 32-bit range of the
  indices that they read from shared memory.
Source: LZAMP/protocol/mailmsg/mailmsg.c
Trusted boundary: human-reviewed embedding of the source
Main exports: ringPushSubscripts, ringPopSubscripts, PushInBounds, PopInBounds,
  ring_subscripts_inBounds
-/
import MailMsg.Protocol.Ring

namespace MailMsg

/-! ### Subscripts -/

/-- The subscripts of `ring->slot` that `mailmsg_ring_push` evaluates. -/
def ringPushSubscripts (ring : Ring) (message : Message) : List U32 :=
  if message.malformed then []
  else if ringNext ring.producer = ring.consumer then []
  else [ring.producer]

/-- The subscripts of `ring->slot` that `mailmsg_ring_pop` evaluates. -/
def ringPopSubscripts (ring : Ring) : List U32 :=
  if ring.consumer = ring.producer then [] else [ring.consumer]

/-- A push writes no cell but those it subscripts. -/
theorem ringPush_slot_of_notMem {ring : Ring} {message : Message} {index : U32}
    (untouched : index ∉ ringPushSubscripts ring message) :
    (ringPush ring message).2.slot index = ring.slot index := by
  rcases ringPush_cases ring message with ⟨-, same⟩ | ⟨-, -, same⟩ | ⟨valid, space, same⟩
  · rw [same]
  · rw [same]
  · have other : index ≠ ring.producer := by
      simpa [ringPushSubscripts, valid, space] using untouched
    rw [same]
    exact Function.update_of_ne other _ _

/-- A pop reads no cell but those it subscripts: two rings with the same indices that agree there
are popped alike. -/
theorem ringPop_congr {ring other : Ring} (sameProducer : other.producer = ring.producer)
    (sameConsumer : other.consumer = ring.consumer)
    (agree : ∀ index ∈ ringPopSubscripts ring, other.slot index = ring.slot index) :
    (ringPop other).1 = (ringPop ring).1 ∧ (ringPop other).2.2 = (ringPop ring).2.2 ∧
      (ringPop other).2.1.consumer = (ringPop ring).2.1.consumer := by
  by_cases empty : ring.consumer = ring.producer
  · simp [ringPop, empty, sameProducer, sameConsumer]
  · have cell : other.slot ring.consumer = ring.slot ring.consumer := by
      apply agree
      simp [ringPopSubscripts, empty]
    simp only [ringPop, sameProducer, sameConsumer, cell, if_neg empty]
    split
    · exact ⟨rfl, rfl, sameConsumer⟩
    · split
      · exact ⟨rfl, rfl, rfl⟩
      · split <;> exact ⟨rfl, rfl, rfl⟩

/-! ### Staying inside the array -/

/-- A push stays inside the array and refuses an index that would lead out of it, as
`mailmsg_ring_count` does. -/
structure PushInBounds (ring : Ring) (message : Message) : Prop where
  inside : ∀ index ∈ ringPushSubscripts ring message, index.toNat < ringSlots
  refused : ringSlots ≤ ring.producer.toNat → ringPush ring message = (.invalid, ring)

/-- The same for a pop, whose index is the consumer's. -/
structure PopInBounds (ring : Ring) : Prop where
  inside : ∀ index ∈ ringPopSubscripts ring, index.toNat < ringSlots
  refused : ringSlots ≤ ring.consumer.toNat →
    (ringPop ring).1 = .invalid ∧ (ringPop ring).2.1 = ring

/-- Count refuses exactly the rings with an index outside the array. -/
theorem ringCount_invalid_iff (ring : Ring) :
    ringCount ring = RingResult.invalid.code ↔
      ringSlots ≤ ring.producer.toNat ∨ ringSlots ≤ ring.consumer.toNat := by
  have bounds : (8 ≤ ring.producer ∨ 8 ≤ ring.consumer) ↔
      ringSlots ≤ ring.producer.toNat ∨ ringSlots ≤ ring.consumer.toNat := Iff.rfl
  rw [← bounds]
  unfold ringCount
  split
  · rename_i outside
    exact iff_of_true rfl outside
  · rename_i inside
    simp only [inside, iff_false, RingResult.code]
    split <;> omega

/-- A push never looks at the range of its index: it refuses a bad one only when it refuses the
message anyway. -/
theorem pushInBounds_iff (ring : Ring) (message : Message) :
    PushInBounds ring message ↔ ring.producer.toNat < ringSlots ∨ message.malformed := by
  constructor
  · intro safe
    by_contra neither
    obtain ⟨outside, valid⟩ := not_or.mp neither
    have refused := safe.refused (Nat.le_of_not_lt outside)
    rcases ringPush_cases ring message with ⟨malformed, -⟩ | ⟨-, -, same⟩ | ⟨-, -, same⟩
    · exact valid malformed
    · rw [same] at refused
      cases (Prod.mk.inj refused).1
    · rw [same] at refused
      cases (Prod.mk.inj refused).1
  · intro condition
    constructor
    · intro index member
      unfold ringPushSubscripts at member
      split at member
      · cases member
      · rename_i valid
        split at member
        · cases member
        · rw [List.mem_singleton.mp member]
          exact condition.resolve_right valid
    · intro outside
      have malformed := condition.resolve_left (Nat.not_lt.mpr outside)
      simp [ringPush, malformed]

/-- A pop with a bad index answers EMPTY or INCOMPLETE, or releases the slot; it never refuses. -/
theorem popInBounds_iff (ring : Ring) : PopInBounds ring ↔ ring.consumer.toNat < ringSlots := by
  constructor
  · intro safe
    by_contra outside
    obtain ⟨invalid, unchanged⟩ := safe.refused (Nat.le_of_not_lt outside)
    rcases ringPop_cases ring with ⟨-, same⟩ | ⟨-, -, same⟩ | ⟨-, -, _, -, -, same⟩
    · rw [same] at invalid
      cases invalid
    · rw [same] at invalid
      cases invalid
    · rw [same] at unchanged
      exact ringNext_ne _ (congrArg Ring.consumer unchanged)
  · intro inside
    constructor
    · intro index member
      unfold ringPopSubscripts at member
      split at member
      · cases member
      · rw [List.mem_singleton.mp member]
        exact inside
    · intro outside
      exact absurd inside (Nat.not_lt.mpr outside)

/-- The index values for which push and pop are safe, for every ring and every message, next to
those that count accepts. -/
theorem ring_subscripts_inBounds (ring : Ring) (message : Message) :
    (PushInBounds ring message ↔ ring.producer.toNat < ringSlots ∨ message.malformed) ∧
      (PopInBounds ring ↔ ring.consumer.toNat < ringSlots) ∧
      (ringCount ring = RingResult.invalid.code ↔
        ringSlots ≤ ring.producer.toNat ∨ ringSlots ≤ ring.consumer.toNat) :=
  ⟨pushInBounds_iff ring message, popInBounds_iff ring, ringCount_invalid_iff ring⟩

/-- An empty ring whose indices were both overwritten with `MAILMSG_RING_SLOTS`. -/
def overwrittenRing : Ring := { Ring.zero with producer := 8, consumer := 8 }

/-- A NOP without payload. -/
def plainFrame : Frame where
  generation := 1
  type := MessageType.nop
  sequence := 1
  length := 0
  payload := fun _ => 0

/-- Count refuses the overwritten ring, while push writes the cell after the array and reports
success, and pop on the result would read that cell. -/
theorem overwritten_ring_subscripts :
    ringCount overwrittenRing = RingResult.invalid.code ∧
      (ringPush overwrittenRing plainFrame.committed).1 = .ok ∧
      8#32 ∈ ringPushSubscripts overwrittenRing plainFrame.committed ∧
      8#32 ∈ ringPopSubscripts (ringPush overwrittenRing plainFrame.committed).2 ∧
      ¬ (PushInBounds overwrittenRing plainFrame.committed ∧ PopInBounds overwrittenRing) := by
  refine ⟨by decide, by decide, by decide, by decide, ?_⟩
  intro safe
  have inside := safe.2
  rw [popInBounds_iff] at inside
  exact absurd inside (by decide)

end MailMsg
