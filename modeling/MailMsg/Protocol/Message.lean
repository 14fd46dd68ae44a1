/-
Module: MailMsg.Protocol.Message
Purpose: The frame of the shared-memory protocol: its constants, result codes, fields, CRC-32 and
  the little-endian words of its payload.
Source: LZAMP/protocol/mailmsg/mailmsg.h
Trusted boundary: human-reviewed embedding of the source
Main exports: Message, Frame, frameCrc32, RingResult, MessageType, nextNonzero, payloadU32,
  storePayloadU32
-/
import Mathlib.Algebra.Group.Nat.Defs
import Mathlib.Data.Fin.VecNotation
import Mathlib.Data.Fintype.Basic
import Mathlib.Logic.Function.Iterate

namespace MailMsg

/-- `mailmsg_u32`. -/
abbrev U32 := BitVec 32

/-- `mailmsg_u8`. -/
abbrev U8 := BitVec 8

/-! ### Constants of the wire format -/

/-- `MAILMSG_PROTOCOL_MAGIC`, "MMSG". -/
def protocolMagic : U32 := 0x4d4d5347

/-- `MAILMSG_PROTOCOL_VERSION`. -/
def protocolVersion : U32 := 6

/-- `MAILMSG_PRIORITY_COUNT`. -/
abbrev priorityCount : Nat := 4

/-- `MAILMSG_RING_SLOTS`. -/
abbrev ringSlots : Nat := 8

/-- `MAILMSG_PAYLOAD_BYTES`. -/
abbrev payloadBytes : Nat := 28

/-- `MAILMSG_FEEDBACK_BYTES`: ACK, NACK and STOP replies carry the peer sequence at offset 0 and a
status or reason at offset 4. -/
abbrev feedbackBytes : Nat := 8

/-- `MAILMSG_SESSION_BYTES`: SESSION_READY carries the generation at offset 0 and the protocol
version at offset 4. -/
abbrev sessionBytes : Nat := 8

/-- One of the four priorities, each with its own pair of rings and its own doorbell channel.  The
`priority >= MAILMSG_PRIORITY_COUNT` refusals of the source are what this type excludes. -/
abbrev Priority := Fin priorityCount

instance : @NeZero Nat Zero.ofOfNat0 priorityCount := ⟨by decide⟩

/-- `MAILMSG_PRIO_CRITICAL`. -/
abbrev Priority.critical : Priority := 0

/-- `MAILMSG_PRIO_CONTROL`. -/
abbrev Priority.control : Priority := 1

/-- `mailmsg_priority_is_reliable`: reliability is fixed per priority by
`MAILMSG_RELIABLE_PRIORITY_MASK = 0x3`. -/
def priorityIsReliable (priority : Priority) : Bool :=
  (0x3#32 >>> priority.val).getLsbD 0

/-! `enum mailmsg_message_type`.  A frame's type field is an arbitrary word, so these stay words. -/

namespace MessageType

def nop : U32 := 0
def ping : U32 := 1
def pong : U32 := 2
def ack : U32 := 3
def nack : U32 := 4
def stopRequest : U32 := 5
def stopReady : U32 := 6
def stopRefused : U32 := 7
def sessionReady : U32 := 8

end MessageType

/-- `enum mailmsg_nack_reason` and `enum mailmsg_stop_refused_reason`. -/
def nackBadCrc : U32 := 1
def nackInvalidFrame : U32 := 2
def stopRefusedInvalidRequest : U32 := 1
def stopRefusedBusy : U32 := 2

/-- `enum mailmsg_ring_result`. -/
inductive RingResult where
  | ok
  | empty
  | full
  | incomplete
  | badCrc
  | invalid
deriving DecidableEq, Repr

/-- The integer each ring result is in C. -/
def RingResult.code : RingResult → Int
  | .ok => 0
  | .empty => -1
  | .full => -2
  | .incomplete => -3
  | .badCrc => -4
  | .invalid => -5

/-! ### Frames -/

/-- `struct mailmsg_message`: one slot of a ring. -/
@[ext]
structure Message where
  generation : U32
  type : U32
  sequence : U32
  length : U32
  payload : Fin payloadBytes → U8
  crc32 : U32
  commit : U32

/-- Slots are compared scalar by scalar, so that the comparison evaluates on payloads that are given
by different expressions. -/
instance : DecidableEq Message := fun left right =>
  decidable_of_iff
    (left.generation = right.generation ∧ left.type = right.type ∧
      left.sequence = right.sequence ∧ left.length = right.length ∧
      (∀ index, left.payload index = right.payload index) ∧ left.crc32 = right.crc32 ∧
      left.commit = right.commit)
    (by rw [Message.ext_iff, funext_iff])

/-- A frame of zero bytes, as `{ 0 }` and `memset` leave it. -/
def Message.zero : Message where
  generation := 0
  type := 0
  sequence := 0
  length := 0
  payload := fun _ => 0
  crc32 := 0
  commit := 0

/-- The business fields of a frame: everything the CRC covers. -/
@[ext]
structure Frame where
  generation : U32
  type : U32
  sequence : U32
  length : U32
  payload : Fin payloadBytes → U8

instance : DecidableEq Frame := fun left right =>
  decidable_of_iff
    (left.generation = right.generation ∧ left.type = right.type ∧
      left.sequence = right.sequence ∧ left.length = right.length ∧
      ∀ index, left.payload index = right.payload index)
    (by rw [Frame.ext_iff, funext_iff])

/-- The business fields of a slot. -/
def Message.frame (message : Message) : Frame where
  generation := message.generation
  type := message.type
  sequence := message.sequence
  length := message.length
  payload := message.payload

/-- The four bytes of a word in memory order; both CPUs are little-endian. -/
def littleEndian (word : U32) : List U8 :=
  [word.setWidth 8, (word >>> 8).setWidth 8, (word >>> 16).setWidth 8, (word >>> 24).setWidth 8]

/-- The bytes from `generation` to the end of `payload`, in memory order. -/
def Frame.bytes (frame : Frame) : List U8 :=
  littleEndian frame.generation ++ littleEndian frame.type ++ littleEndian frame.sequence ++
    littleEndian frame.length ++ List.ofFn frame.payload

/-- One bit of the reflected CRC-32 loop. -/
def crcBit (crc : U32) : U32 := (crc >>> 1) ^^^ (0xedb88320#32 &&& -(crc &&& 1#32))

/-- One byte of the CRC-32 loop: xor the byte in, then eight bit steps. -/
def crcByte (crc : U32) (byte : U8) : U32 := crcBit^[8] (crc ^^^ byte.setWidth 32)

/-- `mailmsg_frame_crc32`, on the fields that it reads. -/
def Frame.crc (frame : Frame) : U32 := ~~~(frame.bytes.foldl crcByte 0xffffffff#32)

/-- `mailmsg_frame_crc32`. -/
def frameCrc32 (message : Message) : U32 := message.frame.crc

/-- The refusal shared by push and pop: no generation, no sequence, or a length past the payload. -/
def Frame.malformed (frame : Frame) : Bool :=
  frame.generation == 0#32 || frame.sequence == 0#32 || decide (payloadBytes < frame.length.toNat)

/-- The checks that push makes before it touches the ring, and that pop repeats on what it
copied. -/
abbrev Message.malformed (message : Message) : Bool := message.frame.malformed

/-- A slot that push has completely written for `frame`: the CRC matches and the commit word carries
the sequence. -/
def Frame.committed (frame : Frame) : Message where
  generation := frame.generation
  type := frame.type
  sequence := frame.sequence
  length := frame.length
  payload := frame.payload
  crc32 := frame.crc
  commit := frame.sequence

@[simp] theorem Frame.committed_frame (frame : Frame) : frame.committed.frame = frame := rfl

@[simp] theorem Frame.committed_crc32 (frame : Frame) :
    frame.committed.crc32 = frameCrc32 frame.committed := rfl

@[simp] theorem Frame.committed_commit (frame : Frame) :
    frame.committed.commit = frame.committed.sequence := rfl

/-! ### Counters that skip zero -/

/-- `x++; if (!x) x++;`: how sequence numbers and session generations advance. -/
def nextNonzero (value : U32) : U32 :=
  if value + 1#32 = 0#32 then value + 2#32 else value + 1#32

theorem nextNonzero_ne_zero (value : U32) : nextNonzero value ≠ 0#32 := by
  unfold nextNonzero
  split
  · rename_i wrapped
    have last : value = 0xffffffff#32 := by bv_omega
    rw [last]
    decide
  · assumption

/-- Advancing moves the counter. -/
theorem nextNonzero_ne_self (value : U32) : nextNonzero value ≠ value := by
  unfold nextNonzero
  split <;> bv_omega

/-- Before the first wrap the counter is the number of advances. -/
theorem nextNonzero_iterate {count : Nat} (small : count < 2 ^ 32) :
    nextNonzero^[count] 0#32 = BitVec.ofNat 32 count := by
  induction count with
  | zero => rfl
  | succ count inductionHypothesis =>
      rw [Function.iterate_succ_apply', inductionHypothesis (by omega), nextNonzero, if_neg]
      · exact (BitVec.ofNat_add count 1).symm
      · intro wrapped
        have value := congrArg BitVec.toNat wrapped
        simp only [BitVec.toNat_add, BitVec.toNat_ofNat] at value
        omega

/-! ### Payload words -/

/-- `mailmsg_payload_u32` at a byte offset: `payload[0] | payload[1] << 8 | ...`. -/
def payloadU32 (payload : Nat → U8) (offset : Nat) : U32 :=
  (payload offset).setWidth 32 ||| ((payload (offset + 1)).setWidth 32 <<< 8) |||
    ((payload (offset + 2)).setWidth 32 <<< 16) ||| ((payload (offset + 3)).setWidth 32 <<< 24)

/-- `mailmsg_store_payload_u32` at a byte offset of a byte buffer. -/
def storePayloadU32 (payload : Nat → U8) (offset : Nat) (value : U32) : Nat → U8 := fun index =>
  if index = offset then value.setWidth 8
  else if index = offset + 1 then (value >>> 8).setWidth 8
  else if index = offset + 2 then (value >>> 16).setWidth 8
  else if index = offset + 3 then (value >>> 24).setWidth 8
  else payload index

/-- A frame's payload as a byte buffer; reads past the array are not made by the source. -/
def Message.payloadAt (message : Message) (index : Nat) : U8 :=
  if inside : index < payloadBytes then message.payload ⟨index, inside⟩ else 0

/-- Reassembling the four bytes of a word gives the word. -/
theorem word_of_bytes (value : U32) :
    (value.setWidth 8).setWidth 32 ||| (((value >>> 8).setWidth 8).setWidth 32 <<< 8) |||
      (((value >>> 16).setWidth 8).setWidth 32 <<< 16) |||
      (((value >>> 24).setWidth 8).setWidth 32 <<< 24) = value := by
  apply BitVec.eq_of_getLsbD_eq
  intro i bound
  simp only [BitVec.getLsbD_or, BitVec.getLsbD_setWidth, BitVec.getLsbD_shiftLeft,
    BitVec.getLsbD_ushiftRight]
  rcases Nat.lt_or_ge i 8 with low | high8
  · simp [low, bound, show i < 16 by omega, show i < 24 by omega]
  · rcases Nat.lt_or_ge i 16 with mid | high16
    · simp [bound, mid, show ¬ i < 8 by omega, show i - 8 < 8 by omega, show i < 24 by omega,
        show i - 8 < 32 by omega, show 8 + (i - 8) = i by omega]
    · rcases Nat.lt_or_ge i 24 with upper | high24
      · simp [bound, upper, show ¬ i < 8 by omega, show ¬ i < 16 by omega,
          show ¬ i - 8 < 8 by omega, show i - 16 < 8 by omega, show i - 16 < 32 by omega,
          show 16 + (i - 16) = i by omega]
      · simp [bound, show ¬ i < 8 by omega, show ¬ i < 16 by omega, show ¬ i < 24 by omega,
          show ¬ i - 8 < 8 by omega, show ¬ i - 16 < 8 by omega, show i - 24 < 8 by omega,
          show i - 24 < 32 by omega, show 24 + (i - 24) = i by omega]

/-- A word stored in a payload is read back from the same offset. -/
theorem payloadU32_store (payload : Nat → U8) (offset : Nat) (value : U32) :
    payloadU32 (storePayloadU32 payload offset value) offset = value := by
  have bytes := word_of_bytes value
  simpa [payloadU32, storePayloadU32] using bytes

/-- A word depends on its four bytes only. -/
theorem payloadU32_congr {left right : Nat → U8} {offset : Nat}
    (same : ∀ k < 4, left (offset + k) = right (offset + k)) :
    payloadU32 left offset = payloadU32 right offset := by
  have first := same 0 (by omega)
  rw [Nat.add_zero] at first
  simp only [payloadU32, first, same 1 (by omega), same 2 (by omega), same 3 (by omega)]

/-- Storing a word leaves the words that do not overlap it. -/
theorem payloadU32_store_of_disjoint (payload : Nat → U8) {offset other : Nat} (value : U32)
    (disjoint : other + 4 ≤ offset ∨ offset + 4 ≤ other) :
    payloadU32 (storePayloadU32 payload offset value) other = payloadU32 payload other := by
  apply payloadU32_congr
  intro k bound
  simp [storePayloadU32, show other + k ≠ offset by omega, show other + k ≠ offset + 1 by omega,
    show other + k ≠ offset + 2 by omega, show other + k ≠ offset + 3 by omega]

end MailMsg
