/-
Module: MailMsg.Protocol.Crc
Purpose: The CRC loop of the protocol is CRC-32/ISO-HDLC, and the code word of a slot, CRC included,
  rejects every burst.
Source: LZAMP/protocol/mailmsg/mailmsg.h
Trusted boundary: none
Main exports: isoHdlcGenerator, Frame.isoHdlc, frameCrc32_isoHdlc, Damage, Message.damaged,
  damaged_crc_ne
-/
import MailMsg.Lib.Crc
import MailMsg.Protocol.Message

namespace MailMsg

open Polynomial

/-! ### The loop of the source is the reflected register -/

/-- `crc & 1U` negated is the mask of all ones or of none. -/
theorem crcBit_eq (crc : U32) : crcBit crc = Crc.step 0xedb88320#32 crc := by
  have mask : -(crc &&& 1#32) = if crc.getLsbD 0 then BitVec.allOnes 32 else 0#32 := by
    rw [BitVec.and_one_eq_setWidth_ofBool_getLsbD]
    cases crc.getLsbD 0 with
    | false => rfl
    | true => rfl
  rw [crcBit, Crc.step, mask]
  cases crc.getLsbD 0 with
  | false => simp
  | true => rfl

/-- The loop over eight bits is the reflected register over one byte. -/
theorem crcByte_eq : crcByte = Crc.byteStep 0xedb88320#32 := by
  funext crc byte
  have bits : crcBit = Crc.step 0xedb88320#32 := funext crcBit_eq
  rw [crcByte, bits, Crc.byteStep]

/-- The generator polynomial of CRC-32/ISO-HDLC. -/
noncomputable def isoHdlcGenerator : (ZMod 2)[X] :=
  X ^ 32 + X ^ 26 + X ^ 23 + X ^ 22 + X ^ 16 + X ^ 12 + X ^ 11 + X ^ 10 + X ^ 8 + X ^ 7 + X ^ 5 +
    X ^ 4 + X ^ 2 + X + 1

/-- `0xedb88320` is the generator without its leading power, in reflected order. -/
theorem generator_eq : Crc.generator 0xedb88320#32 = isoHdlcGenerator := by
  have bits : Crc.lsbFirst 0xedb88320#32 =
      [false, false, false, false, false, true, false, false, true, true, false,
        false, false, false, false, true, false, false, false, true, true, true, false, true, true,
        false, true, true, false, true, true, true] := by
    decide
  rw [Crc.generator, Crc.wordPoly, bits, isoHdlcGenerator]
  simp only [Crc.bitsPoly, List.length_cons, List.length_nil, Bool.false_eq_true, if_false, if_true]
  ring

/-- The generator has a constant term, as bit 31 of the taps is set. -/
theorem generator_constant : (Crc.generator 0xedb88320#32).coeff 0 ≠ 0 := by
  rw [generator_eq, isoHdlcGenerator]
  simp [coeff_X_pow, coeff_one]

/-! ### The serialised frame -/

@[simp] theorem littleEndian_length (word : U32) : (littleEndian word).length = 4 := rfl

/-- Eleven words. -/
theorem Frame.bytes_length (frame : Frame) : frame.bytes.length = 44 := by
  simp [Frame.bytes]

/-- A word in memory, bit by bit, is the word from its least significant bit on. -/
theorem byteBits_littleEndian (word : U32) :
    Crc.byteBits (littleEndian word) = Crc.lsbFirst word := by
  simp [Crc.byteBits, littleEndian, Crc.lsbFirst, List.ofFn_succ]

/-- Bits in the order of the bytes. -/
theorem byteBits_append (left right : List U8) :
    Crc.byteBits (left ++ right) = Crc.byteBits left ++ Crc.byteBits right :=
  List.flatMap_append

/-- The 352 bits that the CRC covers, in the order in which they are read. -/
def Frame.bits (frame : Frame) : List Bool := Crc.byteBits frame.bytes

theorem Frame.bits_length (frame : Frame) : frame.bits.length = 352 := by
  rw [Frame.bits, Crc.length_byteBits, frame.bytes_length]

/-- The reference definition of the frame's CRC: the 352 bits of the frame are a polynomial, the
all-ones register stands in front of it, and the result is the complement of the remainder in
reflected order. -/
noncomputable def Frame.isoHdlc (frame : Frame) : U32 :=
  ~~~(Crc.reflected 32
    ((Crc.bitsPoly frame.bits * X ^ 32 + (∑ power ∈ Finset.range 32, X ^ power) * X ^ 352) %ₘ
      isoHdlcGenerator))

/-- The word of the initial value and of the final complement. -/
theorem wordPoly_allOnes :
    Crc.wordPoly 0xffffffff#32 = ∑ power ∈ Finset.range 32, (X : (ZMod 2)[X]) ^ power := by
  have bits : Crc.lsbFirst 0xffffffff#32 = List.replicate 32 true := by decide
  rw [Crc.wordPoly, bits, Crc.bitsPoly_replicate_true]

/-- The register after the loop, before the final complement. -/
theorem mk_crc (frame : Frame) :
    AdjoinRoot.mk (Crc.generator 0xedb88320#32) (Crc.wordPoly (~~~frame.crc)) =
      AdjoinRoot.mk (Crc.generator 0xedb88320#32)
        (Crc.bitsPoly frame.bits * X ^ 32 + Crc.wordPoly 0xffffffff#32 * X ^ frame.bits.length) := by
  rw [Frame.crc, BitVec.not_not, crcByte_eq, Crc.mk_fold_byteStep _ (by decide), Frame.bits,
    Crc.length_byteBits]

/-- The loop computes the reference. -/
theorem Frame.crc_eq_isoHdlc (frame : Frame) : frame.crc = frame.isoHdlc := by
  have register := Crc.reflected_remainder (mk_crc frame)
  rw [generator_eq, wordPoly_allOnes, frame.bits_length] at register
  rw [Frame.isoHdlc, ← register, BitVec.not_not]

/-! ### The CRC is affine -/

/-- Exclusive or of two frames, field by field. -/
def Frame.xor (left right : Frame) : Frame where
  generation := left.generation ^^^ right.generation
  type := left.type ^^^ right.type
  sequence := left.sequence ^^^ right.sequence
  length := left.length ^^^ right.length
  payload := fun index => left.payload index ^^^ right.payload index

/-- Exclusive or acts byte by byte. -/
theorem littleEndian_xor (left right : U32) :
    littleEndian (left ^^^ right) =
      List.zipWith (· ^^^ ·) (littleEndian left) (littleEndian right) := by
  simp [littleEndian, BitVec.ushiftRight_xor_distrib]

/-- On whole frames. -/
theorem Frame.bytes_xor (left right : Frame) :
    (left.xor right).bytes = List.zipWith (· ^^^ ·) left.bytes right.bytes := by
  have payloads : List.ofFn (left.xor right).payload =
      List.zipWith (· ^^^ ·) (List.ofFn left.payload) (List.ofFn right.payload) := by
    apply List.ext_getElem
    · simp
    · intro index _ _
      simp [Frame.xor]
  unfold Frame.bytes
  rw [List.zipWith_append (by simp), List.zipWith_append (by simp), List.zipWith_append (by simp),
    List.zipWith_append (by simp), payloads]
  simp only [Frame.xor, littleEndian_xor]

/-- Exclusive or of frames is addition of their polynomials. -/
theorem Frame.bitsPoly_xor (left right : Frame) :
    Crc.bitsPoly (left.xor right).bits = Crc.bitsPoly left.bits + Crc.bitsPoly right.bits := by
  have lengths : left.bytes.length = right.bytes.length := by rw [bytes_length, bytes_length]
  unfold Frame.bits
  rw [Frame.bytes_xor, Crc.byteBits_zipWith_xor lengths, Crc.bitsPoly_zipWith_xor]
  rw [Crc.length_byteBits, Crc.length_byteBits, lengths]

/-- Three frames added are the CRCs added: the constant part of an affine map survives an odd
sum. -/
theorem Frame.crc_xor (first second third : Frame) :
    ((first.xor second).xor third).crc = first.crc ^^^ second.crc ^^^ third.crc := by
  have registers : ~~~((first.xor second).xor third).crc =
      ~~~first.crc ^^^ ~~~second.crc ^^^ ~~~third.crc := by
    apply Crc.eq_of_mk_eq
    have lengths : ((first.xor second).xor third).bits.length = first.bits.length ∧
        second.bits.length = first.bits.length ∧ third.bits.length = first.bits.length := by
      simp only [Frame.bits_length, and_self]
    rw [mk_crc, Crc.wordPoly_xor, Crc.wordPoly_xor, map_add _ (_ + _), map_add _ (Crc.wordPoly _),
      mk_crc, mk_crc, mk_crc, ← map_add, ← map_add, Frame.bitsPoly_xor, Frame.bitsPoly_xor,
      lengths.1, lengths.2.1, lengths.2.2]
    generalize Crc.wordPoly 0xffffffff#32 * X ^ first.bits.length = preset
    refine congrArg _ ?_
    linear_combination -Crc.add_self preset
  have complement := congrArg (fun word => ~~~word) registers
  simp only [BitVec.not_not] at complement
  rw [complement]
  apply BitVec.eq_of_getLsbD_eq
  intro index inside
  simp [inside]

/-- `mailmsg_frame_crc32` computes CRC-32/ISO-HDLC of the serialised frame, is affine in the frame's
bits and reads neither `crc32` nor `commit`. -/
theorem frameCrc32_isoHdlc :
    (∀ message : Message, frameCrc32 message = message.frame.isoHdlc) ∧
      (∀ first second third : Frame,
        ((first.xor second).xor third).crc = first.crc ^^^ second.crc ^^^ third.crc) ∧
      ∀ (message : Message) (crc32 commit : U32),
        frameCrc32 { message with crc32 := crc32, commit := commit } = frameCrc32 message := by
  refine ⟨fun message => message.frame.crc_eq_isoHdlc, Frame.crc_xor, ?_⟩
  intro message crc32 commit
  rfl

/-! ### The code word of a slot -/

/-- The 48 bytes from `generation` to `crc32`, bit by bit: bytes in memory order, least significant
bit first. -/
def Message.codeBits (message : Message) : List Bool :=
  Crc.byteBits (message.frame.bytes ++ littleEndian message.crc32)

/-- The bits that are turned over in the 48 bytes, in the layout of a slot. -/
structure Damage where
  generation : U32
  type : U32
  sequence : U32
  length : U32
  payload : Fin payloadBytes → U8
  crc32 : U32

/-- The damage to the fields that the CRC covers. -/
def Damage.frame (damage : Damage) : Frame where
  generation := damage.generation
  type := damage.type
  sequence := damage.sequence
  length := damage.length
  payload := damage.payload

/-- The error pattern over the 384 bits of the 48 bytes. -/
def Damage.bits (damage : Damage) : List Bool :=
  Crc.byteBits (damage.frame.bytes ++ littleEndian damage.crc32)

/-- A slot after the damage.  The commit word lies behind the 48 bytes. -/
def Message.damaged (slot : Message) (damage : Damage) : Message where
  generation := slot.generation ^^^ damage.generation
  type := slot.type ^^^ damage.type
  sequence := slot.sequence ^^^ damage.sequence
  length := slot.length ^^^ damage.length
  payload := fun index => slot.payload index ^^^ damage.payload index
  crc32 := slot.crc32 ^^^ damage.crc32
  commit := slot.commit

/-- Damage is added to the code word. -/
theorem codePoly_damaged (slot : Message) (damage : Damage) :
    Crc.bitsPoly (slot.damaged damage).codeBits =
      Crc.bitsPoly slot.codeBits + Crc.bitsPoly damage.bits := by
  have frames : (slot.damaged damage).frame = slot.frame.xor damage.frame := rfl
  have words : (slot.damaged damage).crc32 = slot.crc32 ^^^ damage.crc32 := rfl
  have lengths : slot.frame.bytes.length = damage.frame.bytes.length := by
    rw [Frame.bytes_length, Frame.bytes_length]
  have whole : (slot.frame.bytes ++ littleEndian slot.crc32).length =
      (damage.frame.bytes ++ littleEndian damage.crc32).length := by
    simp [lengths]
  unfold Message.codeBits Damage.bits
  rw [frames, words, Frame.bytes_xor, littleEndian_xor, ← List.zipWith_append lengths,
    Crc.byteBits_zipWith_xor whole, Crc.bitsPoly_zipWith_xor]
  rw [Crc.length_byteBits, Crc.length_byteBits, whole]

/-- Where the CRC matches, the code word is the same constant modulo the generator. -/
theorem mk_codePoly {slot : Message} (checked : slot.crc32 = frameCrc32 slot) :
    AdjoinRoot.mk (Crc.generator 0xedb88320#32) (Crc.bitsPoly slot.codeBits) =
      AdjoinRoot.mk (Crc.generator 0xedb88320#32)
        (Crc.wordPoly 0xffffffff#32 * X ^ slot.frame.bits.length +
          Crc.wordPoly 0xffffffff#32) := by
  have stored : Crc.bitsPoly slot.codeBits =
      Crc.bitsPoly slot.frame.bits * X ^ 32 + Crc.wordPoly slot.crc32 := by
    unfold Message.codeBits Frame.bits Crc.wordPoly
    rw [byteBits_append, Crc.bitsPoly_append, byteBits_littleEndian, Crc.length_lsbFirst]
  have complement : slot.crc32 = ~~~slot.frame.crc ^^^ 0xffffffff#32 := by
    have ones : 0xffffffff#32 = BitVec.allOnes 32 := by decide
    rw [checked, frameCrc32, ones, BitVec.xor_allOnes, BitVec.not_not]
  rw [stored, complement, Crc.wordPoly_xor, map_add, map_add _ (Crc.wordPoly _), mk_crc,
    ← map_add, ← map_add]
  generalize Crc.wordPoly 0xffffffff#32 * X ^ slot.frame.bits.length = preset
  generalize Crc.bitsPoly slot.frame.bits * X ^ 32 = covered
  refine congrArg _ ?_
  linear_combination Crc.add_self covered

/-- No burst of at most 32 bits turns a slot with a matching CRC into another one. -/
theorem damaged_crc_ne {slot : Message} {damage : Damage} (checked : slot.crc32 = frameCrc32 slot)
    (burst : Crc.Burst 32 damage.bits) :
    (slot.damaged damage).crc32 ≠ frameCrc32 (slot.damaged damage) := by
  intro accepted
  apply burst.not_dvd generator_constant
  have words := mk_codePoly accepted
  rw [show (slot.damaged damage).frame.bits.length = slot.frame.bits.length by
    rw [Frame.bits_length, Frame.bits_length], ← mk_codePoly checked, codePoly_damaged, map_add,
      add_eq_left] at words
  exact AdjoinRoot.mk_eq_zero.mp words

end MailMsg
