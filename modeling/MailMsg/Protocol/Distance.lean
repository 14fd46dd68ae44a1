/-
Module: MailMsg.Protocol.Distance
Purpose: The distance of the frame check.  How many bits of a slot must be turned over before a pop
  can take it for the frame that was pushed.
Source: LZAMP/protocol/mailmsg/mailmsg.c, LZAMP/protocol/mailmsg/mailmsg.h
Trusted boundary: none beyond the frame's model
Main exports: crc32_separated, damaged_divides, few_flips_rejected, Unnoticed, least_unnoticed
-/
import MailMsg.Lib.Distance
import MailMsg.Protocol.Damage

namespace MailMsg

/-- The residues of the 384 powers of a slot's code word are separated. -/
theorem crc32_separated : Crc.Separated 0xedb88320#32 384 :=
  Crc.separated_of_check (by decide)
    (show Crc.separatedCheck 0xedb88320 0x80000000 59495 50705 384 = true by decide +kernel)

theorem Damage.bits_length (damage : Damage) : damage.bits.length = 384 := by
  rw [Damage.bits, Crc.length_byteBits, List.length_append, Frame.bytes_length, littleEndian_length]

/-- A slot that was intact passes its check after a damage only when the generator divides the
damage. -/
theorem damaged_divides {slot : Message} {damage : Damage} (checked : slot.crc32 = frameCrc32 slot)
    (passes : (slot.damaged damage).crc32 = frameCrc32 (slot.damaged damage)) :
    Crc.generator 0xedb88320#32 ∣ Crc.bitsPoly damage.bits := by
  have words := mk_codePoly passes
  have length : (slot.damaged damage).frame.bits.length = slot.frame.bits.length := by
    rw [Frame.bits_length, Frame.bits_length]
  rw [length, ← mk_codePoly checked, codePoly_damaged, map_add, add_eq_left] at words
  exact AdjoinRoot.mk_eq_zero.mp words

/-- A pop of a committed slot with one to four bits turned over does not return OK. -/
theorem few_flips_rejected {reached : Ring} {frame : Frame} {damage : Damage}
    (some_ : 0 < damage.bits.count true) (few : damage.bits.count true ≤ 4)
    (read : reached.slot reached.consumer = frame.committed.damaged damage) :
    (ringPop reached).1 ≠ .ok := by
  intro ok
  have checked := crc_of_ringPop_ok ok
  rw [read] at checked
  exact crc32_separated.not_dvd (by decide) generator_constant (by decide) damage.bits_length.le
    (List.count_pos_iff.mp some_) few (damaged_divides rfl checked)

/-- A pushed slot with `count` bits of its 48 bytes turned over can pass a pop. -/
def Unnoticed (count : Nat) : Prop :=
  ∃ (ring reached : Ring) (message : Message) (damage : Damage),
    (ringPush ring message).1 = .ok ∧ damage.bits.count true = count ∧
      reached.slot reached.consumer =
        ((ringPush ring message).2.slot ring.producer).damaged damage ∧
      (ringPop reached).1 = .ok

/-- Five bits that are a multiple of the generator and leave the length and the sequence alone: one
of the type, three of the payload and one of the CRC. -/
def fiveFlips : Damage where
  generation := 0
  type := 0x80000000
  sequence := 0
  length := 0
  payload := fun index => if index.val = 10 then 1 else if index.val = 14 then 0x40
    else if index.val = 18 then 4 else 0
  crc32 := 0x800

theorem fiveFlips_unnoticed : Unnoticed 5 := by
  refine ⟨.zero,
    (ringPush .zero { Message.zero with generation := 1, sequence := 1 }).2.strike 0 fiveFlips,
    { Message.zero with generation := 1, sequence := 1 }, fiveFlips, ?_, ?_, ?_, ?_⟩
  · decide
  · decide +kernel
  · rfl
  · decide +kernel

/-- Five turned bits are the fewest that a pop can miss: whatever is pushed to whatever ring,
whichever one to four bits of its 48 bytes are turned over and whenever the slot is read, the pop
does not return OK; and some five bits pass. -/
theorem least_unnoticed : IsLeast {count | 0 < count ∧ Unnoticed count} 5 := by
  constructor
  · exact ⟨by decide, fiveFlips_unnoticed⟩
  · rintro count ⟨some_, ring, reached, message, damage, accepted, rfl, read, ok⟩
    obtain ⟨-, pushed⟩ := ringPush_ok accepted
    have written : (ringPush ring message).2.slot ring.producer = message.frame.committed := by
      rw [pushed]
      exact Function.update_self _ _ _
    rw [written] at read
    by_contra fewer
    exact few_flips_rejected some_ (by omega) read ok

end MailMsg
