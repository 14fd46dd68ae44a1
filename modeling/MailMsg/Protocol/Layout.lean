/-
Module: MailMsg.Protocol.Layout
Purpose: Byte offsets and sizes of the shared structures, for the caches, which move whole lines of
  them, and for the launch geometry, which has to leave room for them.
Source: LZAMP/protocol/mailmsg/mailmsg.h, LZAMP/linux/drivers/lzamp_amp_mailmsg.c
  (R1_AMP_MAILMSG_OFF)
Trusted boundary: the structures have the sizes that their fields add up to, as all fields are words
  or bytes
Main exports: messageBytes, slotOffset, ringBytes, ringOffset, sharedBytes, mailmsgOffset,
  slotOffset_le, ringOffset_le, ringOffset_aligned
-/
import MailMsg.Protocol.Endpoint

namespace MailMsg

/-! ### Messages

Four words stand before the payload, and the CRC and the commit word behind it.
-/

/-- `offsetof(struct mailmsg_message, payload)`. -/
abbrev payloadOffset : Nat := 16

/-- `offsetof(struct mailmsg_message, crc32)`. -/
abbrev crcOffset : Nat := payloadOffset + payloadBytes

/-- `offsetof(struct mailmsg_message, commit)`. -/
abbrev commitOffset : Nat := crcOffset + 4

/-- `sizeof(struct mailmsg_message)`. -/
abbrev messageBytes : Nat := commitOffset + 4

/-! ### Rings

The two indices stand before the slots, and three header words before the rings: first those of
Linux, then those of CPU3.
-/

/-- Offset of a slot in `struct mailmsg_ring`, for any index. -/
abbrev slotOffset (index : Nat) : Nat := 8 + index * messageBytes

/-- `sizeof(struct mailmsg_ring)`. -/
abbrev ringBytes : Nat := slotOffset ringSlots

/-- `sizeof(struct mailmsg_shared)`. -/
abbrev sharedBytes : Nat := 12 + 2 * priorityCount * ringBytes

/-- Offset of a ring in `struct mailmsg_shared`. -/
def ringOffset (sender : Role) (priority : Priority) : Nat :=
  match sender with
  | .linux => 12 + priority.val * ringBytes
  | .cpu3 => 12 + (priorityCount + priority.val) * ringBytes

/-- `R1_AMP_MAILMSG_OFF`. -/
abbrev mailmsgOffset : Nat := 0x200

/-! ### Bounds and alignment -/

/-- A slot whose index is below the number of slots lies in the ring. -/
theorem slotOffset_le {index : Nat} (inside : index < ringSlots) :
    8 ≤ slotOffset index ∧ slotOffset index + messageBytes ≤ ringBytes := by
  simp only [slotOffset, ringBytes, messageBytes, commitOffset, crcOffset,
    payloadOffset, payloadBytes, ringSlots] at *
  omega

theorem slotOffset_aligned (index : Nat) : slotOffset index % 4 = 0 := by
  simp only [slotOffset, messageBytes, commitOffset, crcOffset, payloadOffset, payloadBytes]
  omega

/-- Every ring lies behind the header and in the structure. -/
theorem ringOffset_le (sender : Role) (priority : Priority) :
    12 ≤ ringOffset sender priority ∧ ringOffset sender priority + ringBytes ≤ sharedBytes := by
  have bound := priority.isLt
  cases sender with
  | linux =>
      simp only [ringOffset, sharedBytes, priorityCount] at *
      constructor
      · exact Nat.le_add_right 12 _
      · have ends : (priority.val + 1) * ringBytes ≤ 2 * 4 * ringBytes :=
          Nat.mul_le_mul_right _ (by omega)
        rw [Nat.add_mul, Nat.one_mul] at ends
        omega
  | cpu3 =>
      simp only [ringOffset, sharedBytes, priorityCount] at *
      constructor
      · exact Nat.le_add_right 12 _
      · have ends : (4 + priority.val + 1) * ringBytes ≤ 2 * 4 * ringBytes :=
          Nat.mul_le_mul_right _ (by omega)
        rw [Nat.add_mul, Nat.one_mul] at ends
        omega

theorem ringOffset_aligned (sender : Role) (priority : Priority) :
    ringOffset sender priority % 4 = 0 := by
  have ring : 4 ∣ ringBytes := Nat.dvd_of_mod_eq_zero (slotOffset_aligned ringSlots)
  apply Nat.mod_eq_zero_of_dvd
  cases sender with
  | linux => exact Nat.dvd_add (by decide) (Dvd.dvd.mul_left ring _)
  | cpu3 => exact Nat.dvd_add (by decide) (Dvd.dvd.mul_left ring _)

end MailMsg
