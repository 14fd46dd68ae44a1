/-
Module: MailMsg.Platform.Hardware
Purpose: What Linux and CPU3 share: the message region and the two doorbell directions of the
  mailbox.
Source: LZAMP/linux/drivers/lzamp_amp_mailmsg.c (R1_AMP_MBOX_*),
  LZAMP/firmware/zephyr/app/src/main.c (MAILBOX_*)
Trusted boundary: the status bit of a channel is set by the DAT write and cleared by writing one to
  it
Main exports: Doorbells, Hardware
-/
import MailMsg.Protocol.Endpoint

namespace MailMsg

/-- One direction of the mailbox controller: a status bit, a CMD and a DAT register for each
channel.  Channel and priority are numbered alike. -/
structure Doorbells where
  status : Priority → Bool
  command : Priority → U32
  data : Priority → U32

/-- Registers after reset. -/
def Doorbells.zero : Doorbells where
  status := fun _ => false
  command := fun _ => 0
  data := fun _ => 0

/-- Write CMD, then DAT; the DAT write raises the status bit. -/
def Doorbells.write (doorbells : Doorbells) (channel : Priority) (command data : U32) :
    Doorbells where
  status := Function.update doorbells.status channel true
  command := Function.update doorbells.command channel command
  data := Function.update doorbells.data channel data

/-- The receiver writes one to the status bit, which clears it. -/
def Doorbells.acknowledge (doorbells : Doorbells) (channel : Priority) : Doorbells :=
  { doorbells with status := Function.update doorbells.status channel false }

/-- The region and both directions: A2B from Linux to CPU3, B2A back. -/
structure Hardware where
  shared : Shared
  a2b : Doorbells
  b2a : Doorbells

end MailMsg
