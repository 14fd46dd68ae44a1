/-
Module: MailMsg.Firmware.Link
Purpose: CPU3 and the Linux side of one session as one machine, with the steps of a Linux send
  apart: push, read of A2B_STATUS, doorbell decision.
Source: LZAMP/firmware/zephyr/app/src/main.c, LZAMP/linux/drivers/lzamp_amp_mailmsg.c
  (mailmsg_notify_locked)
Trusted boundary: no notification failure is injected
Main exports: LinuxSend, Link, LinkLabel, linkStep, linkMachine
-/
import MailMsg.Firmware.Service
import MailMsg.Lib.Transition

namespace MailMsg

/-! ### Both sides of the link -/

/-- A Linux send, which the mutex keeps to one at a time. -/
inductive LinuxSend where
  | idle
  /-- The frame is in the ring and A2B_STATUS is not yet read. -/
  | pushed (priority : Priority) (result : SendResult)
  /-- A2B_STATUS is read: coalesce when the bit was set, write CMD and DAT otherwise. -/
  | observed (priority : Priority) (result : SendResult) (busy : Bool)
deriving DecidableEq

/-- A send on this priority is between its push and its doorbell decision. -/
def LinuxSend.on (send : LinuxSend) (priority : Priority) : Bool :=
  match send with
  | .idle => false
  | .pushed other _ | .observed other _ _ => other == priority

/-- A send on this priority that will still see the bit clear and write the doorbell. -/
def LinuxSend.due (send : LinuxSend) (priority : Priority) : Bool :=
  match send with
  | .idle => false
  | .pushed other _ => other == priority
  | .observed other _ busy => other == priority && !busy

/-- CPU3, the hardware, and the Linux side of one session. -/
structure Link where
  board : Board
  linux : Endpoint
  active : Bool
  send : LinuxSend

/-- One step of either side. -/
inductive LinkLabel where
  | cpu3 (label : FirmwareLabel)
  /-- Linux reads SESSION_READY and opens its data plane. -/
  | activate
  | push (priority : Priority) (type : U32) (payload : Option (Nat → U8)) (length : U32)
  | observe
  | notify
  | receive (priority : Priority)
  | b2aAcknowledge (channel : Priority)

/-- `mailmsg_endpoint_receive` on the Linux endpoint. -/
def Link.receive (link : Link) (priority : Priority) : ReceiveOutcome × Link :=
  let received := endpointReceive link.linux link.board.hardware.shared priority
  (received,
    { link with
      linux := received.endpoint
      board :=
        { link.board with hardware := { link.board.hardware with shared := received.shared } } })

/-- The SESSION_READY of the endpoint's generation. -/
def Link.announces (link : Link) (message : Message) : Bool :=
  message.type == MessageType.sessionReady && decide (sessionBytes ≤ message.length.toNat) &&
    payloadU32 message.payloadAt 0 == link.linux.generation &&
    payloadU32 message.payloadAt 4 == protocolVersion

/-- The queueing half of a Linux send. -/
def Link.push (link : Link) (priority : Priority) (type : U32) (payload : Option (Nat → U8))
    (length : U32) : Link :=
  let outcome := endpointEnqueue link.linux link.board.hardware.shared priority type payload length
    .pending
  { link with
    linux := outcome.endpoint
    board := { link.board with hardware := { link.board.hardware with shared := outcome.shared } }
    send := if outcome.ret = .ok then .pushed priority outcome.result else .idle }

/-- The accounting of a Linux doorbell. -/
def Link.notified (link : Link) (priority : Priority) (result : SendResult) (answer : Int) : Link :=
  { link with
    linux := (endpointNotified priority answer
      ⟨.ok, result, link.linux, link.board.hardware.shared⟩).endpoint
    send := .idle }

/-- The doorbell decision of `mailmsg_notify_locked` without fault injection. -/
def Link.notify (link : Link) (priority : Priority) (result : SendResult) (busy : Bool) : Link :=
  if busy then link.notified priority result notifyCoalesced
  else
    Link.notified
      { link with
        board :=
          { link.board with
            hardware :=
              { link.board.hardware with
                a2b := link.board.hardware.a2b.write priority
                  (0xa2b10000#32 ||| BitVec.ofNat 32 priority.val)
                    (BitVec.ofNat 32 priority.val) } } }
      priority result notifySent

/-- The transition function of the link. -/
def linkStep (link : Link) : LinkLabel → Option Link
  | .cpu3 label => (firmwareStep link.board label).map fun board => { link with board := board }
  | .activate =>
      let received := link.receive .critical
      if link.active = false ∧ received.1.ret = .ok ∧ received.1.message.any link.announces then
        some { received.2 with active := true }
      else none
  | .push priority type payload length =>
      if link.active ∧ link.send =
        .idle then some (link.push priority type payload length) else none
  | .observe =>
      match link.send with
      | .pushed priority result =>
          some
            { link with
              send := .observed priority result (link.board.hardware.a2b.status priority) }
      | _ => none
  | .notify =>
      match link.send with
      | .observed priority result busy => some (link.notify priority result busy)
      | _ => none
  | .receive priority => if link.active then some (link.receive priority).2 else none
  | .b2aAcknowledge channel =>
      some
        { link with
          board :=
            { link.board with
              hardware :=
                { link.board.hardware with
                  b2a := link.board.hardware.b2a.acknowledge channel } } }

/-- A session right after CPU_ON: the region as `start_store` leaves it, no doorbell pending. -/
def Link.booted (build : Build) (generation : U32) (a2b b2a : Doorbells) : Link where
  board := ⟨.boot build, ⟨sessionRegion generation, a2b, b2a⟩⟩
  linux := (endpointBind .zero (sessionRegion generation) .linux).2
  active := false
  send := .idle

/-- Every run of a session, with an image that skips no priority. -/
def linkMachine : Machine Link LinkLabel where
  init link := ∃ build generation a2b b2a, build.skipPriority = none ∧ generation ≠ 0#32 ∧
    (∀ channel, a2b.status channel = false) ∧ link = .booted build generation a2b b2a
  step := linkStep

end MailMsg
