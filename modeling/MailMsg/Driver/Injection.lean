/-
Module: MailMsg.Driver.Injection
Purpose: The driver's fault injection: its push against the push of the protocol, and how far an
  injected notification failure reaches.
Source: LZAMP/linux/drivers/lzamp_amp_mailmsg.c, LZAMP/protocol/mailmsg/mailmsg.c
Trusted boundary: none
Main exports: Message.flipped, linuxRingPush_refines, System.injecting, stopStore_injecting,
  data_plane_independent, written_stop_request_suppressed
-/
import MailMsg.Driver.Safety
import MailMsg.Protocol.Damage
import MailMsg.Protocol.Independence

namespace MailMsg

/-! ### The flipped byte -/

/-- A slot with its first payload byte flipped. -/
def Message.flipped (slot : Message) : Message :=
  { slot with
    payload := fun index =>
      if index.val = 0 then slot.payload index ^^^ 0xff#8 else slot.payload index }

/-- The assignment of the source writes that byte. -/
theorem flipped_payload (slot : Message) :
    { slot with payload := Function.update slot.payload 0 (slot.payload 0 ^^^ 0xff#8) } =
      slot.flipped := by
  unfold Message.flipped
  congr 1
  funext index
  by_cases first : index = 0
  · subst first
    simp
  · have later : index.val ≠ 0 := fun zero => first (Fin.ext zero)
    rw [Function.update_of_ne first, if_neg later]

/-- The eight bits of the first payload byte, as damage to the code word. -/
def firstByteDamage : Damage where
  generation := 0
  type := 0
  sequence := 0
  length := 0
  payload := fun index => if index.val = 0 then 0xff#8 else 0#8
  crc32 := 0

theorem firstByteDamage_burst : Crc.Burst 32 firstByteDamage.bits := by
  have padded : firstByteDamage.bits =
      List.replicate 128 false ++ List.replicate 8 true ++ List.replicate 248 false := by
    decide +kernel
  rw [padded]
  exact Crc.Burst.of_padded (by decide) (by decide)

theorem Message.flipped_eq (slot : Message) : slot.flipped = slot.damaged firstByteDamage := by
  unfold Message.flipped Message.damaged firstByteDamage
  congr 1
  · exact (BitVec.xor_zero).symm
  · exact (BitVec.xor_zero).symm
  · exact (BitVec.xor_zero).symm
  · exact (BitVec.xor_zero).symm
  · funext index
    by_cases first : index.val = 0
    · simp [first]
    · simp [first]
  · exact (BitVec.xor_zero).symm

/-- A committed frame with its first payload byte flipped fails the CRC check and no other. -/
theorem slotVerdict_flipped {frame : Frame} (valid : ¬ frame.malformed) :
    slotVerdict frame.committed.flipped = .badCrc := by
  have header : frame.committed.flipped.malformed = frame.malformed := rfl
  have mismatch : frame.committed.flipped.crc32 ≠ frameCrc32 frame.committed.flipped := by
    rw [Message.flipped_eq]
    exact damaged_crc_ne rfl firstByteDamage_burst
  rw [slotVerdict, header, if_neg valid, if_pos mismatch]

theorem slotVerdict_committed {frame : Frame} (valid : ¬ frame.malformed) :
    slotVerdict frame.committed = .ok := by
  have header : frame.committed.malformed = frame.malformed := rfl
  have checked : ¬ frame.committed.crc32 ≠ frameCrc32 frame.committed := not_not.mpr rfl
  rw [slotVerdict, header, if_neg valid, if_neg checked]

/-! ### The two pushes

The driver's own push makes the checks of the protocol's push, with error numbers of its own, and
flips one byte behind the CRC if it is asked to.
-/

/-- Everything that the fault-injection push can do, beside what the protocol's push does. -/
theorem linuxRingPush_beside (ring : Ring) (message : Message) (corrupt : Bool) :
    ((ringPush ring message).1 = .invalid ∧ (ringPush ring message).2 = ring ∧
        linuxRingPush ring message corrupt = (-Errno.inval, ring)) ∨
      ((ringPush ring message).1 = .full ∧ (ringPush ring message).2 = ring ∧
        linuxRingPush ring message corrupt = (-Errno.nospc, ring)) ∨
      (¬ message.malformed ∧ ringNext ring.producer ≠ ring.consumer ∧
        ringPush ring message = (.ok, ring.publish message.frame.committed) ∧
        linuxRingPush ring message corrupt =
          (0, ring.publish
            (if corrupt then message.frame.committed.flipped else message.frame.committed))) := by
  rcases ringPush_cases ring message with
    ⟨malformed, same⟩ | ⟨valid, full, same⟩ | ⟨valid, space, same⟩
  · refine .inl ⟨by rw [same], by rw [same], ?_⟩
    simp only [linuxRingPush, malformed, if_true]
  · refine .inr (.inl ⟨by rw [same], by rw [same], ?_⟩)
    simp [linuxRingPush, valid, full]
  · refine .inr (.inr ⟨valid, space, same, ?_⟩)
    simp only [linuxRingPush, valid, space, if_false]
    cases corrupt with
    | false => rfl
    | true =>
        simp only [if_true]
        rw [← flipped_payload]
        rfl

/-- The fault-injection push is the push of the protocol plus one flipped byte.  Without corruption
both leave the same ring and return corresponding codes.  With it the same frames are accepted, the
ring differs in the first payload byte of the new slot only, the pop that reads that slot answers
BAD_CRC and keeps the sequence, and every other call answers as on the undamaged ring. -/
theorem linuxRingPush_refines {ring : Ring} (wellFormed : ring.WellFormed) (message : Message) :
    let good := (ringPush ring message).2
    let bad := (linuxRingPush ring message true).2
    let injected := (good.slot ring.producer).flipped
    (linuxRingPush ring message false).2 = good ∧
      (∀ corrupt,
        ((ringPush ring message).1 = .invalid ∧
            (linuxRingPush ring message corrupt).1 = -Errno.inval) ∨
          ((ringPush ring message).1 = .full ∧
            (linuxRingPush ring message corrupt).1 = -Errno.nospc) ∨
          ((ringPush ring message).1 = .ok ∧ (linuxRingPush ring message corrupt).1 = 0)) ∧
      ((ringPush ring message).1 ≠ .ok → bad = ring) ∧
      ((ringPush ring message).1 = .ok →
        bad = { good with slot := Function.update good.slot ring.producer injected } ∧
          injected.sequence = message.sequence ∧
          ∀ (calls : List RingCall) (position : Nat),
            (bad.Reads ring.occupied calls position →
              (bad.results calls)[position]? = some (.badCrc, some injected) ∧
                (good.results calls)[position]? = some (.ok, some (good.slot ring.producer))) ∧
              (¬ bad.Reads ring.occupied calls position →
                (bad.results calls)[position]? = (good.results calls)[position]?)) := by
  intro good bad injected
  refine ⟨?_, ?_, ?_, ?_⟩
  · rcases linuxRingPush_beside ring message false with
      ⟨-, same, pushed⟩ | ⟨-, same, pushed⟩ | ⟨-, -, same, pushed⟩
    · simp only [good, same, pushed]
    · simp only [good, same, pushed]
    · simp only [good, same, pushed, Bool.false_eq_true, if_false]
  · intro corrupt
    rcases linuxRingPush_beside ring message corrupt with
      ⟨code, -, pushed⟩ | ⟨code, -, pushed⟩ | ⟨-, -, same, pushed⟩
    · exact .inl ⟨code, by rw [pushed]⟩
    · exact .inr (.inl ⟨code, by rw [pushed]⟩)
    · exact .inr (.inr ⟨by rw [same], by rw [pushed]⟩)
  · intro refused
    rcases linuxRingPush_beside ring message true with
      ⟨-, -, pushed⟩ | ⟨-, -, pushed⟩ | ⟨-, -, same, -⟩
    · simp only [bad, pushed]
    · simp only [bad, pushed]
    · exact absurd (by rw [same]) refused
  · intro accepted
    rcases linuxRingPush_beside ring message true with
      ⟨code, -⟩ | ⟨code, -⟩ | ⟨valid, space, same, pushed⟩
    · rw [code] at accepted
      cases accepted
    · rw [code] at accepted
      cases accepted
    · have goodEq : good = ring.publish message.frame.committed := by simp only [good, same]
      have badEq : bad = ring.publish message.frame.committed.flipped := by
        simp only [bad, pushed, if_true]
      have injectedEq : injected = message.frame.committed.flipped := by
        simp only [injected, goodEq]
        exact congrArg Message.flipped (Function.update_self _ _ _)
      have slotEq : good.slot ring.producer = message.frame.committed := by
        rw [goodEq]
        exact Function.update_self _ _ _
      refine ⟨?_, by rw [injectedEq]; rfl, ?_⟩
      · rw [badEq, goodEq, injectedEq]
        simp only [Ring.publish, Function.update_idem]
      · intro calls position
        have goodList : good.contents = ring.contents ++ [message.frame.committed] := by
          rw [goodEq]
          exact wellFormed.contents_publish space _
        have badList : bad.contents = ring.contents ++ [message.frame.committed.flipped] := by
          rw [badEq]
          exact wellFormed.contents_publish space _
        have goodFormed : good.WellFormed := by
          rw [goodEq]
          exact wellFormed.publish _
        have badFormed : bad.WellFormed := by
          rw [badEq]
          exact wellFormed.publish _
        obtain ⟨reading, other⟩ := fifoResults_twin message.frame.committed
          message.frame.committed.flipped rfl rfl ring.contents [] calls position
        rw [badFormed.reads_iff, badFormed.results_eq, goodFormed.results_eq, goodList, badList,
          ← Ring.contents_length]
        refine ⟨fun reads => ?_, other⟩
        rw [(reading reads).1, (reading reads).2, slotVerdict_flipped valid,
          slotVerdict_committed valid, injectedEq, slotEq]
        exact ⟨rfl, rfl⟩

/-- An injected frame on an empty ring: the next pop answers BAD_CRC. -/
theorem linuxRingPush_refines_first :
    ((linuxRingPush .zero { Message.zero with generation := 1, sequence := 7 } true).2.results
        [.pop])[0]? =
      some (.badCrc,
        some
          ((ringPush .zero { Message.zero with generation := 1, sequence := 7 }).2.slot 0).flipped)
      := by
  have accepted : (ringPush .zero { Message.zero with generation := 1, sequence := 7 }).1 = .ok := by
    decide
  obtain ⟨-, -, run⟩ := (linuxRingPush_refines Ring.zero_wellFormed
    { Message.zero with generation := 1, sequence := 7 }).2.2.2 accepted
  exact ((run [.pop] 0).1 ⟨rfl, rfl⟩).1

/-! ### Injected notification failures -/

/-- The system with another setting of `mailmsg_notify_inject`. -/
def System.injecting (system : System) (priority : U32) (errno : Int) (remaining : U32) : System :=
  { system with
    driver :=
      { system.driver with
        notifyInjectPriority := priority
        notifyInjectErrno := errno
        notifyInjectRemaining := remaining } }

section Bypass

variable (system : System) (injected : U32) (errno : Int) (remaining : U32)

theorem mboxDirectSendLocked_injecting (channel : Priority) (command value : U32) :
    mboxDirectSendLocked (system.injecting injected errno remaining) channel command value =
      ((mboxDirectSendLocked system channel command value).1,
        (mboxDirectSendLocked system channel command value).2.injecting injected
          errno remaining) := by
  have status : (system.injecting injected errno remaining).hardware = system.hardware := rfl
  simp only [mboxDirectSendLocked, status]
  split <;> rfl

/-- With the lifecycle bypass set, a notification does not look at the injection. -/
theorem notifyLocked_injecting (bypass : system.driver.lifecycleNotifyBypass = true)
    (priority : Priority) :
    notifyLocked (system.injecting injected errno remaining) priority =
      ((notifyLocked system priority).1,
        (notifyLocked system priority).2.injecting injected errno remaining) := by
  have bypassed : (system.injecting injected errno remaining).driver.lifecycleNotifyBypass = true :=
    bypass
  simp only [notifyLocked, bypass, bypassed, not_true_eq_false, false_and, if_false,
    mboxDirectSendLocked_injecting]
  split
  · rfl
  · split <;> rfl

/-- A send under the bypass rings the doorbell as if nothing were injected. -/
theorem linuxSend_injecting (bypass : system.driver.lifecycleNotifyBypass = true)
    (priority : Priority) (type : U32) (payload : Option (Nat → U8)) (length : U32) :
    linuxSend (system.injecting injected errno remaining) priority type payload length =
      ((linuxSend system priority type payload length).1,
        (linuxSend system priority type payload length).2.injecting injected errno remaining) := by
  have endpoint : (system.injecting injected errno remaining).driver.endpoint =
      system.driver.endpoint := rfl
  have hardware : (system.injecting injected errno remaining).hardware = system.hardware := rfl
  simp only [linuxSend, endpointSend, endpoint, hardware,
    notifyLocked_injecting system injected errno remaining bypass]
  split <;> rfl

/-- `mailmsg_stop_store` does the same whatever is injected: its answer, the doorbell of its
STOP_REQUEST and everything else it writes; the injection is not used up. -/
theorem stopStore_injecting (accepted : Bool) (count : Nat) :
    stopStore (system.injecting injected errno remaining) accepted count =
      ((stopStore system accepted count).1,
        (stopStore system accepted count).2.injecting injected errno remaining) := by
  have state : (system.injecting injected errno remaining).driver.mailmsgState =
      system.driver.mailmsgState := rfl
  have preflight : stopPreflightLocked (system.injecting injected errno remaining) =
      stopPreflightLocked system := rfl
  have stopping : (system.injecting injected errno remaining).stopping =
      system.stopping.injecting injected errno remaining := rfl
  have sent := linuxSend_injecting system.stopping injected errno remaining rfl .critical
    MessageType.stopRequest none 0
  have requested : requestStop (system.injecting injected errno remaining) =
      ((requestStop system).1, (requestStop system).2.injecting injected errno remaining) := by
    simp only [requestStop, stopping, sent]
    split <;> rfl
  simp only [stopStore, state, preflight, requested]
  split
  · rfl
  · split
    · rfl
    · split
      · rfl
      · split <;> rfl

end Bypass

/-- The driver's send, injected failures included, as a send over a backend. -/
theorem linuxSend_quiet {left right : System}
    (shared : left.hardware.shared = right.hardware.shared)
    (endpoint : left.driver.endpoint.quiet = right.driver.endpoint.quiet) (priority : Priority)
    (type : U32) (payload : Option (Nat → U8)) (length : U32) :
    (linuxSend left priority type payload length).1.quiet =
      (linuxSend right priority type payload length).1.quiet := by
  have sent := endpointSendCall_quiet
    (fun priority _ system => notifyLocked system priority) left
    (fun priority _ system => notifyLocked system priority) right endpoint left.hardware.shared
    (BitVec.ofNat 32 priority.val) type payload length .zero
  rw [endpointSendCall_priority (fun priority system => notifyLocked system priority),
    endpointSendCall_priority (fun priority system => notifyLocked system priority)] at sent
  simp only [linuxSend, ← shared]
  exact sent

/-- The data plane does not depend on what the doorbell answers.  Two runs of the same calls over
any two backends answer alike up to the notification report, and leave the same region and the same
endpoints up to the notification counters; the driver's own backend, with any injected failure, is
one of them; and no injection touches the STOP_REQUEST of `mailmsg_stop_store`. -/
theorem data_plane_independent :
    (∀ (Left Right : Type) (notify : Role → NotifyOps Left) (otherNotify : Role → NotifyOps Right)
      (endpoint : Role → Endpoint) (shared : Shared) (backend : Left) (otherBackend : Right)
      (calls : List Independence.Call),
      let first := Independence.run notify ⟨endpoint, shared, backend⟩ calls
      let second := Independence.run otherNotify ⟨endpoint, shared, otherBackend⟩ calls
      first.1.map Independence.Answer.quiet = second.1.map Independence.Answer.quiet ∧
        first.2.shared = second.2.shared ∧
        ∀ role, (first.2.endpoint role).quiet = (second.2.endpoint role).quiet) ∧
      (∀ left right : System, left.hardware.shared = right.hardware.shared →
        left.driver.endpoint.quiet = right.driver.endpoint.quiet →
        ∀ (priority : Priority) (type : U32) (payload : Option (Nat → U8)) (length : U32),
          (linuxSend left priority type payload length).1.quiet =
              (linuxSend right priority type payload length).1.quiet ∧
            (linuxSend left priority type payload length).2.hardware.shared =
              (linuxSend right priority type payload length).2.hardware.shared) ∧
      ∀ (system : System) (injected : U32) (errno : Int) (remaining : U32) (accepted : Bool)
        (count : Nat),
        stopStore (system.injecting injected errno remaining) accepted count =
          ((stopStore system accepted count).1,
            (stopStore system accepted count).2.injecting injected errno remaining) := by
  refine ⟨?_, ?_, stopStore_injecting⟩
  · intro Left Right notify otherNotify endpoint shared backend otherBackend calls
    have start : Independence.Alike (⟨endpoint, shared, backend⟩ : Independence.State Left)
        (⟨endpoint, shared, otherBackend⟩ : Independence.State Right) := ⟨rfl, fun _ => rfl⟩
    obtain ⟨answers, last⟩ := Independence.run_quiet notify otherNotify start calls
    exact ⟨answers, last.shared, last.endpoint⟩
  · intro left right shared endpoint priority type payload length
    have sent := linuxSend_quiet shared endpoint priority type payload length
    exact ⟨sent, (SendOutcome.of_quiet sent).2.1⟩

/-- The theorem at an ACTIVE session with a failure injected on priority 0: a PING is queued as
without the failure, and `mailmsg_stop` still rings. -/
theorem data_plane_independent_demo :
    ∃ system, driverMachine.run demoProbed demoActivation = some system ∧
      (linuxSend (system.injecting 0 (-5) 1) .critical MessageType.ping none 0).2.hardware.shared =
        (linuxSend system .critical MessageType.ping none 0).2.hardware.shared ∧
      (stopStore (system.injecting 0 (-5) 1) true 1).2.driver.mailmsgState = .stopping ∧
      (stopStore (system.injecting 0 (-5) 1) true 1).2.hardware.a2b.status .critical = true := by
  have checked : (driverMachine.run demoProbed demoActivation).any (fun system =>
      decide ((stopStore system true 1).2.driver.mailmsgState = .stopping ∧
        (stopStore system true 1).2.hardware.a2b.status .critical = true)) = true := by
    decide +kernel
  obtain ⟨system, executed, passed⟩ := driverMachine.exists_of_run_any checked
  obtain ⟨stopping, rung⟩ := of_decide_eq_true passed
  obtain ⟨-, sends, stops⟩ := data_plane_independent
  have sent := sends (system.injecting 0 (-5) 1) system rfl rfl .critical MessageType.ping none 0
  have stopped := stops system 0 (-5) 1 true 1
  refine ⟨system, executed, sent.2, ?_, ?_⟩
  · rw [stopped]
    exact stopping
  · rw [stopped]
    exact rung

/-- A STOP_REQUEST as a program writes it to the device file of priority 0. -/
def demoStopRecord : UserFrame := ⟨0, MessageType.stopRequest, 0, 0, fun _ => 0⟩

/-- The bypass belongs to `mailmsg_stop_store` alone.  A STOP_REQUEST that user space writes goes
the way of every other frame: with an injected failure the same frame is queued, and its doorbell
stays silent. -/
theorem written_stop_request_suppressed :
    ∃ system rung silent, driverMachine.run demoProbed demoOpened = some system ∧
      driverMachine.run system [.write 0 userFrameBytes true demoStopRecord] = some rung ∧
      driverMachine.run system
        [.notifyInject (.numbers 0 (-5) 1) 7, .write 0 userFrameBytes true demoStopRecord] =
          some silent ∧
      (rung.hardware.shared.linuxToCpu3 .critical).contents.map Message.type =
        [MessageType.stopRequest] ∧
      (silent.hardware.shared.linuxToCpu3 .critical).contents =
        (rung.hardware.shared.linuxToCpu3 .critical).contents ∧
      rung.hardware.a2b.status .critical = true ∧ silent.hardware.a2b.status .critical = false := by
  have checked : (driverMachine.run demoProbed demoOpened).any (fun system =>
      (driverMachine.run system [.write 0 userFrameBytes true demoStopRecord]).any fun rung =>
        (driverMachine.run system
          [.notifyInject (.numbers 0 (-5) 1) 7, .write 0 userFrameBytes true demoStopRecord]).any
            fun silent =>
              decide ((rung.hardware.shared.linuxToCpu3 .critical).contents.map Message.type =
                  [MessageType.stopRequest] ∧
                (silent.hardware.shared.linuxToCpu3 .critical).contents =
                  (rung.hardware.shared.linuxToCpu3 .critical).contents ∧
                rung.hardware.a2b.status .critical = true ∧
                silent.hardware.a2b.status .critical = false)) = true := by
    decide +kernel
  obtain ⟨system, executed, written⟩ := driverMachine.exists_of_run_any checked
  obtain ⟨rung, plain, injected⟩ := driverMachine.exists_of_run_any written
  obtain ⟨silent, suppressed, passed⟩ := driverMachine.exists_of_run_any injected
  exact ⟨system, rung, silent, executed, plain, suppressed, of_decide_eq_true passed⟩

end MailMsg
