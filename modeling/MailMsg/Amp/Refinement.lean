/-
Module: MailMsg.Amp.Refinement
Purpose: CPU3's program stays within what the driver's model allows its peer: every run of the board
  is, for Linux, a run of the driver's model, and what holds of every reachable driver holds on the
  board.
Source: LZAMP/linux/drivers/lzamp_amp_mailmsg.c, LZAMP/firmware/zephyr/app/src/main.c
Trusted boundary: none beyond the models of both sides
Main exports: Hardware.Written, firmwareStep_written, board_refines_driver, reachable_driver
-/
import MailMsg.Amp.Session
import MailMsg.Driver.PeerRecord

namespace MailMsg

/-! ### What CPU3 writes -/

/-- The shared hardware after writes of CPU3. -/
def Hardware.after (hardware : Hardware) (writes : List PeerWrite) : Hardware :=
  writes.foldl (fun hardware write => write.apply hardware) hardware

/-- Writes of CPU3 lead from one hardware to the other. -/
def Hardware.Written (before after : Hardware) : Prop := ∃ writes, after = before.after writes

namespace Hardware.Written

/-- No write. -/
theorem of_same {before after : Hardware} (same : after = before) :
    before.Written after := ⟨[], same⟩

/-- One write. -/
theorem one (hardware : Hardware) (write : PeerWrite) : hardware.Written (write.apply hardware) :=
  ⟨[write], rfl⟩

/-- Writes after writes. -/
theorem trans {first second third : Hardware} (earlier : first.Written second)
    (later : second.Written third) : first.Written third := by
  obtain ⟨before, rfl⟩ := earlier
  obtain ⟨after, rfl⟩ := later
  exact ⟨before ++ after, (List.foldl_append ..).symm⟩

/-- A publication is the slot and then the index. -/
theorem publish (hardware : Hardware) (priority : Priority) (slot : Message) :
    hardware.Written
      { hardware with
        shared := hardware.shared.setRing .cpu3 priority
          ((hardware.shared.cpu3ToLinux priority).publish slot) } := by
  refine ⟨[.slot priority (hardware.shared.cpu3ToLinux priority).producer slot,
    .producer priority (ringNext (hardware.shared.cpu3ToLinux priority).producer)], ?_⟩
  simp [Hardware.after, PeerWrite.apply, Shared.updateRing, Shared.setRing,
    Shared.ring, Ring.publish]

/-- A pop is one write of the index, if it releases the slot at all. -/
theorem pop (hardware : Hardware) (priority : Priority) :
    hardware.Written
      { hardware with
        shared := hardware.shared.setRing .linux priority
          (ringPop (hardware.shared.linuxToCpu3 priority)).2.1 } := by
  have released : ∃ consumer, (ringPop (hardware.shared.linuxToCpu3 priority)).2.1 =
      { hardware.shared.linuxToCpu3 priority with consumer := consumer } := by
    simp only [ringPop]
    repeat' split
    all_goals exact ⟨_, rfl⟩
  obtain ⟨consumer, same⟩ := released
  rw [same]
  exact one hardware (.consumer priority consumer)

/-- A doorbell. -/
theorem notify (hardware : Hardware) (priority : Priority) :
    hardware.Written (cpu3Notify hardware priority).2 := by
  simp only [cpu3Notify]
  split
  · exact of_same rfl
  · exact one hardware (.doorbell ..)

/-- The acknowledgement of several bits at once. -/
theorem acknowledge (hardware : Hardware) (pending : Priority → Bool) :
    hardware.Written
      { hardware with
        a2b :=
          { hardware.a2b with
            status := fun channel => hardware.a2b.status channel && !pending channel } } := by
  have folded (channels : List Priority) : hardware.after (channels.map .acknowledge) =
      { hardware with
        a2b :=
          { hardware.a2b with
            status := fun channel => hardware.a2b.status channel &&
              !decide (channel ∈ channels) } } := by
    induction channels using List.reverseRecOn with
    | nil => simp [Hardware.after]
    | append_singleton channels last inductionHypothesis =>
        have status : Function.update
            (fun channel => hardware.a2b.status channel && !decide (channel ∈ channels)) last false =
              fun channel => hardware.a2b.status channel &&
                !decide (channel ∈ channels ++ [last]) := by
          funext channel
          by_cases same : channel = last
          · simp [same]
          · simp [same]
        calc hardware.after ((channels ++ [last]).map .acknowledge)
            = (PeerWrite.acknowledge last).apply (hardware.after (channels.map .acknowledge)) := by
              simp [Hardware.after]
          _ = _ := by
              rw [inductionHypothesis]
              simp only [PeerWrite.apply, Doorbells.acknowledge, status]
  refine ⟨((List.finRange priorityCount).filter pending).map .acknowledge, ?_⟩
  rw [folded]
  simp

end Hardware.Written

/-! ### What a step of CPU3 writes -/

section Cpu3

variable {board after : Board}

/-- The push of a send. -/
theorem Offered.written {priority : Priority} {reply : Reply} {sent : SendOutcome × Board}
    (offered : Offered board priority reply sent) : board.hardware.Written sent.2.hardware := by
  cases offered with
  | refused ret hardware cause => exact .of_same hardware
  | pushed ret space valid published =>
      rw [published]
      exact .publish ..

/-- The drain loop moves a consumer index at most. -/
theorem drain_written (bound : board.firmware.endpoint.BoundBy .cpu3) (visit : Visit) :
    board.hardware.Written (drain board visit).hardware := by
  cases drain_spec board visit bound with
  | untouched moved =>
      rw [moved]
      exact .of_same rfl
  | idle endpoint binding moved =>
      rw [moved]
      exact .pop ..
  | served endpoint binding request head moved =>
      rw [moved]
      exact .pop ..
  | rejected endpoint binding request reason moved =>
      rw [moved]
      exact .pop ..

/-- A reply is a slot and a producer index. -/
theorem sendReply_written (bound : board.firmware.endpoint.BoundBy .cpu3) (visit : Visit)
    (reply : Reply)
    (next : Continuation) : board.hardware.Written (sendReply board visit reply next).hardware := by
  cases sendReply_spec board visit reply next bound with
  | refused noted frame hardware cause moved =>
      rw [moved]
      exact .of_same hardware
  | queued pushed result frame space valid published moved =>
      rw [moved]
      change board.hardware.Written pushed.hardware
      rw [published]
      exact .publish ..

/-- The worker pops, publishes, rings and acknowledges. -/
theorem workerStep_written (bound : board.firmware.endpoint.BoundBy .cpu3)
    (stepped : workerStep board = some after) : board.hardware.Written after.hardware := by
  cases workerStep_turn stepped with
  | @drained visit position => exact drain_written bound visit
  | @replied visit reply next position => exact sendReply_written bound visit reply next
  | rung position => exact .notify ..
  | acknowledged position => exact .acknowledge ..
  | woke | swapped | spurious | admitted | dismissed | skipped | visited | finished | checked
  | rescheduled | returned | posted | muted | observed => exact .of_same rfl

/-- The main thread publishes SESSION_READY and rings. -/
theorem mainStep_written (bound : board.firmware.endpoint.BoundBy .cpu3) :
    board.hardware.Written (mainStep board).hardware := by
  cases start : board.firmware.main with
  | polling =>
      simp only [mainStep, start]
      split
      · exact .of_same rfl
      · split
        · exact .notify ..
        · have written := (board.enqueue_spec .critical
            (sessionReadyReply board.firmware.endpoint.generation) bound).1.written
          split <;> exact written
  | queued result =>
      simp only [mainStep, start]
      exact .notify ..
  | entry | bound | sent notifyResult | committed notifyResult | retried notifyResult =>
      simp only [mainStep, start]
      exact .of_same rfl

/-- The handler echoes in the reverse direction of the mailbox and acknowledges. -/
theorem isrStep_written (stepped : isrStep board = some after) :
    board.hardware.Written after.hardware := by
  cases position : board.firmware.isr with
  | idle =>
      simp only [isrStep, position] at stepped
      cases stepped
  | entered channel command data =>
      simp only [isrStep, position] at stepped
      cases stepped
      dsimp only
      split
      · exact .of_same rfl
      · exact .one board.hardware (.doorbell ..)
  | echoed channel command =>
      simp only [isrStep, position] at stepped
      cases stepped
      exact .one board.hardware (.acknowledge channel)
  | cleared channel command =>
      simp only [isrStep, position] at stepped
      cases stepped
      exact .of_same rfl

/-- Everything that CPU3 does to the shared hardware is one of the writes that the driver's model
allows it. -/
theorem firmwareStep_written {label : FirmwareLabel} (bound : board.firmware.endpoint.BoundBy .cpu3)
    (stepped : firmwareStep board label = some after) : board.hardware.Written after.hardware := by
  cases label with
  | interrupt channel =>
      simp only [firmwareStep] at stepped
      split at stepped
      · cases stepped
        exact .of_same rfl
      · cases stepped
  | isr => exact isrStep_written stepped
  | worker =>
      simp only [firmwareStep] at stepped
      split at stepped
      · exact workerStep_written bound stepped
      · cases stepped
  | cpuOff returned =>
      simp only [firmwareStep, cpuOffStep] at stepped
      split at stepped
      · split at stepped
        · cases stepped
          exact .of_same rfl
        · cases stepped
      · cases stepped
  | main =>
      simp only [firmwareStep] at stepped
      split at stepped
      · cases stepped
        exact mainStep_written bound
      · cases stepped

end Cpu3

/-! ### The board as a run of the driver's model

The driver's model lets its peer write one word at a time.  A step of CPU3 becomes the list of its
writes, and a step of Linux is the same step in the model.
-/

/-- Writes of CPU3 as steps of the driver's model. -/
theorem run_peers (system : System) (writes : List PeerWrite) :
    driverMachine.run system (writes.map .peer) =
      some
        { system with
          hardware := system.hardware.after writes
          peerWrites := system.peerWrites ++ writes.flatMap PeerWrite.frames } := by
  induction writes generalizing system with
  | nil => simp [Machine.run, Hardware.after]
  | cons write writes inductionHypothesis =>
      refine (Machine.run_step rfl (inductionHypothesis _)).trans ?_
      simp [Hardware.after]

/-- What a step of the driver's model shows of Linux: the writes of CPU3 are silent. -/
def DriverLabel.events (label : DriverLabel) : List DriverLabel :=
  if label.isPeer then [] else [label]

/-- What a step of the board shows of Linux. -/
def AmpLabel.events : AmpLabel → List DriverLabel
  | .linux label => [label]
  | .boot => []
  | .cpu3 _ => []

/-- A step of the board is a run of the driver's model, whatever that has recorded of CPU3. -/
theorem ampStep_shadowed {amp next : Amp} {label : AmpLabel} (invariant : LinkInvariant amp)
    (taken : ampStep amp label = some next) (writes : List (Priority × Message)) :
    ∃ steps kept, driverMachine.run (amp.system.recording writes) steps =
      some (next.system.recording kept) ∧
      steps.flatMap DriverLabel.events = label.events := by
  cases label with
  | linux label =>
      obtain ⟨notPeer, -, system, stepped, rfl⟩ := ampStep_linux taken
      obtain ⟨kept, same⟩ := driverStep_recording stepped writes
      exact ⟨[label], kept, Machine.run_step same rfl,
        by simp [DriverLabel.events, AmpLabel.events, notPeer]⟩
  | boot =>
      simp only [ampStep] at taken
      split at taken
      · cases taken
        exact ⟨[], writes, rfl, rfl⟩
      · cases taken
  | cpu3 label =>
      obtain ⟨-, board, stepped, rfl⟩ := ampStep_cpu3 taken
      obtain ⟨written, same⟩ := firmwareStep_written invariant.cpu3 stepped
      refine ⟨written.map .peer, writes ++ written.flatMap PeerWrite.frames,
        (run_peers (amp.system.recording writes) written).trans ?_, ?_⟩
      · rw [same]
        rfl
      · simp [AmpLabel.events, List.flatMap_map, DriverLabel.events, DriverLabel.isPeer]

/-- The driver of a reachable board is one that the driver's own model reaches. -/
theorem reachable_driver {build : Build} {amp : Amp} (reached : (ampMachine build).Reachable amp) :
    ∃ writes, driverMachine.Reachable (amp.system.recording writes) := by
  induction reached with
  | init start =>
      obtain ⟨config, image, hardware, jiffies, rfl⟩ := start
      exact ⟨[], .init ⟨config, image, hardware, jiffies, rfl⟩⟩
  | step earlier taken inductionHypothesis =>
      obtain ⟨writes, before⟩ := inductionHypothesis
      obtain ⟨steps, kept, executed, -⟩ := ampStep_shadowed (.reachable earlier) taken writes
      exact ⟨kept, before.run executed⟩

end MailMsg
