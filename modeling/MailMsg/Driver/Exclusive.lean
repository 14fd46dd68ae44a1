/-
Module: MailMsg.Driver.Exclusive
Purpose: Who removes frames of a priority whose reader is claimed.  The device files keep the claim;
  the `mailmsg_response` attribute does not ask for it.
Source: LZAMP/linux/drivers/lzamp_amp_mailmsg.c (r1_amp_mailmsg_user_claim_reader,
  mailmsg_response_show)
Trusted boundary: none
Main exports: claimRespected, exclusiveMachine, claimed_priority_exclusive
-/
import MailMsg.Driver.Files

namespace MailMsg

/-- Some open file holds the reader claim of a priority. -/
def System.claimed (system : System) (priority : Priority) : Bool :=
  system.files.any (UserFile.claims priority)

/-- The loop of `mailmsg_response_show` does not come to a priority whose reader is claimed and
whose reverse ring holds something. -/
def claimRespected (system : System) : DriverLabel → Bool
  | .responseIterate =>
      match system.lock with
      | .response priority _ =>
          !(system.claimed priority &&
            ringHasData (system.hardware.shared.cpu3ToLinux priority) == 1)
      | _ => true
  | _ => true

/-- The runs in which every step meets this condition. -/
def exclusiveMachine : Machine System DriverLabel :=
  driverMachine.restrict fun system label => claimRespected system label = true

/-- Popping an empty ring leaves its consumer index. -/
theorem ringPop_consumer_of_empty {ring : Ring} (empty : ringHasData ring ≠ 1) :
    (ringPop ring).2.1.consumer = ring.consumer := by
  have same : ring.consumer = ring.producer := by
    by_contra different
    exact empty (by simp [ringHasData, Ne.symm different])
  simp [ringPop, same]

/-- CPU3 does not write the consumer indices of the reverse rings. -/
theorem peerWrite_consumer (write : PeerWrite) (hardware : Hardware) (priority : Priority) :
    ((write.apply hardware).shared.cpu3ToLinux priority).consumer =
      (hardware.shared.cpu3ToLinux priority).consumer := by
  cases write with
  | slot target index message =>
      by_cases same : priority = target
      · subst same
        simp [PeerWrite.apply, Shared.updateRing, Shared.setRing, Shared.ring]
      · simp [PeerWrite.apply, Shared.updateRing, Shared.setRing, Function.update_of_ne same]
  | producer target value =>
      by_cases same : priority = target
      · subst same
        simp [PeerWrite.apply, Shared.updateRing, Shared.setRing, Shared.ring]
      · simp [PeerWrite.apply, Shared.updateRing, Shared.setRing, Function.update_of_ne same]
  | consumer target value => rfl
  | acknowledge channel => rfl
  | doorbell channel command data => rfl

/-- A receive on one priority moves no other consumer index. -/
theorem ReceiveEffect.consumer {system next : System} {priority : Priority}
    (effect : ReceiveEffect system next priority) (other : Priority) :
    (next.hardware.shared.cpu3ToLinux other).consumer =
        (system.hardware.shared.cpu3ToLinux other).consumer ∨
      other = priority ∧ (next.hardware.shared.cpu3ToLinux other).consumer =
        (ringPop (system.hardware.shared.cpu3ToLinux other)).2.1.consumer := by
  cases effect with
  | nothing same => exact .inl (by rw [same])
  | popped released =>
      rw [released]
      by_cases isTaken : other = priority
      · subst isTaken
        exact .inr ⟨rfl, by simp [Shared.setRing]⟩
      · exact .inl (by simp [Shared.setRing, Function.update_of_ne isTaken])

/-- In every run in which the response attribute keeps away from claimed priorities that hold
something: while an open file holds the reader claim of a priority, a step that moves the consumer
index of that reverse ring is a read on this file. -/
theorem claimed_priority_exclusive {system next : System} {label : DriverLabel} {file : UserFile}
    {priority : Priority} (reached : exclusiveMachine.Reachable system)
    (isOpen : file ∈ system.files) (claim : file.claims priority = true)
    (taken : exclusiveMachine.step system label = some next)
    (removed : (next.hardware.shared.cpu3ToLinux priority).consumer ≠
      (system.hardware.shared.cpu3ToLinux priority).consumer) :
    ∃ copied, label = .read file.id copied := by
  obtain ⟨respected, stepped⟩ := Machine.restrict_step_iff.mp taken
  have session := SessionInvariant.reachable reached.of_restrict
  have files := FilesInvariant.reachable reached.of_restrict
  have someOpen : system.files ≠ [] := List.ne_nil_of_mem isOpen
  cases driverStep_region session.bound stepped with
  | same shared peerWrites => exact absurd (by rw [shared]) removed
  | peer write isPeer hardware peerWrites =>
      rw [hardware] at removed
      exact absurd (peerWrite_consumer write system.hardware priority) removed
  | sent sender active effect peerWrites =>
      cases effect with
      | nothing same => exact absurd (by rw [same]) removed
      | pushed slot typed sized numbered committed space published =>
          exact absurd (by rw [published]; rfl) removed
  | initialised cpuOn launched =>
      -- A launch needs an unarmed driver, where no file is open.
      have unarmed := session.launched_unarmed launched
      exact absurd (files.none_open_of_state (by simp [unarmed]) (by simp [unarmed])) someOpen
  | received receiver effect peerWrites =>
      rcases effect.consumer priority with same | ⟨rfl, popped⟩
      · exact absurd same removed
      · cases receiver with
        | user found claimed =>
            rename_i id copied other
            obtain ⟨member, isId⟩ := System.file?_some found
            have same : other = file :=
              files.claim_unique isOpen member claim (by simp [UserFile.claims, claimed])
            exact ⟨copied, by rw [← isId, same]⟩
        | control held =>
            have pending := session.control held
            rcases files.state someOpen with state | state <;>
              simp [state, SessionState.pendingReply] at pending
        | response held =>
            have taken : system.claimed priority = true :=
              List.any_eq_true.mpr ⟨file, isOpen, claim⟩
            have empty : ringHasData (system.hardware.shared.cpu3ToLinux priority) ≠ 1 := by
              simpa [claimRespected, held, taken] using respected
            rw [popped] at removed
            exact absurd (ringPop_consumer_of_empty empty) removed

/-- A PONG of session 1. -/
def demoPong : Message :=
  (sendMessage 1 MessageType.pong 2 4 (some (storePayloadU32 (fun _ => 0) 0 42))).frame.committed

/-- A claimed reader on p1 and a frame waiting for it. -/
def demoClaimed : List DriverLabel :=
  demoActivation ++ [.openFile 1 false, .claim 0, .peer (.slot 1 0 demoPong), .peer (.producer 1 1)]

/-- The theorem at the claimed file's own read. -/
theorem claimed_priority_exclusive_demo :
    ∃ system next file, exclusiveMachine.run demoProbed demoClaimed = some system ∧
      exclusiveMachine.step system (.read 0 true) = some next ∧ file ∈ system.files ∧
      (next.hardware.shared.cpu3ToLinux 1).consumer ≠
        (system.hardware.shared.cpu3ToLinux 1).consumer ∧
      ∃ copied, DriverLabel.read 0 true = .read file.id copied := by
  have checked : (exclusiveMachine.run demoProbed demoClaimed).any (fun system =>
      (system.files.any (UserFile.claims 1)) &&
        (exclusiveMachine.step system (.read 0 true)).any (fun next =>
          (next.hardware.shared.cpu3ToLinux 1).consumer ≠
            (system.hardware.shared.cpu3ToLinux 1).consumer)) = true := by
    decide +kernel
  obtain ⟨system, executed, passed⟩ := exclusiveMachine.exists_of_run_any checked
  rw [Bool.and_eq_true] at passed
  obtain ⟨file, isOpen, claim⟩ := List.any_eq_true.mp passed.1
  cases stepped : exclusiveMachine.step system (.read 0 true) with
  | none => simp [stepped] at passed
  | some next =>
      have removed : (next.hardware.shared.cpu3ToLinux 1).consumer ≠
          (system.hardware.shared.cpu3ToLinux 1).consumer := by
        have moved := passed.2
        rw [stepped] at moved
        exact of_decide_eq_true moved
      exact ⟨system, next, file, executed, stepped, isOpen, removed,
        claimed_priority_exclusive (Machine.Reachable.run (.init demoProbed_init) executed) isOpen claim
          stepped removed⟩

/-- Without the condition: a read of `mailmsg_response` takes the frame that the claimed reader
waits for. -/
theorem response_takes_claimed_frame :
    ∃ system next file,
      driverMachine.run demoProbed
        (demoClaimed ++ [.responseEnter, .responseIterate]) = some system ∧
      driverMachine.Reachable system ∧ driverMachine.step system .responseIterate = some next ∧
      file ∈ system.files ∧ file.claims 1 = true ∧
      (next.hardware.shared.cpu3ToLinux 1).consumer ≠
        (system.hardware.shared.cpu3ToLinux 1).consumer := by
  have checked : (driverMachine.run demoProbed
      (demoClaimed ++ [.responseEnter, .responseIterate])).any (fun system =>
        (system.files.any (UserFile.claims 1)) &&
          (driverMachine.step system .responseIterate).any (fun next =>
            (next.hardware.shared.cpu3ToLinux 1).consumer ≠
              (system.hardware.shared.cpu3ToLinux 1).consumer)) = true := by
    decide +kernel
  obtain ⟨system, executed, passed⟩ := driverMachine.exists_of_run_any checked
  rw [Bool.and_eq_true] at passed
  obtain ⟨file, isOpen, claim⟩ := List.any_eq_true.mp passed.1
  cases stepped : driverMachine.step system .responseIterate with
  | none => simp [stepped] at passed
  | some next =>
      have moved := passed.2
      rw [stepped] at moved
      exact ⟨system, next, file, executed, Machine.Reachable.run (.init demoProbed_init)
        executed, stepped, isOpen, claim, of_decide_eq_true moved⟩

end MailMsg
