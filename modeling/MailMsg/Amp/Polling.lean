/-
Module: MailMsg.Amp.Polling
Purpose: What `poll` reports on a device file is what a non-blocking read on it answers, with any
  steps of CPU3 between the two.
Source: LZAMP/linux/drivers/lzamp_amp_mailmsg.c (r1_amp_mailmsg_user_poll,
  r1_amp_mailmsg_user_claim_reader, r1_amp_mailmsg_user_read, r1_amp_mailmsg_data_gate_locked)
Trusted boundary: CPU3 writes the reverse rings through mailmsg_endpoint_send only
Main exports: Application.pollCall, Application.readCall, Application.Agree,
  Application.poll_read_agree
-/
import MailMsg.Amp.RoundTrip
import MailMsg.Driver.Wake

namespace MailMsg.Application

/-! ### The calls -/

/-- `r1_amp_mailmsg_user_poll`. -/
def pollCall (system : System) (file : UserFile) : PollMask × System :=
  let claimed := userClaimReader system file
  if claimed.1 ≠ 0 then (.error, claimed.2) else (userPoll claimed.2 file, claimed.2)

/-- `r1_amp_mailmsg_user_read` with O_NONBLOCK, which never sleeps. -/
def readCall (system : System) (file : UserFile) (count : Nat) (copied : Bool) :
    ReadOutcome × System :=
  if count ≠ userFrameBytes then (.returned (-Errno.inval), system)
  else
    let claimed := userClaimReader system file
    if claimed.1 ≠ 0 then (.returned claimed.1, claimed.2)
    else userRead claimed.2 { file with nonblock := true } copied

/-- Everything that a claim can do. -/
inductive Claim (system : System) (id : Nat) (file : UserFile) : Int × System → Prop where
  | busy (unclaimed : file.readerClaimed = false)
      (taken : system.driver.readerOpenCount file.priority ≠ 0) :
      Claim system id file (-Errno.busy, system)
  | granted (next : System) (held : UserFile) (found : next.file? id = some held)
      (priority : held.priority = file.priority) (claimed : held.readerClaimed = true)
      (hardware : next.hardware = system.hardware)
      (state : next.driver.mailmsgState = system.driver.mailmsgState) :
      Claim system id file (0, next)

theorem userClaimReader_claim {system : System} {id : Nat} {file : UserFile}
    (opened : system.file? id = some file) :
    Claim system id file (userClaimReader system file) := by
  obtain ⟨-, isId⟩ := System.file?_some opened
  by_cases busy : file.readerClaimed = false ∧ system.driver.readerOpenCount file.priority ≠ 0
  · have refused : userClaimReader system file = (-Errno.busy, system) := by
      simp [userClaimReader, busy.1, busy.2]
    rw [refused]
    exact .busy busy.1 busy.2
  · have granted : (userClaimReader system file).1 = 0 := by
      simp only [userClaimReader]
      split
      · rfl
      · rename_i unclaimed
        split
        · rename_i taken
          exact absurd ⟨Bool.eq_false_iff.mpr unclaimed, taken⟩ busy
        · rfl
    have unchanged : (userClaimReader system file).2.hardware = system.hardware ∧
        (userClaimReader system file).2.driver.mailmsgState = system.driver.mailmsgState := by
      simp only [userClaimReader]
      repeat' split
      all_goals exact ⟨rfl, rfl⟩
    obtain ⟨held, found, priority, claimed⟩ := userClaimReader_held opened granted
    rw [isId] at found
    generalize userClaimReader system file = outcome at *
    obtain ⟨value, next⟩ := outcome
    obtain rfl : value = 0 := granted
    exact .granted next held found priority claimed unchanged.1 unchanged.2

/-- A read on a file that holds the claim is its iteration. -/
theorem readCall_claimed (system : System) {file : UserFile} (claimed : file.readerClaimed = true)
    (copied : Bool) :
    readCall system file userFrameBytes copied =
      userRead system { file with nonblock := true } copied := by
  simp [readCall, userClaimReader, claimed]

/-! ### CPU3 between the calls -/

/-- A step of CPU3, its doorbell registers included. -/
def Label.isPeer : Label → Bool
  | .linux label => label.isPeer
  | .bind | .stage _ _ | .send _ _ _ _ | .receive _ => true

/-- What CPU3 leaves alone: the driver and its files, the frames that wait, and the index of their
consumer. -/
structure Undisturbed (priority : Priority) (before after : State) : Prop where
  driver : after.system.driver = before.system.driver
  files : after.system.files = before.system.files
  consumer : reverseConsumer priority after = reverseConsumer priority before
  incoming : before.incoming priority <+: after.incoming priority

theorem Undisturbed.trans {priority : Priority} {first middle last : State}
    (earlier : Undisturbed priority first middle) (later : Undisturbed priority middle last) :
    Undisturbed priority first last where
  driver := later.driver.trans earlier.driver
  files := later.files.trans earlier.files
  consumer := later.consumer.trans earlier.consumer
  incoming := earlier.incoming.trans later.incoming

/-- CPU3 does not write the driver's record. -/
theorem peer_step_driver {state next : State} {label : Label} (reached : machine.Reachable state)
    (peer : label.isPeer = true) (stepped : step state label = some next) :
    next.system.driver = state.system.driver ∧ next.system.files = state.system.files := by
  cases label with
  | linux label =>
      simp only [step] at stepped
      split at stepped
      · obtain ⟨system, moved, rfl⟩ := Option.map_eq_some_iff.mp stepped
        cases label with
        | peer write =>
            cases moved
            exact ⟨rfl, rfl⟩
        | _ => cases peer
      · cases stepped
  | bind =>
      cases stepped
      exact ⟨rfl, rfl⟩
  | stage target slot =>
      cases stepped
      exact ⟨rfl, rfl⟩
  | send target type payload length =>
      cases stepped
      cases send_taken state (reachable_side reached) target type payload length with
      | refused binding system outgoing incoming =>
          rw [system]
          exact ⟨rfl, rfl⟩
      | queued binding session sent numbered fits space b2a rung system arguments
          outgoing incoming =>
          rw [system]
          exact ⟨rfl, rfl⟩
  | receive target =>
      cases stepped
      exact ⟨rfl, rfl⟩

theorem peer_step {state next : State} {label : Label} (reached : machine.Reachable state)
    (peer : label.isPeer = true) (stepped : step state label = some next) (priority : Priority) :
    Undisturbed priority state next := by
  obtain ⟨driver, files⟩ := peer_step_driver reached peer stepped
  have same : next.system.driver.sessionGeneration = state.system.driver.sessionGeneration := by
    rw [driver]
  rcases step_incoming reached stepped same priority with ⟨consumer, incoming⟩
    | ⟨⟨label, rfl, linux⟩, -⟩
  · exact ⟨driver, files, consumer, incoming⟩
  · exact absurd peer (Bool.eq_false_iff.mp linux)

theorem peer_run {state last : State} {labels : List Label} (reached : machine.Reachable state)
    (peers : ∀ label ∈ labels, label.isPeer = true)
    (executed : machine.run state labels = some last)
    (priority : Priority) : Undisturbed priority state last := by
  induction labels generalizing state with
  | nil =>
      obtain rfl : state = last := by simpa [Machine.run] using executed
      exact ⟨rfl, rfl, rfl, List.prefix_rfl⟩
  | cons label labels inductionHypothesis =>
      simp only [Machine.run] at executed
      split at executed
      · cases executed
      · rename_i next stepped
        have first := peer_step reached (peers label List.mem_cons_self) stepped priority
        have rest := inductionHypothesis (.step reached stepped)
          (fun other member => peers other (List.mem_cons_of_mem _ member)) executed
        exact first.trans rest

/-! ### Agreement -/

/-- What a mask says about the read behind it.  `unsent` says that CPU3 published nothing in
between. -/
def Agree (unsent : Prop) (outcome : ReadOutcome) : PollMask → Prop
  | .readable => outcome ≠ .returned (-Errno.again)
  | .none => unsent → outcome = .returned (-Errno.again)
  | .hangup => outcome = .returned (-Errno.nolink)
  | .error => outcome = .returned (-Errno.busy)

/-- The state after the claim of a call. -/
theorem claim_reachable {state : State} (reached : machine.Reachable state)
    (free : state.system.lock = .free) {id : Nat} {file : UserFile}
    (opened : state.system.file? id = some file) :
    machine.Reachable (state.linux (.claim id) (userClaimReader state.system file).2) := by
  have stepped : step state (.linux (.claim id)) =
      some (state.linux (.claim id) (userClaimReader state.system file).2) := by
    simp [step, admits, driverStep, free, lockedStep, opened]
  exact reachable_next reached stepped

/-- An open file sees ACTIVE or OFFLINE. -/
theorem open_state {state : State} (reached : machine.Reachable state) {id : Nat} {file : UserFile}
    (opened : state.system.file? id = some file) :
    state.system.driver.mailmsgState = .active ∨ state.system.driver.mailmsgState = .offline := by
  apply (FilesInvariant.reachable (reachable_system reached)).state
  exact List.ne_nil_of_mem (System.file?_some opened).1

/-- In ACTIVE, poll reports whether something is in the ring. -/
theorem userPoll_active {system : System} (active : system.driver.mailmsgState = .active)
    (session : OpenSession system) (file : UserFile) :
    userPoll system file =
      if (system.hardware.shared.cpu3ToLinux file.priority).consumer =
          (system.hardware.shared.cpu3ToLinux file.priority).producer then .none
      else .readable := by
  have received : endpointHasReceived system.driver.endpoint system.hardware.shared file.priority =
      ringHasData (system.hardware.shared.cpu3ToLinux file.priority) := by
    simp [endpointHasReceived, session.role, session.valid, Role.peer, Shared.ring]
  simp only [userPoll, active, received, ringHasData]
  by_cases empty : (system.hardware.shared.cpu3ToLinux file.priority).consumer =
      (system.hardware.shared.cpu3ToLinux file.priority).producer
  · simp [empty]
  · simp [empty, Ne.symm empty]

/-- A non-blocking iteration on an empty ring of an open session. -/
theorem userRead_empty {system : System} (active : system.driver.mailmsgState = .active)
    (session : OpenSession system) {file : UserFile} (nonblock : file.nonblock = true)
    (copied : Bool) (empty : (system.hardware.shared.cpu3ToLinux file.priority).consumer =
      (system.hardware.shared.cpu3ToLinux file.priority).producer) :
    (userRead system file copied).1 = .returned (-Errno.again) := by
  obtain ⟨ret, ring, message, found, answer, -⟩ := userRead_found active session file copied
  rw [answer]
  cases found with
  | empty nothing => simp [readAnswer, nonblock]
  | incomplete something | invalid something | badCrc something | stale something
  | good something =>
      exact absurd empty something

/-- A mask after the claim, and a read on the file that holds it. -/
theorem claimed_agree {state later : State} {labels : List Label}
    (reached : machine.Reachable state)
    {id : Nat} {file : UserFile} (opened : state.system.file? id = some file)
    (peers : ∀ label ∈ labels, label.isPeer = true)
    (between : machine.run state labels = some later) (copied : Bool) :
    Agree
      ((later.system.hardware.shared.cpu3ToLinux file.priority).producer =
        (state.system.hardware.shared.cpu3ToLinux file.priority).producer)
      (userRead later.system { file with nonblock := true } copied).1
      (userPoll state.system file) := by
  have rest := peer_run reached peers between file.priority
  have reached' : machine.Reachable later := reached.run between
  rcases open_state reached opened with active | offline
  · have active' : later.system.driver.mailmsgState = .active := by
      rw [rest.driver]
      exact active
    have session := (reachable_session reached).active_session active
    have session' := (reachable_session reached').active_session active'
    rw [userPoll_active active session]
    split
    · rename_i empty
      intro unsent
      apply userRead_empty active' session' rfl
      have unmoved : (later.system.hardware.shared.cpu3ToLinux file.priority).consumer =
          (state.system.hardware.shared.cpu3ToLinux file.priority).consumer := rest.consumer
      exact unmoved.trans (empty.trans unsent.symm)
    · rename_i something
      -- The frame that was seen is one that CPU3 sent, and it is still the next one.
      have carries := (reachable_tracked reached).reverse session.nonzero file.priority
      obtain ⟨sent, first⟩ := carries.exists_head something
      have first' : (later.incoming file.priority).head? = some sent := by
        obtain ⟨more, grown⟩ := rest.incoming
        rw [← grown, List.head?_append, first]
        rfl
      obtain ⟨record, -, answer⟩ :=
        read_delivers reached' active' { file with nonblock := true } copied first'
      intro again
      rw [answer] at again
      cases copied with
      | false =>
          have codes : -Errno.fault = -Errno.again := ReadOutcome.returned.inj again
          exact absurd codes (by decide)
      | true => cases again
  · have offline' : later.system.driver.mailmsgState = .offline := by
      rw [rest.driver]
      exact offline
    have mask : userPoll state.system file = .hangup := by simp [userPoll, offline]
    rw [mask, userRead_offline offline']
    rfl

/-- In every run, whatever `poll` reports on an open file, a non-blocking read of 48 bytes before
the next step of the driver agrees. -/
theorem poll_read_agree {state later : State} {labels : List Label}
    (reached : machine.Reachable state)
    (free : state.system.lock = .free) {id : Nat} {file : UserFile}
    (opened : state.system.file? id = some file) (peers : ∀ label ∈ labels, label.isPeer = true)
    (between : machine.run (state.linux (.claim id) (pollCall state.system file).2) labels = some later)
    (copied : Bool) :
    ∃ held, later.system.file? id = some held ∧
      Agree
        ((later.system.hardware.shared.cpu3ToLinux file.priority).producer =
          (state.system.hardware.shared.cpu3ToLinux file.priority).producer)
        (readCall later.system held userFrameBytes copied).1 (pollCall state.system file).1 := by
  have claim := userClaimReader_claim opened
  have reached' := claim_reachable reached free opened
  have after : (pollCall state.system file).2 = (userClaimReader state.system file).2 := by
    simp only [pollCall]
    split <;> rfl
  rw [after] at between
  have rest := peer_run reached' peers between file.priority
  simp only [pollCall]
  generalize userClaimReader state.system file = claimed at *
  cases claim with
  | busy unclaimed taken =>
      refine ⟨file, ?_, ?_⟩
      · rw [System.file?, rest.files]
        exact opened
      · have refused : userClaimReader later.system file = (-Errno.busy, later.system) := by
          have still : later.system.driver.readerOpenCount file.priority ≠ 0 := by
            rw [rest.driver]
            exact taken
          simp [userClaimReader, unclaimed, still]
        simp only [readCall, refused]
        rfl
  | granted next held found priority claimed hardware same =>
      refine ⟨held, ?_, ?_⟩
      · rw [System.file?, rest.files]
        exact found
      · have agree := claimed_agree reached' found peers between copied
        have mask : userPoll next file = userPoll next held := by simp only [userPoll, priority]
        rw [readCall_claimed _ claimed, ← hardware, ← priority, if_neg (not_not_intro rfl), mask]
        exact agree

/-- The theorem at a frame of CPU3 that poll reports: a read at once does not answer `-EAGAIN`. -/
theorem poll_read_agree_demo :
    ∃ state file held, machine.Reachable state ∧ state.system.file? 0 = some file ∧
      (pollCall state.system file).1 = .readable ∧
      (readCall (pollCall state.system file).2 held userFrameBytes true).1 ≠
        .returned (-Errno.again) := by
  have checked : (machine.run (.probed demoProbed)
      (demoOpen ++ [.send 1 MessageType.pong none 0#32])).any (fun state =>
        decide (state.system.lock = .free) && (state.system.file? 0).any fun file =>
          decide ((pollCall state.system file).1 = .readable)) = true := by
    decide +kernel
  obtain ⟨state, executed, passed⟩ := Machine.exists_of_run_any checked
  obtain ⟨free, polled⟩ := Bool.and_eq_true_iff.mp passed
  obtain ⟨file, opened, reported⟩ := (Option.any_eq_true _ _).mp polled
  have mask := of_decide_eq_true reported
  have start : machine.init (.probed demoProbed) := ⟨demoProbed, demoProbed_init, rfl⟩
  have reached : machine.Reachable state := (Machine.Reachable.init start).run executed
  have alone : ∀ label ∈ ([] : List Label), label.isPeer = true := by
    intro label member
    cases member
  obtain ⟨held, -, agree⟩ := poll_read_agree reached (of_decide_eq_true free) opened alone rfl true
  rw [mask] at agree
  exact ⟨state, file, held, reached, opened, mask, agree⟩

end MailMsg.Application
