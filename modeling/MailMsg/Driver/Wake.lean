/-
Module: MailMsg.Driver.Wake
Purpose: What the driver's steps do to the readers' wake-up counters while a device file is open,
  and that a file stays as it is until its own release.
Source: LZAMP/linux/drivers/lzamp_amp_mailmsg.c
Trusted boundary: none
Main exports: DriverLabel.isMailbox, OccupiedStep, occupied_step, reverseEmpty_step,
  System.file?_kept, userClaimReader_held, userRead_sleeps, userRead_offline
-/
import MailMsg.Driver.Files

namespace MailMsg

/-! ### The wake-up counters -/

/-- The steps of CPU3 and of the mailbox interrupt; every other step takes the mutex or only moves
the clock and the work queue. -/
def DriverLabel.isMailbox : DriverLabel → Bool
  | .peer _ | .b2aAcknowledge _ | .rxCallback _ _ => true
  | _ => false

/-- Everything that a step of Linux can do to the session and to the wake-up counters while a file
is open. -/
inductive OccupiedStep (system next : System) : Prop where
  | quiet (state : next.driver.mailmsgState = system.driver.mailmsgState)
      (rxGeneration : next.driver.rxGeneration = system.driver.rxGeneration)
      (b2a : next.hardware.b2a = system.hardware.b2a)
  | offline (active : system.driver.mailmsgState = .active)
      (ended : next.driver.mailmsgState = .offline)
      (woken : ∀ priority, next.driver.rxGeneration priority = system.driver.rxGeneration priority + 1)
      (b2a : next.hardware.b2a = system.hardware.b2a)

/-- Nothing happened. -/
theorem OccupiedStep.refl (system : System) : OccupiedStep system system := .quiet rfl rfl rfl

/-- The data plane wakes nobody up by itself. -/
theorem OccupiedStep.of_data {system next : System} (step : DataStep system next) :
    OccupiedStep system next :=
  .quiet (congrArg Lifecycle.mailmsgState step.lifecycle) step.rxGeneration step.b2a

/-- A refresh of the affinity changes nothing that a reader waits for, or it ends the session and
wakes every reader. -/
theorem OccupiedStep.of_refresh {system next : System} (asked : Driver) (answer : Int)
    (sameState : asked.mailmsgState = system.driver.mailmsgState)
    (sameCounters : asked.rxGeneration = system.driver.rxGeneration)
    (state : system.driver.mailmsgState = .active ∨ system.driver.mailmsgState = .offline)
    (nextState : next.driver.mailmsgState = (refreshAffinityLocked asked answer).mailmsgState)
    (nextCounters : next.driver.rxGeneration = (refreshAffinityLocked asked answer).rxGeneration)
    (b2a : next.hardware.b2a = system.hardware.b2a) : OccupiedStep system next := by
  rcases refreshAffinityLocked_cases asked answer with same | ⟨-, -, -, watched, ended⟩
  · rw [same] at nextState nextCounters
    exact .quiet (nextState.trans sameState) (nextCounters.trans sameCounters) b2a
  · rw [ended] at nextState nextCounters
    have active : system.driver.mailmsgState = .active := by
      rcases state with active | offline
      · exact active
      · rw [sameState, offline] at watched
        cases watched
    refine .offline active nextState ?_ b2a
    intro priority
    rw [nextCounters, ← sameCounters]
    rfl

/-- What an open file implies for the driver. -/
structure Occupied (system : System) : Prop where
  state : system.driver.mailmsgState = .active ∨ system.driver.mailmsgState = .offline
  attempted : system.driver.cpuOnAttempted = true
  counted : system.driver.userOpenCount ≠ 0
  uncontrolled : system.lock ≠ .control

/-- A file is open in ACTIVE or OFFLINE only. -/
theorem occupied {system : System} (session : SessionInvariant system)
    (files : FilesInvariant system) (isOpen : system.files ≠ []) : Occupied system := by
  have state := files.state isOpen
  refine ⟨state, ?_, ?_, ?_⟩
  · refine (session.session ?_).attempted
    rcases state with active | offline
    · simp [active]
    · simp [offline]
  · intro zero
    exact isOpen (files.none_open zero)
  · intro held
    have pending := session.control held
    rcases state with active | offline
    · rw [active] at pending
      cases pending
    · rw [offline] at pending
      cases pending

namespace Occupied

variable {system next : System} {label : DriverLabel}

/-- No lifecycle reply is awaited. -/
theorem notPending (hasFile : Occupied system) :
    ¬ system.driver.mailmsgState.pendingReply = true := by
  rcases hasFile.state with active | offline
  · simp [active, SessionState.pendingReply]
  · simp [offline, SessionState.pendingReply]

/-- The sampler wakes every reader when it ends the session. -/
theorem affinityWork (hasFile : Occupied system) (answer : Int) :
    OccupiedStep system (affinityWork system answer) := by
  simp only [MailMsg.affinityWork]
  split
  · exact .refl system
  · refine .of_refresh
      { system.driver with
        affinityMonitorCount := system.driver.affinityMonitorCount + 1 } answer rfl
      rfl hasFile.state ?_ ?_ rfl
    · split <;> rfl
    · split <;> rfl

/-- The queries of AFFINITY_INFO may end the session; the deadline handlers have nothing to do while
a file is open. -/
theorem work (hasFile : Occupied system) (work : LifecycleWork system label next) :
    OccupiedStep system next := by
  cases work with
  | affinityWork answer => exact hasFile.affinityWork answer
  | lifecycleTimeoutWork answer =>
      rw [lifecycleTimeoutWork, if_pos hasFile.notPending]
      exact .refl system
  | controlEnter =>
      rw [controlEnter, if_pos hasFile.notPending]
      exact .refl system
  | affinityState answer =>
      simp only [affinityStateShow]
      split
      · exact .refl system
      · exact .of_refresh system.driver answer rfl rfl hasFile.state rfl rfl rfl
  | startAsked answer cpuOn =>
      exact .of_refresh system.driver answer rfl rfl hasFile.state rfl rfl rfl
  | rearmAsked answer =>
      exact .of_refresh system.driver answer rfl rfl hasFile.state rfl rfl rfl

/-- An open file keeps the image, the launch, the rearm and the stop away. -/
theorem effect (hasFile : Occupied system) (bound : system.driver.endpoint.BoundBy .linux)
    (effect : LockedEffect system label next) : OccupiedStep system next := by
  cases effect with
  | unchanged => exact .refl system
  | work work => exact hasFile.work work
  | imageWritten imageMemory free => simp [hasFile.attempted] at free
  | launched cpuOn launched unsent =>
      have unattempted := launched.notAttempted
      simp [hasFile.attempted] at unattempted
  | rearmed attempted noFiles => exact absurd noFiles hasFile.counted
  | stopped active passed => exact absurd (stopPreflightLocked_ok passed).1 hasFile.counted
  | opened | released | claimed | responding => exact .quiet rfl rfl rfl
  | data operation => exact .of_data (operation.step bound)

end Occupied

/-- With an open file the only step that leaves ACTIVE goes to OFFLINE, and it moves every wake-up
counter; no other step of Linux moves one. -/
theorem occupied_step {system next : System} {label : DriverLabel}
    (session : SessionInvariant system) (files : FilesInvariant system) (isOpen : system.files ≠ [])
    (taken : driverStep system label = some next) (linux : label.isMailbox = false) :
    OccupiedStep system next := by
  have hasFile := occupied session files isOpen
  cases driverStep_kind taken with
  | tick elapsed => exact .quiet rfl rfl rfl
  | peer write | b2aAcknowledge channel | rxCallback channel message => cases linux
  | dequeue item => cases item <;> exact .quiet rfl rfl rfl
  | control held => exact absurd held hasFile.uncontrolled
  | response priority lines held =>
      exact .of_data (responseIterate_step system priority lines session.bound).1
  | locked free taken => exact hasFile.effect session.bound (lockedStep_effect taken)

/-! ### The reverse rings

A read sleeps only on an empty ring.  What the driver does meanwhile can only empty it further.
-/

/-- A reverse ring holds nothing. -/
def System.reverseEmpty (system : System) (priority : Priority) : Prop :=
  (system.hardware.shared.cpu3ToLinux priority).consumer =
    (system.hardware.shared.cpu3ToLinux priority).producer

/-- Nothing that Linux does puts a frame into a reverse ring. -/
theorem reverseEmpty_step {system next : System} {label : DriverLabel} {priority : Priority}
    (session : SessionInvariant system) (taken : driverStep system label = some next)
    (linux : label.isMailbox = false) (empty : system.reverseEmpty priority) :
    next.reverseEmpty priority := by
  cases driverStep_region session.bound taken with
  | same shared peerWrites =>
      rw [System.reverseEmpty, shared]
      exact empty
  | peer write isPeer hardware peerWrites =>
      rw [isPeer] at linux
      cases linux
  | sent sender active effect peerWrites =>
      rw [System.reverseEmpty, effect.reverse]
      exact empty
  | @received taker receiver effect peerWrites =>
      cases effect with
      | nothing same =>
          rw [System.reverseEmpty, same]
          exact empty
      | popped released =>
          rw [System.reverseEmpty] at empty ⊢
          rw [released]
          by_cases here : priority = taker
          · subst here
            have still : (ringPop (system.hardware.shared.cpu3ToLinux priority)).2.1 =
                system.hardware.shared.cpu3ToLinux priority := by
              simp [ringPop, empty]
            simpa [Shared.setRing, still] using empty
          · simpa [Shared.setRing, Function.update_of_ne here] using empty
  | initialised cpuOn launched =>
      rw [System.reverseEmpty, launched.region]
      rfl

/-! ### Open files -/

/-- A claim marks a file in place. -/
theorem find?_claim {files : List UserFile} {id owner : Nat} {file : UserFile}
    (found : files.find? (fun candidate => candidate.id == id) = some file) :
    (files.map fun other => if other.id = owner then { other with readerClaimed := true }
      else other).find?
        (fun candidate => candidate.id == id) =
      some (if file.id = owner then { file with readerClaimed := true } else file) := by
  have sameKey : ((fun candidate : UserFile => candidate.id == id) ∘ fun other : UserFile =>
      if other.id = owner then { other with readerClaimed := true } else other) =
      fun candidate => candidate.id == id := by
    funext candidate
    simp only [Function.comp]
    split <;> rfl
  rw [List.find?_map, sameKey, found]
  rfl

/-- An open file keeps its priority and its claim through every step but its own release. -/
theorem System.file?_kept {system next : System} {label : DriverLabel} {id : Nat} {file : UserFile}
    (session : SessionInvariant system) (taken : driverStep system label = some next)
    (found : system.file? id = some file) (kept : label ≠ .release id) :
    ∃ later, next.file? id = some later ∧ later.priority = file.priority ∧
      (file.readerClaimed = true → later.readerClaimed = true) := by
  have sameId := (System.file?_some found).2
  cases driverStep_files session.bound taken with
  | same counts files nextFile =>
      refine ⟨file, ?_, rfl, fun claimed => claimed⟩
      rw [System.file?, files]
      exact found
  | opened added active addedId unclaimed generation epoch value =>
      refine ⟨file, ?_, rfl, fun claimed => claimed⟩
      rw [value, System.file?, List.find?_append]
      rw [System.file?] at found
      rw [found]
      rfl
  | released gone member isRelease value =>
      refine ⟨file, ?_, rfl, fun claimed => claimed⟩
      have other : gone.id ≠ id := by
        rintro rfl
        exact kept isRelease
      rw [value, System.file?, userRelease, List.find?_filter]
      rw [System.file?] at found
      rw [← found]
      congr 1
      funext candidate
      by_cases same : candidate.id = id
      · simp [same, Ne.symm other]
      · simp [same]
  | claimed owner member unclaimed free value =>
      rw [value]
      refine ⟨if file.id = owner.id then { file with readerClaimed := true } else file, ?_, ?_, ?_⟩
      · exact find?_claim found
      · split <;> rfl
      · intro claimed
        split
        · rfl
        · exact claimed

/-- The claim of a file that is granted is held. -/
theorem userClaimReader_held {system : System} {id : Nat} {file : UserFile}
    (found : system.file? id = some file) (granted : (userClaimReader system file).1 = 0) :
    ∃ later, (userClaimReader system file).2.file? file.id = some later ∧
      later.priority = file.priority ∧ later.readerClaimed = true := by
  obtain ⟨-, rfl⟩ := System.file?_some found
  simp only [userClaimReader] at granted ⊢
  split
  · rename_i claimed
    exact ⟨file, found, rfl, claimed⟩
  · rename_i unclaimed
    rw [if_neg unclaimed] at granted
    split
    · rename_i busy
      rw [if_pos busy] at granted
      cases granted
    · refine ⟨_, find?_claim found, ?_, ?_⟩
      · rw [if_pos rfl]
      · rw [if_pos rfl]

/-! ### One iteration of a read -/

/-- EMPTY means that the indices are equal. -/
theorem ringPop_empty {ring : Ring} (empty : (ringPop ring).1 = .empty) :
    ring.consumer = ring.producer := by
  by_contra different
  simp only [ringPop, if_neg different] at empty
  repeat' split at empty
  all_goals cases empty

/-- Only an empty ring answers with the code of EMPTY. -/
theorem EndpointResult.eq_empty {result : EndpointResult}
    (code : result.code = RingResult.empty.code) : result = .ring .empty := by
  cases result with
  | ring result => cases result <;> first | rfl | cases code
  | invalid | protocolMismatch | staleSession | staleFrame => cases code

/-- A receive that answers EMPTY has found its ring empty. -/
theorem linuxReceive_empty {system : System} {priority : Priority}
    (bound : system.driver.endpoint.BoundBy .linux)
    (empty : (linuxReceive system priority).1.ret = .ring .empty) :
    system.reverseEmpty priority := by
  have spec := endpointReceive_spec system.driver.endpoint system.hardware.shared priority
  simp only [linuxReceive] at empty
  generalize endpointReceive system.driver.endpoint system.hardware.shared priority = outcome at *
  cases spec with
  | refused ret notStale sameEndpoint sameShared nothing cause => exact absurd empty (ret .empty)
  | popped role hasRole session ret released message counted =>
      obtain rfl := bound role hasRole
      rw [empty, receiveResult] at ret
      split at ret
      · cases ret
      · exact ringPop_empty (EndpointResult.ring.inj ret).symm

/-- An iteration that goes to sleep found the session ACTIVE and the ring empty. -/
theorem userRead_sleeps {system : System} {file : UserFile} {copied : Bool}
    (bound : system.driver.endpoint.BoundBy .linux)
    (sleeps : (userRead system file copied).1 = .sleeps) :
    system.driver.mailmsgState = .active ∧ system.reverseEmpty file.priority := by
  by_cases isOpen : dataGateLocked system.driver = 0
  · refine ⟨(dataGateLocked_eq_zero_iff _).mp isOpen,
      linuxReceive_empty bound (EndpointResult.eq_empty ?_)⟩
    simp only [userRead, isOpen, ne_eq, not_true_eq_false, if_false] at sleeps
    by_contra other
    rw [if_pos other] at sleeps
    repeat' split at sleeps
    all_goals cases sleeps
  · -- No refusal of the gate has the code of an empty ring.
    have refused : dataGateLocked system.driver ≠ RingResult.empty.code := by
      unfold dataGateLocked
      split <;> decide
    simp only [userRead, isOpen, ne_eq, not_false_eq_true, if_true, if_false, refused] at sleeps
    repeat' split at sleeps
    all_goals cases sleeps

/-- An iteration in OFFLINE returns -ENOLINK and takes nothing. -/
theorem userRead_offline {system : System} (offline : system.driver.mailmsgState = .offline)
    (file : UserFile) (copied : Bool) :
    userRead system file copied = (.returned (-Errno.nolink), system) := by
  have gate : dataGateLocked system.driver = -Errno.nolink := by
    simp [dataGateLocked, offline]
  simp only [userRead, gate]
  simp [Errno.nolink, Errno.again]

end MailMsg
