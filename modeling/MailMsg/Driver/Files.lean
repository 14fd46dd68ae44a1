/-
Module: MailMsg.Driver.Files
Purpose: The open device files over all runs: the counters count them, they live in ACTIVE and
  OFFLINE of one session only.
Source: LZAMP/linux/drivers/lzamp_amp_mailmsg.c
Trusted boundary: none
Main exports: FilesStep, driverStep_files, FilesInvariant, open_files_stay_in_session
-/
import MailMsg.Driver.Safety
import MailMsg.Lib.Keyed

namespace MailMsg

/-! ### What a step does to the files

`FilesStep` has a case for each of the three file operations that write the list: `open`, `release`
and the claim of the reader, which is the first `read` of a file.  Every other entry point keeps the
list and the counts.
-/

/-- The files holding the reader claim of a priority. -/
def UserFile.claims (priority : Priority) (file : UserFile) : Bool :=
  file.priority == priority && file.readerClaimed

/-- The number of reader claims of a priority. -/
def System.readers (system : System) (priority : Priority) : Nat :=
  system.files.countP (UserFile.claims priority)

/-- Everything that one step can do to the open files and their counters. -/
inductive FilesStep (system : System) (label : DriverLabel) (next : System) : Prop where
  | same (counts : next.driver.toUserCounts = system.driver.toUserCounts)
      (files : next.files = system.files) (nextFile : next.nextFile = system.nextFile)
  | opened (file : UserFile) (active : system.driver.mailmsgState = .active)
      (id : file.id = system.nextFile) (unclaimed : file.readerClaimed = false)
      (generation : file.generation = system.driver.sessionGeneration)
      (epoch : file.epoch = system.epoch)
      (value : next =
        { system with
          driver := { system.driver with userOpenCount := system.driver.userOpenCount + 1 }
          files := system.files ++ [file]
          nextFile := system.nextFile + 1 })
  | released (file : UserFile) (member : file ∈ system.files)
      (isRelease : label = .release file.id) (value : next = userRelease system file)
  | claimed (file : UserFile) (member : file ∈ system.files)
      (unclaimed : file.readerClaimed = false)
      (free : system.driver.readerOpenCount file.priority = 0)
      (value : next =
        { system with
          driver :=
            { system.driver with
              readerOpenCount := Function.update system.driver.readerOpenCount file.priority
                (system.driver.readerOpenCount file.priority + 1) }
          files := system.files.map fun other =>
            if other.id = file.id then { other with readerClaimed := true } else other })

/-- The data operations of an open file leave all files and counters alone. -/
theorem FilesStep.of_data {system next : System} (step : DataStep system next)
    (label : DriverLabel) : FilesStep system label next :=
  .same step.counts step.files step.nextFile

/-- A file that was found by its number is open and has this number. -/
theorem System.file?_some {system : System} {id : Nat} {file : UserFile}
    (found : system.file? id = some file) : file ∈ system.files ∧ file.id = id := by
  refine ⟨List.mem_of_find?_eq_some found, ?_⟩
  simpa using List.find?_some found

/-- The effect of an entry point, as far as it concerns the files.  A release and a claim name the
file that they work on. -/
theorem LockedEffect.files {system next : System} {label : DriverLabel}
    (effect : LockedEffect system label next) (bound : system.driver.endpoint.BoundBy .linux) :
    FilesStep system label next := by
  cases effect with
  | unchanged | imageWritten | responding => exact .same rfl rfl rfl
  | work work =>
      have record := work.record
      exact .same record.identity.counts record.files record.nextFile
  | launched cpuOn launched unsent => exact .same launched.counts launched.files launched.nextFile
  | rearmed =>
      exact .same (refreshAffinityLocked_identity system.driver affinityOff).counts rfl rfl
  | stopped active passed =>
      have requested := requestStop_spec system bound
      exact .same requested.counts requested.files requested.nextFile
  | opened active => exact .opened _ active rfl rfl rfl rfl rfl
  | @released id file found =>
      obtain ⟨member, isFile⟩ := System.file?_some found
      exact .released file member (by rw [isFile]) rfl
  | @claimed id file found unclaimed free =>
      exact .claimed file (System.file?_some found).1 unclaimed free rfl
  | data operation => exact .of_data (operation.step bound) _

/-- `control_work` receives for itself, and no file sees it. -/
theorem controlIterate_files (system : System) (bound : system.driver.endpoint.BoundBy .linux) :
    FilesStep system .controlIterate (controlIterate system) := by
  have step := (linuxReceive_effect system .critical bound).data
  simp only [controlIterate, controlResponse]
  repeat' split
  all_goals first
    | exact .same step.counts step.files step.nextFile
    | exact .same ((setTimeoutLocked_identity _).counts.trans step.counts) step.files step.nextFile

/-- Every step opens, releases or claims one file, or leaves all files alone. -/
theorem driverStep_files {system next : System} {label : DriverLabel}
    (bound : system.driver.endpoint.BoundBy .linux) (taken : driverStep system label = some next) :
    FilesStep system label next := by
  cases driverStep_kind taken with
  | tick elapsed | b2aAcknowledge channel | rxCallback channel message | peer write =>
      exact .same rfl rfl rfl
  | dequeue item =>
      cases item <;> exact .same rfl rfl rfl
  | control held => exact controlIterate_files system bound
  | response priority lines held =>
      exact .of_data (responseIterate_step system priority lines bound).1 _
  | locked free taken => exact (lockedStep_effect taken).files bound

/-! ### The invariant -/

/-- The counters count the open files and their claims, and the files belong to the session that
runs or has just gone offline. -/
structure FilesInvariant (system : System) : Prop where
  openCount : system.driver.userOpenCount = system.files.length
  readers : ∀ priority, system.driver.readerOpenCount priority = system.readers priority
  exclusive : ∀ priority, system.readers priority ≤ 1
  distinct : (system.files.map UserFile.id).Nodup
  fresh : ∀ file ∈ system.files, file.id < system.nextFile
  state : system.files ≠ [] →
    system.driver.mailmsgState = .active ∨ system.driver.mailmsgState = .offline
  current : ∀ file ∈ system.files,
    file.generation = system.driver.sessionGeneration ∧ file.epoch = system.epoch

namespace FilesInvariant

variable {system next : System} {label : DriverLabel}

/-- After probe no file is open. -/
theorem initial (start : driverMachine.init system) : FilesInvariant system := by
  obtain ⟨config, image, hardware, jiffies, rfl⟩ := start
  refine ⟨?_, ?_, ?_, ?_, ?_, ?_, ?_⟩ <;> simp [System.probed, Driver.probed, System.readers]

/-- No file is open where the counter is zero. -/
theorem none_open (invariant : FilesInvariant system) (zero : system.driver.userOpenCount = 0) :
    system.files = [] := by
  rw [invariant.openCount] at zero
  exact List.length_eq_zero_iff.mp (by exact_mod_cast zero)

/-- A file that is taken out of the list, and the claims that remain. -/
theorem readers_split (invariant : FilesInvariant system) {file : UserFile}
    (member : file ∈ system.files) (priority : Priority) :
    system.readers priority =
      (system.files.filter fun other => other.id ≠ file.id).countP (UserFile.claims priority) +
        if file.claims priority then 1 else 0 := by
  have split := (Keyed.perm_cons_filter invariant.distinct member).countP_eq
    (UserFile.claims priority)
  rw [List.countP_cons] at split
  exact split

/-- While the state allows no open file, none is open. -/
theorem none_open_of_state (invariant : FilesInvariant system)
    (notActive : system.driver.mailmsgState ≠ .active)
    (notOffline : system.driver.mailmsgState ≠ .offline) : system.files = [] := by
  by_contra some
  rcases invariant.state some with active | offline
  · exact notActive active
  · exact notOffline offline

/-! ### One step

One lemma for each case of `FilesStep`.  The lifecycle matters only for the steps that keep the
files: a stop and a rearm ask for a zero count, and in the other states where the session changes no
file is open.
-/

/-- Files that stay open through a step of the lifecycle are still in their session. -/
theorem kept (session : SessionInvariant system) (invariant : FilesInvariant system)
    (lifecycle : LifecycleStep system label next)
    (counts : next.driver.toUserCounts = system.driver.toUserCounts)
    (files : next.files = system.files) (nextFile : next.nextFile = system.nextFile) :
    FilesInvariant next := by
  have openCount : next.driver.userOpenCount = next.files.length := by
    rw [congrArg UserCounts.userOpenCount counts, invariant.openCount, files]
  have readersEq : ∀ priority, next.readers priority = system.readers priority := by
    intro priority
    simp only [System.readers, files]
  -- All but the state and the session of the files is kept by the counts and the list.
  have base : (next.files ≠ [] → (next.driver.mailmsgState = .active ∨
        next.driver.mailmsgState = .offline)) →
      (∀ file ∈ next.files,
        file.generation = next.driver.sessionGeneration ∧ file.epoch = next.epoch) →
      FilesInvariant next := by
    intro state current
    refine ⟨openCount, ?_, ?_, ?_, ?_, state, current⟩
    · intro priority
      rw [readersEq, ← invariant.readers priority, congrArg UserCounts.readerOpenCount counts]
    · intro priority
      rw [readersEq]
      exact invariant.exclusive priority
    · rw [files]
      exact invariant.distinct
    · rw [files, nextFile]
      exact invariant.fresh
  have closed : system.files = [] → FilesInvariant next := by
    intro empty
    refine base ?_ ?_ <;> simp [files, empty]
  have sameSession : SameSession system next →
      (system.files ≠ [] → next.driver.mailmsgState = .active ∨
        next.driver.mailmsgState = .offline) → FilesInvariant next := by
    intro same state
    refine base (files ▸ state) ?_
    rw [files, same.sessionGeneration, same.epoch]
    exact invariant.current
  cases lifecycle with
  | quiet same state seen => exact sameSession same fun some => state ▸ invariant.state some
  | offline same answer poweredOn seenOn watched state => exact sameSession same fun _ => .inr state
  | startTimeout same expired starting =>
      exact closed (invariant.none_open_of_state (by simp [starting]) (by simp [starting]))
  | stopTimeout same expired stopping =>
      exact closed (invariant.none_open_of_state (by simp [stopping]) (by simp [stopping]))
  | ready response ready =>
      exact closed (invariant.none_open_of_state (by simp [ready.starting]) (by simp [ready.starting]))
  | refused response refused =>
      exact closed
        (invariant.none_open_of_state (by simp [refused.stopping]) (by simp [refused.stopping]))
  | stop issued => exact closed (invariant.none_open issued.noFiles)
  | launched cpuOn launched =>
      have unarmed := session.launched_unarmed launched
      exact closed (invariant.none_open_of_state (by simp [unarmed]) (by simp [unarmed]))
  | rearmed rearmed => exact closed (invariant.none_open rearmed.noFiles)

/-- A new file takes a number above all others and has claimed nothing. -/
theorem opened (invariant : FilesInvariant system) {file : UserFile}
    (active : system.driver.mailmsgState = .active) (id : file.id = system.nextFile)
    (unclaimed : file.readerClaimed = false)
    (generation : file.generation = system.driver.sessionGeneration)
    (epoch : file.epoch = system.epoch) :
    FilesInvariant
      { system with
        driver := { system.driver with userOpenCount := system.driver.userOpenCount + 1 }
        files := system.files ++ [file]
        nextFile := system.nextFile + 1 } := by
  have noClaim : ∀ priority, file.claims priority = false := by
    simp [UserFile.claims, unclaimed]
  have readersEq : ∀ priority,
      (system.files ++ [file]).countP (UserFile.claims priority) = system.readers priority := by
    intro priority
    simp [System.readers, List.countP_append, noClaim]
  refine ⟨?_, ?_, ?_, ?_, ?_, fun _ => .inl active, ?_⟩
  · simp [invariant.openCount]
  · intro priority
    exact (invariant.readers priority).trans (by rw [← readersEq]; rfl)
  · intro priority
    exact (readersEq priority).le.trans (invariant.exclusive priority)
  · rw [List.map_append, List.nodup_append]
    refine ⟨invariant.distinct, by simp, ?_⟩
    intro known old added new
    obtain ⟨other, member, rfl⟩ := List.mem_map.mp old
    have below := invariant.fresh other member
    simp only [List.map_cons, List.map_nil, List.mem_singleton] at new
    omega
  · intro other member
    rcases List.mem_append.mp member with old | new
    · exact Nat.lt_succ_of_lt (invariant.fresh other old)
    · rw [List.mem_singleton.mp new, id]
      exact Nat.lt_succ_self _
  · intro other member
    rcases List.mem_append.mp member with old | new
    · exact invariant.current other old
    · rw [List.mem_singleton.mp new]
      exact ⟨generation, epoch⟩

/-- The file that is taken out takes its own claim with it. -/
theorem released (invariant : FilesInvariant system) {file : UserFile}
    (member : file ∈ system.files) : FilesInvariant (userRelease system file) := by
  have others : ∀ other ∈ system.files.filter (fun other => other.id ≠ file.id),
      other ∈ system.files := fun other kept => (List.mem_filter.mp kept).1
  have length := (Keyed.perm_cons_filter invariant.distinct member).length_eq
  rw [List.length_cons] at length
  refine ⟨?_, ?_, ?_, ?_, ?_, ?_, ?_⟩
  · simp only [userRelease, invariant.openCount]
    omega
  · intro priority
    have split := invariant.readers_split member priority
    have count := invariant.readers priority
    simp only [userRelease, System.readers]
    by_cases claimed : file.readerClaimed = true
    · rw [if_pos claimed]
      by_cases same : priority = file.priority
      · subst same
        rw [if_pos (by simp [UserFile.claims, claimed])] at split
        rw [Function.update_self]
        omega
      · rw [if_neg (by simp [UserFile.claims, Ne.symm same])] at split
        rw [Function.update_of_ne same]
        omega
    · rw [if_neg (by simp [UserFile.claims, claimed])] at split
      rw [if_neg claimed]
      omega
  · intro priority
    have split := invariant.readers_split member priority
    have one := invariant.exclusive priority
    change (system.files.filter fun other => other.id ≠ file.id).countP
      (UserFile.claims priority) ≤ 1
    omega
  · exact invariant.distinct.sublist (List.filter_sublist.map _)
  · exact fun other kept => invariant.fresh other (others other kept)
  · intro some
    refine invariant.state ?_
    intro empty
    rw [empty] at member
    cases member
  · exact fun other kept => invariant.current other (others other kept)

/-- A claim is given only where the count of the ring is zero, so it is the first one. -/
theorem claimed (invariant : FilesInvariant system) {file : UserFile} (member : file ∈ system.files)
    (unclaimed : file.readerClaimed = false)
    (free : system.driver.readerOpenCount file.priority = 0) :
    FilesInvariant
      { system with
        driver :=
          { system.driver with
            readerOpenCount := Function.update system.driver.readerOpenCount file.priority
              (system.driver.readerOpenCount file.priority + 1) }
        files := system.files.map fun other =>
          if other.id = file.id then { other with readerClaimed := true } else other } := by
  -- Up to order, marking one file is taking it out and putting the marked one in.
  have marked := Keyed.map_replace_perm invariant.distinct member
    fun other => { other with readerClaimed := true }
  have counted : ∀ priority,
      (system.files.map fun other =>
        if other.id = file.id then { other with readerClaimed := true } else other).countP
          (UserFile.claims priority) =
        system.readers priority + if file.priority = priority then 1 else 0 := by
    intro priority
    have split := invariant.readers_split member priority
    rw [if_neg (by simp [UserFile.claims, unclaimed])] at split
    rw [marked.countP_eq, List.countP_cons, split, Nat.add_zero]
    simp [UserFile.claims]
  have kept : ∀ other ∈ system.files.map (fun other =>
      if other.id = file.id then { other with readerClaimed := true } else other),
      ∃ original ∈ system.files, other.id = original.id ∧ other.generation = original.generation ∧
        other.epoch = original.epoch := by
    intro other listed
    obtain ⟨original, found, rfl⟩ := List.mem_map.mp listed
    refine ⟨original, found, ?_⟩
    split <;> exact ⟨rfl, rfl, rfl⟩
  refine ⟨?_, ?_, ?_, ?_, ?_, ?_, ?_⟩
  · simp [invariant.openCount]
  · intro priority
    have count := invariant.readers priority
    simp only [System.readers] at counted ⊢
    rw [counted priority]
    by_cases same : priority = file.priority
    · subst same
      simp [count, System.readers]
    · rw [Function.update_of_ne same, if_neg (Ne.symm same), count]
      simp [System.readers]
  · intro priority
    have one := invariant.exclusive priority
    have count := invariant.readers priority
    change (system.files.map fun other =>
      if other.id = file.id then { other with readerClaimed := true } else other).countP
        (UserFile.claims priority) ≤ 1
    rw [counted priority]
    by_cases same : file.priority = priority
    · rw [← same, free] at count
      rw [if_pos same, ← same]
      omega
    · rw [if_neg same]
      omega
  · have ids : (system.files.map fun other =>
        if other.id = file.id then { other with readerClaimed := true }
          else other).map UserFile.id =
        system.files.map UserFile.id := by
      rw [List.map_map]
      refine List.map_congr_left ?_
      intro other _
      simp only [Function.comp_apply]
      split <;> rfl
    exact ids ▸ invariant.distinct
  · intro other listed
    obtain ⟨original, found, id, -, -⟩ := kept other listed
    exact id ▸ invariant.fresh original found
  · intro _
    exact invariant.state (List.ne_nil_of_mem member)
  · intro other listed
    obtain ⟨original, found, -, generation, epoch⟩ := kept other listed
    rw [generation, epoch]
    exact invariant.current original found

/-- Only the steps that leave the files alone need the lifecycle: `open`, `release` and the claim do
not move it. -/
theorem step (session : SessionInvariant system) (invariant : FilesInvariant system)
    (taken : driverStep system label = some next) : FilesInvariant next := by
  have lifecycle := driverStep_lifecycle session.bound session.control taken
  cases driverStep_files session.bound taken with
  | same counts files nextFile => exact invariant.kept session lifecycle counts files nextFile
  | opened file active id unclaimed generation epoch value =>
      rw [value]
      exact invariant.opened active id unclaimed generation epoch
  | released file member isRelease value =>
      rw [value]
      exact invariant.released member
  | claimed file member unclaimed free value =>
      rw [value]
      exact invariant.claimed member unclaimed free

/-- In every run. -/
theorem reachable (reached : driverMachine.Reachable system) : FilesInvariant system :=
  reached.invariant (fun _ start => initial start) fun _ _ _ before invariant taken =>
    invariant.step (SessionInvariant.reachable before) taken

/-- Two files that hold the claim of one priority are the same file. -/
theorem claim_unique (invariant : FilesInvariant system) {priority : Priority}
    {file other : UserFile} (member : file ∈ system.files) (otherMember : other ∈ system.files)
    (claim : file.claims priority = true) (otherClaim : other.claims priority = true) :
    other = file := by
  have split := invariant.readers_split member priority
  have one := invariant.exclusive priority
  rw [if_pos claim] at split
  have sameId : other.id = file.id := by
    by_contra different
    have remaining : other ∈ system.files.filter fun other => other.id ≠ file.id :=
      List.mem_filter.mpr ⟨otherMember, by simpa using different⟩
    have positive : 0 < (system.files.filter fun other => other.id ≠ file.id).countP
        (UserFile.claims priority) := List.countP_pos_iff.mpr ⟨other, remaining, otherClaim⟩
    omega
  exact List.inj_on_of_nodup_map invariant.distinct otherMember member sameId

end FilesInvariant

/-! ### Files and sessions -/

/-- In every run: the open count is the number of open files; each reader count is the number of
claims of its priority and at most one; an open file means ACTIVE or OFFLINE; every open file
belongs to the current session, with no start or rearm since it was opened; and no file is open
while `control_work` owns p0. -/
theorem open_files_stay_in_session {system : System} (reached : driverMachine.Reachable system) :
    system.driver.userOpenCount = system.files.length ∧
      (∀ priority, system.driver.readerOpenCount priority = system.readers priority ∧
        system.readers priority ≤ 1) ∧
      (system.files ≠ [] →
        system.driver.mailmsgState = .active ∨ system.driver.mailmsgState = .offline) ∧
      (∀ file ∈ system.files, file.generation = system.driver.sessionGeneration ∧
        file.epoch = system.epoch) ∧
      (system.driver.mailmsgState.pendingReply = true ∨ system.lock = .control →
        system.files = [] ∧ ∀ priority, system.readers priority = 0) := by
  have session := SessionInvariant.reachable reached
  have invariant := FilesInvariant.reachable reached
  refine ⟨invariant.openCount, fun priority =>
    ⟨invariant.readers priority, invariant.exclusive priority⟩, invariant.state, invariant.current,
    ?_⟩
  intro owned
  have pending : system.driver.mailmsgState.pendingReply = true := by
    rcases owned with pending | held
    · exact pending
    · exact session.control held
  have empty : system.files = [] := by
    refine invariant.none_open_of_state ?_ ?_ <;> intro state <;>
      simp [state, SessionState.pendingReply] at pending
  exact ⟨empty, by simp [System.readers, empty]⟩

/-- Two files on p1, the second of which claims the reader. -/
def demoFiles : List DriverLabel :=
  demoActivation ++ [.openFile 1 false, .openFile 1 true, .claim 1]

/-- The theorem at a run with two open files and one claim. -/
theorem open_files_stay_in_session_demo :
    ∃ system, driverMachine.run demoProbed demoFiles = some system ∧ system.files.length = 2 ∧
      system.driver.userOpenCount = 2 ∧ system.readers 1 = 1 ∧
      (system.driver.mailmsgState = .active ∨ system.driver.mailmsgState = .offline) := by
  have checked : (driverMachine.run demoProbed demoFiles).any (fun system =>
      system.files.length = 2 ∧ system.readers 1 = 1) = true := by
    decide +kernel
  obtain ⟨system, executed, passed⟩ := driverMachine.exists_of_run_any checked
  obtain ⟨two, one⟩ := of_decide_eq_true passed
  obtain ⟨openCount, -, state, -⟩ :=
    open_files_stay_in_session (Machine.Reachable.run (.init demoProbed_init) executed)
  refine ⟨system, executed, two, by rw [openCount, two]; rfl, one, state ?_⟩
  intro empty
  rw [empty] at two
  cases two

end MailMsg
