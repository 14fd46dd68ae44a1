/-
Module: MailMsg.Driver.Reading
Purpose: Any sequence of reads on one device file, against any other step of Linux and any CPU3.  A
  read hands out every valid frame that it takes, exactly when `copy_to_user` does not fail behind
  such a frame.
Source: LZAMP/linux/drivers/lzamp_amp_mailmsg.c (r1_amp_mailmsg_user_read),
  LZAMP/protocol/mailmsg/mailmsg.c (mailmsg_ring_pop)
Trusted boundary: none
Main exports: Reading.Effect, Reading.Call, Reading.machine, Reading.NothingLost,
  Reading.reads_lose_nothing_iff, Reading.fault_loses_frame
-/
import MailMsg.Driver.Exclusive
import MailMsg.Driver.Records

namespace MailMsg.Reading

/-! ### Data -/

/-- A committed frame that passes the checks of a pop and carries the session's generation. -/
def validFrame (generation : U32) (frame : Message) : Bool :=
  decide (frame.commit = frame.sequence) && !frame.malformed &&
    decide (frame.crc32 = frameCrc32 frame) && decide (frame.generation = generation)

/-- What one critical section of a read did to the region, with the channel of its file and the
generation of the session. -/
structure Effect where
  priority : Priority
  generation : U32
  before : Shared
  after : Shared

namespace Effect

variable (effect : Effect)

/-- The frame at the head of the channel's ring. -/
def frame : Message := (effect.before.cpu3ToLinux effect.priority).head

/-- That frame was taken. -/
def removes : Bool :=
  decide ((effect.after.cpu3ToLinux effect.priority).consumer ≠
    (effect.before.cpu3ToLinux effect.priority).consumer)

def valid : Bool := validFrame effect.generation effect.frame

/-- The record of that frame. -/
def record : UserFrame := userFrameOf effect.priority effect.frame

/-- Nothing in the region changed. -/
def kept : Prop := effect.after = effect.before

end Effect

/-- What a read returns. -/
inductive Result where
  | delivered (record : UserFrame)
  | failed (errno : Int)
  /-- A signal ends the wait. -/
  | interrupted

/-- A read that has returned, with the effects of its critical sections. -/
structure Call where
  effects : List Effect
  result : Result

/-- Where the reader stands, with the effects of the running call. -/
inductive Position where
  | idle
  /-- At the head of the loop. -/
  | looping (effects : List Effect)
  /-- `rx_generation` is read and the mutex not yet taken. -/
  | receiving (generation : U32) (effects : List Effect)
  /-- The ring was empty. -/
  | waiting (generation : U32) (effects : List Effect)

/-- The effects of the running call. -/
def Position.effects : Position → List Effect
  | .idle => []
  | .looping effects | .receiving _ effects | .waiting _ effects => effects

/-- The driver and one reader. -/
structure State where
  system : System
  position : Position
  calls : List Call

/-- One step. -/
inductive Label where
  /-- Any other step of Linux, and the writes of CPU3. -/
  | linux (label : DriverLabel)
  /-- A read of `count` bytes up to its loop. -/
  | call (count : Nat)
  | snapshot
  /-- The critical section of one iteration, and the copy behind it. -/
  | receive (copied : Bool)
  /-- The condition of `wait_event_interruptible` is evaluated. -/
  | check
  | signal

/-! ### Steps -/

namespace State

variable (state : State)

/-- What a critical section changed. -/
def effect (file : UserFile) (next : System) : Effect :=
  ⟨file.priority, state.system.driver.sessionGeneration, state.system.hardware.shared,
    next.hardware.shared⟩

/-- The running call returns. -/
def finish (effects : List Effect) (result : Result) : State :=
  { state with position := .idle, calls := state.calls ++ [⟨effects, result⟩] }

/-- After `r1_amp_mailmsg_user_claim_reader`. -/
def claimed (file : UserFile) (next : System) : State :=
  let claim := (userClaimReader state.system file).1
  let effects := [state.effect file next]
  if claim ≠ 0 then { state with system := next }.finish effects (.failed claim)
  else { state with system := next, position := .looping effects }

/-- After an iteration. -/
def received (file : UserFile) (copied : Bool) (generation : U32) (effects : List Effect)
    (next : System) : State :=
  let effects := effects ++ [state.effect file next]
  match (userRead state.system file copied).1 with
  | .delivered record => { state with system := next }.finish effects (.delivered record)
  | .returned value => { state with system := next }.finish effects (.failed value)
  | .sleeps => { state with system := next, position := .waiting generation effects }

end State

/-- The transition function of the reader with file `id`. -/
def step (id : Nat) (state : State) : Label → Option State
  | .linux label => (driverStep state.system label).map fun next => { state with system := next }
  | .call count =>
      match state.position, state.system.file? id with
      | .idle, some file =>
          if count ≠ userFrameBytes then some (state.finish [] (.failed (-Errno.inval)))
          else (driverStep state.system (.claim id)).map (state.claimed file)
      | _, _ => none
  | .snapshot =>
      match state.position, state.system.file? id with
      | .looping effects, some file =>
          some
            { state with
              position := .receiving (state.system.driver.rxGeneration file.priority) effects }
      | _, _ => none
  | .receive copied =>
      match state.position, state.system.file? id with
      | .receiving generation effects, some file =>
          (driverStep state.system (.read id copied)).map
            (state.received file copied generation effects)
      | _, _ => none
  | .check =>
      match state.position, state.system.file? id with
      | .waiting generation effects, some file =>
          if state.system.driver.rxGeneration file.priority ≠ generation then
            some { state with position := .looping effects }
          else some state
      | _, _ => none
  | .signal =>
      match state.position with
      | .waiting _ effects => some (state.finish effects .interrupted)
      | _ => none

/-- Every run since probe. -/
def machine (id : Nat) : Machine State Label where
  init state := ∃ system, driverMachine.init system ∧ state = ⟨system, .idle, []⟩
  step := step id

/-! ### What must not be lost

Every critical section of a call is kept as an effect: the ring as it was, what was taken, and the
answer.  `NothingLost` compares the frames that were taken with the records that were handed out.
-/

/-- The record that a call handed out. -/
def Call.record? (call : Call) : Option UserFrame :=
  match call.result with
  | .delivered record => some record
  | .failed _ | .interrupted => none

/-- The critical sections of a call that took a frame. -/
def Call.removed (call : Call) : List Effect := call.effects.filter Effect.removes

/-- A frame that must not be handed out, with the error that says so. -/
inductive Effect.Rejected (effect : Effect) : Result → Prop where
  | badCrc (wellFormed : effect.frame.malformed = false)
      (mismatch : effect.frame.crc32 ≠ frameCrc32 effect.frame) :
      Rejected effect (.failed (-Errno.badmsg))
  | invalid (malformed : effect.frame.malformed = true) : Rejected effect (.failed (-Errno.proto))
  | stale (wellFormed : effect.frame.malformed = false)
      (matching : effect.frame.crc32 = frameCrc32 effect.frame)
      (old : effect.frame.generation ≠ effect.generation) :
      Rejected effect (.failed (-Errno.stale))

/-- The errors that say that a frame was rejected. -/
def Result.rejects : Result → Bool
  | .failed errno => errno == -Errno.badmsg || errno == -Errno.proto || errno == -Errno.stale
  | .delivered _ | .interrupted => false

/-- No valid frame is lost: the records that were handed out are the valid frames that were taken,
in order; a call that fails takes at most one frame, which its error names; and with every other
error the region is as it was. -/
structure NothingLost (state : State) : Prop where
  delivered : state.calls.filterMap Call.record? =
    ((state.calls.flatMap Call.removed).filter Effect.valid).map Effect.record
  once : ∀ call ∈ state.calls, call.record? = none → call.removed.length ≤ 1
  rejected : ∀ call ∈ state.calls, call.record? = none → ∀ effect ∈ call.removed,
    effect.Rejected call.result
  untouched : ∀ call ∈ state.calls, call.record? = none → call.result.rejects = false →
    ∀ effect ∈ call.effects, effect.kept
  running : ∀ effect ∈ state.position.effects, effect.kept

/-! ### The condition -/

/-- The gate is open and a valid frame is at the head of the channel's ring. -/
def offers (system : System) (priority : Priority) : Bool :=
  decide (system.driver.mailmsgState = .active) &&
    decide ((system.hardware.shared.cpu3ToLinux priority).consumer ≠
      (system.hardware.shared.cpu3ToLinux priority).producer) &&
    validFrame system.driver.sessionGeneration (system.hardware.shared.cpu3ToLinux priority).head

/-- `copy_to_user` does not fail in an iteration that finds a valid frame. -/
def copies (id : Nat) (state : State) : Label → Bool
  | .receive copied =>
      match state.system.file? id with
      | some file => copied || !offers state.system file.priority
      | none => true
  | _ => true

/-- The runs in which every step meets this condition. -/
def copyingMachine (id : Nat) : Machine State Label :=
  (machine id).restrict fun state label => copies id state label = true

/-! ### One iteration -/

/-- Everything that an iteration can do, by whether it was offered a valid frame. -/
inductive Iteration (copied : Bool) (effect : Effect) : Bool → ReadOutcome → Prop where
  | sleeps (kept : effect.kept) : Iteration copied effect false .sleeps
  | refused (value : Int) (kept : effect.kept) : Iteration copied effect false (.returned value)
  | rejected (value : Int) (removes : effect.removes = true) (invalid : effect.valid = false)
      (why : effect.Rejected (.failed value)) : Iteration copied effect false (.returned value)
  | delivered (record : UserFrame) (own : record = effect.record) (removes : effect.removes = true)
      (valid : effect.valid = true) (succeeds : copied = true) :
      Iteration copied effect true (.delivered record)
  | faulted (removes : effect.removes = true) (valid : effect.valid = true)
      (fails : copied = false) :
      Iteration copied effect true (.returned (-Errno.fault))

theorem userRead_iteration {system : System} (invariant : SessionInvariant system) (file : UserFile)
    (copied : Bool) :
    Iteration copied
      ⟨file.priority, system.driver.sessionGeneration, system.hardware.shared,
        (userRead system file copied).2.hardware.shared⟩
      (offers system file.priority) (userRead system file copied).1 := by
  by_cases active : system.driver.mailmsgState = .active
  · have session := invariant.active_session active
    obtain ⟨ret, ring, message, found, answer, shared⟩ := userRead_found active session file copied
    rw [answer, shared]
    -- A released slot moves the consumer index.
    have moved : Effect.removes ⟨file.priority, system.driver.sessionGeneration,
      system.hardware.shared,
        system.hardware.shared.setRing .cpu3 file.priority
          (system.hardware.shared.cpu3ToLinux file.priority).released⟩ = true := by
      simp [Effect.removes, Shared.setRing, Ring.released, ringNext_ne]
    have same : Effect.kept ⟨file.priority, system.driver.sessionGeneration, system.hardware.shared,
        system.hardware.shared.setRing .cpu3 file.priority
          (system.hardware.shared.cpu3ToLinux file.priority)⟩ :=
      Shared.setRing_ring _ .cpu3 _
    have rejected {value : Int}
        (invalid : validFrame system.driver.sessionGeneration
          (system.hardware.shared.cpu3ToLinux file.priority).head = false)
        (why : Effect.Rejected ⟨file.priority, system.driver.sessionGeneration, system.hardware.shared,
          system.hardware.shared.setRing .cpu3 file.priority
            (system.hardware.shared.cpu3ToLinux file.priority).released⟩ (.failed value)) :
        Iteration copied
          ⟨file.priority, system.driver.sessionGeneration, system.hardware.shared,
            system.hardware.shared.setRing .cpu3 file.priority
              (system.hardware.shared.cpu3ToLinux file.priority).released⟩
          (offers system file.priority) (.returned value) := by
      have unoffered : offers system file.priority = false := by simp [offers, invalid]
      rw [unoffered]
      exact .rejected value moved invalid why
    cases found with
    | empty nothing =>
        have unoffered : offers system file.priority = false := by simp [offers, nothing]
        rw [unoffered]
        simp only [readAnswer]
        split
        · exact .refused _ same
        · exact .sleeps same
    | incomplete something pending =>
        have unoffered : offers system file.priority = false := by
          simp [offers, validFrame, pending]
        rw [unoffered]
        exact .refused _ same
    | invalid something committed malformed =>
        apply rejected _ (.invalid malformed)
        simp [validFrame, malformed]
    | badCrc something committed wellFormed mismatch =>
        apply rejected _ (.badCrc (Bool.eq_false_iff.mpr wellFormed) mismatch)
        simp [validFrame, mismatch]
    | stale something committed wellFormed matching old =>
        apply rejected _ (.stale (Bool.eq_false_iff.mpr wellFormed) matching old)
        simp [validFrame, old]
    | good something committed wellFormed matching current =>
        have valid : validFrame system.driver.sessionGeneration
            (system.hardware.shared.cpu3ToLinux file.priority).head = true := by
          simp [validFrame, committed, wellFormed, ← matching, current]
        have offered : offers system file.priority = true := by
          simp [offers, active, something, valid]
        rw [offered]
        cases copied with
        | false => exact .faulted moved valid rfl
        | true => exact .delivered _ rfl moved valid rfl
  · have unoffered : offers system file.priority = false := by simp [offers, active]
    rw [userRead_gated active, unoffered]
    exact .refused _ rfl

/-! ### One call -/

/-- A call that lost nothing. -/
inductive Account (call : Call) : Prop where
  | delivered (earlier : List Effect) (last : Effect) (effects : call.effects = earlier ++ [last])
      (kept : ∀ effect ∈ earlier, effect.kept) (removes : last.removes = true)
      (valid : last.valid = true) (result : call.result = .delivered last.record)
  | rejected (earlier : List Effect) (last : Effect) (effects : call.effects = earlier ++ [last])
      (kept : ∀ effect ∈ earlier, effect.kept) (removes : last.removes = true)
      (invalid : last.valid = false) (why : last.Rejected call.result)
  | untouched (kept : ∀ effect ∈ call.effects, effect.kept) (failed : call.record? = none)

/-- A call that lost the frame that it took. -/
structure Faulted (call : Call) (earlier : List Effect) (last : Effect) : Prop where
  effects : call.effects = earlier ++ [last]
  kept : ∀ effect ∈ earlier, effect.kept
  removes : last.removes = true
  valid : last.valid = true
  result : call.result = .failed (-Errno.fault)

theorem Effect.kept.removes {effect : Effect} (kept : effect.kept) : effect.removes = false := by
  have same : effect.after = effect.before := kept
  simp [Effect.removes, same]

/-- The frames that a call took, when only its last critical section took one. -/
theorem Call.removed_of_last {call : Call} {earlier : List Effect} {last : Effect}
    (effects : call.effects = earlier ++ [last]) (kept : ∀ effect ∈ earlier, effect.kept)
    (removes : last.removes = true) : call.removed = [last] := by
  have none : earlier.filter Effect.removes = [] := by
    rw [List.filter_eq_nil_iff]
    intro effect member
    rw [(kept effect member).removes]
    decide
  rw [Call.removed, effects, List.filter_append, none]
  simp [removes]

theorem Call.removed_of_kept {call : Call} (kept : ∀ effect ∈ call.effects, effect.kept) :
    call.removed = [] := by
  rw [Call.removed, List.filter_eq_nil_iff]
  intro effect member
  rw [(kept effect member).removes]
  decide

theorem Effect.Rejected.rejects {effect : Effect} {result : Result} (why : effect.Rejected result) :
    result.rejects = true := by
  cases why with
  | badCrc | invalid | stale => rfl

theorem Effect.Rejected.failed {effect : Effect} {result : Result} (why : effect.Rejected result) :
    ∃ errno, result = .failed errno := by
  cases why with
  | badCrc | invalid | stale => exact ⟨_, rfl⟩

/-- A valid frame is not rejected with `-EFAULT`. -/
theorem Faulted.not_account {call : Call} {earlier : List Effect} {last : Effect}
    (faulted : Faulted call earlier last) : ¬ Account call := by
  have removed := Call.removed_of_last faulted.effects faulted.kept faulted.removes
  intro account
  cases account with
  | delivered _ _ effects kept removes valid result =>
      rw [faulted.result] at result
      cases result
  | rejected _ _ effects kept removes invalid why =>
      have rejects := why.rejects
      rw [faulted.result] at rejects
      exact absurd rejects (by decide)
  | untouched kept failed =>
      rw [Call.removed_of_kept kept] at removed
      cases removed

/-! ### Runs -/

/-- What holds in every state: the driver is in a reachable state, the running call has changed
nothing, and a call that has returned lost nothing or failed in its copy. -/
structure Sound (state : State) : Prop where
  system : driverMachine.Reachable state.system
  running : ∀ effect ∈ state.position.effects, effect.kept
  calls : ∀ call ∈ state.calls, Account call ∨ ∃ earlier last, Faulted call earlier last

/-- What a step adds to the history, by whether it meets the condition. -/
inductive Recorded (state next : State) : Bool → Prop where
  | quiet (calls : next.calls = state.calls)
      (running : ∀ effect ∈ next.position.effects, effect.kept) :
      Recorded state next true
  | returned (call : Call) (calls : next.calls = state.calls ++ [call])
      (idle : next.position = .idle)
      (account : Account call) : Recorded state next true
  | faulted (call : Call) (calls : next.calls = state.calls ++ [call])
      (idle : next.position = .idle)
      (earlier : List Effect) (last : Effect) (fault : Faulted call earlier last) :
      Recorded state next false

/-- A claim changes nothing in the region. -/
theorem claim_kept {system next : System} {id : Nat}
    (stepped : driverStep system (.claim id) = some next) :
    next.hardware.shared = system.hardware.shared := by
  cases driverStep_kind stepped with
  | locked free locked =>
      obtain ⟨file, -, rfl⟩ := Option.map_eq_some_iff.mp locked
      simp only [userClaimReader]
      repeat' split
      all_goals rfl

theorem claimed_recorded (state : State) (file : UserFile) {next : System}
    (same : next.hardware.shared = state.system.hardware.shared) :
    Recorded state (state.claimed file next) true := by
  have kept : ∀ effect ∈ [state.effect file next], effect.kept := by
    intro effect member
    rw [List.mem_singleton.mp member]
    exact same
  simp only [State.claimed]
  split
  · exact .returned _ rfl rfl (.untouched kept rfl)
  · exact .quiet rfl kept

theorem received_recorded {state : State} (invariant : SessionInvariant state.system)
    (file : UserFile) (copied : Bool) (generation : U32) {effects : List Effect}
    (kept : ∀ effect ∈ effects, effect.kept) :
    Recorded state
      (state.received file copied generation effects (userRead state.system file copied).2)
      (copied || !offers state.system file.priority) := by
  have iteration := userRead_iteration invariant file copied
  have all {effect : Effect} (last : effect.kept) : ∀ other ∈ effects ++ [effect], other.kept := by
    intro other member
    rcases List.mem_append.mp member with earlier | single
    · exact kept other earlier
    · rw [List.mem_singleton.mp single]
      exact last
  unfold State.received State.effect
  generalize offers state.system file.priority = offered at *
  generalize userRead state.system file copied = iterated at *
  obtain ⟨outcome, next⟩ := iterated
  cases iteration with
  | sleeps last =>
      rw [Bool.not_false, Bool.or_true]
      exact .quiet rfl (all last)
  | refused value last =>
      rw [Bool.not_false, Bool.or_true]
      exact .returned _ rfl rfl (.untouched (all last) rfl)
  | rejected value removes invalid why =>
      rw [Bool.not_false, Bool.or_true]
      exact .returned _ rfl rfl (.rejected effects _ rfl kept removes invalid why)
  | delivered record own removes valid succeeds =>
      rw [succeeds]
      refine .returned _ rfl rfl (.delivered effects _ rfl kept removes valid ?_)
      rw [own]
  | faulted removes valid fails =>
      rw [fails]
      exact .faulted _ rfl rfl effects _ ⟨rfl, kept, removes, valid, rfl⟩

theorem step_recorded {id : Nat} {state next : State} {label : Label} (sound : Sound state)
    (stepped : step id state label = some next) : Recorded state next (copies id state label) := by
  cases label with
  | linux label =>
      obtain ⟨system, -, rfl⟩ := Option.map_eq_some_iff.mp stepped
      exact .quiet rfl sound.running
  | call count =>
      simp only [step] at stepped
      split at stepped
      · rename_i file idle opened
        split at stepped
        · cases stepped
          exact .returned _ rfl rfl (.untouched (by simp) rfl)
        · obtain ⟨system, claimed, rfl⟩ := Option.map_eq_some_iff.mp stepped
          exact claimed_recorded state file (claim_kept claimed)
      · cases stepped
  | snapshot =>
      simp only [step] at stepped
      split at stepped
      · rename_i effects file position opened
        cases stepped
        have running := sound.running
        rw [position] at running
        exact .quiet rfl running
      · cases stepped
  | receive copied =>
      simp only [step] at stepped
      split at stepped
      · rename_i generation effects file position opened
        obtain ⟨system, read, rfl⟩ := Option.map_eq_some_iff.mp stepped
        obtain rfl := driverStep_read opened read
        have running := sound.running
        rw [position] at running
        simp only [copies, opened]
        exact received_recorded (.reachable sound.system) file copied generation running
      · cases stepped
  | check =>
      simp only [step] at stepped
      split at stepped
      · rename_i generation effects file position opened
        have running := sound.running
        rw [position] at running
        split at stepped
        · cases stepped
          exact .quiet rfl running
        · cases stepped
          exact .quiet rfl sound.running
      · cases stepped
  | signal =>
      simp only [step] at stepped
      split at stepped
      · rename_i generation effects position
        cases stepped
        have running := sound.running
        rw [position] at running
        exact .returned _ rfl rfl (.untouched running rfl)
      · cases stepped

theorem step_reachable {id : Nat} {state next : State} {label : Label}
    (reached : driverMachine.Reachable state.system) (stepped : step id state label = some next) :
    driverMachine.Reachable next.system := by
  have moved {system : System} {other : DriverLabel} (taken : driverStep state.system other =
    some system) :
      driverMachine.Reachable system := .step reached taken
  cases label with
  | linux label =>
      obtain ⟨system, taken, rfl⟩ := Option.map_eq_some_iff.mp stepped
      exact moved taken
  | call count =>
      simp only [step] at stepped
      split at stepped
      · split at stepped
        · cases stepped
          exact reached
        · obtain ⟨system, taken, rfl⟩ := Option.map_eq_some_iff.mp stepped
          simp only [State.claimed]
          split <;> exact moved taken
      · cases stepped
  | snapshot =>
      simp only [step] at stepped
      split at stepped
      · cases stepped
        exact reached
      · cases stepped
  | receive copied =>
      simp only [step] at stepped
      split at stepped
      · obtain ⟨system, taken, rfl⟩ := Option.map_eq_some_iff.mp stepped
        simp only [State.received]
        split <;> exact moved taken
      · cases stepped
  | check =>
      simp only [step] at stepped
      split at stepped
      · split at stepped <;> (cases stepped; exact reached)
      · cases stepped
  | signal =>
      simp only [step] at stepped
      split at stepped
      · cases stepped
        exact reached
      · cases stepped

theorem step_sound {id : Nat} {state next : State} {label : Label} (sound : Sound state)
    (stepped : step id state label = some next) : Sound next := by
  have appended {call : Call} (new : Account call ∨ ∃ earlier last, Faulted call earlier last) :
      ∀ other ∈ state.calls ++ [call], Account other ∨ ∃ earlier last,
        Faulted other earlier last := by
    intro other member
    rcases List.mem_append.mp member with earlier | single
    · exact sound.calls other earlier
    · rw [List.mem_singleton.mp single]
      exact new
  have reached := step_reachable sound.system stepped
  have recorded := step_recorded sound stepped
  generalize copies id state label = condition at recorded
  cases recorded with
  | quiet calls running =>
      refine ⟨reached, running, ?_⟩
      rw [calls]
      exact sound.calls
  | returned call calls idle account =>
      refine ⟨reached, ?_, ?_⟩
      · rw [idle]
        simp [Position.effects]
      · rw [calls]
        exact appended (.inl account)
  | faulted call calls idle earlier last fault =>
      refine ⟨reached, ?_, ?_⟩
      · rw [idle]
        simp [Position.effects]
      · rw [calls]
        exact appended (.inr ⟨earlier, last, fault⟩)

/-- Every call that has returned lost nothing. -/
def Accounted (state : State) : Prop := ∀ call ∈ state.calls, Account call

/-- A step keeps the accounts exactly when it meets the condition. -/
theorem step_accounted {id : Nat} {state next : State} {label : Label} (sound : Sound state)
    (stepped : step id state label = some next) :
    Accounted next ↔ Accounted state ∧ copies id state label = true := by
  have recorded := step_recorded sound stepped
  generalize copies id state label = condition at recorded
  cases recorded with
  | quiet calls running => simp [Accounted, calls]
  | returned call calls idle account => simp [Accounted, calls, or_imp, forall_and, account]
  | faulted call calls idle earlier last fault =>
      simp [Accounted, calls, or_imp, forall_and, fault.not_account]

/-- A call that lost nothing handed out the valid frame that it took, if it took one. -/
theorem Account.records {call : Call} (account : Account call) :
    call.record?.toList = (call.removed.filter Effect.valid).map Effect.record := by
  cases account with
  | delivered earlier last effects kept removes valid result =>
      rw [Call.removed_of_last effects kept removes, Call.record?, result]
      simp [valid]
  | rejected earlier last effects kept removes invalid why =>
      have failed : call.record? = none := by
        obtain ⟨errno, result⟩ := why.failed
        rw [Call.record?, result]
      rw [Call.removed_of_last effects kept removes, failed]
      simp [invalid]
  | untouched kept failed =>
      rw [Call.removed_of_kept kept, failed]
      rfl

/-- The records of a sequence of calls, in order. -/
theorem records_eq {calls : List Call} (accounted : ∀ call ∈ calls, Account call) :
    calls.filterMap Call.record? =
      ((calls.flatMap Call.removed).filter Effect.valid).map Effect.record := by
  induction calls with
  | nil => rfl
  | cons call calls inductionHypothesis =>
      have first := (accounted call List.mem_cons_self).records
      have rest := inductionHypothesis fun other member =>
        accounted other (List.mem_cons_of_mem _ member)
      rw [List.flatMap_cons, List.filter_append, List.map_append, ← first, ← rest]
      cases handed : call.record? with
      | none => simp [handed]
      | some record => simp [handed]

/-- The clauses of the property are the accounts of the calls. -/
theorem nothingLost_iff {state : State} (sound : Sound state) : NothingLost state ↔
    Accounted state := by
  constructor
  · intro nothing call member
    rcases sound.calls call member with account | ⟨earlier, last, fault⟩
    · exact account
    · -- A lost frame is valid, so no error of a rejected frame names it.
      have removed := Call.removed_of_last fault.effects fault.kept fault.removes
      have failed : call.record? = none := by rw [Call.record?, fault.result]
      have why := nothing.rejected call member failed last (by rw [removed]; simp)
      have rejects := why.rejects
      rw [fault.result] at rejects
      exact absurd rejects (by decide)
  · intro accounted
    refine ⟨records_eq accounted, ?_, ?_, ?_, sound.running⟩
    · intro call member failed
      cases accounted call member with
      | delivered earlier last effects kept removes valid result =>
          rw [Call.record?, result] at failed
          cases failed
      | rejected earlier last effects kept removes invalid why =>
          rw [Call.removed_of_last effects kept removes]
          exact Nat.le_refl 1
      | untouched kept none =>
          rw [Call.removed_of_kept kept]
          exact Nat.zero_le 1
    · intro call member failed effect taken
      cases accounted call member with
      | delivered earlier last effects kept removes valid result =>
          rw [Call.record?, result] at failed
          cases failed
      | rejected earlier last effects kept removes invalid why =>
          rw [Call.removed_of_last effects kept removes] at taken
          rw [List.mem_singleton.mp taken]
          exact why
      | untouched kept none =>
          rw [Call.removed_of_kept kept] at taken
          cases taken
    · intro call member failed other
      cases accounted call member with
      | delivered earlier last effects kept removes valid result =>
          rw [Call.record?, result] at failed
          cases failed
      | rejected earlier last effects kept removes invalid why =>
          rw [why.rejects] at other
          cases other
      | untouched kept none => exact kept

theorem initial_sound {id : Nat} {state : State} (start : (machine id).init state) :
    Sound state := by
  obtain ⟨system, start, rfl⟩ := start
  refine ⟨.init start, ?_, ?_⟩ <;> simp [Position.effects]

/-- In every run, the reader loses nothing exactly when `copy_to_user` never fails behind a valid
frame. -/
theorem reads_lose_nothing_iff {id : Nat} {first last : State} {labels : List Label}
    (start : (machine id).init first) (executed : (machine id).run first labels = some last) :
    NothingLost last ↔ (copyingMachine id).run first labels = some last := by
  have sound := initial_sound start
  have preserved : ∀ state label next, Sound state → (machine id).step state label = some next →
      Sound next := by
    intro state label next sound stepped
    exact step_sound sound stepped
  have kept : ∀ state label next, Sound state → (machine id).step state label = some next →
      (Accounted next ↔ Accounted state ∧ copies id state label = true) := by
    intro state label next sound stepped
    exact step_accounted sound stepped
  have fresh : Accounted first := by
    obtain ⟨system, -, rfl⟩ := start
    intro call member
    cases member
  rw [nothingLost_iff (Machine.run_invariant Sound preserved sound executed),
    Machine.run_restrict_iff preserved kept sound executed]
  exact and_iff_right fresh

/-- A frame waits on p1. -/
def demoWaiting : List DriverLabel :=
  demoActivation ++ [.openFile 1 false, .peer (.slot 1 0 demoPong), .peer (.producer 1 1)]

/-- A read of that frame, with the answer of `copy_to_user`. -/
def demoLabels (copied : Bool) : List Label :=
  demoWaiting.map .linux ++ [.call 48, .snapshot, .receive copied]

theorem demoProbed_reading (id : Nat) : (machine id).init ⟨demoProbed, .idle, []⟩ :=
  ⟨demoProbed, demoProbed_init, rfl⟩

/-- The theorem at a read that hands out its frame. -/
theorem reads_lose_nothing_iff_demo :
    ∃ last, (machine 0).run ⟨demoProbed, .idle, []⟩ (demoLabels true) = some last ∧
      (last.calls.filterMap Call.record?).length = 1 ∧ NothingLost last := by
  have checked : ((copyingMachine 0).run ⟨demoProbed, .idle, []⟩ (demoLabels true)).any (fun last =>
      decide ((last.calls.filterMap Call.record?).length = 1)) = true := by
    decide +kernel
  obtain ⟨last, copied, handed⟩ := Machine.exists_of_run_any checked
  have executed := Machine.run_of_restrict copied
  exact ⟨last, executed, of_decide_eq_true handed,
    (reads_lose_nothing_iff (demoProbed_reading 0) executed).mpr copied⟩

/-- A read into a buffer that cannot be written takes the frame that waits for it, returns `-EFAULT`
and hands out nothing. -/
theorem fault_loses_frame :
    ∃ last, (machine 0).init ⟨demoProbed, .idle, []⟩ ∧
      (machine 0).run ⟨demoProbed, .idle, []⟩ (demoLabels false) = some last ∧
      (∃ call effect, last.calls = [call] ∧ call.record? = none ∧ call.removed = [effect] ∧
        effect.valid = true) ∧
      ¬ NothingLost last := by
  have checked : ((machine 0).run ⟨demoProbed, .idle, []⟩ (demoLabels false)).any (fun last =>
      match last.calls with
      | [call] =>
          match call.removed, call.result with
          | [effect], .failed errno => effect.valid && decide (errno = -Errno.fault)
          | _, _ => false
      | _ => false) = true := by
    decide +kernel
  obtain ⟨last, executed, seen⟩ := Machine.exists_of_run_any checked
  split at seen
  · rename_i call single
    split at seen
    · rename_i effect errno removed result
      rw [Bool.and_eq_true, decide_eq_true_eq] at seen
      have failed : call.record? = none := by rw [Call.record?, result]
      refine ⟨last, demoProbed_reading 0, executed, ⟨call, effect, single, failed, removed, seen.1⟩, ?_⟩
      intro nothing
      have why := nothing.rejected call (by simp [single]) failed effect (by simp [removed])
      have rejects := why.rejects
      rw [result, seen.2] at rejects
      exact absurd rejects (by decide)
    · cases seen
  · cases seen

end MailMsg.Reading
