/-
Module: MailMsg.Driver.Image
Purpose: What CPU_ON launches: the image that was loaded since the last rearm, complete, cleaned to
  memory and launched once.
Source: LZAMP/linux/drivers/lzamp_amp_mailmsg.c (image_write, start_store, rearm_store)
Trusted boundary: none beyond the driver's model; a clean of the image range is the copy to memory
  that `cleanBytes` describes
Main exports: ImageEvent, Loader, loaderMachine, loaded, launchedSince, LoadStep, driverStep_load,
  CpuOnSound, cpu_on_launches_loaded_image
-/
import MailMsg.Driver.Safety

namespace MailMsg

/-! ### The history of the image

The driver keeps a number of bytes and a flag.  What they stand for is a history: the accepted
writes, the calls of CPU_ON and the rearms, which `Loader` records beside the driver.
-/

/-- What happened to the image: an accepted `image_write`, a call of PSCI CPU_ON, a successful
rearm. -/
inductive ImageEvent where
  | written (bytes : List U8)
  | cpuOn
  | rearmed
deriving DecidableEq

/-- The bytes accepted since probe or since the last rearm, in order. -/
def loaded (history : List ImageEvent) : List U8 :=
  history.foldl
    (fun bytes event =>
      match event with
      | .written more => bytes ++ more
      | .cpuOn => bytes
      | .rearmed => [])
    []

/-- CPU_ON was called since probe or since the last rearm. -/
def launchedSince (history : List ImageEvent) : Bool :=
  history.foldl
    (fun launched event =>
      match event with
      | .written _ => launched
      | .cpuOn => true
      | .rearmed => false)
    false

/-- The driver with the history of its image. -/
structure Loader where
  system : System
  history : List ImageEvent

/-- What a step adds to the history.  CPU_ON is called where `cpu_on_attempted` rises. -/
def imageEvents (system : System) (next : System) : DriverLabel → List ImageEvent
  | .imageWrite offset count bytes =>
      if 0 ≤ (imageWrite system offset count bytes).1 then [.written ((List.range count).map bytes)]
      else []
  | .start _ _ _ _ =>
      if !system.driver.cpuOnAttempted && next.driver.cpuOnAttempted then [.cpuOn] else []
  | .rearm accepted count affinity =>
      if 0 ≤ (rearmStore system accepted count affinity).1 then [.rearmed] else []
  | _ => []

/-- Every run of the driver since probe, with the history of its image. -/
def loaderMachine : Machine Loader DriverLabel where
  init loader := driverMachine.init loader.system ∧ loader.history = []
  step loader label :=
    (driverStep loader.system label).map fun next =>
      ⟨next, loader.history ++ imageEvents loader.system next label⟩

/-! ### What a step does to the image -/

/-- The fields that say what is loaded. -/
structure SameLoad (before after : Driver) : Prop where
  image : after.image = before.image
  imageMemory : after.imageMemory = before.imageMemory
  imageWritten : after.imageWritten = before.imageWritten
  attempted : after.cpuOnAttempted = before.cpuOnAttempted

namespace SameLoad

/-- Nothing happened. -/
theorem refl (driver : Driver) : SameLoad driver driver := ⟨rfl, rfl, rfl, rfl⟩

/-- What keeps the identity of the core keeps its image. -/
theorem of_identity {before after : Driver} (same : SameIdentity before after) :
    SameLoad before after :=
  ⟨same.image, same.imageMemory, same.imageWritten, same.attempted⟩

/-- The data plane is closed to the image. -/
theorem of_data {before after : System} (step : DataStep before after) :
    SameLoad before.driver after.driver where
  image := congrArg Lifecycle.image step.lifecycle
  imageMemory := congrArg Lifecycle.imageMemory step.lifecycle
  imageWritten := congrArg Lifecycle.imageWritten step.lifecycle
  attempted := congrArg Lifecycle.cpuOnAttempted step.lifecycle

/-- One step after the other. -/
theorem trans {first second third : Driver} (earlier : SameLoad first second)
    (later : SameLoad second third) : SameLoad first third where
  image := later.image.trans earlier.image
  imageMemory := later.imageMemory.trans earlier.imageMemory
  imageWritten := later.imageWritten.trans earlier.imageWritten
  attempted := later.attempted.trans earlier.attempted

end SameLoad

/-- Everything that one step can do to the image, with the events that it adds. -/
inductive LoadStep (system : System) (label : DriverLabel) (next : System) : Prop where
  | same (load : SameLoad system.driver next.driver) (nothing : imageEvents system next label = [])
  | written (offset count : Nat) (bytes : Nat → U8) (free : system.driver.cpuOnAttempted = false)
      (place : offset = system.driver.imageWritten)
      (fits : count ≤ system.config.imageSize - system.driver.imageWritten)
      (value : next = (imageWrite system offset count bytes).2)
      (event : imageEvents system next label = [.written ((List.range count).map bytes)])
  | launched (cpuOn : Int) (launched : Launched system label next cpuOn)
      (event : imageEvents system next label = [.cpuOn])
  | rearmed (image : next.driver.image = system.driver.image)
      (imageWritten : next.driver.imageWritten = 0) (attempted : next.driver.cpuOnAttempted = false)
      (event : imageEvents system next label = [.rearmed])

/-- A failing `image_write` changes nothing; an accepted one goes to the next free byte and fits. -/
theorem imageWrite_cases (system : System) (offset count : Nat) (bytes : Nat → U8) :
    ((imageWrite system offset count bytes).1 < 0 ∧
      (imageWrite system offset count bytes).2 = system) ∨
      (0 ≤ (imageWrite system offset count bytes).1 ∧ system.driver.cpuOnAttempted = false ∧
        offset = system.driver.imageWritten ∧
        count ≤ system.config.imageSize - system.driver.imageWritten) := by
  have busy : -Errno.busy < 0 := by decide
  have spipe : -Errno.spipe < 0 := by decide
  have fbig : -Errno.fbig < 0 := by decide
  simp only [imageWrite]
  split
  · exact .inl ⟨busy, rfl⟩
  · rename_i free
    split
    · exact .inl ⟨spipe, rfl⟩
    · rename_i place
      split
      · exact .inl ⟨fbig, rfl⟩
      · rename_i fits
        exact .inr ⟨Int.natCast_nonneg count, by simpa using free, not_not.mp place,
          Nat.le_of_not_lt fits⟩

/-- `image_write`: the accepted bytes are the event. -/
theorem imageWrite_load (system : System) (offset count : Nat) (bytes : Nat → U8) :
    LoadStep system (.imageWrite offset count bytes) (imageWrite system offset count bytes).2 := by
  rcases imageWrite_cases system offset count bytes with ⟨failed, same⟩
    | ⟨accepted, free, place, fits⟩
  · refine .same (by rw [same]; exact .refl _) ?_
    simp [imageEvents, Int.not_le.mpr failed]
  · exact .written offset count bytes free place fits rfl (by simp [imageEvents, accepted])

/-- `start`: CPU_ON is called exactly where `cpu_on_attempted` rises. -/
theorem startStore_load (system : System) (accepted : Bool) (count : Nat) (affinity cpuOn : Int) :
    LoadStep system (.start accepted count affinity cpuOn)
      (startStore system accepted count affinity cpuOn).2 := by
  rcases startStore_cases system accepted count affinity cpuOn with
    (value | value) | ⟨launched, -⟩
  · rw [value]
    exact .same (.refl _) (by simp [imageEvents])
  · rw [value]
    have same := refreshAffinityLocked_identity system.driver affinity
    exact .same (.of_identity same) (by simp [imageEvents, same.attempted])
  · exact .launched cpuOn launched (by simp [imageEvents, launched.notAttempted, launched.attempted])

/-- `rearm`: only a successful one takes the image back. -/
theorem rearmStore_load (system : System) (accepted : Bool) (count : Nat) (affinity : Int) :
    LoadStep system (.rearm accepted count affinity)
      (rearmStore system accepted count affinity).2 := by
  have same := refreshAffinityLocked_identity system.driver affinity
  rcases rearmStore_cases system accepted count affinity with
    ⟨failed, value | value⟩ | ⟨-, -, -, -, -, ret, value⟩
  · refine .same (by rw [value]; exact .refl _) ?_
    simp [imageEvents, Int.not_le.mpr failed]
  · refine .same (by rw [value]; exact .of_identity same) ?_
    simp [imageEvents, Int.not_le.mpr failed]
  · have succeeded : 0 ≤ (rearmStore system accepted count affinity).1 := by
      rw [ret]
      exact Int.natCast_nonneg count
    refine .rearmed ?_ ?_ ?_ (by simp [imageEvents, succeeded])
    · rw [value]
      exact same.image
    · rw [value]
      rfl
    · rw [value]
      rfl

/-- The loop of `control_work` does not touch the image. -/
theorem controlIterate_load (system : System) (bound : system.driver.endpoint.BoundBy .linux) :
    SameLoad system.driver (controlIterate system).driver := by
  have taken : SameLoad system.driver (linuxReceive system .critical).2.driver :=
    .of_data (linuxReceive_effect system .critical bound).data
  simp only [controlIterate, controlResponse]
  repeat' split
  all_goals first
    | exact taken
    | exact taken.trans ⟨rfl, rfl, rfl, rfl⟩
    | exact taken.trans (.of_identity ((setTimeoutLocked_identity _).requeue _))

/-- The entry points that load, launch or take back an image. -/
def DriverLabel.loads : DriverLabel → Bool
  | .imageWrite .. | .start .. | .rearm .. => true
  | _ => false

/-- A stop that passed its preflight does not touch the image. -/
theorem requestStop_load (system : System) (bound : system.driver.endpoint.BoundBy .linux) :
    SameLoad system.driver (requestStop system).2.driver := by
  have entered : SameLoad system.driver system.stopping.driver := ⟨rfl, rfl, rfl, rfl⟩
  have sent := entered.trans
    (.of_data (linuxSend_effect system.stopping .critical MessageType.stopRequest none 0 bound).data)
  simp only [requestStop]
  split <;> exact ⟨sent.image, sent.imageMemory, sent.imageWritten, sent.attempted⟩

/-- No other entry point touches the image. -/
theorem LockedEffect.sameLoad {system next : System} {label : DriverLabel}
    (effect : LockedEffect system label next) (bound : system.driver.endpoint.BoundBy .linux)
    (other : label.loads = false) : SameLoad system.driver next.driver := by
  cases effect with
  | unchanged | responding => exact .refl _
  | work work => exact .of_identity work.record.identity
  | imageWritten | rearmed => cases other
  | launched cpuOn launched unsent =>
      obtain ⟨count, rfl⟩ := launched.label
      cases other
  | stopped active passed => exact requestStop_load system bound
  | opened | released | claimed => exact ⟨rfl, rfl, rfl, rfl⟩
  | data operation => exact .of_data (operation.step bound)

/-- The three entry points that handle the image by themselves; the others by their effect. -/
theorem lockedStep_load {system next : System} {label : DriverLabel}
    (bound : system.driver.endpoint.BoundBy .linux) (taken : lockedStep system label = some next) :
    LoadStep system label next := by
  cases label with
  | imageWrite offset count bytes =>
      cases taken
      exact imageWrite_load system offset count bytes
  | start accepted count affinity cpuOn =>
      cases taken
      exact startStore_load system accepted count affinity cpuOn
  | rearm accepted count affinity =>
      cases taken
      exact rearmStore_load system accepted count affinity
  | _ => exact .same ((lockedStep_effect taken).sameLoad bound rfl) rfl

/-- Every step loads, launches or takes back an image, or leaves it alone. -/
theorem driverStep_load {system next : System} {label : DriverLabel}
    (bound : system.driver.endpoint.BoundBy .linux) (taken : driverStep system label = some next) :
    LoadStep system label next := by
  cases driverStep_kind taken with
  | tick elapsed | peer write | b2aAcknowledge channel | rxCallback channel message =>
      exact .same ⟨rfl, rfl, rfl, rfl⟩ rfl
  | dequeue item => cases item <;> exact .same ⟨rfl, rfl, rfl, rfl⟩ rfl
  | control held => exact .same (controlIterate_load system bound) rfl
  | response priority lines held =>
      exact .same (.of_data (responseIterate_step system priority lines bound).1) rfl
  | locked free taken => exact lockedStep_load bound taken

/-! ### Histories

`loaded` and `launchedSince` are folds from the oldest event on, so their lemmas say what the newest
event does.
-/

/-- The newest event decides what is added to the loaded bytes. -/
theorem loaded_append (history : List ImageEvent) (event : ImageEvent) :
    loaded (history ++ [event]) =
      match event with
      | .written more => loaded history ++ more
      | .cpuOn => loaded history
      | .rearmed => [] := by
  simp only [loaded, List.foldl_append, List.foldl_cons, List.foldl_nil]

/-- The newest event decides whether the mark is set. -/
theorem launchedSince_append (history : List ImageEvent) (event : ImageEvent) :
    launchedSince (history ++ [event]) =
      match event with
      | .written _ => launchedSince history
      | .cpuOn => true
      | .rearmed => false := by
  simp only [launchedSince, List.foldl_append, List.foldl_cons, List.foldl_nil]

/-- After CPU_ON only a rearm clears the mark. -/
theorem launchedSince_of_no_rearm (first between : List ImageEvent) (stays : .rearmed ∉ between) :
    launchedSince (first ++ .cpuOn :: between) = true := by
  induction between using List.reverseRecOn with
  | nil => exact launchedSince_append first .cpuOn
  | append_singleton between event inductionHypothesis =>
      have earlier := inductionHypothesis (fun member => stays (List.mem_append_left _ member))
      rw [← List.cons_append, ← List.append_assoc, launchedSince_append]
      cases event with
      | written bytes => exact earlier
      | cpuOn => rfl
      | rearmed => exact absurd (List.mem_append_right _ (List.mem_singleton.mpr rfl)) stays

/-- No image byte is accepted and no CPU_ON called while the mark is set. -/
def Ordered (history : List ImageEvent) : Prop :=
  ∀ before event after, history = before ++ event :: after → event ≠ .rearmed →
    launchedSince before = false

/-- An event may follow a history if it is a rearm or the mark is clear. -/
theorem Ordered.append {history : List ImageEvent} (ordered : Ordered history) {event : ImageEvent}
    (allowed : event ≠ .rearmed → launchedSince history = false) :
    Ordered (history ++ [event]) := by
  intro before other after split notRearm
  rcases List.eq_nil_or_concat after with rfl | ⟨shorter, last, rfl⟩
  · obtain ⟨rfl, same⟩ := List.append_inj' split rfl
    cases same
    exact allowed notRearm
  · rw [List.concat_eq_append, ← List.cons_append, ← List.append_assoc] at split
    obtain ⟨rfl, -⟩ := List.append_inj' split rfl
    exact ordered before other shorter rfl notRearm

/-- Whatever follows a CPU_ON before the next rearm is neither a CPU_ON nor an accepted write. -/
theorem Ordered.rearm_between {history first between rest : List ImageEvent} {event : ImageEvent}
    (ordered : Ordered history) (split : history = first ++ .cpuOn :: (between ++ event :: rest))
    (notRearm : event ≠ .rearmed) : .rearmed ∈ between := by
  by_contra missing
  have cleared := ordered (first ++ .cpuOn :: between) event rest (by rw [split]; simp) notRearm
  rw [launchedSince_of_no_rearm first between missing] at cleared
  cases cleared

/-! ### The invariant -/

/-- What the history says about the driver's state. -/
structure LoaderInvariant (loader : Loader) : Prop where
  session : SessionInvariant loader.system
  attempted : launchedSince loader.history = loader.system.driver.cpuOnAttempted
  ordered : Ordered loader.history
  written : (loaded loader.history).length = loader.system.driver.imageWritten
  bounded : loader.system.driver.imageWritten ≤ loader.system.config.imageSize
  contents : ∀ index byte, (loaded loader.history)[index]? = some byte →
    loader.system.driver.image index = byte
  cleaned : loader.system.driver.imageWritten = loader.system.config.imageSize →
    ∀ index < loader.system.config.imageSize,
      loader.system.driver.imageMemory index = loader.system.driver.image index

namespace LoaderInvariant

variable {loader : Loader} {next : System} {label : DriverLabel}

/-- A step that changes neither the image nor the history. -/
theorem same (invariant : LoaderInvariant loader) (session : SessionInvariant next)
    (config : next.config = loader.system.config)
    (load : SameLoad loader.system.driver next.driver) :
    LoaderInvariant ⟨next, loader.history⟩ where
  session := session
  attempted := invariant.attempted.trans load.attempted.symm
  ordered := invariant.ordered
  written := invariant.written.trans load.imageWritten.symm
  bounded := by
    rw [load.imageWritten, config]
    exact invariant.bounded
  contents := by
    rw [load.image]
    exact invariant.contents
  cleaned := by
    rw [load.imageWritten, config, load.imageMemory, load.image]
    exact invariant.cleaned

/-- An accepted write puts its bytes behind those that are there, and cleans the image when it
completes it. -/
theorem wrote (invariant : LoaderInvariant loader) {count : Nat} {bytes : Nat → U8}
    (free : loader.system.driver.cpuOnAttempted = false)
    (fits : count ≤ loader.system.config.imageSize - loader.system.driver.imageWritten)
    (value : next = (imageWrite loader.system loader.system.driver.imageWritten count bytes).2)
    (session : SessionInvariant next) :
    LoaderInvariant ⟨next, loader.history ++ [.written ((List.range count).map bytes)]⟩ := by
  have within := invariant.bounded
  have notLarge : ¬ loader.system.config.imageSize - loader.system.driver.imageWritten < count := by
    omega
  simp only [imageWrite, free, notLarge, Bool.false_eq_true, ne_eq, not_true_eq_false,
    if_false] at value
  subst value
  -- The bytes of the write start where the loaded ones end.
  refine ⟨session, ?_, invariant.ordered.append ?_, ?_, ?_, ?_, ?_⟩
  · rw [launchedSince_append]
    exact invariant.attempted.trans free
  · intro _
    rw [invariant.attempted, free]
  · rw [loaded_append]
    simp [invariant.written]
  · simp only
    omega
  · intro index byte found
    rw [loaded_append] at found
    simp only [copyBytes]
    by_cases old : index < loader.system.driver.imageWritten
    · rw [List.getElem?_append_left (by rw [invariant.written]; exact old)] at found
      rw [if_neg (by omega)]
      exact invariant.contents index byte found
    · rw [List.getElem?_append_right (by rw [invariant.written]; omega), invariant.written,
        List.getElem?_map] at found
      obtain ⟨position, inRange, rfl⟩ := Option.map_eq_some_iff.mp found
      obtain ⟨inside, rfl⟩ := List.getElem?_eq_some_iff.mp inRange
      rw [List.length_range] at inside
      rw [List.getElem_range, if_pos (by omega)]
  · intro complete index inside
    simp only at complete ⊢
    rw [if_pos complete]
    exact if_pos inside

/-- CPU_ON sets the mark and touches no byte. -/
theorem launched (invariant : LoaderInvariant loader) {cpuOn : Int}
    (launched : Launched loader.system label next cpuOn) (session : SessionInvariant next) :
    LoaderInvariant ⟨next, loader.history ++ [.cpuOn]⟩ where
  session := session
  attempted := by
    rw [launchedSince_append]
    exact launched.attempted.symm
  ordered := invariant.ordered.append fun _ => by
    rw [invariant.attempted]
    exact launched.notAttempted
  written := by
    rw [loaded_append]
    exact invariant.written.trans launched.imageWritten.symm
  bounded := by
    rw [launched.imageWritten, launched.config]
    exact invariant.bounded
  contents := by
    rw [loaded_append, launched.image]
    exact invariant.contents
  cleaned := by
    rw [launched.imageWritten, launched.config, launched.imageMemory, launched.image]
    exact invariant.cleaned

/-- One step of the loader, by what it does to the image. -/
theorem step (invariant : LoaderInvariant loader) {after : Loader}
    (taken : loaderMachine.step loader label = some after) : LoaderInvariant after := by
  obtain ⟨next, stepped, rfl⟩ := Option.map_eq_some_iff.mp taken
  have session := invariant.session.step stepped
  have config := (driverStep_lifecycle invariant.session.bound invariant.session.control
    stepped).sameConfig
  cases driverStep_load invariant.session.bound stepped with
  | same load nothing =>
      rw [nothing, List.append_nil]
      exact invariant.same session config load
  | written offset count bytes free place fits value event =>
      rw [event]
      subst place
      exact invariant.wrote free fits value session
  | launched cpuOn launched event =>
      rw [event]
      exact invariant.launched launched session
  | rearmed image imageWritten attempted event =>
      rw [event]
      refine ⟨session, ?_, invariant.ordered.append fun other => absurd rfl other, ?_, ?_, ?_, ?_⟩
      · rw [launchedSince_append]
        exact attempted.symm
      · rw [loaded_append]
        exact imageWritten.symm
      · simp only [imageWritten]
        exact Nat.zero_le _
      · intro index byte found
        rw [loaded_append] at found
        simp at found
      · intro complete index inside
        simp only at complete inside
        omega

/-- In every run. -/
theorem reachable (reached : loaderMachine.Reachable loader) : LoaderInvariant loader := by
  induction reached with
  | init start =>
      obtain ⟨probed, empty⟩ := start
      have session := SessionInvariant.initial probed
      obtain ⟨config, image, hardware, jiffies, value⟩ := probed
      rename_i loader
      refine ⟨session, ?_, ?_, ?_, ?_, ?_, ?_⟩
      · rw [empty, value]
        rfl
      · rw [empty]
        intro before event after split
        simp at split
      · rw [empty, value]
        rfl
      · rw [value]
        exact Nat.zero_le _
      · rw [empty]
        intro index byte found
        simp [loaded] at found
      · rw [value]
        intro _ index _
        rfl
  | step _ taken inductionHypothesis => exact inductionHypothesis.step taken

end LoaderInvariant

/-! ### CPU_ON -/

/-- What holds at a call of CPU_ON: the bytes accepted since the last rearm make up the whole image,
they are what Linux wrote and what memory holds, PSCI has just reported the core OFF, and the region
has zero rings under a new non-zero generation. -/
structure CpuOnSound (loader : Loader) (label : DriverLabel) (next : System) : Prop where
  complete : (loaded loader.history).length = loader.system.config.imageSize
  written : ∀ index byte, (loaded loader.history)[index]? = some byte →
    next.driver.image index = byte
  cleaned : ∀ index byte, (loaded loader.history)[index]? = some byte →
    next.driver.imageMemory index = byte
  off : label.affinityAnswer = some affinityOff
  fresh : next.driver.sessionGeneration = nextNonzero loader.system.driver.sessionGeneration
  generation : next.hardware.shared.generation = next.driver.sessionGeneration ∧
    next.driver.sessionGeneration ≠ 0#32
  rings : ∀ priority, next.hardware.shared.linuxToCpu3 priority = .zero ∧
    next.hardware.shared.cpu3ToLinux priority = .zero

/-- The checks of `start` and the invariant make up what holds at CPU_ON. -/
theorem LoaderInvariant.cpuOnSound {loader : Loader} {label : DriverLabel}
    {next : System} {cpuOn : Int}
    (invariant : LoaderInvariant loader) (launched : Launched loader.system label next cpuOn) :
    CpuOnSound loader label next where
  complete := invariant.written.trans launched.loaded
  written := by
    rw [launched.image]
    exact invariant.contents
  cleaned := by
    intro index byte found
    have inside := (List.getElem?_eq_some_iff.mp found).1
    rw [invariant.written, launched.loaded] at inside
    rw [launched.imageMemory, invariant.cleaned launched.loaded index inside]
    exact invariant.contents index byte found
  off := by
    obtain ⟨count, isStart⟩ := launched.label
    rw [isStart]
    rfl
  fresh := launched.sessionGeneration
  generation := by
    refine ⟨by rw [launched.region]; rfl, ?_⟩
    rw [launched.sessionGeneration]
    exact nextNonzero_ne_zero _
  rings := by
    intro priority
    rw [launched.region]
    exact ⟨rfl, rfl⟩

/-- Every CPU_ON launches the image loaded since the last rearm, complete and cleaned; between two
CPU_ON calls there is a rearm; after a CPU_ON no image byte is accepted before a rearm, and the
carveout changes in no other way; and a failing `image_write` changes nothing. -/
theorem cpu_on_launches_loaded_image {loader : Loader} (reached : loaderMachine.Reachable loader) :
    (∀ label after, loaderMachine.step loader label = some after →
        .cpuOn ∈ imageEvents loader.system after.system label →
          CpuOnSound loader label after.system) ∧
      (∀ first between rest,
        loader.history = first ++ .cpuOn :: (between ++ .cpuOn :: rest) → .rearmed ∈ between) ∧
      (∀ first between bytes rest,
        loader.history = first ++ .cpuOn :: (between ++ .written bytes :: rest) →
          .rearmed ∈ between) ∧
      (∀ label after, loaderMachine.step loader label = some after →
        after.system.driver.image ≠ loader.system.driver.image →
          ∃ bytes, .written bytes ∈ imageEvents loader.system after.system label) ∧
      (∀ offset count bytes, (imageWrite loader.system offset count bytes).1 < 0 →
        (imageWrite loader.system offset count bytes).2 = loader.system) := by
  have invariant := LoaderInvariant.reachable reached
  refine ⟨?_, ?_, ?_, ?_, ?_⟩
  · intro label after taken called
    obtain ⟨next, stepped, rfl⟩ := Option.map_eq_some_iff.mp taken
    cases driverStep_load invariant.session.bound stepped with
    | same load nothing =>
        rw [nothing] at called
        cases called
    | written offset count bytes free place fits value event =>
        rw [event] at called
        simp at called
    | launched cpuOn launched event => exact invariant.cpuOnSound launched
    | rearmed image imageWritten attempted event =>
        rw [event] at called
        simp at called
  · intro first between rest split
    exact invariant.ordered.rearm_between split (by simp)
  · intro first between bytes rest split
    exact invariant.ordered.rearm_between split (by simp)
  · intro label after taken changed
    obtain ⟨next, stepped, rfl⟩ := Option.map_eq_some_iff.mp taken
    cases driverStep_load invariant.session.bound stepped with
    | same load nothing => exact absurd load.image changed
    | written offset count bytes free place fits value event =>
        exact ⟨_, by rw [event]; exact List.mem_singleton.mpr rfl⟩
    | launched cpuOn launched event => exact absurd launched.image changed
    | rearmed image imageWritten attempted event => exact absurd image changed
  · intro offset count bytes failed
    rcases imageWrite_cases loader.system offset count bytes with ⟨-, same⟩ | ⟨accepted, -⟩
    · exact same
    · omega

/-- A two-byte image in two writes, with a refused write between them. -/
def demoUpload : List DriverLabel :=
  [.imageWrite 0 1 (fun _ => 7), .imageWrite 0 1 (fun _ => 9), .imageWrite 1 1 (fun _ => 8)]

/-- The theorem at a start behind a complete upload. -/
theorem cpu_on_launches_loaded_image_demo :
    ∃ loader after : Loader,
      loaderMachine.run ⟨.probed ⟨2, true, true, 1500⟩ (fun _ => 0) ⟨.zero, .zero, .zero⟩ 0, []⟩
        demoUpload = some loader ∧
      loaderMachine.step loader (.start true 5 affinityOff 0) = some after ∧
      loaded loader.history = [7, 8] ∧ after.system.driver.imageMemory 1 = 8 ∧
      CpuOnSound loader (.start true 5 affinityOff 0) after.system := by
  have checked : (loaderMachine.run
      ⟨.probed ⟨2, true, true, 1500⟩ (fun _ => 0) ⟨.zero, .zero, .zero⟩ 0, []⟩ demoUpload).any
        (fun loader => loaded loader.history == [7, 8] &&
          (loaderMachine.step loader (.start true 5 affinityOff 0)).any fun after =>
            imageEvents loader.system after.system (.start true 5 affinityOff 0) ==
              [.cpuOn]) = true := by
    decide +kernel
  obtain ⟨loader, executed, seen⟩ := loaderMachine.exists_of_run_any checked
  obtain ⟨bytes, called⟩ := Bool.and_eq_true_iff.mp seen
  cases stepped : loaderMachine.step loader (.start true 5 affinityOff 0) with
  | none =>
      rw [stepped] at called
      cases called
  | some after =>
      rw [stepped] at called
      simp only [Option.any_some, beq_iff_eq] at called bytes
      have reached : loaderMachine.Reachable loader :=
        Machine.Reachable.run (.init ⟨⟨_, _, _, _, rfl⟩, rfl⟩) executed
      have sound := (cpu_on_launches_loaded_image reached).1 _ after stepped (by simp [called])
      exact ⟨loader, after, executed, stepped, bytes, sound.cleaned 1 8 (by rw [bytes]; rfl), sound⟩

end MailMsg
