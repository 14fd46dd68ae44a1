/-
Module: MailMsg.Driver.Safety
Purpose: The lifecycle state machine of the Linux driver over all runs: what ACTIVE implies, and by
  which steps each state is entered and left.
Source: LZAMP/linux/drivers/lzamp_amp_mailmsg.c
Trusted boundary: none
Main exports: OpenSession, SessionInvariant, SessionInvariant.reachable, lifecycle_state_machine
-/
import MailMsg.Driver.Regions

namespace MailMsg

/-! ### The invariant -/

/-- A session whose CPU_ON succeeded and that was not rearmed: region, endpoint and driver agree on
its generation. -/
structure OpenSession (system : System) : Prop where
  attempted : system.driver.cpuOnAttempted = true
  cpuOnRet : system.driver.cpuOnRet = 0
  nonzero : system.driver.sessionGeneration ≠ 0#32
  role : system.driver.endpoint.role = some .linux
  generation : system.driver.endpoint.generation = system.driver.sessionGeneration
  magic : system.hardware.shared.magic = protocolMagic
  version : system.hardware.shared.version = protocolVersion
  header : system.hardware.shared.generation = system.driver.sessionGeneration

/-- The session does not change with the data plane. -/
theorem OpenSession.of_same {before after : System} (session : OpenSession before)
    (same : SameSession before after) : OpenSession after where
  attempted := same.attempted.trans session.attempted
  cpuOnRet := same.cpuOnRet.trans session.cpuOnRet
  nonzero := same.sessionGeneration ▸ session.nonzero
  role := same.role.trans session.role
  generation := by rw [same.generation, session.generation, same.sessionGeneration]
  magic := same.magic.trans session.magic
  version := same.version.trans session.version
  header := by rw [same.header, session.header, same.sessionGeneration]

/-- The endpoint of an open session passes its session check. -/
theorem OpenSession.valid {system : System} (session : OpenSession system) :
    endpointSessionValid system.driver.endpoint system.hardware.shared = .ok := by
  rw [endpointSessionValid_ok_iff, session.role, session.generation]
  exact ⟨rfl, session.nonzero, session.magic, session.version, session.header⟩

/-- The states that only CPU3's SESSION_READY opens. -/
def SessionState.announced : SessionState → Bool
  | .active | .stopping | .stopTimeout => true
  | .unarmed | .starting | .startTimeout | .offline => false

/-- Every reverse slot is zero or was written by CPU3 since the region was initialised. -/
def SlotsKnown (system : System) : Prop :=
  ∀ priority index, (system.hardware.shared.cpu3ToLinux priority).slot index = .zero ∨
    (priority, (system.hardware.shared.cpu3ToLinux priority).slot index) ∈ system.peerWrites

/-- What the driver relies on: its endpoint, its region, its generation and the answers of PSCI fit
the state that it is in. -/
structure SessionInvariant (system : System) : Prop where
  bound : system.driver.endpoint.BoundBy .linux
  control : system.lock = .control → system.driver.mailmsgState.pendingReply = true
  response : ∀ priority lines, system.lock = .response priority lines →
    system.driver.mailmsgState = .active
  session : system.driver.mailmsgState ≠ .unarmed → OpenSession system
  announced : system.driver.mailmsgState.announced = true →
    system.driver.affinitySeenOn = true ∧
      system.driver.peerGeneration = system.driver.sessionGeneration
  slots : system.driver.sessionGeneration ≠ 0#32 → SlotsKnown system

namespace SessionInvariant

variable {system next : System} {label : DriverLabel}

/-- After probe there is no session. -/
theorem initial (start : driverMachine.init system) : SessionInvariant system := by
  obtain ⟨config, image, hardware, jiffies, rfl⟩ := start
  refine ⟨?_, ?_, ?_, ?_, ?_, ?_⟩ <;>
    simp [System.probed, Driver.probed, Endpoint.BoundBy, Endpoint.zero, SessionState.announced]

/-! ### One step

The fields of the invariant one after the other.  A launch builds the session anew, a rearm takes it
away, and every other step keeps it.
-/

/-- A slot of a reverse ring after a write by CPU3. -/
theorem peerWrite_slot (write : PeerWrite) (hardware : Hardware) (priority : Priority)
    (index : U32) :
    ((write.apply hardware).shared.cpu3ToLinux priority).slot index =
        (hardware.shared.cpu3ToLinux priority).slot index ∨
      (priority, ((write.apply hardware).shared.cpu3ToLinux priority).slot index) ∈ write.frames := by
  cases write with
  | slot target position message =>
      by_cases sameRing : priority = target
      · subst sameRing
        by_cases sameSlot : index = position
        · subst sameSlot
          right
          simp [PeerWrite.apply, PeerWrite.frames, Shared.updateRing, Shared.setRing]
        · left
          simp [PeerWrite.apply, Shared.updateRing, Shared.setRing, Shared.ring,
            Function.update_of_ne sameSlot]
      · left
        simp [PeerWrite.apply, Shared.updateRing, Shared.setRing, Function.update_of_ne sameRing]
  | producer target value =>
      left
      by_cases sameRing : priority = target
      · subst sameRing
        simp [PeerWrite.apply, Shared.updateRing, Shared.setRing, Shared.ring]
      · simp [PeerWrite.apply, Shared.updateRing, Shared.setRing, Function.update_of_ne sameRing]
  | consumer target value => exact .inl rfl
  | acknowledge channel => exact .inl rfl
  | doorbell channel command data => exact .inl rfl

/-- Only a launch changes the generation. -/
theorem generation_cases (step : LifecycleStep system label next) :
    next.driver.sessionGeneration = system.driver.sessionGeneration ∨
      ∃ cpuOn, Launched system label next cpuOn := by
  cases step with
  | quiet session _ _ => exact .inl session.sessionGeneration
  | offline session => exact .inl session.sessionGeneration
  | startTimeout session => exact .inl session.sessionGeneration
  | stopTimeout session => exact .inl session.sessionGeneration
  | ready response ready => exact .inl ready.session.sessionGeneration
  | refused response refused => exact .inl refused.session.sessionGeneration
  | stop issued => exact .inl issued.session.sessionGeneration
  | launched cpuOn launched => exact .inr ⟨cpuOn, launched⟩
  | rearmed rearmed => exact .inl rearmed.sessionGeneration

/-- Every slot that Linux could pop keeps holding what CPU3 or nobody wrote. -/
theorem slots_step (known : SlotsKnown system) (region : RegionStep system label next)
    (notLaunched : ∀ cpuOn, ¬ Launched system label next cpuOn) : SlotsKnown next := by
  have kept : ∀ {after : System},
      (∀ priority, (after.hardware.shared.cpu3ToLinux priority).slot =
        (system.hardware.shared.cpu3ToLinux priority).slot) →
      after.peerWrites = system.peerWrites → SlotsKnown after := by
    intro after slots writes priority index
    rw [slots priority, writes]
    exact known priority index
  cases region with
  | same shared peerWrites =>
      refine kept (fun priority => ?_) peerWrites
      rw [shared]
  | sent sender active effect peerWrites =>
      refine kept (fun priority => ?_) peerWrites
      cases effect with
      | nothing same => rw [same]
      | pushed slot typed sized numbered committed space published => rw [published]; rfl
  | received receiver effect peerWrites =>
      rename_i taken
      refine kept (fun priority => ?_) peerWrites
      cases effect with
      | nothing same => rw [same]
      | popped released =>
          rw [released]
          by_cases isTaken : priority = taken
          · subst isTaken
            simp [Shared.setRing, ringPop_slot]
          · simp [Shared.setRing, Function.update_of_ne isTaken]
  | initialised cpuOn launched => exact absurd launched (notLaunched cpuOn)
  | peer write isPeer hardware peerWrites =>
      intro priority index
      rw [hardware, peerWrites]
      rcases peerWrite_slot write system.hardware priority index with same | written
      · rw [same]
        exact (known priority index).imp_right (List.mem_append_left _)
      · exact .inr (List.mem_append_right _ written)

/-- A launch leaves an empty region behind an endpoint bound to its generation. -/
theorem slots_launched {cpuOn : Int} (launched : Launched system label next cpuOn) :
    SlotsKnown next := by
  intro priority index
  left
  rw [launched.region]
  rfl

/-- `mailmsg_response_show` holds the mutex only in ACTIVE. -/
theorem response_step (invariant : SessionInvariant system) (step : LockStep system next)
    (priority : Priority) (lines : List ResponseLine)
    (held : next.lock = .response priority lines) : next.driver.mailmsgState = .active := by
  cases step with
  | released free => simp [free] at held
  | kept lock state =>
      rw [lock] at held
      rw [state]
      exact invariant.response priority lines held
  | control lock pending => simp [lock] at held
  | response lock state earlier =>
      rw [state]
      rcases earlier with active | ⟨priority, lines, earlier⟩
      · exact active
      · exact invariant.response priority lines earlier

/-- Open sessions stay open until a rearm. -/
theorem session_step (invariant : SessionInvariant system) (step : LifecycleStep system label next)
    (armed : next.driver.mailmsgState ≠ .unarmed) : OpenSession next := by
  cases step with
  | quiet session state seen => exact (invariant.session (state ▸ armed)).of_same session
  | offline session answer poweredOn seenOn watched state =>
      refine (invariant.session ?_).of_same session
      intro unarmed
      simp [unarmed, SessionState.watched] at watched
  | startTimeout session expired starting =>
      exact (invariant.session (by simp [starting])).of_same session
  | stopTimeout session expired stopping =>
      exact (invariant.session (by simp [stopping])).of_same session
  | refused response refused =>
      exact (invariant.session (by simp [refused.stopping])).of_same refused.session
  | ready response ready =>
      have session := (invariant.session (by simp [ready.starting])).of_same ready.session
      exact ⟨session.attempted, session.cpuOnRet, session.nonzero, session.role, session.generation,
        session.magic, session.version, session.header⟩
  | stop issued =>
      have session := (invariant.session (by simp [issued.active])).of_same issued.session
      exact ⟨session.attempted, session.cpuOnRet, session.nonzero, session.role, session.generation,
        session.magic, session.version, session.header⟩
  | launched cpuOn launched =>
      have poweredOn : cpuOn = 0 := by
        by_contra failed
        rw [launched.state, if_neg failed] at armed
        exact armed rfl
      have region := launched.region
      refine ⟨launched.attempted, launched.cpuOnRet.trans poweredOn, ?_, launched.role,
        launched.generation, ?_, ?_, ?_⟩
      · rw [launched.sessionGeneration]
        exact nextNonzero_ne_zero _
      · rw [region]
        rfl
      · rw [region]
        rfl
      · rw [region]
        rfl
  | rearmed rearmed => exact absurd rearmed.state armed

/-- A state behind SESSION_READY is entered with the announced generation. -/
theorem announced_step (invariant : SessionInvariant system)
    (step : LifecycleStep system label next)
    (announced : next.driver.mailmsgState.announced = true) :
    next.driver.affinitySeenOn = true ∧
      next.driver.peerGeneration = next.driver.sessionGeneration := by
  have of_seen : SeenStep system label next → system.driver.affinitySeenOn = true →
      next.driver.affinitySeenOn = true := by
    intro seen already
    rcases seen with same | ⟨now, -⟩
    · rw [same, already]
    · exact now
  cases step with
  | quiet session state seen =>
      obtain ⟨already, peer⟩ := invariant.announced (state ▸ announced)
      exact ⟨of_seen seen already, by rw [session.peerGeneration, peer, session.sessionGeneration]⟩
  | offline session answer poweredOn seenOn watched state =>
      simp [state, SessionState.announced] at announced
  | startTimeout session expired starting state =>
      simp [state, SessionState.announced] at announced
  | stopTimeout session expired stopping state seen =>
      obtain ⟨already, peer⟩ := invariant.announced (by simp [stopping, SessionState.announced])
      exact ⟨of_seen seen already, by rw [session.peerGeneration, peer, session.sessionGeneration]⟩
  | ready response ready =>
      exact ⟨ready.seenOn, ready.peerGeneration.trans ready.session.sessionGeneration.symm⟩
  | refused response refused =>
      obtain ⟨already, peer⟩ :=
        invariant.announced (by simp [refused.stopping, SessionState.announced])
      exact ⟨refused.seenOn.trans already,
        by rw [refused.session.peerGeneration, peer, refused.session.sessionGeneration]⟩
  | stop issued =>
      obtain ⟨already, peer⟩ :=
        invariant.announced (by simp [issued.active, SessionState.announced])
      exact ⟨issued.seenOn.trans already,
        (issued.session.peerGeneration.trans peer).trans issued.session.sessionGeneration.symm⟩
  | launched cpuOn launched =>
      rw [launched.state] at announced
      split at announced <;> simp [SessionState.announced] at announced
  | rearmed rearmed => simp [rearmed.state, SessionState.announced] at announced

/-- Every field in one step. -/
theorem step (invariant : SessionInvariant system) (taken : driverStep system label = some next) :
    SessionInvariant next := by
  have lifecycle := driverStep_lifecycle invariant.bound invariant.control taken
  have region := driverStep_region invariant.bound taken
  have lock := driverStep_lock invariant.bound taken
  refine ⟨lifecycle.boundBy invariant.bound, lock.control_pending invariant.control,
    invariant.response_step lock, invariant.session_step lifecycle,
    invariant.announced_step lifecycle, ?_⟩
  intro initialised
  by_cases launch : ∃ cpuOn, Launched system label next cpuOn
  · obtain ⟨cpuOn, launched⟩ := launch
    exact slots_launched launched
  · have notLaunched : ∀ cpuOn, ¬ Launched system label next cpuOn :=
      fun cpuOn launched => launch ⟨cpuOn, launched⟩
    have same := (generation_cases lifecycle).resolve_right launch
    exact slots_step (invariant.slots (same ▸ initialised)) region notLaunched

/-- In every run. -/
theorem reachable (reached : driverMachine.Reachable system) : SessionInvariant system :=
  reached.invariant (fun _ start => initial start) fun _ _ _ _ invariant taken =>
    invariant.step taken

end SessionInvariant

/-- ACTIVE has an open session. -/
theorem SessionInvariant.active_session {system : System} (invariant : SessionInvariant system)
    (active : system.driver.mailmsgState = .active) : OpenSession system := by
  apply invariant.session
  rw [active]
  decide

/-- A launch finds the driver unarmed. -/
theorem SessionInvariant.launched_unarmed {system next : System} {label : DriverLabel} {cpuOn : Int}
    (invariant : SessionInvariant system) (launched : Launched system label next cpuOn) :
    system.driver.mailmsgState = .unarmed := by
  by_contra armed
  have attempted := (invariant.session armed).attempted
  rw [launched.notAttempted] at attempted
  cases attempted

/-! ### The state machine

The edges of `LifecycleStep`, read through the invariant: what the states guarantee and which answer
of PSCI or which frame took the edge.
-/

/-- A p0 frame that passes every check of pop, carries the current generation, arrives before the
deadline and was written by CPU3 since the last start. -/
structure CurrentFrame (system : System) (response : Message) : Prop where
  popped : ∃ ring, ringPop (system.hardware.shared.cpu3ToLinux .critical) =
    (.ok, ring, some response)
  committed : response.commit = response.sequence
  wellFormed : response.malformed = false
  crc : response.crc32 = frameCrc32 response
  generation : response.generation = system.driver.sessionGeneration
  inTime : system.jiffies < system.driver.lifecycleDeadline
  received : (Priority.critical, response) ∈ system.peerWrites

/-- The frame that opens a session. -/
structure SessionReadyConsumed (system : System) (response : Message) : Prop
    extends CurrentFrame system response where
  type : response.type = MessageType.sessionReady
  length : sessionBytes ≤ response.length.toNat
  announced : payloadU32 response.payloadAt 0 = system.driver.sessionGeneration
  protocol : payloadU32 response.payloadAt 4 = protocolVersion

/-- The frame that takes a stop request back. -/
structure StopRefusedConsumed (system : System) (response : Message) : Prop
    extends CurrentFrame system response where
  type : response.type = MessageType.stopRefused
  length : feedbackBytes ≤ response.length.toNat
  answers : payloadU32 response.payloadAt 0 = system.driver.stopRequestSequence

/-- The step is a rearm that succeeds. -/
def RearmSucceeds (system : System) (label : DriverLabel) : Prop :=
  ∃ count affinity, label = .rearm true count affinity ∧
    (rearmStore system true count affinity).1 = count

/-- A good frame in a session carries its generation. -/
theorem SessionInvariant.currentFrame {system : System} (invariant : SessionInvariant system)
    (armed : system.driver.mailmsgState ≠ .unarmed) {response : Message}
    (frame : ControlFrame system response) : CurrentFrame system response := by
  have session := invariant.session armed
  obtain ⟨ring, popped⟩ := frame.popped
  rcases ringPop_cases (system.hardware.shared.cpu3ToLinux .critical) with
    ⟨-, value⟩ | ⟨-, -, value⟩ | ⟨-, committed, result, -, okIff, value⟩
  · rw [popped] at value
    cases value
  · rw [popped] at value
    cases value
  · rw [popped] at value
    obtain ⟨isOk, -, copied⟩ : RingResult.ok = result ∧ _ ∧ response = _ := by simpa using value
    obtain ⟨wellFormed, crc⟩ := okIff.mp isOk.symm
    have known := invariant.slots session.nonzero .critical
      (system.hardware.shared.cpu3ToLinux .critical).consumer
    refine ⟨⟨ring, popped⟩, ?_, ?_, ?_, frame.generation.trans session.generation, frame.inTime, ?_⟩
    · rw [copied]
      exact committed
    · rw [copied]
      simpa using wellFormed
    · rw [copied]
      exact crc
    · rw [copied]
      refine known.resolve_left ?_
      -- A zeroed slot has generation zero, which pop refuses.
      intro blank
      rw [blank] at wellFormed
      exact wellFormed (by decide)

/-- For every run: (1) ACTIVE belongs to a powered and announced session whose generation driver,
endpoint and peer agree on; (2) STARTING becomes ACTIVE only by consuming the current SESSION_READY
in time; (3) STOPPING becomes ACTIVE only by the STOP_REFUSED of the current request; (4) a timeout
is left only to OFFLINE or by a successful rearm, and OFFLINE only by one; (5) OFFLINE is entered
only on an OFF answer of PSCI in a powered session in which CPU3 was seen on before. -/
theorem lifecycle_state_machine {system : System} (reached : driverMachine.Reachable system) :
    (system.driver.mailmsgState = .active →
      system.driver.cpuOnAttempted = true ∧ system.driver.cpuOnRet = 0 ∧
        system.driver.affinitySeenOn = true ∧ system.driver.sessionGeneration ≠ 0#32 ∧
        system.driver.peerGeneration = system.driver.sessionGeneration ∧
        system.driver.endpoint.generation = system.driver.sessionGeneration) ∧
      ∀ label next, driverMachine.step system label = some next →
        (system.driver.mailmsgState = .starting → next.driver.mailmsgState = .active →
          label = .controlIterate ∧ ∃ response, SessionReadyConsumed system response) ∧
        (system.driver.mailmsgState = .stopping → next.driver.mailmsgState = .active →
          label = .controlIterate ∧ ∃ response, StopRefusedConsumed system response) ∧
        (system.driver.mailmsgState = .startTimeout ∨ system.driver.mailmsgState = .stopTimeout →
          next.driver.mailmsgState = system.driver.mailmsgState ∨
            next.driver.mailmsgState = .offline ∨
            next.driver.mailmsgState = .unarmed ∧ RearmSucceeds system label) ∧
        (system.driver.mailmsgState = .offline →
          next.driver.mailmsgState = .offline ∨
            next.driver.mailmsgState = .unarmed ∧ RearmSucceeds system label) ∧
        (system.driver.mailmsgState ≠ .offline → next.driver.mailmsgState = .offline →
          label.affinityAnswer = some affinityOff ∧ system.driver.cpuOnRet = 0 ∧
            system.driver.affinitySeenOn = true) := by
  have invariant := SessionInvariant.reachable reached
  refine ⟨?_, ?_⟩
  · intro active
    have session := invariant.active_session active
    obtain ⟨seenOn, peer⟩ := invariant.announced (by simp [active, SessionState.announced])
    exact ⟨session.attempted, session.cpuOnRet, seenOn, session.nonzero, peer, session.generation⟩
  · intro label next taken
    cases driverStep_lifecycle invariant.bound invariant.control taken with
    | quiet session state seen => simp_all
    | offline session answer poweredOn seenOn watched state => simp_all [SessionState.watched]
    | startTimeout session expired starting state => simp_all
    | stopTimeout session expired stopping state => simp_all
    | ready response ready =>
        have frame := invariant.currentFrame (by simp [ready.starting]) ready.frame
        have accepted := ready.accepted
        simp only [sessionReadyAccepted, Bool.and_eq_true, beq_iff_eq,
          decide_eq_true_eq] at accepted
        have consumed : ∃ response, SessionReadyConsumed system response :=
          ⟨response, frame, accepted.1.1.1, accepted.1.1.2, accepted.1.2, accepted.2⟩
        simp [ready.starting, ready.active, ready.label, consumed]
    | refused response refused =>
        have frame := invariant.currentFrame (by simp [refused.stopping]) refused.frame
        have accepted := refused.accepted
        simp only [stopReplyAccepted, Bool.and_eq_true, beq_iff_eq, decide_eq_true_eq] at accepted
        have consumed : ∃ response, StopRefusedConsumed system response :=
          ⟨response, frame, refused.refused, accepted.1.2, accepted.2⟩
        simp [refused.stopping, refused.active, refused.label, consumed]
    | stop issued =>
        have active := issued.active
        rcases issued.state with state | state <;> simp_all
    | launched cpuOn launched =>
        have unarmed := invariant.launched_unarmed launched
        have state := launched.state
        split at state <;> simp_all
    | rearmed rearmed =>
        obtain ⟨count, isRearm, ret⟩ := rearmed.label
        have succeeds : RearmSucceeds system label := ⟨count, affinityOff, isRearm, ret⟩
        simp [rearmed.state, succeeds]

/-- A driver just probed, with a one-byte image. -/
def demoProbed : System :=
  .probed ⟨1, true, true, 1500⟩ (fun _ => 0) ⟨.zero, .zero, .zero⟩ 0

/-- The SESSION_READY frame of a generation. -/
def sessionReadyFrame (generation sequence : U32) : Message :=
  (sendMessage generation MessageType.sessionReady sequence 8
    (some
      (storePayloadU32 (storePayloadU32 (fun _ => 0) 0 generation) 4 protocolVersion))).frame.committed

/-- Load, start, and let CPU3 announce itself. -/
def demoActivation : List DriverLabel :=
  [.imageWrite 0 1 (fun _ => 0), .start true 5 affinityOff 0,
    .peer (.slot .critical 0 (sessionReadyFrame 1 1)), .peer (.producer .critical 1),
    .controlEnter, .controlIterate]

/-- An ACTIVE session with the device file of priority 0 open. -/
def demoOpened : List DriverLabel := demoActivation ++ [.openFile .critical true]

theorem demoProbed_init : driverMachine.init demoProbed := ⟨_, _, _, _, rfl⟩

/-- The theorem at a run that reaches ACTIVE. -/
theorem lifecycle_state_machine_demo :
    ∃ system, driverMachine.run demoProbed demoActivation = some system ∧
      system.driver.mailmsgState = .active ∧ system.driver.cpuOnRet = 0 ∧
      system.driver.peerGeneration = system.driver.sessionGeneration := by
  have checked : (driverMachine.run demoProbed demoActivation).any (fun system =>
      system.driver.mailmsgState = .active) = true := by
    decide +kernel
  obtain ⟨system, executed, passed⟩ := driverMachine.exists_of_run_any checked
  have active := of_decide_eq_true passed
  have safe :=
    (lifecycle_state_machine (Machine.Reachable.run (.init demoProbed_init) executed)).1 active
  exact ⟨system, executed, active, safe.2.1, safe.2.2.2.2.1⟩

end MailMsg
