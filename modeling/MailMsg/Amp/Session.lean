/-
Module: MailMsg.Amp.Session
Purpose: What an ACTIVE session means on both sides: Linux and CPU3 are bound to the session of the
  region, and CPU3 has announced it.
Source: LZAMP/firmware/zephyr/app/src/main.c (mailmsg_service_session_ready, main),
  LZAMP/linux/drivers/lzamp_amp_mailmsg.c (start_store, r1_amp_mailmsg_control_work)
Trusted boundary: none beyond the models of the two sides
Main exports: Firmware.announced, Linked, firmwareStep_kept, Linked.linux_step, Linked.cpu3_step,
  active_linked
-/
import MailMsg.Amp.Machine

namespace MailMsg

/-! ### CPU3 after its announcement -/

/-- CPU3's SESSION_READY is in the ring or was there: the main thread sends no second one. -/
def Firmware.announced (firmware : Firmware) : Bool :=
  match firmware.main with
  | .entry | .bound => false
  | .queued _ | .sent _ => true
  | .polling | .committed _ | .retried _ => firmware.sessionReadyCommitted

/-- The session check reads the binding and the header. -/
theorem HeaderSame.session {before after : Shared} (header : HeaderSame before after)
    {earlier later : Endpoint} (binding : earlier.SameBinding later) :
    endpointSessionValid later after = endpointSessionValid earlier before := by
  rw [binding.session after]
  simp [endpointSessionValid, header.magic, header.version, header.generation]

/-- What CPU3 leaves alone, except for the binding and the announcement by its main thread. -/
structure Kept (before after : Board) : Prop where
  build : after.firmware.build = before.firmware.build
  ready : after.firmware.endpointReady = before.firmware.endpointReady
  binding : before.firmware.endpoint.SameBinding after.firmware.endpoint
  header : HeaderSame before.hardware.shared after.hardware.shared
  announced : after.firmware.announced = before.firmware.announced
  committed : after.firmware.announced = false →
    after.firmware.sessionReadyCommitted = before.firmware.sessionReadyCommitted

section Kept

variable {board after : Board}

/-- A step that touches neither the endpoint nor the region. -/
theorem Kept.quiet (build : after.firmware.build = board.firmware.build)
    (ready : after.firmware.endpointReady = board.firmware.endpointReady)
    (endpoint : after.firmware.endpoint = board.firmware.endpoint)
    (main : after.firmware.main = board.firmware.main)
    (committed : after.firmware.sessionReadyCommitted = board.firmware.sessionReadyCommitted)
    (shared : after.hardware.shared = board.hardware.shared) : Kept board after where
  build := build
  ready := ready
  binding := by
    rw [endpoint]
    exact .refl _
  header := by
    rw [shared]
    exact .refl _
  announced := by simp only [Firmware.announced, main, committed]
  committed := fun _ => committed

/-- A send, a doorbell or a count. -/
theorem Kept.of_send (frame : SendFrame board after) : Kept board after where
  build := frame.sameImage.build
  ready := by rw [frame.firmware]
  binding := frame.binding
  header := frame.hardware.header
  announced := by
    obtain ⟨main, committed⟩ : after.firmware.main = board.firmware.main ∧
        after.firmware.sessionReadyCommitted = board.firmware.sessionReadyCommitted := by
      rw [frame.firmware]
      exact ⟨rfl, rfl⟩
    simp only [Firmware.announced, main, committed]
  committed := by
    intro _
    rw [frame.firmware]

/-- The worker. -/
theorem workerStep_kept (bound : board.firmware.endpoint.BoundBy .cpu3)
    (stepped : workerStep board = some after) : Kept board after := by
  obtain ⟨header, binding, flags, -⟩ := workerStep_frame bound stepped
  exact ⟨flags.build, flags.ready, binding, header,
    by simp only [Firmware.announced, flags.main, flags.committed], fun _ => flags.committed⟩

/-- After the announcement the main thread only repeats doorbells and writes flags. -/
structure MainKept (before after : Board) : Prop extends Kept before after where
  shared : after.hardware.shared = before.hardware.shared
  worker : after.firmware.worker = before.firmware.worker

theorem MainKept.of_announced (build : after.firmware.build = board.firmware.build)
    (ready : after.firmware.endpointReady = board.firmware.endpointReady)
    (binding : board.firmware.endpoint.SameBinding after.firmware.endpoint)
    (shared : after.hardware.shared = board.hardware.shared)
    (worker : after.firmware.worker = board.firmware.worker)
    (before : board.firmware.announced = true) (announced : after.firmware.announced = true) :
    MainKept board after where
  build := build
  ready := ready
  binding := binding
  header := by
    rw [shared]
    exact .refl _
  announced := announced.trans before.symm
  committed := by
    intro unannounced
    rw [announced] at unannounced
    cases unannounced
  shared := shared
  worker := worker

/-- The main thread behind its announcement. -/
theorem mainStep_kept (announced : board.firmware.announced = true) :
    MainKept board (mainStep board) := by
  have rung := (cpu3Notify_frame .critical board.hardware).1
  cases start : board.firmware.main with
  | entry | bound => simp [Firmware.announced, start] at announced
  | polling =>
      have committed : board.firmware.sessionReadyCommitted = true := by
        simpa [Firmware.announced, start] using announced
      simp only [mainStep, start, committed, if_true]
      split
      · exact .of_announced rfl rfl (.refl _) rfl rfl announced announced
      · exact .of_announced rfl rfl (.refl _) rung rfl announced committed
  | queued result =>
      simp only [mainStep, start, Board.ring]
      exact .of_announced rfl rfl ⟨rfl, rfl⟩ rung rfl announced rfl
  | sent notifyResult =>
      simp only [mainStep, start]
      exact .of_announced rfl rfl (.refl _) rfl rfl announced rfl
  | committed notifyResult | retried notifyResult =>
      have committed : board.firmware.sessionReadyCommitted = true := by
        simpa [Firmware.announced, start] using announced
      simp only [mainStep, start]
      exact .of_announced rfl rfl (.refl _) rfl rfl announced committed

/-- A step of an image that has announced its session. -/
theorem firmwareStep_kept {label : FirmwareLabel} (bound : board.firmware.endpoint.BoundBy .cpu3)
    (announced : board.firmware.announced = true)
    (stepped : firmwareStep board label = some after) :
    Kept board after := by
  cases firmwareStep_activity stepped with
  | handler shared firmware =>
      apply Kept.quiet _ _ _ _ _ shared
      all_goals rw [firmware]
  | worker turn stepped => exact workerStep_kept bound stepped
  | cpuOff request position returned moved =>
      rw [moved]
      exact .quiet rfl rfl rfl rfl rfl rfl
  | main turn moved =>
      rw [moved]
      exact (mainStep_kept announced).toKept

/-- No step of CPU3 writes the header. -/
theorem firmwareStep_header {label : FirmwareLabel} (bound : board.firmware.endpoint.BoundBy .cpu3)
    (stepped : firmwareStep board label = some after) :
    HeaderSame board.hardware.shared after.hardware.shared := by
  cases firmwareStep_activity stepped with
  | handler shared firmware =>
      rw [shared]
      exact .refl _
  | worker turn stepped => exact (workerStep_kept bound stepped).header
  | cpuOff request position returned moved =>
      rw [moved]
      exact .refl _
  | main turn moved =>
      rw [moved]
      cases mainStep_spec board bound with
      | bind start moved =>
          rw [moved]
          exact .refl _
      | flags irqEnabled committed published main moved =>
          rw [moved]
          exact .refl _
      | refused noted frame hardware moved =>
          rw [moved]
          exact frame.hardware.header
      | announced start uncommitted unpublished pushed result frame space valid published moved =>
          rw [moved]
          exact frame.hardware.header
      | rung rung frame main moved =>
          rw [moved]
          exact frame.hardware.header

end Kept

/-! ### Both sides of a session -/

/-- Linux and CPU3 are bound to the session of the region, CPU3 has announced it, and `control_work`
is not in the way. -/
structure Linked (amp : Amp) : Prop where
  linux : amp.system.driver.endpoint.role = some .linux
  linuxSession : endpointSessionValid amp.system.driver.endpoint amp.system.hardware.shared = .ok
  cpu3 : amp.firmware.endpoint.role = some .cpu3
  cpu3Session : endpointSessionValid amp.firmware.endpoint amp.system.hardware.shared = .ok
  announced : amp.firmware.announced = true
  held : amp.system.lock = .control → amp.system.driver.mailmsgState.pendingReply = true

namespace Linked

variable {amp : Amp}

/-- The side of the driver's endpoint. -/
theorem linuxBound (linked : Linked amp) : amp.system.driver.endpoint.BoundBy .linux := by
  intro party hasRole
  rw [linked.linux] at hasRole
  exact (Option.some.inj hasRole).symm

/-- The side of CPU3's endpoint. -/
theorem cpu3Bound (linked : Linked amp) : amp.firmware.endpoint.BoundBy .cpu3 := by
  intro party hasRole
  rw [linked.cpu3] at hasRole
  exact (Option.some.inj hasRole).symm

/-- Both endpoints number their session alike. -/
theorem generation (linked : Linked amp) :
    amp.firmware.endpoint.generation = amp.system.driver.endpoint.generation := by
  obtain ⟨-, -, -, -, linux⟩ := (endpointSessionValid_ok_iff _ _).mp linked.linuxSession
  obtain ⟨-, -, -, -, cpu3⟩ := (endpointSessionValid_ok_iff _ _).mp linked.cpu3Session
  rw [← linux, ← cpu3]

/-- A step of CPU3. -/
theorem cpu3_step (linked : Linked amp) {label : FirmwareLabel} {board : Board}
    (stepped : firmwareStep amp.board label = some board) (power : Power) :
    Linked ⟨{ amp.system with hardware := board.hardware }, board.firmware, power⟩ := by
  have kept := firmwareStep_kept linked.cpu3Bound linked.announced stepped
  refine ⟨linked.linux, ?_, kept.binding.role.trans linked.cpu3, ?_,
    kept.announced.trans linked.announced, linked.held⟩
  · exact (kept.header.session (.refl _)).trans linked.linuxSession
  · exact (kept.header.session kept.binding).trans linked.cpu3Session

/-- A step of Linux that does not leave ACTIVE. -/
theorem linux_step (linked : Linked amp) {label : DriverLabel} {system : System}
    (stepped : driverStep amp.system label = some system)
    (active : system.driver.mailmsgState = .active) (power : Power) :
    Linked ⟨system, amp.firmware, power⟩ := by
  have lock := driverStep_lock linked.linuxBound stepped
  have lifecycle := driverStep_lifecycle linked.linuxBound linked.held stepped
  have same : ∀ {after : System}, SameSession amp.system after →
      after.driver.endpoint = system.driver.endpoint → after.hardware = system.hardware →
      Linked ⟨system, amp.firmware, power⟩ := by
    intro after session endpoint hardware
    have header : HeaderSame amp.system.hardware.shared system.hardware.shared := by
      rw [← hardware]
      exact ⟨session.magic, session.version, session.header⟩
    have binding : amp.system.driver.endpoint.SameBinding system.driver.endpoint := by
      rw [← endpoint]
      exact ⟨session.role, session.generation⟩
    exact ⟨binding.role.trans linked.linux, (header.session binding).trans linked.linuxSession,
      linked.cpu3, (header.session (.refl _)).trans linked.cpu3Session, linked.announced,
      lock.control_pending linked.held⟩
  cases lifecycle with
  | quiet session state seen => exact same session rfl rfl
  | offline session answer poweredOn seenOn watched state stillSeen =>
      rw [state] at active
      cases active
  | startTimeout session expired starting state seen =>
      rw [state] at active
      cases active
  | stopTimeout session expired stopping state seen =>
      rw [state] at active
      cases active
  | ready response ready => exact same ready.session rfl rfl
  | refused response refused => exact same refused.session rfl rfl
  | stop issued => exact same issued.session rfl rfl
  | launched cpuOn launched =>
      rw [launched.state] at active
      split at active <;> cases active
  | rearmed rearmed =>
      rw [rearmed.state] at active
      cases active

end Linked

/-! ### Before the first instruction

Between CPU_ON and the announcement nothing in the region is from CPU3, so whatever Linux finds
there is no SESSION_READY.
-/

/-- The states of a session that CPU3 has not yet announced to Linux, and the states outside a
session. -/
def SessionState.unannounced : SessionState → Bool
  | .unarmed | .starting | .startTimeout | .offline => true
  | .active | .stopping | .stopTimeout => false

/-- Between CPU_ON and the first instruction p0 is silent and Linux has not been told of the
session. -/
structure Silent (driver : Driver) (shared : Shared) : Prop where
  unannounced : driver.mailmsgState.unannounced = true
  forward : (shared.linuxToCpu3 .critical).Holds []
  reverse : (shared.cpu3ToLinux .critical).Holds []

/-- The region of a launch. -/
theorem Silent.of_region {driver : Driver} {shared : Shared} {generation : U32}
    (unannounced : driver.mailmsgState.unannounced = true)
    (region : shared = sessionRegion generation) : Silent driver shared := by
  subst region
  exact ⟨unannounced, .zero, .zero⟩

/-- A launch leaves a region in which nothing is announced. -/
theorem Silent.launched {system next : System} {label : DriverLabel} {cpuOn : Int}
    (launched : Launched system label next cpuOn) : Silent next.driver next.hardware.shared := by
  apply Silent.of_region _ launched.region
  rw [launched.state]
  split <;> rfl

/-- Nobody answers yet, so Linux stays out of the session whatever it does. -/
theorem Silent.linux {system next : System} {label : DriverLabel}
    (silent : Silent system.driver system.hardware.shared) (notPeer : label.isPeer = false)
    (lifecycle : LifecycleStep system label next) (region : RegionStep system label next) :
    Silent next.driver next.hardware.shared := by
  have unannounced : ∀ state, (state = .active ∨ state = .stopping) →
      system.driver.mailmsgState ≠ state := by
    rintro state (rfl | rfl) same
    · simpa [same, SessionState.unannounced] using silent.unannounced
    · simpa [same, SessionState.unannounced] using silent.unannounced
  by_cases launch : ∃ cpuOn, Launched system label next cpuOn
  · obtain ⟨cpuOn, launched⟩ := launch
    exact .launched launched
  · have rings : (next.hardware.shared.linuxToCpu3 .critical).Holds [] ∧
        (next.hardware.shared.cpu3ToLinux .critical).Holds [] := by
      cases region with
      | same shared peerWrites =>
          rw [shared]
          exact ⟨silent.forward, silent.reverse⟩
      | peer write isPeer hardware peerWrites =>
          rw [isPeer] at notPeer
          cases notPeer
      | sent sender active effect peerWrites => exact absurd active (unannounced _ (.inl rfl))
      | received receiver effect peerWrites =>
          rename_i priority
          rw [effect.forward]
          refine ⟨silent.forward, ?_⟩
          cases effect with
          | nothing same =>
              rw [same]
              exact silent.reverse
          | popped released =>
              rw [released]
              by_cases critical : Priority.critical = priority
              · subst critical
                simpa [Shared.setRing, silent.reverse.pop_nil] using silent.reverse
              · simpa [Shared.setRing, Function.update_of_ne critical] using silent.reverse
      | initialised cpuOn launched => exact absurd ⟨cpuOn, launched⟩ launch
    refine ⟨?_, rings.1, rings.2⟩
    cases lifecycle with
    | quiet session state seen =>
        rw [state]
        exact silent.unannounced
    | offline session answer poweredOn seenOn watched state stillSeen =>
        rw [state]
        rfl
    | startTimeout session expired starting state seen =>
        rw [state]
        rfl
    | stopTimeout session expired stopping state seen =>
        exact absurd stopping (unannounced _ (.inr rfl))
    | ready response ready =>
        obtain ⟨ring, popped⟩ := ready.frame.popped
        rw [silent.reverse.pop_nil] at popped
        cases popped
    | refused response refused => exact absurd refused.stopping (unannounced _ (.inr rfl))
    | stop issued => exact absurd issued.active (unannounced _ (.inl rfl))
    | launched cpuOn launched => exact absurd ⟨cpuOn, launched⟩ launch
    | rearmed rearmed =>
        rw [rearmed.state]
        rfl

/-- CPU_ON succeeds only in a launch. -/
theorem poweredOn_launched {system next : System} {label : DriverLabel}
    (lifecycle : LifecycleStep system label next) (powered : system.poweredOn next = true) :
    Launched system label next 0 := by
  simp only [System.poweredOn, Bool.and_eq_true, Bool.not_eq_true', beq_iff_eq] at powered
  obtain ⟨⟨before, after⟩, ret⟩ := powered
  have changed : next.driver.cpuOnAttempted ≠ system.driver.cpuOnAttempted := by
    rw [before, after]
    simp
  cases lifecycle with
  | quiet session state seen => exact absurd session.attempted changed
  | offline session answer poweredOn seenOn watched state stillSeen =>
      exact absurd session.attempted changed
  | startTimeout session expired starting state seen => exact absurd session.attempted changed
  | stopTimeout session expired stopping state seen => exact absurd session.attempted changed
  | ready response ready => exact absurd ready.session.attempted changed
  | refused response refused => exact absurd refused.session.attempted changed
  | stop issued => exact absurd issued.session.attempted changed
  | launched cpuOn launched =>
      have zero : cpuOn = 0 := launched.cpuOnRet.symm.trans ret
      rw [zero] at launched
      exact launched
  | rearmed rearmed =>
      rw [rearmed.attempted] at after
      cases after

/-! ### From CPU_ON to ACTIVE -/

/-- CPU3 while it runs.  A ready endpoint fits the region; before the announcement nothing in the
ring says SESSION_READY, and the worker never does. -/
structure Running (driver : Driver) (board : Board) : Prop where
  ready : board.firmware.endpointReady = true → board.firmware.endpoint.role = some .cpu3 ∧
    endpointSessionValid board.firmware.endpoint board.hardware.shared = .ok
  announced : board.firmware.announced = true → board.firmware.endpointReady = true
  reverse : (board.hardware.shared.cpu3ToLinux .critical).WellFormed
  silent : board.firmware.announced = false → driver.mailmsgState.unannounced = true ∧
    ∀ message ∈ (board.hardware.shared.cpu3ToLinux .critical).contents,
      message.type ≠ MessageType.sessionReady
  replies : ∀ visit reply next, board.firmware.worker = .replying visit reply next →
    reply.type ≠ MessageType.sessionReady
  early : board.firmware.announced = false → board.firmware.sessionReadyCommitted = false

section Running

variable {driver : Driver} {board after : Board}

/-- A PONG is no SESSION_READY. -/
theorem pongReply_not_session (request : Message) :
    (pongReply request).type ≠ MessageType.sessionReady := by
  simp only [pongReply]
  split <;> decide

/-- No reply of the service is a SESSION_READY. -/
theorem answer_not_session (build : Build) (visit : Visit) (request : Message) {own : Visit}
    {reply : Reply} {next : Continuation}
    (spoken : answer build visit request = .replying own reply next) :
    reply.type ≠ MessageType.sessionReady := by
  simp only [answer] at spoken
  repeat' split at spoken
  all_goals cases spoken
  all_goals first
    | exact pongReply_not_session request
    | simp only [feedbackReply]; decide

/-- A rejection is no SESSION_READY. -/
theorem reject_not_session (visit : Visit) (request : Message) (reason : U32) {own : Visit}
    {reply : Reply} {next : Continuation}
    (spoken : reject visit request reason = .replying own reply next) :
    reply.type ≠ MessageType.sessionReady := by
  simp only [reject] at spoken
  split at spoken
  · cases spoken
    simp only [feedbackReply]
    decide
  · cases spoken

/-- What follows a reply is no SESSION_READY. -/
theorem resume_not_session (visit : Visit) (accepted : Bool)
    (continuation : Continuation) {own : Visit} {reply : Reply} {next : Continuation}
    (spoken : continuation.resume visit accepted = .replying own reply next) :
    reply.type ≠ MessageType.sessionReady := by
  cases continuation with
  | drain | leave => cases spoken
  | pong request =>
      cases spoken
      exact pongReply_not_session request
  | cpuOff request =>
      simp only [Continuation.resume] at spoken
      split at spoken <;> cases spoken

/-- A step that keeps the announcement and whose reverse ring on p0 gains no SESSION_READY. -/
theorem Running.kept (running : Running driver board) (kept : Kept board after)
    (reverse : (after.hardware.shared.cpu3ToLinux .critical).WellFormed)
    (members : ∀ message ∈ (after.hardware.shared.cpu3ToLinux .critical).contents,
      message ∈ (board.hardware.shared.cpu3ToLinux .critical).contents ∨
        message.type ≠ MessageType.sessionReady)
    (replies : ∀ visit reply next, after.firmware.worker = .replying visit reply next →
      reply.type ≠ MessageType.sessionReady) : Running driver after where
  ready := by
    intro isReady
    obtain ⟨role, session⟩ := running.ready (kept.ready ▸ isReady)
    exact ⟨kept.binding.role.trans role, (kept.header.session kept.binding).trans session⟩
  announced := by
    intro announced
    rw [kept.ready]
    exact running.announced (kept.announced ▸ announced)
  reverse := reverse
  silent := by
    intro unannounced
    obtain ⟨state, nothing⟩ := running.silent (kept.announced ▸ unannounced)
    refine ⟨state, ?_⟩
    intro message member
    rcases members message member with old | other
    · exact nothing message old
    · exact other
  replies := replies
  early := by
    intro unannounced
    rw [kept.committed unannounced]
    exact running.early (kept.announced ▸ unannounced)

/-- A step that leaves the region alone. -/
theorem Running.still (running : Running driver board) (kept : Kept board after)
    (shared : after.hardware.shared = board.hardware.shared)
    (replies : ∀ visit reply next, after.firmware.worker = .replying visit reply next →
      reply.type ≠ MessageType.sessionReady) : Running driver after := by
  apply running.kept kept _ _ replies
  · rw [shared]
    exact running.reverse
  · rw [shared]
    exact fun _ => .inl

/-- A frame published on a reverse ring, seen from p0. -/
theorem publish_critical {shared : Shared} (reverse : (shared.cpu3ToLinux .critical).WellFormed)
    {priority : Priority}
    (space : ringNext (shared.cpu3ToLinux priority).producer ≠ (shared.cpu3ToLinux priority).consumer)
    (slot : Message) :
    ((shared.setRing .cpu3 priority ((shared.cpu3ToLinux priority).publish slot)).cpu3ToLinux
        .critical).WellFormed ∧
      ∀ message ∈ ((shared.setRing .cpu3 priority
        ((shared.cpu3ToLinux priority).publish slot)).cpu3ToLinux .critical).contents,
        message ∈ (shared.cpu3ToLinux .critical).contents ∨ message = slot := by
  by_cases critical : Priority.critical = priority
  · subst critical
    simp only [Shared.setRing, Function.update_self]
    exact ⟨reverse.publish slot, fun _ => reverse.mem_publish space⟩
  · simp only [Shared.setRing, Function.update_of_ne critical]
    exact ⟨reverse, fun _ => .inl⟩

/-- The worker publishes replies, and none of them is SESSION_READY. -/
theorem Running.worked (running : Running driver board)
    (bound : board.firmware.endpoint.BoundBy .cpu3)
    (stepped : workerStep board = some after) : Running driver after := by
  have kept := workerStep_kept bound stepped
  cases workerStep_spec stepped with
  | quiet before silent shared firmware =>
      apply running.still kept shared
      intro visit reply next position
      rw [position] at silent
      cases silent
  | drained visit position moved =>
      subst moved
      cases drain_spec board visit bound with
      | untouched moved =>
          rw [moved] at kept ⊢
          exact running.still kept rfl (fun _ _ _ spoken => by cases spoken)
      | idle endpoint binding moved =>
          rw [moved] at kept ⊢
          exact running.kept kept running.reverse (fun _ => .inl) (fun _ _ _ spoken =>
            by cases spoken)
      | served endpoint binding request head moved =>
          rw [moved] at kept ⊢
          exact running.kept kept running.reverse (fun _ => .inl)
            (fun _ _ _ => answer_not_session _ _ _)
      | rejected endpoint binding request reason moved =>
          rw [moved] at kept ⊢
          exact running.kept kept running.reverse (fun _ => .inl)
            (fun _ _ _ => reject_not_session _ _ _)
  | replied visit reply next position moved =>
      subst moved
      cases sendReply_spec board visit reply next bound with
      | refused noted frame hardware cause moved =>
          rw [moved] at kept ⊢
          exact running.still kept (congrArg Hardware.shared hardware)
            (fun _ _ _ => resume_not_session _ _ _)
      | queued pushed result frame space valid published moved =>
          rw [moved] at kept ⊢
          obtain ⟨reverse, members⟩ :=
            publish_critical running.reverse space (board.frameOf reply).committed
          refine running.kept kept ?_ ?_ (fun _ _ _ spoken => by cases spoken)
          · simp only [Board.work, published]
            exact reverse
          · simp only [Board.work, published]
            intro message member
            rcases members message member with old | rfl
            · exact .inl old
            · exact .inr (running.replies visit reply next position)
  | rung visit result next position moved =>
      subst moved
      obtain ⟨rung, frame, moved⟩ := ringReply_spec board visit result next
      rw [moved] at kept ⊢
      exact running.still kept frame.shared (fun _ _ _ => resume_not_session _ _ _)

/-- The main thread binds, enables its interrupts, and announces the session once. -/
theorem Running.advanced (running : Running driver board)
    (bound : board.firmware.endpoint.BoundBy .cpu3) : Running driver (mainStep board) := by
  by_cases announced : board.firmware.announced = true
  · have kept := mainStep_kept announced
    apply running.still kept.toKept kept.shared
    rw [kept.worker]
    exact running.replies
  have unannounced : board.firmware.announced = false := by simpa using announced
  have flag := running.early unannounced
  cases start : board.firmware.main with
  | entry =>
      simp only [mainStep, start]
      refine ⟨?_, ?_, running.reverse, ?_, running.replies, ?_⟩
      · intro ready
        obtain ⟨role, generation, nonzero, magic, version⟩ :=
          endpointBind_ok (of_decide_eq_true ready)
        refine ⟨role, (endpointSessionValid_ok_iff _ _).mpr ⟨?_, ?_, magic, version, generation.symm⟩⟩
        · rw [role]
          rfl
        · rw [generation]
          exact nonzero
      · intro late
        cases late
      · exact fun _ => running.silent unannounced
      · exact fun _ => flag
  | bound =>
      simp only [mainStep, start]
      refine ⟨running.ready, ?_, running.reverse, ?_, running.replies, ?_⟩
      · intro late
        exact absurd (flag.symm.trans late) Bool.false_ne_true
      · exact fun _ => running.silent unannounced
      · exact fun _ => flag
  | polling =>
      obtain ⟨offered, frame⟩ := board.enqueue_spec .critical
        (sessionReadyReply board.firmware.endpoint.generation) bound
      simp only [mainStep, start, flag, Bool.false_eq_true, if_false]
      generalize board.enqueue .critical (sessionReadyReply board.firmware.endpoint.generation) =
        sent at *
      split
      · exact running
      · rename_i due
        have isReady : board.firmware.endpointReady = true := by
          by_contra notReady
          exact due (.inr (.inl notReady))
        cases offered with
        | refused ret hardware cause =>
            have noted := frame.record sent.1.result
            rw [if_pos ret]
            apply running.still (.of_send noted) (congrArg Hardware.shared hardware)
            rw [noted.firmware]
            exact running.replies
        | pushed ret space valid published =>
            rw [if_neg (not_not_intro ret)]
            have kept := Kept.of_send frame
            obtain ⟨reverse, -⟩ := publish_critical running.reverse space
              (board.frameOf (sessionReadyReply board.firmware.endpoint.generation)).committed
            obtain ⟨role, session⟩ := running.ready isReady
            refine ⟨?_, ?_, ?_, ?_, ?_, ?_⟩
            · exact fun _ => ⟨kept.binding.role.trans role,
                (kept.header.session kept.binding).trans session⟩
            · exact fun _ => kept.ready.trans isReady
            · simp only [Board.proceed, published]
              exact reverse
            · intro late
              cases late
            · simp only [Board.proceed]
              rw [frame.firmware]
              exact running.replies
            · intro late
              cases late
  | queued | sent => simp [Firmware.announced, start] at unannounced
  | committed | retried =>
      simp only [mainStep, start]
      refine ⟨running.ready, ?_, running.reverse, ?_, running.replies, ?_⟩
      · intro late
        exact absurd (flag.symm.trans late) Bool.false_ne_true
      · exact fun _ => running.silent unannounced
      · exact fun _ => flag

/-- One step of CPU3. -/
theorem Running.cpu3 (running : Running driver board)
    (bound : board.firmware.endpoint.BoundBy .cpu3)
    {label : FirmwareLabel} (stepped : firmwareStep board label = some after) :
    Running driver after := by
  cases firmwareStep_activity stepped with
  | handler shared firmware =>
      apply running.still (.quiet _ _ _ _ _ shared) shared
      · rw [firmware]
        exact running.replies
      all_goals rw [firmware]
  | worker turn stepped => exact running.worked bound stepped
  | cpuOff request position returned moved =>
      rw [moved]
      refine running.still (.quiet rfl rfl rfl rfl rfl rfl) rfl ?_
      intro visit reply next spoken
      cases returned <;> cases spoken
  | main turn moved =>
      rw [moved]
      exact running.advanced bound

/-- One step of Linux while CPU3 runs: only a SESSION_READY could bring Linux into the session. -/
theorem Running.linux {system next : System} {firmware : Firmware} {label : DriverLabel}
    (running : Running system.driver ⟨firmware, system.hardware⟩) (notPeer : label.isPeer = false)
    (awake : label.affinityAnswer ≠ some affinityOff)
    (lifecycle : LifecycleStep system label next) (region : RegionStep system label next) :
    Running next.driver ⟨firmware, next.hardware⟩ := by
  have rings : (next.hardware.shared.cpu3ToLinux .critical).WellFormed ∧
      ∀ message ∈ (next.hardware.shared.cpu3ToLinux .critical).contents,
        message ∈ (system.hardware.shared.cpu3ToLinux .critical).contents := by
    cases region with
    | same shared peerWrites =>
        rw [shared]
        exact ⟨running.reverse, fun _ => id⟩
    | peer write isPeer hardware peerWrites =>
        rw [isPeer] at notPeer
        cases notPeer
    | sent sender active effect peerWrites =>
        rw [effect.reverse]
        exact ⟨running.reverse, fun _ => id⟩
    | received receiver effect peerWrites => exact effect.reverse running.reverse
    | initialised cpuOn launched =>
        obtain ⟨count, same⟩ := launched.label
        exact absurd (congrArg DriverLabel.affinityAnswer same) awake
  have transfer : ∀ {after : System}, SameSession system after → after.hardware = next.hardware →
      (firmware.announced = false → next.driver.mailmsgState.unannounced = true) →
      Running next.driver ⟨firmware, next.hardware⟩ := by
    intro after session hardware state
    have header : HeaderSame system.hardware.shared next.hardware.shared := by
      rw [← hardware]
      exact ⟨session.magic, session.version, session.header⟩
    refine ⟨?_, running.announced, rings.1, ?_, running.replies, running.early⟩
    · intro ready
      obtain ⟨role, valid⟩ := running.ready ready
      exact ⟨role, (header.session (.refl _)).trans valid⟩
    · intro unannounced
      obtain ⟨-, nothing⟩ := running.silent unannounced
      exact ⟨state unannounced, fun message member => nothing message (rings.2 message member)⟩
  have outside : ∀ state, state.unannounced = false → system.driver.mailmsgState = state →
      firmware.announced = false → next.driver.mailmsgState.unannounced = true := by
    intro state inside same unannounced
    have earlier := (running.silent unannounced).1
    rw [same, inside] at earlier
    cases earlier
  cases lifecycle with
  | quiet session state seen =>
      apply transfer session rfl
      intro unannounced
      rw [state]
      exact (running.silent unannounced).1
  | offline session answer poweredOn seenOn watched state stillSeen => exact absurd answer awake
  | startTimeout session expired starting state seen =>
      apply transfer session rfl
      rw [state]
      exact fun _ => rfl
  | stopTimeout session expired stopping state seen =>
      exact transfer session rfl (outside _ rfl stopping)
  | ready response ready =>
      apply transfer ready.session rfl
      intro unannounced
      obtain ⟨ring, popped⟩ := ready.frame.popped
      have member := running.reverse.popped_mem (congrArg (fun result => result.2.2) popped)
      have named := ready.accepted
      simp only [sessionReadyAccepted, Bool.and_eq_true, beq_iff_eq] at named
      exact absurd named.1.1.1 ((running.silent unannounced).2 response member)
  | refused response refused => exact transfer refused.session rfl (outside _ rfl refused.stopping)
  | stop issued => exact transfer issued.session rfl (outside _ rfl issued.active)
  | launched cpuOn launched =>
      obtain ⟨count, same⟩ := launched.label
      exact absurd (congrArg DriverLabel.affinityAnswer same) awake
  | rearmed rearmed =>
      obtain ⟨count, same, -⟩ := rearmed.label
      exact absurd (congrArg DriverLabel.affinityAnswer same) awake

end Running

/-- What holds in every state of the board. -/
structure LinkInvariant (amp : Amp) : Prop where
  linux : amp.system.driver.endpoint.BoundBy .linux
  held : amp.system.lock = .control → amp.system.driver.mailmsgState.pendingReply = true
  session : amp.system.driver.endpoint.role.isSome →
    endpointSessionValid amp.system.driver.endpoint amp.system.hardware.shared = .ok
  armed : amp.system.driver.mailmsgState ≠ .unarmed → amp.system.driver.endpoint.role.isSome
  cpu3 : amp.firmware.endpoint.BoundBy .cpu3
  pending : amp.power = .pending → Silent amp.system.driver amp.system.hardware.shared
  on : amp.power = .on → Running amp.system.driver amp.board

namespace LinkInvariant

variable {amp next : Amp}

/-- After probe no session runs. -/
theorem initial {build : Build} (start : (ampMachine build).init amp) : LinkInvariant amp := by
  obtain ⟨config, image, hardware, jiffies, rfl⟩ := start
  refine ⟨?_, ?_, ?_, ?_, ?_, ?_, ?_⟩
  · intro party bound
    cases bound
  · intro held
    cases held
  · intro bound
    cases bound
  · intro armed
    exact absurd rfl armed
  · intro party bound
    cases bound
  · intro pending
    cases pending
  · intro running
    cases running

/-- The driver's endpoint fits the region from a launch to the next rearm. -/
theorem linux_session {system next : System} {label : DriverLabel}
    (lifecycle : LifecycleStep system label next)
    (session : system.driver.endpoint.role.isSome →
      endpointSessionValid system.driver.endpoint system.hardware.shared = .ok)
    (armed : system.driver.mailmsgState ≠ .unarmed → system.driver.endpoint.role.isSome) :
    (next.driver.endpoint.role.isSome →
        endpointSessionValid next.driver.endpoint next.hardware.shared = .ok) ∧
      (next.driver.mailmsgState ≠ .unarmed → next.driver.endpoint.role.isSome) := by
  have same : ∀ {after : System}, SameSession system after →
      after.driver.endpoint = next.driver.endpoint → after.hardware = next.hardware →
      system.driver.mailmsgState ≠ .unarmed ∨
        next.driver.mailmsgState = system.driver.mailmsgState →
      (next.driver.endpoint.role.isSome →
          endpointSessionValid next.driver.endpoint next.hardware.shared = .ok) ∧
        (next.driver.mailmsgState ≠ .unarmed → next.driver.endpoint.role.isSome) := by
    intro after kept endpoint hardware state
    have header : HeaderSame system.hardware.shared next.hardware.shared := by
      rw [← hardware]
      exact ⟨kept.magic, kept.version, kept.header⟩
    have binding : system.driver.endpoint.SameBinding next.driver.endpoint := by
      rw [← endpoint]
      exact ⟨kept.role, kept.generation⟩
    rw [binding.role, header.session binding]
    refine ⟨session, ?_⟩
    intro still
    rcases state with before | unchanged
    · exact armed before
    · exact armed (unchanged ▸ still)
  cases lifecycle with
  | quiet kept state seen => exact same kept rfl rfl (.inr state)
  | offline kept answer poweredOn seenOn watched state stillSeen =>
      refine same kept rfl rfl (.inl ?_)
      intro unarmed
      rw [unarmed] at watched
      cases watched
  | startTimeout kept expired starting state seen =>
      exact same kept rfl rfl (.inl (by simp [starting]))
  | stopTimeout kept expired stopping state seen =>
      exact same kept rfl rfl (.inl (by simp [stopping]))
  | ready response ready => exact same ready.session rfl rfl (.inl (by simp [ready.starting]))
  | refused response refused =>
      exact same refused.session rfl rfl (.inl (by simp [refused.stopping]))
  | stop issued => exact same issued.session rfl rfl (.inl (by simp [issued.active]))
  | launched cpuOn launched =>
      have bound : next.driver.endpoint.role.isSome := by
        rw [launched.role]
        rfl
      refine ⟨fun _ => (endpointSessionValid_ok_iff _ _).mpr ⟨bound, ?_, ?_, ?_, ?_⟩,
        fun _ => bound⟩
      · rw [launched.generation, launched.sessionGeneration]
        exact nextNonzero_ne_zero _
      · rw [launched.region]
        rfl
      · rw [launched.region]
        rfl
      · rw [launched.region, launched.generation]
        rfl
  | rearmed rearmed =>
      refine ⟨?_, fun armed => absurd rearmed.state armed⟩
      intro bound
      rw [rearmed.unbound] at bound
      cases bound

/-- One step of Linux. -/
theorem linux_step (invariant : LinkInvariant amp) {label : DriverLabel}
    (taken : ampStep amp (.linux label) = some next) : LinkInvariant next := by
  obtain ⟨notPeer, answers, system, stepped, rfl⟩ := ampStep_linux taken
  have lifecycle := driverStep_lifecycle invariant.linux invariant.held stepped
  have region := driverStep_region invariant.linux stepped
  have lock := driverStep_lock invariant.linux stepped
  obtain ⟨session, armed⟩ := linux_session lifecycle invariant.session invariant.armed
  refine ⟨lifecycle.boundBy invariant.linux, lock.control_pending invariant.held, session, armed,
    invariant.cpu3, ?_, ?_⟩
  · intro pending
    by_cases powered : amp.system.poweredOn system
    · exact .launched (poweredOn_launched lifecycle powered)
    · simp only [powered, Bool.false_eq_true, if_false] at pending
      exact (invariant.pending pending).linux notPeer lifecycle region
  · intro running
    by_cases powered : amp.system.poweredOn system
    · simp [powered] at running
    · simp only [powered, Bool.false_eq_true, if_false] at running
      simp only [running, Power.answers, Bool.and_eq_true, decide_eq_true_eq] at answers
      exact Running.linux (invariant.on running) notPeer answers.2 lifecycle region

/-- One step of CPU3. -/
theorem cpu3_step (invariant : LinkInvariant amp) {label : FirmwareLabel}
    (taken : ampStep amp (.cpu3 label) = some next) : LinkInvariant next := by
  obtain ⟨running, board, stepped, rfl⟩ := ampStep_cpu3 taken
  have after := (invariant.on running).cpu3 invariant.cpu3 stepped
  have image := firmwareStep_sameImage invariant.cpu3 stepped
  refine ⟨invariant.linux, invariant.held, ?_, invariant.armed, image.side invariant.cpu3, ?_,
    fun _ => after⟩
  · intro bound
    have header := firmwareStep_header invariant.cpu3 stepped
    exact (header.session (.refl _)).trans (invariant.session bound)
  · intro pending
    simp only at pending
    split at pending <;> cases pending

/-- One step of either side. -/
theorem step (invariant : LinkInvariant amp) {label : AmpLabel}
    (taken : ampStep amp label = some next) : LinkInvariant next := by
  cases label with
  | linux label => exact invariant.linux_step taken
  | cpu3 label => exact invariant.cpu3_step taken
  | boot =>
      simp only [ampStep] at taken
      split at taken
      · rename_i pending
        cases taken
        have silent := invariant.pending pending
        refine ⟨invariant.linux, invariant.held, invariant.session, invariant.armed, ?_, ?_, ?_⟩
        · intro party bound
          cases bound
        · intro still
          cases still
        · intro _
          refine ⟨?_, ?_, silent.reverse.wellFormed, ?_, ?_, fun _ => rfl⟩
          · intro ready
            cases ready
          · intro announced
            cases announced
          · intro _
            refine ⟨silent.unannounced, ?_⟩
            simp only [Amp.board]
            rw [silent.reverse.contents]
            simp
          · intro visit reply next spoken
            cases spoken
      · cases taken

end LinkInvariant

/-- In every run. -/
theorem LinkInvariant.reachable {build : Build} {amp : Amp}
    (reached : (ampMachine build).Reachable amp) : LinkInvariant amp := by
  induction reached with
  | init start => exact .initial start
  | step _ taken inductionHypothesis => exact inductionHypothesis.step taken

/-- In every run, an ACTIVE session with CPU3 running is one that both sides are bound to and that
CPU3 announced. -/
theorem active_linked {build : Build} {amp : Amp} (reached : (ampMachine build).Reachable amp)
    (running : amp.power = .on) (active : amp.system.driver.mailmsgState = .active) :
    Linked amp := by
  have invariant := LinkInvariant.reachable reached
  have on := invariant.on running
  have bound : amp.system.driver.endpoint.role.isSome := invariant.armed (by simp [active])
  obtain ⟨party, hasRole⟩ := Option.isSome_iff_exists.mp bound
  have announced : amp.firmware.announced = true := by
    by_contra unannounced
    have outside := (on.silent (by simpa [Amp.board] using unannounced)).1
    rw [active] at outside
    cases outside
  obtain ⟨role, session⟩ := on.ready (on.announced announced)
  refine ⟨?_, invariant.session bound, role, session, announced, invariant.held⟩
  rw [hasRole, invariant.linux party hasRole]

/-- An image with stop control. -/
def demoStopBuild : Build := ⟨true, none, none, false⟩

/-- The board after probe. -/
def demoAmp : Amp :=
  ⟨.probed ⟨1, true, true, 1500⟩ (fun _ => 0) ⟨.zero, .zero, .zero⟩ 0, .boot demoStopBuild, .off⟩

theorem demoAmp_init : (ampMachine demoStopBuild).init demoAmp := ⟨_, _, _, _, rfl⟩

/-- Load, start, boot, announce, and open the data plane. -/
def demoSession : List AmpLabel :=
  [.linux (.imageWrite 0 1 fun _ => 0), .linux (.start true 5 affinityOff 0), .boot] ++
    List.replicate 6 (.cpu3 .main) ++ [.linux .controlEnter, .linux .controlIterate]

end MailMsg
