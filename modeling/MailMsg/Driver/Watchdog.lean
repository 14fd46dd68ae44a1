/-
Module: MailMsg.Driver.Watchdog
Purpose: The work items as the workqueue runs them: queued, picked up and waiting for the mutex,
  executed.  No pending reply is left without its timeout and no running session without its
  affinity monitor.
Source: LZAMP/linux/drivers/lzamp_amp_mailmsg.c (r1_amp_affinity_work, r1_amp_mailmsg_control_work,
  r1_amp_mailmsg_lifecycle_timeout_work and every mod_delayed_work and cancel_delayed_work)
Trusted boundary: mod_delayed_work queues the item whatever its state, cancel_delayed_work takes it
  out of the queue and does not reach an execution that has begun
Main exports: Scheduled, scheduledStep, scheduledMachine, Armed, driverStep_armed, watchdog_armed
-/
import MailMsg.Driver.Safety

namespace MailMsg

/-! ### The workqueue -/

/-- A work item is queued: its timer runs, or it is on the workqueue. -/
def WorkQueue.queued (queue : WorkQueue) : WorkItem → Bool
  | .affinity => queue.affinityQueued
  | .control => queue.controlQueued
  | .lifecycleTimeout => queue.lifecycleTimeoutQueued

/-- The work item whose execution gets the mutex in a step. -/
def DriverLabel.executes : DriverLabel → Option WorkItem
  | .affinityWork _ => some .affinity
  | .lifecycleTimeoutWork _ => some .lifecycleTimeout
  | .controlEnter => some .control
  | _ => none

/-- The driver with the executions that were picked up and wait for the mutex. -/
structure Scheduled where
  system : System
  waiting : WorkItem → Nat

/-- A queued item can be picked up, and an execution that waits can get the mutex. -/
def Scheduled.admits (state : Scheduled) : DriverLabel → Bool
  | .dequeue item => state.system.driver.queued item
  | label => label.executes.all fun item => decide (0 < state.waiting item)

/-- The executions that wait after a step. -/
def Scheduled.waitingAfter (state : Scheduled) : DriverLabel → WorkItem → Nat
  | .dequeue item => Function.update state.waiting item (state.waiting item + 1)
  | label =>
      match label.executes with
      | none => state.waiting
      | some item => Function.update state.waiting item (state.waiting item - 1)

/-- A step of the driver under the workqueue. -/
def scheduledStep (state : Scheduled) (label : DriverLabel) : Option Scheduled :=
  if state.admits label then
    (driverStep state.system label).map fun next => ⟨next, state.waitingAfter label⟩
  else none

/-- Every run of the driver since probe, with the workqueue. -/
def scheduledMachine : Machine Scheduled DriverLabel where
  init state := driverMachine.init state.system ∧ state.waiting = fun _ => 0
  step := scheduledStep

/-- A step of the machine is a step of the driver that the queue admits. -/
theorem scheduledStep_eq_some {state next : Scheduled} {label : DriverLabel}
    (taken : scheduledStep state label = some next) :
    state.admits label = true ∧ driverStep state.system label = some next.system ∧
      next.waiting = state.waitingAfter label := by
  simp only [scheduledStep] at taken
  split at taken
  · rename_i admitted
    obtain ⟨system, stepped, rfl⟩ := Option.map_eq_some_iff.mp taken
    exact ⟨admitted, stepped, rfl⟩
  · cases taken

/-- The workqueue only restricts the runs of the driver. -/
theorem Scheduled.reachable {state : Scheduled} (reached : scheduledMachine.Reachable state) :
    driverMachine.Reachable state.system := by
  induction reached with
  | init start => exact .init start.1
  | step _ taken inductionHypothesis =>
      exact inductionHypothesis.step (scheduledStep_eq_some taken).2.1

/-! ### What a step leaves queued

Each operation is looked at for one thing: whether it leaves somebody waiting whom nobody watches.
-/

/-- Whoever waits after a step is watched: the item was queued in the step, or the wait is an old
one and the item is as it was. -/
structure Armed (before after : Driver) : Prop where
  watchdog : after.mailmsgState.pendingReply = true →
    after.lifecycleTimeoutQueued = true ∨
      (before.mailmsgState.pendingReply = true ∧
        after.lifecycleTimeoutQueued = before.lifecycleTimeoutQueued)
  monitor : after.mailmsgState.watched = true →
    after.affinityQueued = true ∨
      (before.mailmsgState.watched = true ∧ after.affinityQueued = before.affinityQueued)

namespace Armed

/-- A step that changes neither the state nor the two items. -/
theorem same {before after : Driver} (state : after.mailmsgState = before.mailmsgState)
    (lifecycleTimeout : after.lifecycleTimeoutQueued = before.lifecycleTimeoutQueued)
    (affinity : after.affinityQueued = before.affinityQueued) : Armed before after where
  watchdog := fun pending => .inr ⟨state ▸ pending, lifecycleTimeout⟩
  monitor := fun watched => .inr ⟨state ▸ watched, affinity⟩

/-- Nothing happened. -/
theorem refl (driver : Driver) : Armed driver driver := .same rfl rfl rfl

/-- The data plane leaves the state and the queue alone. -/
theorem of_data {before after : System} (step : DataStep before after) :
    Armed before.driver after.driver :=
  .same (congrArg Lifecycle.mailmsgState step.lifecycle)
    (congrArg WorkQueue.lifecycleTimeoutQueued step.queue)
    (congrArg WorkQueue.affinityQueued step.queue)

/-- One operation after the other. -/
theorem trans {first second third : Driver} (earlier : Armed first second)
    (later : Armed second third) : Armed first third where
  watchdog := by
    intro pending
    rcases later.watchdog pending with queued | ⟨pending, kept⟩
    · exact .inl queued
    · rw [kept]
      exact earlier.watchdog pending
  monitor := by
    intro watched
    rcases later.monitor watched with queued | ⟨watched, kept⟩
    · exact .inl queued
    · rw [kept]
      exact earlier.monitor watched

/-- The reply is no longer awaited and the monitor goes on. -/
theorem ended {before after : Driver} (answered : after.mailmsgState.pendingReply = false)
    (watched : before.mailmsgState.watched = true)
    (affinity : after.affinityQueued = before.affinityQueued) : Armed before after where
  watchdog := by
    intro pending
    rw [answered] at pending
    cases pending
  monitor := fun _ => .inr ⟨watched, affinity⟩

/-- Nothing runs any more. -/
theorem unwatched {before after : Driver} (idle : after.mailmsgState.watched = false) :
    Armed before after where
  watchdog := by
    intro pending
    cases state : after.mailmsgState <;>
      simp [state, SessionState.watched, SessionState.pendingReply] at idle pending
  monitor := by
    intro watched
    rw [idle] at watched
    cases watched

end Armed

/-- Whoever waits for a reply is watched. -/
theorem SessionState.watched_of_pendingReply {state : SessionState}
    (pending : state.pendingReply = true) : state.watched = true := by
  cases state with
  | starting | stopping => rfl
  | unarmed | startTimeout | active | stopTimeout | offline => cases pending

/-- Where the timeout leads no reply is awaited. -/
theorem setTimeoutLocked_answered (driver : Driver) :
    (setTimeoutLocked driver).mailmsgState.pendingReply = false := by
  unfold setTimeoutLocked Driver.wakeReaders
  cases state : driver.mailmsgState <;> simp [state, SessionState.pendingReply]

@[simp] theorem setTimeoutLocked_affinityQueued (driver : Driver) :
    (setTimeoutLocked driver).affinityQueued = driver.affinityQueued := by
  unfold setTimeoutLocked Driver.wakeReaders
  cases driver.mailmsgState <;> rfl

/-- An answer of OFF ends the watch together with the session. -/
theorem refreshAffinityLocked_armed (driver : Driver) (answer : Int) :
    Armed driver (refreshAffinityLocked driver answer) := by
  rcases refreshAffinityLocked_cases driver answer with value | ⟨-, -, -, -, value⟩
  · rw [value]
    exact .same rfl rfl rfl
  · rw [value]
    exact .unwatched rfl

/-- The affinity work queues itself again as long as something is to be watched. -/
theorem affinityWork_armed (system : System) (answer : Int) :
    Armed system.driver (affinityWork system answer).driver ∧
      ((affinityWork system answer).driver.mailmsgState.watched = true →
        (affinityWork system answer).driver.affinityQueued = true) := by
  simp only [affinityWork]
  split
  · rename_i idle
    exact ⟨.refl _, fun watched => absurd watched idle⟩
  · have asked := refreshAffinityLocked_armed
      { system.driver with affinityMonitorCount := system.driver.affinityMonitorCount + 1 } answer
    have requeued : ∀ driver : Driver, driver.mailmsgState.watched = true →
        (driver.affinityQueued || driver.mailmsgState.watched) = true := by
      intro driver watched
      rw [watched, Bool.or_true]
    refine ⟨⟨?_, fun watched => .inl (requeued _ watched)⟩, fun watched => requeued _ watched⟩
    split <;> exact asked.watchdog

/-- The timeout work queues itself again as long as the reply is awaited. -/
theorem lifecycleTimeoutWork_armed (system : System) (answer : Int) :
    Armed system.driver (lifecycleTimeoutWork system answer).driver ∧
      ((lifecycleTimeoutWork system answer).driver.mailmsgState.pendingReply = true →
        (lifecycleTimeoutWork system answer).driver.lifecycleTimeoutQueued = true) := by
  have asked := refreshAffinityLocked_armed system.driver answer
  simp only [lifecycleTimeoutWork]
  split
  · rename_i idle
    exact ⟨.refl _, fun pending => absurd pending idle⟩
  · rename_i pending
    have watched := SessionState.watched_of_pendingReply (not_not.mp pending)
    split
    · exact ⟨⟨fun _ => .inl rfl, fun watched => .inr ⟨watched, rfl⟩⟩, fun _ => rfl⟩
    · split
      · split
        · rename_i offline
          refine ⟨asked, fun pending => ?_⟩
          rw [offline] at pending
          cases pending
        · rename_i running
          have answered := setTimeoutLocked_answered (refreshAffinityLocked system.driver answer)
          have stillWatched : (refreshAffinityLocked system.driver answer).mailmsgState.watched =
              true := by
            rcases refreshAffinityLocked_cases system.driver answer with value | ⟨-, -, -, -, value⟩
            · rw [value]
              exact watched
            · rw [value] at running
              exact absurd rfl running
          refine ⟨asked.trans (.ended answered stillWatched (setTimeoutLocked_affinityQueued _)),
            fun pending => ?_⟩
          rw [answered] at pending
          cases pending
      · have answered := setTimeoutLocked_answered system.driver
        refine ⟨.ended answered watched (setTimeoutLocked_affinityQueued _), fun pending => ?_⟩
        rw [answered] at pending
        cases pending

/-- A deadline that is past ends what the watchdog is for. -/
theorem controlEnter_armed (system : System) :
    Armed system.driver (controlEnter system).driver := by
  simp only [controlEnter]
  split
  · exact .refl _
  · rename_i pending
    have watched := SessionState.watched_of_pendingReply (not_not.mp pending)
    split
    · exact .ended (setTimeoutLocked_answered _) watched (setTimeoutLocked_affinityQueued _)
    · exact .refl _

/-- An accepted SESSION_READY ends the wait; an accepted answer to the stop ends it or queues the
watchdog for its deadline. -/
theorem controlResponse_armed {system : System} (response : Message)
    (watched : system.driver.mailmsgState.watched = true) :
    Armed system.driver (controlResponse system response).driver := by
  simp only [controlResponse]
  split
  · split
    · exact .refl _
    · exact .ended rfl watched rfl
  · split
    · exact .refl _
    · split
      · exact ⟨fun _ => .inl rfl, fun watched => .inr ⟨watched, rfl⟩⟩
      · exact .ended rfl watched rfl

/-- An iteration of the loop, whatever it receives. -/
theorem controlIterate_armed (system : System) (bound : system.driver.endpoint.BoundBy .linux)
    (pending : system.driver.mailmsgState.pendingReply = true) :
    Armed system.driver (controlIterate system).driver := by
  have step := (linuxReceive_effect system .critical bound).data
  have taken : Armed system.driver (linuxReceive system .critical).2.driver := .of_data step
  have watched : (linuxReceive system .critical).2.driver.mailmsgState.watched = true := by
    rw [congrArg Lifecycle.mailmsgState step.lifecycle]
    exact SessionState.watched_of_pendingReply pending
  simp only [controlIterate]
  split
  · exact taken
  · split
    · exact taken
    · split
      · split
        · refine taken.trans ?_
          simp only
          split <;> exact .same rfl rfl rfl
        · refine taken.trans ?_
          simp only
          split <;> exact .same rfl rfl rfl
      · split
        · exact taken.trans
            (.ended (setTimeoutLocked_answered _) watched (setTimeoutLocked_affinityQueued _))
        · exact taken.trans (controlResponse_armed _ watched)

/-- Work items queue themselves again while there is something to watch. -/
theorem LifecycleWork.armed {system next : System} {label : DriverLabel}
    (work : LifecycleWork system label next) : Armed system.driver next.driver := by
  cases work with
  | affinityWork answer => exact (affinityWork_armed system answer).1
  | lifecycleTimeoutWork answer => exact (lifecycleTimeoutWork_armed system answer).1
  | controlEnter => exact controlEnter_armed system
  | affinityState answer =>
      simp only [affinityStateShow]
      split
      · exact .refl _
      · exact refreshAffinityLocked_armed system.driver answer
  | startAsked answer cpuOn => exact refreshAffinityLocked_armed system.driver answer
  | rearmAsked answer => exact refreshAffinityLocked_armed system.driver answer

/-- A stop begins the wait for its reply, or leaves ACTIVE as it is. -/
theorem requestStop_armed {system : System} (active : system.driver.mailmsgState = .active)
    (bound : system.driver.endpoint.BoundBy .linux) :
    Armed system.driver (requestStop system).2.driver := by
  have step := (linuxSend_effect system.stopping .critical MessageType.stopRequest none 0 bound).data
  have affinity := congrArg WorkQueue.affinityQueued step.queue
  have watched : system.driver.mailmsgState.watched = true := by
    rw [active]
    rfl
  simp only [requestStop]
  split
  · exact .ended rfl watched affinity
  · exact ⟨fun _ => .inl rfl, fun _ => .inr ⟨watched, affinity⟩⟩

/-- A launch that PSCI accepted queues both items; one that it refused has nothing to watch. -/
theorem Launched.armed {system next : System} {label : DriverLabel} {cpuOn : Int}
    (launched : Launched system label next cpuOn) : Armed system.driver next.driver := by
  by_cases started : cpuOn = 0
  · obtain ⟨monitor, watchdog⟩ := launched.monitored started
    exact ⟨fun _ => .inl watchdog, fun _ => .inl monitor⟩
  · apply Armed.unwatched
    rw [launched.state, if_neg started]
    rfl

/-- A wait begins with a start or a stop, and both queue the watchdog; a start queues the sampler
too. -/
theorem LockedEffect.armed {system next : System} {label : DriverLabel}
    (effect : LockedEffect system label next) (bound : system.driver.endpoint.BoundBy .linux) :
    Armed system.driver next.driver := by
  cases effect with
  | unchanged | responding => exact .refl _
  | work work => exact work.armed
  | imageWritten | opened | released | claimed => exact .same rfl rfl rfl
  | launched cpuOn launched unsent => exact launched.armed
  | rearmed => exact .unwatched rfl
  | stopped active passed => exact requestStop_armed active bound
  | data operation => exact .of_data (operation.step bound)

/-- Every step but a pick-up leaves whoever waits watched. -/
theorem driverStep_armed {system next : System} {label : DriverLabel}
    (session : SessionInvariant system)
    (taken : driverStep system label = some next) (notDequeue : ∀ item, label ≠ .dequeue item) :
    Armed system.driver next.driver := by
  cases driverStep_kind taken with
  | tick elapsed | peer write | b2aAcknowledge channel => exact .refl _
  | rxCallback channel message => exact .same rfl rfl rfl
  | dequeue item => exact absurd rfl (notDequeue item)
  | control held => exact controlIterate_armed system session.bound (session.control held)
  | response priority lines held =>
      exact .of_data (responseIterate_step system priority lines session.bound).1
  | locked free taken => exact (lockedStep_effect taken).armed session.bound

/-! ### The invariant -/

/-- An item is queued, or an execution of it waits for the mutex. -/
def Scheduled.due (state : Scheduled) (item : WorkItem) : Prop :=
  state.system.driver.queued item = true ∨ 0 < state.waiting item

/-- Both waits are watched. -/
structure Monitored (state : Scheduled) : Prop where
  watchdog : state.system.driver.mailmsgState.pendingReply = true → state.due .lifecycleTimeout
  monitor : state.system.driver.mailmsgState.watched = true → state.due .affinity

namespace Monitored

variable {state next : Scheduled} {label : DriverLabel}

/-- A pick-up turns a queued item into an execution that waits. -/
theorem dequeued (monitored : Monitored state) {item : WorkItem}
    (system : next.system = { state.system with driver := dequeue state.system.driver item })
    (waiting : next.waiting = Function.update state.waiting item (state.waiting item + 1)) :
    Monitored next := by
  have due : ∀ other, state.due other → next.due other := by
    intro other before
    unfold Scheduled.due at before ⊢
    rw [waiting, system]
    by_cases same : other = item
    · subst same
      right
      simp
    · rw [Function.update_of_ne same]
      rcases before with queued | picked
      · left
        cases item <;> cases other <;> simp_all [dequeue, WorkQueue.queued]
      · exact .inr picked
  have state : next.system.driver.mailmsgState = state.system.driver.mailmsgState := by
    rw [system]
    cases item <;> rfl
  constructor
  · intro pending
    exact due _ (monitored.watchdog (state ▸ pending))
  · intro watched
    exact due _ (monitored.monitor (state ▸ watched))

/-- The watchdog stays due across a step that keeps the wait. -/
theorem watchdog_kept (monitored : Monitored state)
    (armed : Armed state.system.driver next.system.driver)
    (waiting : next.waiting .lifecycleTimeout = state.waiting .lifecycleTimeout)
    (pending : next.system.driver.mailmsgState.pendingReply = true) :
    next.due .lifecycleTimeout := by
  unfold Scheduled.due
  rw [waiting]
  rcases armed.watchdog pending with queued | ⟨pending, same⟩
  · exact .inl queued
  · have before := monitored.watchdog pending
    unfold Scheduled.due at before
    unfold WorkQueue.queued at before ⊢
    rw [same]
    exact before

/-- The sampler stays due across a step that keeps the watch. -/
theorem monitor_kept (monitored : Monitored state)
    (armed : Armed state.system.driver next.system.driver)
    (waiting : next.waiting .affinity = state.waiting .affinity)
    (watched : next.system.driver.mailmsgState.watched = true) : next.due .affinity := by
  unfold Scheduled.due
  rw [waiting]
  rcases armed.monitor watched with queued | ⟨watched, same⟩
  · exact .inl queued
  · have before := monitored.monitor watched
    unfold Scheduled.due at before
    unfold WorkQueue.queued at before ⊢
    rw [same]
    exact before

/-- One step of driver and queue. -/
theorem step (session : SessionInvariant state.system) (monitored : Monitored state)
    (taken : scheduledStep state label = some next) : Monitored next := by
  obtain ⟨admitted, stepped, waiting⟩ := scheduledStep_eq_some taken
  by_cases isDequeue : ∃ item, label = .dequeue item
  · obtain ⟨item, rfl⟩ := isDequeue
    exact monitored.dequeued (Option.some.inj stepped).symm waiting
  · have armed := driverStep_armed session stepped (fun item same => isDequeue ⟨item, same⟩)
    cases label with
    | dequeue item => exact absurd ⟨item, rfl⟩ isDequeue
    | affinityWork answer =>
        -- The execution is over; it has queued the item again if there is something to watch.
        have executed : next.system = affinityWork state.system answer := by
          cases driverStep_kind stepped with
          | locked free taken => exact (Option.some.inj taken).symm
        refine ⟨monitored.watchdog_kept armed (by rw [waiting]; rfl), ?_⟩
        intro watched
        rw [executed] at watched
        left
        rw [executed]
        exact (affinityWork_armed state.system answer).2 watched
    | lifecycleTimeoutWork answer =>
        have executed : next.system = lifecycleTimeoutWork state.system answer := by
          cases driverStep_kind stepped with
          | locked free taken => exact (Option.some.inj taken).symm
        refine ⟨?_, monitored.monitor_kept armed (by rw [waiting]; rfl)⟩
        intro pending
        rw [executed] at pending
        left
        rw [executed]
        exact (lifecycleTimeoutWork_armed state.system answer).2 pending
    | _ =>
        exact ⟨monitored.watchdog_kept armed (by rw [waiting]; rfl),
          monitored.monitor_kept armed (by rw [waiting]; rfl)⟩

/-- In every run. -/
theorem reachable (reached : scheduledMachine.Reachable state) : Monitored state := by
  induction reached with
  | init start =>
      obtain ⟨⟨config, image, hardware, jiffies, probed⟩, -⟩ := start
      constructor
      · intro pending
        rw [probed] at pending
        cases pending
      · intro watched
        rw [probed] at watched
        cases watched
  | step earlier taken inductionHypothesis =>
      exact step (SessionInvariant.reachable (Scheduled.reachable earlier))
        inductionHypothesis taken

end Monitored

/-- In every reachable state, whoever holds the mutex: while SESSION_READY or a stop reply is
awaited the timeout work is queued or an execution of it waits for the mutex, and from start until
the session is offline or rearmed the affinity work is. -/
theorem watchdog_armed {state : Scheduled} (reached : scheduledMachine.Reachable state) :
    (state.system.driver.mailmsgState = .starting ∨ state.system.driver.mailmsgState = .stopping →
        state.due .lifecycleTimeout) ∧
      (state.system.driver.mailmsgState = .starting ∨
          state.system.driver.mailmsgState = .startTimeout ∨
          state.system.driver.mailmsgState = .active ∨
          state.system.driver.mailmsgState = .stopping ∨
          state.system.driver.mailmsgState = .stopTimeout → state.due .affinity) := by
  have monitored := Monitored.reachable reached
  constructor
  · intro either
    apply monitored.watchdog
    rcases either with current | current <;> rw [current] <;> rfl
  · intro either
    apply monitored.monitor
    rcases either with current | current | current | current | current <;> rw [current] <;> rfl

/-- The timeout of a start is picked up, SESSION_READY arrives and a stop is requested before the
old execution gets the mutex. -/
def demoStaleTimeout : List DriverLabel :=
  [.imageWrite 0 1 (fun _ => 0), .start true 5 affinityOff 0, .dequeue .lifecycleTimeout,
    .peer (.slot .critical 0 (sessionReadyFrame 1 1)), .peer (.producer .critical 1),
    .rxCallback .critical none, .dequeue .control, .controlEnter, .controlIterate, .stop true 5,
    .lifecycleTimeoutWork affinityOn]

/-- The theorem at a stop whose watchdog was dequeued for the deadline of the start. -/
theorem watchdog_armed_demo :
    ∃ state, scheduledMachine.run ⟨demoProbed, fun _ => 0⟩ demoStaleTimeout = some state ∧
      state.system.driver.mailmsgState = .stopping ∧ state.waiting .lifecycleTimeout = 0 ∧
      state.due .lifecycleTimeout ∧ state.due .affinity := by
  have checked : (scheduledMachine.run ⟨demoProbed, fun _ => 0⟩ demoStaleTimeout).any (fun state =>
      state.system.driver.mailmsgState == .stopping && state.waiting .lifecycleTimeout ==
        0) = true := by
    decide +kernel
  obtain ⟨state, executed, seen⟩ := scheduledMachine.exists_of_run_any checked
  simp only [Bool.and_eq_true, beq_iff_eq] at seen
  obtain ⟨stopping, nobody⟩ := seen
  have armed := watchdog_armed (Machine.Reachable.run (.init ⟨demoProbed_init, rfl⟩) executed)
  exact ⟨state, executed, stopping, nobody, armed.1 (.inr stopping),
    armed.2 (.inr (.inr (.inr (.inl stopping))))⟩

end MailMsg
