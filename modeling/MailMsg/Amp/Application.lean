/-
Module: MailMsg.Amp.Application
Purpose: The Linux driver with every entry point, and any CPU3 application that keeps to the
  endpoint calls: what put each frame into its ring, and that the ring carries it unchanged.
Source: LZAMP/linux/drivers/lzamp_amp_mailmsg.c, LZAMP/protocol/mailmsg/mailmsg_endpoint.c,
  LZAMP/firmware/zephyr/app/src/main.c (mailmsg_cpu3_notify)
Trusted boundary: CPU3 writes the region through mailmsg_endpoint_send and mailmsg_endpoint_receive
  only; a push becomes visible with its producer index, and may write its slot in any way before
  that
Main exports: Application.State, Application.machine, Application.Tracked,
  Application.reachable_tracked
-/
import MailMsg.Driver.Files
import MailMsg.Driver.Records
import MailMsg.Firmware.Effects

namespace MailMsg.Application

/-! ### Data -/

/-- What put a frame into a forward ring: a record that a user wrote, or the driver itself (the STOP
request and the test attributes). -/
inductive Outgoing where
  | user (record : UserFrame)
  | driver

/-- The arguments of a `mailmsg_endpoint_send` of CPU3, with the sequence that it reported. -/
structure Sent where
  type : U32
  payload : Option (Nat → U8)
  length : U32
  sequence : U32

/-- The driver, CPU3's endpoint, and what put the frames into the eight rings, oldest first.  No
operation reads the last two. -/
structure State where
  system : System
  cpu3 : Endpoint
  outgoing : Priority → List Outgoing
  incoming : Priority → List Sent

/-- One step. -/
inductive Label where
  /-- An entry point of the driver, the clock, or a doorbell register. -/
  | linux (label : DriverLabel)
  /-- CPU3 binds its endpoint. -/
  | bind
  /-- A push of CPU3 writes its slot, which is not published yet. -/
  | stage (priority : Priority) (slot : Message)
  | send (priority : Priority) (type : U32) (payload : Option (Nat → U8)) (length : U32)
  | receive (priority : Priority)

/-! ### Steps -/

/-- CPU3 writes the rings by its own steps only. -/
def admits : DriverLabel → Bool
  | .peer (.slot _ _ _) | .peer (.producer _ _) | .peer (.consumer _ _) => false
  | _ => true

/-- What an entry point of the driver puts into a forward ring. -/
def origin : DriverLabel → Outgoing
  | .write _ _ _ record => .user record
  | _ => .driver

/-- The origins of the frames in a forward ring after a step of Linux: a launch clears the region,
and a frame that was published is the step's own. -/
def outgoingAfter (before after : System) (label : DriverLabel) (priority : Priority)
    (origins : List Outgoing) : List Outgoing :=
  if after.driver.sessionGeneration ≠ before.driver.sessionGeneration then []
  else if (after.hardware.shared.linuxToCpu3 priority).producer =
      (before.hardware.shared.linuxToCpu3 priority).producer then origins
  else origins ++ [origin label]

/-- The sends behind the frames in a reverse ring after a step of Linux: a launch clears the region,
and a frame that was released is gone. -/
def incomingAfter (before after : System) (priority : Priority) (sends : List Sent) : List Sent :=
  if after.driver.sessionGeneration ≠ before.driver.sessionGeneration then []
  else if (after.hardware.shared.cpu3ToLinux priority).consumer =
      (before.hardware.shared.cpu3ToLinux priority).consumer then sends
  else sends.tail

namespace State

variable (state : State)

/-- After a step of the driver. -/
def linux (label : DriverLabel) (next : System) : State :=
  { state with
    system := next
    outgoing := fun priority =>
      outgoingAfter state.system next label priority (state.outgoing priority)
    incoming := fun priority => incomingAfter state.system next priority (state.incoming priority) }

/-- A push of CPU3 before its publication. -/
def stage (priority : Priority) (slot : Message) : State :=
  { state with
    system :=
      { state.system with
        hardware :=
          { state.system.hardware with
            shared := state.system.hardware.shared.updateRing .cpu3 priority fun ring =>
              { ring with slot := Function.update ring.slot ring.producer slot } }
        peerWrites := state.system.peerWrites ++ [(priority, slot)] } }

/-- What a send of CPU3 leaves in the region, and in its record when the frame was committed. -/
def afterSend (priority : Priority) (type : U32) (payload : Option (Nat → U8)) (length : U32)
    (outcome : SendOutcome) (hardware : Hardware) : State :=
  let slot := (outcome.shared.cpu3ToLinux priority).slot
    (state.system.hardware.shared.cpu3ToLinux priority).producer
  { state with
    cpu3 := outcome.endpoint
    system :=
      { state.system with
        hardware := { hardware with shared := outcome.shared }
        peerWrites := state.system.peerWrites ++
          if outcome.ret = .ok then [(priority, slot)] else [] }
    incoming :=
      if outcome.ret = .ok then
        Function.update state.incoming priority
          (state.incoming priority ++ [⟨type, payload, length, outcome.result.sequence⟩])
      else state.incoming }

/-- `mailmsg_endpoint_send` of CPU3 with `mailmsg_cpu3_notify` as its backend. -/
def send (priority : Priority) (type : U32) (payload : Option (Nat → U8)) (length : U32) :
    SendOutcome × State :=
  let sent := endpointSend (fun priority hardware => cpu3Notify hardware priority)
    state.system.hardware state.cpu3 state.system.hardware.shared priority type payload
      length .pending
  (sent.1, state.afterSend priority type payload length sent.1 sent.2)

/-- `mailmsg_endpoint_receive` of CPU3. -/
def receive (priority : Priority) : ReceiveOutcome × State :=
  let shared := state.system.hardware.shared
  let received := endpointReceive state.cpu3 shared priority
  (received,
    { state with
      cpu3 := received.endpoint
      system :=
        { state.system with
          hardware := { state.system.hardware with shared := received.shared } }
      outgoing :=
        if (received.shared.linuxToCpu3 priority).consumer =
            (shared.linuxToCpu3 priority).consumer then state.outgoing
        else Function.update state.outgoing priority (state.outgoing priority).tail })

end State

/-- The transition function. -/
def step (state : State) : Label → Option State
  | .linux label =>
      if admits label then (driverStep state.system label).map (state.linux label) else none
  | .bind =>
      some { state with cpu3 := (endpointBind state.cpu3 state.system.hardware.shared .cpu3).2 }
  | .stage priority slot => some (state.stage priority slot)
  | .send priority type payload length => some (state.send priority type payload length).2
  | .receive priority => some (state.receive priority).2

/-- The system after probe, with CPU3 unbound. -/
def State.probed (system : System) : State where
  system := system
  cpu3 := .zero
  outgoing := fun _ => []
  incoming := fun _ => []

/-- Every run since probe. -/
def machine : Machine State Label where
  init state := ∃ system, driverMachine.init system ∧ state = .probed system
  step := step

/-! ### CPU3's calls -/

/-- The frame that a send of CPU3 commits. -/
def sentFrame (generation : U32) (sent : Sent) : Frame :=
  (sendMessage generation sent.type sent.sequence sent.length sent.payload).frame

/-- Everything that a send of CPU3 can do. -/
inductive SendTaken (state : State) (priority : Priority) (type : U32) (payload : Option (Nat → U8))
    (length : U32) (next : State) : Prop where
  | refused (binding : state.cpu3.SameBinding next.cpu3) (system : next.system = state.system)
      (outgoing : next.outgoing = state.outgoing) (incoming : next.incoming = state.incoming)
  | queued (binding : state.cpu3.SameBinding next.cpu3)
      (session : endpointSessionValid state.cpu3 state.system.hardware.shared = .ok)
      (sent : Sent) (numbered : sent.sequence ≠ 0#32) (fits : sent.length.toNat ≤ payloadBytes)
      (space : ringNext (state.system.hardware.shared.cpu3ToLinux priority).producer ≠
        (state.system.hardware.shared.cpu3ToLinux priority).consumer)
      (b2a : Doorbells)
      (rung : b2a = state.system.hardware.b2a ∨
        b2a = state.system.hardware.b2a.write priority
          (0xb2a10000#32 ||| BitVec.ofNat 32 priority.val) (BitVec.ofNat 32 priority.val))
      (system : next.system =
        { state.system with
          hardware :=
            { state.system.hardware with
              b2a := b2a
              shared := state.system.hardware.shared.setRing .cpu3 priority
                ((state.system.hardware.shared.cpu3ToLinux priority).publish
                  (sentFrame state.cpu3.generation sent).committed) }
          peerWrites := state.system.peerWrites ++
            [(priority, (sentFrame state.cpu3.generation sent).committed)] })
      (arguments : sent.type = type ∧ sent.payload = payload ∧ sent.length = length)
      (outgoing : next.outgoing = state.outgoing)
      (incoming : next.incoming =
        Function.update state.incoming priority (state.incoming priority ++ [sent]))

theorem send_taken (state : State) (side : state.cpu3.BoundBy .cpu3)
    (priority : Priority) (type : U32) (payload : Option (Nat → U8)) (length : U32) :
    SendTaken state priority type payload length (state.send priority type payload length).2 := by
  have queueing := endpointSend_sameQueueing (fun priority hardware => cpu3Notify hardware priority)
    state.system.hardware state.cpu3 state.system.hardware.shared priority type payload
      length .pending
  have spec := endpointEnqueue_spec state.cpu3 state.system.hardware.shared priority type
    payload length
    .pending
  have bell : (endpointSend (fun priority hardware => cpu3Notify hardware priority)
      state.system.hardware state.cpu3 state.system.hardware.shared priority type payload length
      .pending).2 =
        if (endpointEnqueue state.cpu3 state.system.hardware.shared priority type payload length
          .pending).ret ≠ .ok then state.system.hardware
        else (cpu3Notify state.system.hardware priority).2 := by
    simp only [endpointSend]
    split <;> rfl
  simp only [State.send]
  generalize endpointSend (fun priority hardware => cpu3Notify hardware priority)
    state.system.hardware
    state.cpu3 state.system.hardware.shared priority type payload length .pending = sent at *
  generalize endpointEnqueue state.cpu3 state.system.hardware.shared priority type payload length
    .pending = queued at *
  have unsent (failed : queued.ret ≠ .ok) (sameShared : queued.shared = state.system.hardware.shared)
      (binding : state.cpu3.SameBinding queued.endpoint) :
      SendTaken state priority type payload length
        (state.afterSend priority type payload length sent.1 sent.2) := by
    rw [if_pos failed] at bell
    rw [← queueing.ret] at failed
    refine .refused ⟨queueing.role.trans binding.role, queueing.generation.trans binding.generation⟩
      ?_ rfl ?_
    · simp only [State.afterSend, if_neg failed, bell, queueing.shared, sameShared, List.append_nil]
    · simp only [State.afterSend, if_neg failed]
  cases spec with
  | refused ret notFull sameEndpoint sameShared cause =>
      apply unsent ret sameShared
      rw [sameEndpoint]
      exact .refl _
  | pushed role hasRole session arguments push =>
      obtain rfl := side role hasRole
      cases push with
      | full noSpace ret queueResult sameShared counted =>
          apply unsent _ sameShared
          · rw [counted]
            exact ⟨rfl, rfl⟩
          · rw [ret]
            decide
      | queued space ret sequence pushed published sameRole sameGeneration drawn =>
          have sentRet : sent.1.ret = .ok := queueing.ret.trans ret
          have number : sent.1.result.sequence = endpointNextSequence state.cpu3 :=
            queueing.sequence.trans sequence
          have written : sent.1.shared = state.system.hardware.shared.setRing .cpu3 priority
              ((state.system.hardware.shared.cpu3ToLinux priority).publish
                (sendMessage state.cpu3.generation type (endpointNextSequence state.cpu3) length
                  payload).frame.committed) := by
            rw [queueing.shared, published, (ringPush_ok pushed).2]
            rfl
          rw [if_neg (not_not_intro ret)] at bell
          refine .queued ⟨queueing.role.trans sameRole, queueing.generation.trans sameGeneration⟩
            session ⟨type, payload, length, endpointNextSequence state.cpu3⟩
            (endpointNextSequence_ne_zero _) (sendArgumentsValid_length arguments) space
            (cpu3Notify state.system.hardware priority).2.b2a ?_ ?_ ⟨rfl, rfl, rfl⟩ rfl ?_
          · unfold cpu3Notify
            split
            · exact .inl rfl
            · exact .inr rfl
          · obtain ⟨-, a2b⟩ := cpu3Notify_frame priority state.system.hardware
            have slot : (sent.1.shared.cpu3ToLinux priority).slot
                (state.system.hardware.shared.cpu3ToLinux priority).producer =
                (sendMessage state.cpu3.generation type (endpointNextSequence state.cpu3) length
                  payload).frame.committed := by
              rw [written]
              simp [Shared.setRing, Ring.publish]
            simp only [State.afterSend, if_pos sentRet, slot]
            rw [written, bell, a2b]
            rfl
          · simp only [State.afterSend, if_pos sentRet, number]

/-- Everything that a receive of CPU3 can do. -/
inductive ReceiveTaken (state : State) (priority : Priority) (next : State) : Prop where
  | refused (same : next = state)
  | popped (binding : state.cpu3.SameBinding next.cpu3)
      (system : next.system =
        { state.system with
          hardware :=
            { state.system.hardware with
              shared := state.system.hardware.shared.setRing .linux priority
                (ringPop (state.system.hardware.shared.linuxToCpu3 priority)).2.1 } })
      (outgoing : next.outgoing =
        if (ringPop (state.system.hardware.shared.linuxToCpu3 priority)).2.1.consumer =
            (state.system.hardware.shared.linuxToCpu3 priority).consumer then state.outgoing
        else Function.update state.outgoing priority (state.outgoing priority).tail)
      (incoming : next.incoming = state.incoming)

theorem receive_taken (state : State) (side : state.cpu3.BoundBy .cpu3) (priority : Priority) :
    ReceiveTaken state priority (state.receive priority).2 := by
  have spec := endpointReceive_spec state.cpu3 state.system.hardware.shared priority
  simp only [State.receive]
  generalize endpointReceive state.cpu3 state.system.hardware.shared priority = outcome at *
  cases spec with
  | refused ret notStale sameEndpoint sameShared nothing cause =>
      apply ReceiveTaken.refused
      rw [sameEndpoint, sameShared, if_pos rfl]
  | popped role hasRole session ret released message counted =>
      obtain rfl := side role hasRole
      have binding : state.cpu3.SameBinding outcome.endpoint := by
        rw [counted]
        exact Endpoint.sameBinding_updateStats _ _ _
      refine .popped binding ?_ ?_ rfl
      · rw [released]
        rfl
      · rw [released]
        simp [Shared.setRing, Role.peer, Shared.ring]

/-! ### The driver inside -/

theorem step_side {state next : State} {label : Label} (side : state.cpu3.BoundBy .cpu3)
    (stepped : step state label = some next) : next.cpu3.BoundBy .cpu3 := by
  have kept {after : Endpoint} (binding : state.cpu3.SameBinding after) : after.BoundBy .cpu3 := by
    intro role hasRole
    exact side role (binding.role ▸ hasRole)
  cases label with
  | linux label =>
      simp only [step] at stepped
      split at stepped
      · obtain ⟨system, -, rfl⟩ := Option.map_eq_some_iff.mp stepped
        exact side
      · cases stepped
  | bind =>
      cases stepped
      exact endpointBind_boundBy _ side
  | stage priority slot =>
      cases stepped
      exact side
  | send priority type payload length =>
      cases stepped
      cases send_taken state side priority type payload length with
      | refused binding system outgoing incoming => exact kept binding
      | queued binding session sent numbered fits space b2a rung system arguments
          outgoing incoming =>
          exact kept binding
  | receive priority =>
      cases stepped
      cases receive_taken state side priority with
      | refused same => rw [same]; exact side
      | popped binding system outgoing incoming => exact kept binding

/-- A pop moves the consumer index and nothing else. -/
theorem ringPop_ring (ring : Ring) :
    (ringPop ring).2.1 = { ring with consumer := (ringPop ring).2.1.consumer } := by
  rcases ringPop_cases ring with ⟨-, same⟩ | ⟨-, -, same⟩ | ⟨-, -, _, -, -, same⟩ <;> rw [same]

/-- Every step is made of steps of the driver's machine. -/
theorem step_system {state next : State} {label : Label} (side : state.cpu3.BoundBy .cpu3)
    (stepped : step state label = some next) :
    ∃ labels, driverMachine.run state.system labels = some next.system := by
  cases label with
  | linux label =>
      simp only [step] at stepped
      split at stepped
      · obtain ⟨system, moved, rfl⟩ := Option.map_eq_some_iff.mp stepped
        refine ⟨[label], ?_⟩
        simp [Machine.run, driverMachine, moved, State.linux]
      · cases stepped
  | bind =>
      cases stepped
      exact ⟨[], rfl⟩
  | stage priority slot =>
      cases stepped
      exact ⟨[.peer (.slot priority (state.system.hardware.shared.cpu3ToLinux priority).producer slot)],
        rfl⟩
  | send priority type payload length =>
      cases stepped
      cases send_taken state side priority type payload length with
      | refused binding system outgoing incoming =>
          rw [system]
          exact ⟨[], rfl⟩
      | queued binding session sent numbered fits space b2a rung system arguments
          outgoing incoming =>
          rw [system]
          have pushed : ∀ after, driverMachine.run
              { state.system with
                hardware :=
                  { state.system.hardware with
                    shared := state.system.hardware.shared.setRing .cpu3 priority
                      ((state.system.hardware.shared.cpu3ToLinux priority).publish
                        (sentFrame state.cpu3.generation sent).committed) }
                peerWrites := state.system.peerWrites ++
                  [(priority, (sentFrame state.cpu3.generation sent).committed)] } after =
              driverMachine.run state.system
                (.peer (.slot priority (state.system.hardware.shared.cpu3ToLinux priority).producer
                    (sentFrame state.cpu3.generation sent).committed) ::
                  .peer (.producer priority
                    (ringNext (state.system.hardware.shared.cpu3ToLinux priority).producer)) ::
                      after) := by
            intro after
            simp [Machine.run, driverMachine, driverStep, PeerWrite.apply, PeerWrite.frames,
              Shared.updateRing, Shared.setRing, Shared.ring, Ring.publish]
          rcases rung with rfl | rfl
          · exact ⟨_, (pushed []).symm⟩
          · refine ⟨_, (pushed [.peer (.doorbell priority
              (0xb2a10000#32 ||| BitVec.ofNat 32 priority.val)
                (BitVec.ofNat 32 priority.val))]).symm.trans
                ?_⟩
            simp [Machine.run, driverMachine, driverStep, PeerWrite.apply, PeerWrite.frames]
  | receive priority =>
      cases stepped
      cases receive_taken state side priority with
      | refused same =>
          rw [same]
          exact ⟨[], rfl⟩
      | popped binding system outgoing incoming =>
          rw [system]
          refine ⟨[.peer (.consumer priority
            (ringPop (state.system.hardware.shared.linuxToCpu3 priority)).2.1.consumer)], ?_⟩
          rw [ringPop_ring]
          simp [Machine.run, driverMachine, driverStep, PeerWrite.apply, PeerWrite.frames,
            Shared.updateRing, Shared.ring]

theorem reachable_side {state : State} (reached : machine.Reachable state) :
    state.cpu3.BoundBy .cpu3 := by
  induction reached with
  | init start =>
      obtain ⟨system, -, rfl⟩ := start
      intro role hasRole
      cases hasRole
  | step earlier taken inductionHypothesis => exact step_side inductionHypothesis taken

/-- The driver of a reachable state is one that the driver's own machine reaches. -/
theorem reachable_system {state : State} (reached : machine.Reachable state) :
    driverMachine.Reachable state.system := by
  apply Machine.Reachable.simulate _ _ reached
  · rintro _ ⟨system, start, rfl⟩
    exact .init start
  · intro state label next earlier taken
    exact step_system (reachable_side earlier) taken

/-! ### What the rings carry -/

/-- A frame in a forward ring is what its origin put there. -/
def Outgoing.carried (generation : U32) : Outgoing → Message → Prop
  | .user record, slot =>
      record.length.toNat ≤ payloadBytes ∧
        ∃ sequence, sequence ≠ 0#32 ∧ slot = (recordFrame generation sequence record).committed
  | .driver, slot => slot.commit = slot.sequence

/-- A frame in a reverse ring is what its send put there. -/
def Sent.carried (generation : U32) (sent : Sent) (slot : Message) : Prop :=
  sent.length.toNat ≤ payloadBytes ∧ sent.sequence ≠ 0#32 ∧
    slot = (sentFrame generation sent).committed

/-- Since the first launch, every frame in the eight rings is one of the region's generation that
its origin put there. -/
structure Tracked (state : State) : Prop where
  forward : state.system.driver.sessionGeneration ≠ 0#32 → ∀ priority,
    (state.system.hardware.shared.linuxToCpu3 priority).Carries
      (Outgoing.carried state.system.hardware.shared.generation) (state.outgoing priority)
  reverse : state.system.driver.sessionGeneration ≠ 0#32 → ∀ priority,
    (state.system.hardware.shared.cpu3ToLinux priority).Carries
      (Sent.carried state.system.hardware.shared.generation) (state.incoming priority)

section Linux

variable {system next : System} {label : DriverLabel}

/-- A launch leaves empty rings and forgets what was in them. -/
theorem launched_tracked {state : State} {cpuOn : Int}
    (launched : Launched state.system label next cpuOn) : Tracked (state.linux label next) := by
  have changed : next.driver.sessionGeneration ≠ state.system.driver.sessionGeneration := by
    rw [launched.sessionGeneration]
    exact nextNonzero_ne_self _
  constructor
  · intro _ priority
    simp only [State.linux, outgoingAfter, if_pos changed, launched.region]
    exact .zero _
  · intro _ priority
    simp only [State.linux, incomingAfter, if_pos changed, launched.region]
    exact .zero _

/-- Everything that a step of Linux that launches nothing can do to the region. -/
inductive LinuxStep (system : System) (label : DriverLabel) (next : System) : Prop where
  | same (shared : next.hardware.shared = system.hardware.shared)
  | published (target : Priority) (slot : Message)
      (space : ringNext (system.hardware.shared.linuxToCpu3 target).producer ≠
        (system.hardware.shared.linuxToCpu3 target).consumer)
      (shared : next.hardware.shared = system.hardware.shared.setRing .linux target
        ((system.hardware.shared.linuxToCpu3 target).publish slot))
      (carried : (origin label).carried system.hardware.shared.generation slot)
  | popped (target : Priority)
      (shared : next.hardware.shared = system.hardware.shared.setRing .cpu3 target
        (ringPop (system.hardware.shared.cpu3ToLinux target)).2.1)

theorem linux_step (session : SessionInvariant system) (admitted : admits label = true)
    (taken : driverStep system label = some next)
    (same : next.driver.sessionGeneration = system.driver.sessionGeneration) :
    LinuxStep system label next := by
  cases driverStep_region session.bound taken with
  | same shared peerWrites => exact .same shared
  | peer write isPeer hardware peerWrites =>
      rw [isPeer] at admitted
      apply LinuxStep.same
      rw [hardware]
      cases write with
      | slot | producer | consumer => cases admitted
      | acknowledge | doorbell => rfl
  | received receiver effect peerWrites =>
      cases effect with
      | nothing unchanged => exact .same unchanged
      | popped released => exact .popped _ released
  | initialised cpuOn launched =>
      rw [launched.sessionGeneration] at same
      exact absurd same (nextNonzero_ne_self _)
  | sent sender active effect peerWrites =>
      cases sender with
      | user found =>
          rename_i id count copied record file
          obtain rfl := driverStep_write found taken
          cases userWrite_effect system file count copied record session.bound with
          | refused value unchanged => exact .same unchanged
          | accepted value complete readable own fits active session space written =>
              obtain ⟨-, -, -, -, header⟩ := (endpointSessionValid_ok_iff _ _).mp session
              apply LinuxStep.published _ _ space written
              refine ⟨fits, endpointNextSequence system.driver.endpoint,
                endpointNextSequence_ne_zero _, ?_⟩
              rw [header]
      | ping | queuePush | stop =>
          cases effect with
          | nothing unchanged => exact .same unchanged
          | pushed slot typed sized numbered committed space written =>
              exact .published _ slot space written committed

/-- A forward ring after such a step: the same ring, or one more frame that is what the step put
there. -/
theorem linux_forward (session : SessionInvariant system) (admitted : admits label = true)
    (taken : driverStep system label = some next)
    (same : next.driver.sessionGeneration = system.driver.sessionGeneration) (priority : Priority) :
    next.hardware.shared.linuxToCpu3 priority = system.hardware.shared.linuxToCpu3 priority ∨
      ∃ slot, ringNext (system.hardware.shared.linuxToCpu3 priority).producer ≠
          (system.hardware.shared.linuxToCpu3 priority).consumer ∧
        next.hardware.shared.linuxToCpu3 priority =
          (system.hardware.shared.linuxToCpu3 priority).publish slot ∧
        (origin label).carried system.hardware.shared.generation slot := by
  cases linux_step session admitted taken same with
  | same shared =>
      left
      rw [shared]
  | popped target shared =>
      left
      rw [shared]
      rfl
  | published target slot space shared carried =>
      by_cases here : priority = target
      · subst here
        refine .inr ⟨slot, space, ?_, carried⟩
        rw [shared]
        simp [Shared.setRing]
      · left
        rw [shared]
        simp [Shared.setRing, Function.update_of_ne here]

/-- A reverse ring after such a step: the same ring, or what a pop leaves. -/
theorem linux_reverse (session : SessionInvariant system) (admitted : admits label = true)
    (taken : driverStep system label = some next)
    (same : next.driver.sessionGeneration = system.driver.sessionGeneration) (priority : Priority) :
    next.hardware.shared.cpu3ToLinux priority = system.hardware.shared.cpu3ToLinux priority ∨
      next.hardware.shared.cpu3ToLinux priority =
        (ringPop (system.hardware.shared.cpu3ToLinux priority)).2.1 := by
  cases linux_step session admitted taken same with
  | same shared =>
      left
      rw [shared]
  | published target slot space shared carried =>
      left
      rw [shared]
      rfl
  | popped target shared =>
      rw [shared]
      by_cases here : priority = target
      · right
        subst here
        simp [Shared.setRing]
      · left
        simp [Shared.setRing, Function.update_of_ne here]

/-- Only a launch writes the header. -/
theorem linux_header (session : SessionInvariant system) (admitted : admits label = true)
    (taken : driverStep system label = some next)
    (same : next.driver.sessionGeneration = system.driver.sessionGeneration) :
    next.hardware.shared.generation = system.hardware.shared.generation := by
  cases linux_step session admitted taken same with
  | same shared => rw [shared]
  | published target slot space shared carried => rw [shared, Shared.setRing_generation]
  | popped target shared => rw [shared, Shared.setRing_generation]

end Linux

/-- A step of Linux keeps what the rings carry. -/
theorem Tracked.linux {state : State} (tracked : Tracked state) {label : DriverLabel}
    {next : System} (session : SessionInvariant state.system) (admitted : admits label = true)
    (taken : driverStep state.system label = some next) : Tracked (state.linux label next) := by
  rcases SessionInvariant.generation_cases
      (driverStep_lifecycle session.bound session.control taken) with same | ⟨cpuOn, launched⟩
  · have kept : ¬ next.driver.sessionGeneration ≠ state.system.driver.sessionGeneration :=
      not_not_intro same
    have header := linux_header session admitted taken same
    constructor
    · intro launched priority
      have carries := tracked.forward (fun zero => launched (same.trans zero)) priority
      simp only [State.linux, outgoingAfter, if_neg kept, header]
      rcases linux_forward session admitted taken same priority with ring
        | ⟨slot, space, ring, carried⟩
      · rw [ring, if_pos rfl]
        exact carries
      · have moved : ((state.system.hardware.shared.linuxToCpu3 priority).publish slot).producer ≠
            (state.system.hardware.shared.linuxToCpu3 priority).producer := ringNext_ne _
        rw [ring, if_neg moved]
        exact carries.publish space carried
    · intro launched priority
      have carries := tracked.reverse (fun zero => launched (same.trans zero)) priority
      simp only [State.linux, incomingAfter, if_neg kept, header]
      rcases linux_reverse session admitted taken same priority with ring | ring
      · rw [ring, if_pos rfl]
        exact carries
      · rw [ring]
        exact carries.pop
  · exact launched_tracked launched

/-- A send of CPU3 keeps what the rings carry. -/
theorem Tracked.send {state next : State} (tracked : Tracked state)
    {priority : Priority} {type : U32} {payload : Option (Nat → U8)} {length : U32}
    (taken : SendTaken state priority type payload length next) : Tracked next := by
  cases taken with
  | refused binding system outgoing incoming =>
      constructor
      · rw [system, outgoing]
        exact tracked.forward
      · rw [system, incoming]
        exact tracked.reverse
  | queued binding session sent numbered fits space b2a rung system arguments outgoing incoming =>
      obtain ⟨-, -, -, -, header⟩ := (endpointSessionValid_ok_iff _ _).mp session
      constructor
      · rw [system, outgoing]
        exact tracked.forward
      · rw [system, incoming]
        intro launched other
        have carries := tracked.reverse launched other
        simp only [Shared.setRing_generation]
        by_cases here : other = priority
        · subst here
          rw [Function.update_self]
          simp only [Shared.setRing, Function.update_self]
          apply carries.publish space
          refine ⟨fits, numbered, ?_⟩
          rw [header]
        · rw [Function.update_of_ne here]
          simp only [Shared.setRing, Function.update_of_ne here]
          exact carries

/-- A receive of CPU3 keeps what the rings carry. -/
theorem Tracked.receive {state next : State} (tracked : Tracked state) {priority : Priority}
    (taken : ReceiveTaken state priority next) : Tracked next := by
  cases taken with
  | refused same =>
      rw [same]
      exact tracked
  | popped binding system outgoing incoming =>
      constructor
      · rw [system, outgoing]
        intro launched other
        have carries := tracked.forward launched other
        simp only [Shared.setRing_generation]
        by_cases here : other = priority
        · subst here
          simp only [Shared.setRing, Function.update_self]
          have popped := carries.pop
          split
          · rename_i same
            rw [if_pos same] at popped
            exact popped
          · rename_i moved
            rw [if_neg moved] at popped
            rw [Function.update_self]
            exact popped
        · simp only [Shared.setRing, Function.update_of_ne here]
          split
          · exact carries
          · rw [Function.update_of_ne here]
            exact carries
      · rw [system, incoming]
        exact tracked.reverse

/-- A push that is not published yet changes nothing that the rings carry. -/
theorem Tracked.stage {state : State} (tracked : Tracked state) (priority : Priority)
    (slot : Message) : Tracked (state.stage priority slot) := by
  constructor
  · exact tracked.forward
  · intro launched other
    have carries := tracked.reverse launched other
    simp only [State.stage, Shared.updateRing, Shared.setRing_generation]
    by_cases here : other = priority
    · subst here
      simp only [Shared.setRing, Shared.ring, Function.update_self]
      exact carries.stage slot
    · simp only [Shared.setRing, Function.update_of_ne here]
      exact carries

theorem reachable_session {state : State} (reached : machine.Reachable state) :
    SessionInvariant state.system := .reachable (reachable_system reached)

theorem step_tracked {state next : State} {label : Label} (reached : machine.Reachable state)
    (tracked : Tracked state) (stepped : step state label = some next) : Tracked next := by
  cases label with
  | linux label =>
      simp only [step] at stepped
      split at stepped
      · rename_i admitted
        obtain ⟨system, moved, rfl⟩ := Option.map_eq_some_iff.mp stepped
        exact tracked.linux (reachable_session reached) admitted moved
      · cases stepped
  | bind =>
      cases stepped
      exact ⟨tracked.forward, tracked.reverse⟩
  | stage priority slot =>
      cases stepped
      exact tracked.stage priority slot
  | send priority type payload length =>
      cases stepped
      exact tracked.send (send_taken state (reachable_side reached) priority type payload length)
  | receive priority =>
      cases stepped
      exact tracked.receive (receive_taken state (reachable_side reached) priority)

/-- In every run, every frame in the eight rings is the one that its origin put there. -/
theorem reachable_tracked {state : State} (reached : machine.Reachable state) : Tracked state := by
  apply Machine.Reachable.invariant _ _ reached
  · rintro _ ⟨system, ⟨config, image, hardware, jiffies, rfl⟩, rfl⟩
    constructor
    · intro launched
      exact absurd rfl launched
    · intro launched
      exact absurd rfl launched
  · intro state label next earlier tracked taken
    exact step_tracked earlier tracked taken

end MailMsg.Application
