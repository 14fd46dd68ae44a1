/-
Module: MailMsg.Amp.Wakeup
Purpose: A blocking read against everything that can happen while it decides to sleep: CPU3's sends
  with push, read of B2A_STATUS and doorbell apart, the mailbox interrupt with its callback apart,
  and every other entry point of the driver.  A sleeping reader never misses a frame or the end of
  the session.
Source: LZAMP/linux/drivers/lzamp_amp_mailmsg.c (r1_amp_mailmsg_user_read, r1_amp_mbox_rx_callback,
  r1_amp_mailmsg_mark_offline_locked), LZAMP/firmware/zephyr/app/src/main.c (mailmsg_cpu3_notify)
Trusted boundary: the mailbox driver clears a B2A bit before it calls the client, once for each
  clear; the kernel releases no file under a running read; CPU3 sends one frame at a time
Main exports: Send, Reader, State, machine, Watched, Invariant, no_lost_wakeup, wakeup_counter_wraps
-/
import MailMsg.Driver.Wake
import MailMsg.Firmware.Effects

namespace MailMsg.Wakeup

/-! ### Data -/

/-- A send of CPU3. -/
inductive Send where
  | idle
  /-- The frame is in the ring and B2A_STATUS is not yet read. -/
  | pushed (priority : Priority) (result : SendResult)
  /-- B2A_STATUS is read: coalesce when the bit was set, write CMD and DAT otherwise. -/
  | observed (priority : Priority) (result : SendResult) (busy : Bool)
deriving DecidableEq

/-- A send on this priority is between its push and its doorbell decision. -/
def Send.on (send : Send) (priority : Priority) : Bool :=
  match send with
  | .idle => false
  | .pushed other _ | .observed other _ _ => other == priority

/-- A send on this priority that will still see the bit clear and write the doorbell, or has not
looked. -/
def Send.due (send : Send) (priority : Priority) : Bool :=
  match send with
  | .idle => false
  | .pushed other _ => other == priority
  | .observed other _ busy => other == priority && !busy

/-- The locals of a read: its file and the channel of that file. -/
structure Call where
  id : Nat
  priority : Priority
deriving DecidableEq

/-- Where the reader stands in `r1_amp_mailmsg_user_read`. -/
inductive Reader where
  /-- No read was called yet. -/
  | out
  /-- At the head of the loop. -/
  | looping (call : Call)
  /-- `rx_generation` is read and the mutex not yet taken. -/
  | receiving (call : Call) (generation : U32)
  /-- The ring was empty; about to evaluate the wait condition. -/
  | waiting (call : Call) (generation : U32)
  /-- Asleep: the condition was false when it was last evaluated. -/
  | asleep (call : Call) (generation : U32)
  | returned (outcome : ReadOutcome)

/-- The call that is in its loop. -/
def Reader.call? : Reader → Option Call
  | .looping call | .receiving call _ | .waiting call _ | .asleep call _ => some call
  | .out | .returned _ => none

/-- The call and the snapshot of a sleeping reader. -/
def Reader.asleep? : Reader → Option (Call × U32)
  | .asleep call generation => some (call, generation)
  | _ => none

theorem Reader.eq_asleep {reader : Reader} {call : Call} {generation : U32}
    (sleeps : reader.asleep? = some (call, generation)) : reader = .asleep call generation := by
  cases reader with
  | asleep other value => simpa [Reader.asleep?] using sleeps
  | _ => cases sleeps

/-- Linux, CPU3's sender, the mailbox interrupt and one reader. -/
structure State where
  system : System
  cpu3 : Endpoint
  send : Send
  /-- The callbacks that the mailbox driver still owes: bits that it cleared. -/
  owed : Priority → Nat
  reader : Reader
  /-- The callbacks on the reader's channel since its snapshot. -/
  callbacks : Nat

/-- One step. -/
inductive Label where
  /-- An entry point of the driver, the clock, or a write of CPU3 outside its sends. -/
  | linux (label : DriverLabel)
  /-- The mailbox driver clears a B2A bit. -/
  | interrupt (channel : Priority)
  /-- It calls the client. -/
  | callback (channel : Priority) (message : Option (U32 × U32))
  /-- CPU3 boots and binds its endpoint. -/
  | bind
  | push (priority : Priority) (type : U32) (payload : Option (Nat → U8)) (length : U32)
  | observe
  | notify
  /-- A read of `count` bytes up to its loop. -/
  | enter (id count : Nat)
  | snapshot
  | receive (copied : Bool)
  /-- The condition of `wait_event_interruptible` is evaluated. -/
  | check
  | signal

/-! ### Steps -/

namespace State

variable (state : State)

/-- The steps of the driver that happen by themselves.  CPU3 writes the reverse rings in its sends
only, the interrupt has its own two steps, and no file is released under a running read. -/
def admits : DriverLabel → Bool
  | .peer (.slot _ _ _) | .peer (.producer _ _) | .b2aAcknowledge _ | .rxCallback _ _ => false
  | .release id => state.reader.call?.all fun call => call.id ≠ id
  | _ => true

/-- The queueing half of a send of CPU3. -/
def push (priority : Priority) (type : U32) (payload : Option (Nat → U8)) (length : U32) : State :=
  let shared := state.system.hardware.shared
  let outcome := endpointEnqueue state.cpu3 shared priority type payload length .pending
  let written :=
    if outcome.ret = .ok then
      [(priority, (outcome.shared.cpu3ToLinux priority).slot (shared.cpu3ToLinux priority).producer)]
    else []
  { state with
    cpu3 := outcome.endpoint
    system :=
      { state.system with
        hardware := { state.system.hardware with shared := outcome.shared }
        peerWrites := state.system.peerWrites ++ written }
    send := if outcome.ret = .ok then .pushed priority outcome.result else .idle }

/-- The accounting of a doorbell of CPU3. -/
def notified (priority : Priority) (result : SendResult) (answer : Int) : State :=
  { state with
    cpu3 := (endpointNotified priority answer
      ⟨.ok, result, state.cpu3, state.system.hardware.shared⟩).endpoint
    send := .idle }

/-- The decision of `mailmsg_cpu3_notify`. -/
def notify (priority : Priority) (result : SendResult) (busy : Bool) : State :=
  if busy then state.notified priority result notifyCoalesced
  else
    State.notified
      { state with
        system :=
          { state.system with
            hardware :=
              { state.system.hardware with
                b2a := state.system.hardware.b2a.write priority
                  (0xb2a10000#32 ||| BitVec.ofNat 32 priority.val)
                    (BitVec.ofNat 32 priority.val) } } }
      priority result notifySent

/-- The mailbox driver acknowledges a bit and owes the client a call. -/
def acknowledge (channel : Priority) : State :=
  { state with
    system :=
      { state.system with
        hardware :=
          { state.system.hardware with b2a := state.system.hardware.b2a.acknowledge channel } }
    owed := Function.update state.owed channel (state.owed channel + 1) }

/-- The client's callback. -/
def callback (channel : Priority) (message : Option (U32 × U32)) : State :=
  { state with
    system := rxCallback state.system channel message
    owed := Function.update state.owed channel (state.owed channel - 1)
    callbacks :=
      if state.reader.call?.any fun call => call.priority = channel then state.callbacks + 1
      else state.callbacks }

/-- `r1_amp_mailmsg_user_read` up to its loop. -/
def enter (file : UserFile) (count : Nat) : State :=
  if count ≠ userFrameBytes then { state with reader := .returned (.returned (-Errno.inval)) }
  else
    let claimed := userClaimReader state.system file
    { state with
      system := claimed.2
      reader :=
        if claimed.1 ≠ 0 then .returned (.returned claimed.1)
          else .looping ⟨file.id, file.priority⟩ }

/-- The critical section of one iteration. -/
def receive (call : Call) (generation : U32) (file : UserFile) (copied : Bool) : State :=
  let iterated := userRead state.system file copied
  { state with
    system := iterated.2
    reader :=
      match iterated.1 with
      | .sleeps => .waiting call generation
      | outcome => .returned outcome }

/-- The wait condition. -/
def check (call : Call) (generation : U32) : State :=
  { state with
    reader :=
      if state.system.driver.rxGeneration call.priority ≠ generation then .looping call
      else .asleep call generation }

end State

/-- `-ERESTARTSYS`, which an interrupted wait returns. -/
def restartSys : Int := -512

/-- The transition function. -/
def step (state : State) : Label → Option State
  | .linux label =>
      if state.admits label then
        (driverStep state.system label).map fun system => { state with system := system }
      else none
  | .interrupt channel =>
      if state.system.hardware.b2a.status channel then some (state.acknowledge channel) else none
  | .callback channel message =>
      if 0 < state.owed channel then some (state.callback channel message) else none
  | .bind =>
      if state.send = .idle then
        some { state with cpu3 := (endpointBind .zero state.system.hardware.shared .cpu3).2 }
      else none
  | .push priority type payload length =>
      if state.send = .idle then some (state.push priority type payload length) else none
  | .observe =>
      match state.send with
      | .pushed priority result =>
          some
            { state with
              send := .observed priority result (state.system.hardware.b2a.status priority) }
      | _ => none
  | .notify =>
      match state.send with
      | .observed priority result busy => some (state.notify priority result busy)
      | _ => none
  | .enter id count =>
      if state.reader.call? = none ∧ state.system.lock = .free then
        (state.system.file? id).map fun file => state.enter file count
      else none
  | .snapshot =>
      match state.reader with
      | .looping call =>
          some
            { state with
              reader := .receiving call (state.system.driver.rxGeneration call.priority)
              callbacks := 0 }
      | _ => none
  | .receive copied =>
      match state.reader with
      | .receiving call generation =>
          if state.system.lock = .free then
            ((state.system.file? call.id).filter fun file => file.readerClaimed).map fun file =>
              state.receive call generation file copied
          else none
      | _ => none
  | .check =>
      match state.reader with
      | .waiting call generation | .asleep call generation => some (state.check call generation)
      | _ => none
  | .signal =>
      match state.reader with
      | .waiting _ _ | .asleep _ _ =>
          some { state with reader := .returned (.returned restartSys) }
      | _ => none

/-- The system after probe, CPU3 unbound and no read called. -/
def State.probed (system : System) : State where
  system := system
  cpu3 := .zero
  send := .idle
  owed := fun _ => 0
  reader := .out
  callbacks := 0

/-- Every run since probe. -/
def machine : Machine State Label where
  init state := ∃ system, driverMachine.init system ∧ state = .probed system
  step := step

/-- Without interference, the read of B2A_STATUS and the decision are `mailmsg_cpu3_notify`. -/
theorem notify_eq_cpu3Notify (state : State) (priority : Priority) (result : SendResult) :
    (state.notify priority result (state.system.hardware.b2a.status priority)).system.hardware =
      (cpu3Notify state.system.hardware priority).2 := by
  simp only [State.notify, cpu3Notify]
  split <;> rfl

/-! ### The inversion -/

/-- Everything that a step can be. -/
inductive Taken (state : State) : Label → State → Prop where
  | linux {label : DriverLabel} {next : System} (admitted : state.admits label = true)
      (stepped : driverStep state.system label = some next) :
      Taken state (.linux label) { state with system := next }
  | interrupt (channel : Priority) (pending : state.system.hardware.b2a.status channel = true) :
      Taken state (.interrupt channel) (state.acknowledge channel)
  | callback (channel : Priority) (message : Option (U32 × U32)) (owed : 0 < state.owed channel) :
      Taken state (.callback channel message) (state.callback channel message)
  | bind (idle : state.send = .idle) :
      Taken state .bind
        { state with cpu3 := (endpointBind .zero state.system.hardware.shared .cpu3).2 }
  | push {priority : Priority} {type : U32} {payload : Option (Nat → U8)} {length : U32}
      (idle : state.send = .idle) :
      Taken state (.push priority type payload length) (state.push priority type payload length)
  | observe (priority : Priority) (result : SendResult)
      (position : state.send = .pushed priority result) :
      Taken state .observe
        { state with send := .observed priority result (state.system.hardware.b2a.status priority) }
  | notify (priority : Priority) (result : SendResult) (busy : Bool)
      (position : state.send = .observed priority result busy) :
      Taken state .notify (state.notify priority result busy)
  | enter {id count : Nat} {file : UserFile} (outside : state.reader.call? = none)
      (free : state.system.lock = .free) (found : state.system.file? id = some file) :
      Taken state (.enter id count) (state.enter file count)
  | snapshot (call : Call) (position : state.reader = .looping call) :
      Taken state .snapshot
        { state with
          reader := .receiving call (state.system.driver.rxGeneration call.priority)
          callbacks := 0 }
  | receive {call : Call} {generation : U32} {file : UserFile} {copied : Bool}
      (position : state.reader = .receiving call generation) (free : state.system.lock = .free)
      (found : state.system.file? call.id = some file) (claimed : file.readerClaimed = true) :
      Taken state (.receive copied) (state.receive call generation file copied)
  | check {call : Call} {generation : U32}
      (position : state.reader = .waiting call generation ∨
        state.reader = .asleep call generation) :
      Taken state .check (state.check call generation)
  | signal :
      Taken state .signal { state with reader := .returned (.returned restartSys) }

/-- One case for each label. -/
theorem step_taken {state next : State} {label : Label} (stepped : step state label = some next) :
    Taken state label next := by
  cases label with
  | linux label =>
      simp only [step] at stepped
      split at stepped
      · rename_i admitted
        obtain ⟨system, moved, rfl⟩ := Option.map_eq_some_iff.mp stepped
        exact .linux admitted moved
      · cases stepped
  | interrupt channel =>
      simp only [step] at stepped
      split at stepped
      · rename_i pending
        cases stepped
        exact .interrupt channel pending
      · cases stepped
  | callback channel message =>
      simp only [step] at stepped
      split at stepped
      · rename_i owed
        cases stepped
        exact .callback channel message owed
      · cases stepped
  | bind =>
      simp only [step] at stepped
      split at stepped
      · rename_i idle
        cases stepped
        exact .bind idle
      · cases stepped
  | push priority type payload length =>
      simp only [step] at stepped
      split at stepped
      · rename_i idle
        cases stepped
        exact .push idle
      · cases stepped
  | observe =>
      simp only [step] at stepped
      split at stepped
      · rename_i priority result position
        cases stepped
        exact .observe priority result position
      · cases stepped
  | notify =>
      simp only [step] at stepped
      split at stepped
      · rename_i priority result busy position
        cases stepped
        exact .notify priority result busy position
      · cases stepped
  | enter id count =>
      simp only [step] at stepped
      split at stepped
      · rename_i outside
        obtain ⟨file, found, rfl⟩ := Option.map_eq_some_iff.mp stepped
        exact .enter outside.1 outside.2 found
      · cases stepped
  | snapshot =>
      simp only [step] at stepped
      split at stepped
      · rename_i call position
        cases stepped
        exact .snapshot call position
      · cases stepped
  | receive copied =>
      simp only [step] at stepped
      split at stepped
      · rename_i call generation position
        split at stepped
        · rename_i free
          obtain ⟨file, found, rfl⟩ := Option.map_eq_some_iff.mp stepped
          obtain ⟨found, claimed⟩ := Option.filter_eq_some_iff.mp found
          exact .receive position free found claimed
        · cases stepped
      · cases stepped
  | check =>
      simp only [step] at stepped
      split at stepped
      · rename_i call generation position
        cases stepped
        exact .check (.inl position)
      · rename_i call generation position
        cases stepped
        exact .check (.inr position)
      · cases stepped
  | signal =>
      simp only [step] at stepped
      split at stepped
      · cases stepped
        exact .signal
      · cases stepped
        exact .signal
      · cases stepped

/-! ### CPU3's sends -/

/-- Everything that a push can do. -/
inductive Pushed (state : State) (priority : Priority) (next : State) : Prop where
  | refused (side : state.cpu3.SameBinding next.cpu3)
      (moved : next = { state with cpu3 := next.cpu3, send := .idle })
  | queued (slot : Message) (result : SendResult) (side : state.cpu3.SameBinding next.cpu3)
      (moved : next =
        { state with
          cpu3 := next.cpu3
          send := .pushed priority result
          system :=
            { state.system with
              hardware :=
                { state.system.hardware with
                  shared := state.system.hardware.shared.setRing .cpu3 priority
                    ((state.system.hardware.shared.cpu3ToLinux priority).publish slot) }
              peerWrites := state.system.peerWrites ++ [(priority, slot)] } })

/-- A send of CPU3 pushes its frame or nothing. -/
theorem push_spec (state : State) (side : state.cpu3.BoundBy .cpu3)
    (priority : Priority) (type : U32) (payload : Option (Nat → U8)) (length : U32) :
    Pushed state priority (state.push priority type payload length) := by
  have spec := endpointEnqueue_spec state.cpu3 state.system.hardware.shared priority type
    payload length
    .pending
  simp only [State.push]
  generalize endpointEnqueue state.cpu3 state.system.hardware.shared priority type payload length
    .pending = outcome at spec
  cases spec with
  | refused ret notFull sameEndpoint sameShared cause =>
      refine .refused ?_ ?_
      · rw [sameEndpoint]
        exact .refl _
      · simp [ret, sameShared]
  | pushed role hasRole session arguments push =>
      obtain rfl := side role hasRole
      cases push with
      | full noSpace ret queueResult sameShared counted =>
          refine .refused ?_ ?_
          · rw [counted]
            exact ⟨rfl, rfl⟩
          · simp [ret, sameShared]
      | queued space ret sequence pushed published sameRole sameGeneration drawn =>
          rw [(ringPush_ok pushed).2] at published
          refine .queued
            (sendMessage state.cpu3.generation type (endpointNextSequence state.cpu3) length
              payload).frame.committed outcome.result ⟨sameRole, sameGeneration⟩ ?_
          rw [ret, published]
          simp [Shared.setRing, Shared.ring, Ring.publish]

/-- A push, as Linux sees it: the slot, then the producer index. -/
theorem push_writes (system : System) (priority : Priority) (slot : Message) :
    driverMachine.run system
      [.peer (.slot priority (system.hardware.shared.cpu3ToLinux priority).producer slot),
        .peer (.producer priority
          (ringNext (system.hardware.shared.cpu3ToLinux priority).producer))] =
      some
        { system with
          hardware :=
            { system.hardware with
              shared := system.hardware.shared.setRing .cpu3 priority
                ((system.hardware.shared.cpu3ToLinux priority).publish slot) }
          peerWrites := system.peerWrites ++ [(priority, slot)] } := by
  simp [Machine.run, driverMachine, driverStep, PeerWrite.apply, PeerWrite.frames,
    Shared.updateRing, Shared.setRing, Shared.ring, Ring.publish]

/-! ### The driver inside -/

theorem step_side {state next : State} {label : Label} (side : state.cpu3.BoundBy .cpu3)
    (stepped : step state label = some next) : next.cpu3.BoundBy .cpu3 := by
  have kept : ∀ after, state.cpu3.SameBinding after → after.BoundBy .cpu3 := by
    intro after binding role hasRole
    exact side role (binding.role ▸ hasRole)
  cases step_taken stepped with
  | linux admitted moved => exact side
  | interrupt channel pending => exact side
  | callback channel message owed => exact side
  | bind idle =>
      refine endpointBind_boundBy _ ?_
      intro role hasRole
      cases hasRole
  | push idle =>
      rename_i priority type payload length
      cases push_spec state side priority type payload length with
      | refused side moved => exact kept _ side
      | queued slot result side moved => exact kept _ side
  | observe priority result position => exact side
  | notify priority result busy position =>
      simp only [State.notify]
      split <;> exact kept _ ⟨rfl, rfl⟩
  | enter outside free found =>
      simp only [State.enter]
      split <;> exact side
  | snapshot call position => exact side
  | receive position free found claimed => exact side
  | check position => exact side
  | signal => exact side

/-- The side of CPU3's endpoint in every run. -/
theorem reachable_side {state : State} (reached : machine.Reachable state) :
    state.cpu3.BoundBy .cpu3 := by
  induction reached with
  | init start =>
      obtain ⟨system, -, rfl⟩ := start
      intro role hasRole
      cases hasRole
  | step earlier taken inductionHypothesis => exact step_side inductionHypothesis taken

/-- The critical section of an iteration, as a step of the driver. -/
theorem read_driverStep {system : System} {id : Nat} {file : UserFile} (free : system.lock = .free)
    (found : system.file? id = some file) (claimed : file.readerClaimed = true) (copied : Bool) :
    driverStep system (.read id copied) = some (userRead system file copied).2 := by
  simp [driverStep, lockedStep, free, found, claimed, Option.filter]

/-- Every step is made of steps of the driver's machine. -/
theorem step_system {state next : State} {label : Label} (side : state.cpu3.BoundBy .cpu3)
    (stepped : step state label = some next) :
    ∃ labels, driverMachine.run state.system labels = some next.system := by
  have one : ∀ {label after}, driverStep state.system label = some after →
      driverMachine.run state.system [label] = some after := by
    intro label after moved
    simp [Machine.run, driverMachine, moved]
  cases step_taken stepped with
  | linux admitted moved => exact ⟨_, one moved⟩
  | interrupt channel pending =>
      have moved : driverStep state.system (.b2aAcknowledge channel) =
          some (state.acknowledge channel).system := rfl
      exact ⟨_, one moved⟩
  | callback channel message owed =>
      have moved : driverStep state.system (.rxCallback channel message) =
          some (state.callback channel message).system := rfl
      exact ⟨_, one moved⟩
  | bind idle => exact ⟨[], rfl⟩
  | push idle =>
      rename_i priority type payload length
      cases push_spec state side priority type payload length with
      | refused side moved =>
          rw [moved]
          exact ⟨[], rfl⟩
      | queued slot result side moved =>
          rw [moved]
          exact ⟨_, push_writes state.system priority slot⟩
  | observe priority result position => exact ⟨[], rfl⟩
  | notify priority result busy position =>
      cases busy with
      | true => exact ⟨[], rfl⟩
      | false =>
          have moved : driverStep state.system (.peer (.doorbell priority
              (0xb2a10000#32 ||| BitVec.ofNat 32 priority.val) (BitVec.ofNat 32 priority.val))) =
              some (state.notify priority result false).system := by
            simp [driverStep, PeerWrite.apply, PeerWrite.frames, State.notify, State.notified]
          exact ⟨_, one moved⟩
  | enter outside free found =>
      rename_i id count file
      simp only [State.enter]
      split
      · exact ⟨[], rfl⟩
      · have moved : driverStep state.system (.claim id) =
            some (userClaimReader state.system file).2 := by
          simp [driverStep, lockedStep, free, found]
        exact ⟨_, one moved⟩
  | snapshot call position => exact ⟨[], rfl⟩
  | receive position free found claimed =>
      rename_i call generation file copied
      exact ⟨_, one (read_driverStep free found claimed copied)⟩
  | check position => exact ⟨[], rfl⟩
  | signal => exact ⟨[], rfl⟩

/-- The driver of a reachable state is one that the driver's own machine reaches. -/
theorem reachable_system {state : State} (reached : machine.Reachable state) :
    driverMachine.Reachable state.system := by
  refine Machine.Reachable.simulate ?_ ?_ reached
  · rintro _ ⟨system, start, rfl⟩
    exact .init start
  · intro state label next earlier taken
    exact step_system (reachable_side earlier) taken

/-! ### The reader's file -/

/-- The file of a read in its loop is open and holds the claim. -/
def FileHeld (state : State) : Prop :=
  ∀ call ∈ state.reader.call?, ∃ file, state.system.file? call.id = some file ∧
    file.priority = call.priority ∧ file.readerClaimed = true

/-- A step that leaves the list of files alone. -/
theorem FileHeld.of_files {state after : State} (held : FileHeld state)
    (files : after.system.files = state.system.files)
    (same : ∀ call ∈ after.reader.call?, call ∈ state.reader.call?) : FileHeld after := by
  intro call inside
  rw [System.file?, files]
  exact held call (same call inside)

/-- Linux keeps the file of a reader that is inside a call. -/
theorem FileHeld.linux {state : State} {label : DriverLabel} {next : System} (held : FileHeld state)
    (session : SessionInvariant state.system) (admitted : state.admits label = true)
    (stepped : driverStep state.system label = some next) :
    FileHeld { state with system := next } := by
  intro call inside
  have reading : state.reader.call? = some call := inside
  obtain ⟨file, found, priority, claimed⟩ := held call inside
  have kept : label ≠ .release call.id := by
    rintro rfl
    simp [State.admits, reading] at admitted
  obtain ⟨later, laterFound, laterPriority, laterClaimed⟩ :=
    System.file?_kept session stepped found kept
  exact ⟨later, laterFound, laterPriority.trans priority, laterClaimed claimed⟩

/-- Every step keeps it. -/
theorem step_fileHeld {state next : State} {label : Label} (held : FileHeld state)
    (session : SessionInvariant state.system) (stepped : step state label = some next) :
    FileHeld next := by
  cases step_taken stepped with
  | linux admitted moved => exact held.linux session admitted moved
  | interrupt channel pending | callback channel message owed | bind idle
  | observe priority result position => exact held.of_files rfl fun _ inside => inside
  | push idle => exact held.of_files rfl fun _ inside => inside
  | notify priority result busy position =>
      cases busy <;> exact held.of_files rfl fun _ inside => inside
  | enter outside free found =>
      rename_i id count file
      simp only [State.enter]
      split
      · intro call inside
        cases inside
      · split
        · intro call inside
          cases inside
        · rename_i granted
          rintro call ⟨⟩
          exact userClaimReader_held found (not_not.mp granted)
  | snapshot call position =>
      refine held.of_files rfl ?_
      rw [position]
      exact fun _ inside => inside
  | receive position free found claimed =>
      rename_i call generation file copied
      refine held.of_files (userRead_step state.system file copied session.bound).files ?_
      intro other inside
      rw [position]
      simp only [State.receive] at inside
      split at inside
      · exact inside
      · cases inside
  | check position =>
      rename_i call generation
      refine held.of_files rfl ?_
      intro other inside
      have same : other = call := by
        simp only [State.check] at inside
        split at inside <;> exact (Option.some.inj inside).symm
      subst same
      rcases position with position | position <;> rw [position] <;> rfl
  | signal =>
      intro call inside
      cases inside

/-! ### What wakes the reader

Whatever step is taken, a frame in the ring of the reader is watched: the counter has moved, or a
doorbell or a callback that will move it is still to come.
-/

/-- Whatever is in the reverse ring of a priority, a callback for it is still to come: a doorbell is
pending, a callback is owed, or a send has its doorbell ahead. -/
def Watched (state : State) (priority : Priority) : Prop :=
  state.system.reverseEmpty priority ∨ state.system.hardware.b2a.status priority = true ∨
    0 < state.owed priority ∨ state.send.due priority = true

/-- The four causes one by one.  A due send may turn into any of them. -/
theorem Watched.imp {state next : State} {priority : Priority} (watched : Watched state priority)
    (empty : state.system.reverseEmpty priority → next.system.reverseEmpty priority)
    (pending : state.system.hardware.b2a.status priority = true →
      next.system.hardware.b2a.status priority = true)
    (owed : 0 < state.owed priority → 0 < next.owed priority)
    (due : state.send.due priority = true → Watched next priority) : Watched next priority := by
  rcases watched with isEmpty | isPending | isOwed | isDue
  · exact .inl (empty isEmpty)
  · exact .inr (.inl (pending isPending))
  · exact .inr (.inr (.inl (owed isOwed)))
  · exact due isDue

/-- A send that stays due. -/
theorem Watched.of_due {state : State} {priority : Priority}
    (due : state.send.due priority = true) :
    Watched state priority := .inr (.inr (.inr due))

/-- What a step outside the reader can do to a reader on one priority. -/
inductive Moved (state next : State) (priority : Priority) : Prop where
  | quiet (session : next.system.driver.mailmsgState = state.system.driver.mailmsgState)
      (counter : next.system.driver.rxGeneration priority = state.system.driver.rxGeneration priority)
      (callbacks : next.callbacks = state.callbacks)
      (watched : Watched state priority → Watched next priority)
  /-- A callback of this priority. -/
  | called (session : next.system.driver.mailmsgState = state.system.driver.mailmsgState)
      (counter : next.system.driver.rxGeneration priority =
        state.system.driver.rxGeneration priority + 1)
      (callbacks : next.callbacks = state.callbacks + 1)
  /-- The end of the session. -/
  | ended (active : state.system.driver.mailmsgState = .active)
      (offline : next.system.driver.mailmsgState = .offline)
      (counter : next.system.driver.rxGeneration priority =
        state.system.driver.rxGeneration priority + 1)
      (callbacks : next.callbacks = state.callbacks)

/-- A write of CPU3 outside its sends rings at most. -/
theorem peer_moved {state : State} {write : PeerWrite}
    (admitted : state.admits (.peer write) = true) (priority : Priority) :
    Moved state
      { state with
        system :=
          { state.system with
            hardware := write.apply state.system.hardware
            peerWrites := state.system.peerWrites ++ write.frames } } priority := by
  cases write with
  | slot target index message => cases admitted
  | producer target value => cases admitted
  | consumer target value | acknowledge channel => exact .quiet rfl rfl rfl id
  | doorbell channel command data =>
      refine .quiet rfl rfl rfl fun watched => watched.imp id ?_ id fun due => .of_due due
      intro pending
      simp only [PeerWrite.apply, Doorbells.write, Function.update_apply]
      split
      · rfl
      · exact pending

/-- A step of Linux may pop the ring of the reader or wake it, and pushes nothing there. -/
theorem linux_moved {state : State} {label : DriverLabel} {next : System} {call : Call}
    (held : FileHeld state) (reading : state.reader.call? = some call)
    (reached : driverMachine.Reachable state.system) (admitted : state.admits label = true)
    (stepped : driverStep state.system label = some next) :
    Moved state { state with system := next } call.priority := by
  have session := SessionInvariant.reachable reached
  have isOpen : state.system.files ≠ [] := by
    obtain ⟨file, found, -⟩ := held call reading
    exact List.ne_nil_of_mem (System.file?_some found).1
  cases mailbox : label.isMailbox with
  | true =>
      cases label with
      | peer write =>
          cases stepped
          exact peer_moved admitted call.priority
      | b2aAcknowledge channel | rxCallback channel message => cases admitted
      | _ => cases mailbox
  | false =>
      cases occupied_step session (FilesInvariant.reachable reached) isOpen stepped mailbox with
      | quiet state rxGeneration b2a =>
          refine .quiet state (congrFun rxGeneration _) rfl fun watched =>
            watched.imp (reverseEmpty_step session stepped mailbox) ?_ id fun due => .of_due due
          intro pending
          rw [b2a]
          exact pending
      | offline active ended woken b2a => exact .ended active ended (woken _) rfl

/-- The acknowledgement of a doorbell. -/
theorem acknowledge_moved (state : State) (channel priority : Priority) :
    Moved state (state.acknowledge channel) priority := by
  refine .quiet rfl rfl rfl ?_
  by_cases here : priority = channel
  · subst here
    intro _
    exact .inr (.inr (.inl (by simp [State.acknowledge])))
  · intro watched
    refine watched.imp id ?_ ?_ fun due => .of_due due
    · intro pending
      simpa [State.acknowledge, Doorbells.acknowledge, here] using pending
    · intro owed
      simpa [State.acknowledge, here] using owed

/-- The callback of a doorbell wakes the readers of its priority. -/
theorem callback_moved {state : State} {call : Call} (reading : state.reader.call? = some call)
    (channel : Priority) (message : Option (U32 × U32)) :
    Moved state (state.callback channel message) call.priority := by
  by_cases here : call.priority = channel
  · refine .called rfl ?_ ?_
    · simp [State.callback, rxCallback, here]
    · simp [State.callback, reading, here]
  · refine .quiet rfl ?_ ?_ ?_
    · simp [State.callback, rxCallback, here]
    · simp [State.callback, reading, here]
    · intro watched
      refine watched.imp id id ?_ fun due => .of_due due
      intro owed
      simpa [State.callback, here] using owed

/-- A frame that is pushed is due its doorbell. -/
theorem push_moved {state : State} (side : state.cpu3.BoundBy .cpu3) (idle : state.send = .idle)
    (target : Priority) (type : U32) (payload : Option (Nat → U8)) (length : U32)
    (priority : Priority) : Moved state (state.push target type payload length) priority := by
  have noSend : ∀ {next}, state.send.due priority = true → Watched next priority := by
    intro next due
    rw [idle] at due
    cases due
  cases push_spec state side target type payload length with
  | refused side moved =>
      rw [moved]
      exact .quiet rfl rfl rfl fun watched => watched.imp id id id noSend
  | queued slot result side moved =>
      rw [moved]
      refine .quiet rfl rfl rfl ?_
      by_cases here : priority = target
      · subst here
        intro _
        exact .inr (.inr (.inr (by simp [Send.due])))
      · intro watched
        refine watched.imp ?_ id id noSend
        intro empty
        rw [System.reverseEmpty] at empty ⊢
        simpa [Shared.setRing, Function.update_of_ne here] using empty

/-- CPU3 looks at the status bit of its channel. -/
theorem observe_moved {state : State} {target : Priority} {result : SendResult}
    (position : state.send = .pushed target result) (priority : Priority) :
    Moved state
      { state with send := .observed target result (state.system.hardware.b2a.status target) }
      priority := by
  refine .quiet rfl rfl rfl fun watched => watched.imp id id id ?_
  intro due
  -- The bit that the send saw is the doorbell, or the send writes its own.
  rw [position] at due
  have same : target = priority := by simpa [Send.due] using due
  subst same
  cases busy : state.system.hardware.b2a.status target with
  | true => exact .inr (.inl busy)
  | false => exact .of_due (by simp [Send.due])

/-- The doorbell is rung, or found still pending. -/
theorem notify_moved {state : State} {target : Priority} {result : SendResult} {busy : Bool}
    (position : state.send = .observed target result busy) (priority : Priority) :
    Moved state (state.notify target result busy) priority := by
  cases busy with
  | true =>
      refine .quiet rfl rfl rfl fun watched => watched.imp id id id ?_
      intro due
      rw [position] at due
      simp [Send.due] at due
  | false =>
      refine .quiet rfl rfl rfl ?_
      by_cases here : priority = target
      · subst here
        intro _
        exact .inr (.inl (by simp [State.notify, State.notified, Doorbells.write]))
      · intro watched
        refine watched.imp id ?_ id ?_
        · intro pending
          simpa [State.notify, State.notified, Doorbells.write, here] using pending
        · intro due
          rw [position] at due
          simp [Send.due, Ne.symm here] at due

/-! ### The invariant -/

/-- While the session lasts, the counter of the reader's channel has moved by the callbacks since
the snapshot. -/
def Counted (state : State) (call : Call) (generation : U32) : Prop :=
  state.system.driver.mailmsgState = .active →
    state.system.driver.rxGeneration call.priority = generation + BitVec.ofNat 32 state.callbacks

/-- A reader that found nothing: until a callback comes, whatever is in the ring is watched; the end
of the session moves the counter once more. -/
structure Rested (state : State) (call : Call) (generation : U32) : Prop where
  counted : Counted state call generation
  watched : state.system.driver.mailmsgState = .active →
    0 < state.callbacks ∨ Watched state call.priority
  ended : state.system.driver.mailmsgState = .offline →
    state.system.driver.rxGeneration call.priority =
      generation + BitVec.ofNat 32 (state.callbacks + 1)

/-- What the position of the reader says. -/
def Settled (state : State) : Prop :=
  match state.reader with
  | .receiving call generation => Counted state call generation
  | .waiting call generation | .asleep call generation => Rested state call generation
  | .out | .looping _ | .returned _ => True

theorem ofNat_succ (generation : U32) (count : Nat) :
    generation + BitVec.ofNat 32 count + 1 = generation + BitVec.ofNat 32 (count + 1) := by
  rw [BitVec.ofNat_add, BitVec.add_assoc]
  rfl

section MovedReader

variable {state next : State} {call : Call} {generation : U32}

theorem Counted.of_moved (counted : Counted state call generation)
    (moved : Moved state next call.priority) : Counted next call generation := by
  intro active
  cases moved with
  | quiet session counter callbacks watched =>
      rw [counter, callbacks]
      exact counted (session ▸ active)
  | called session counter callbacks =>
      rw [counter, callbacks, counted (session ▸ active)]
      exact ofNat_succ generation _
  | ended wasActive offline counter callbacks =>
      rw [offline] at active
      cases active

theorem Rested.of_moved (rested : Rested state call generation)
    (moved : Moved state next call.priority) : Rested next call generation := by
  refine ⟨rested.counted.of_moved moved, ?_, ?_⟩
  · intro active
    cases moved with
    | quiet session counter callbacks watched =>
        rw [callbacks]
        exact (rested.watched (session ▸ active)).imp_right watched
    | called session counter callbacks =>
        rw [callbacks]
        exact .inl (Nat.succ_pos _)
    | ended wasActive offline counter callbacks =>
        rw [offline] at active
        cases active
  · intro offline
    cases moved with
    | quiet session counter callbacks watched =>
        rw [counter, callbacks]
        exact rested.ended (session ▸ offline)
    | called session counter callbacks =>
        rw [counter, callbacks, rested.ended (session ▸ offline)]
        exact ofNat_succ generation _
    | ended active offline counter callbacks =>
        rw [counter, callbacks, rested.counted active]
        exact ofNat_succ generation _

end MovedReader

/-- The reader's file is open, and its position fits the counter. -/
structure Invariant (state : State) : Prop where
  held : FileHeld state
  settled : Settled state

/-- A step outside the reader. -/
theorem Settled.of_moved {state next : State} (settled : Settled state)
    (same : next.reader = state.reader)
    (moved : ∀ call, state.reader.call? = some call → Moved state next call.priority) :
    Settled next := by
  rw [Settled, same]
  rw [Settled] at settled
  cases position : state.reader with
  | out | returned outcome | looping call => trivial
  | receiving call generation =>
      rw [position] at settled moved
      exact settled.of_moved (moved call rfl)
  | waiting call generation | asleep call generation =>
      rw [position] at settled moved
      exact settled.of_moved (moved call rfl)

/-- A receive that finds nothing leaves the reader with an empty ring. -/
theorem receive_settled {state : State} {call : Call} {generation : U32} {file : UserFile}
    {copied : Bool} (settled : Settled state) (session : SessionInvariant state.system)
    (position : state.reader = .receiving call generation) (own : file.priority = call.priority)
    (stepped : driverStep state.system (.read call.id copied) =
      some (userRead state.system file copied).2) :
    Settled (state.receive call generation file copied) := by
  rw [Settled, position] at settled
  have data := (userRead_step state.system file copied session.bound).toDataStep
  have sameState : (userRead state.system file copied).2.driver.mailmsgState =
      state.system.driver.mailmsgState := congrArg Lifecycle.mailmsgState data.lifecycle
  cases outcome : (userRead state.system file copied).1 with
  | delivered frame | returned value => simp [Settled, State.receive, outcome]
  | sleeps =>
      obtain ⟨active, empty⟩ := userRead_sleeps session.bound outcome
      have stillEmpty := reverseEmpty_step session stepped rfl empty
      rw [own] at stillEmpty
      simp only [Settled, State.receive, outcome]
      refine ⟨?_, fun _ => .inr (.inl stillEmpty), ?_⟩
      · intro _
        rw [data.rxGeneration]
        exact settled active
      · intro offline
        rw [sameState, active] at offline
        cases offline

theorem step_settled {state next : State} {label : Label} (invariant : Invariant state)
    (side : state.cpu3.BoundBy .cpu3) (reached : driverMachine.Reachable state.system)
    (stepped : step state label = some next) : Settled next := by
  obtain ⟨held, settled⟩ := invariant
  have session := SessionInvariant.reachable reached
  cases step_taken stepped with
  | linux admitted moved =>
      exact settled.of_moved rfl fun call reading => linux_moved held reading reached admitted moved
  | interrupt channel pending =>
      exact settled.of_moved rfl fun call _ => acknowledge_moved state channel call.priority
  | callback channel message owed =>
      exact settled.of_moved rfl fun call reading => callback_moved reading channel message
  | bind idle => exact settled.of_moved rfl fun call _ => .quiet rfl rfl rfl id
  | push idle =>
      exact settled.of_moved rfl fun call _ => push_moved side idle _ _ _ _ call.priority
  | observe priority result position =>
      exact settled.of_moved rfl fun call _ => observe_moved position call.priority
  | notify priority result busy position =>
      refine settled.of_moved ?_ fun call _ => notify_moved position call.priority
      cases busy <;> rfl
  | enter outside free found =>
      simp only [State.enter]
      split
      · trivial
      · split <;> trivial
  | snapshot call position =>
      intro _
      simp
  | receive position free found claimed =>
      rename_i call generation file copied
      obtain ⟨own, ownFound, priority, -⟩ := held call (by rw [position]; rfl)
      rw [found] at ownFound
      cases ownFound
      exact receive_settled settled session position priority
        (read_driverStep free found claimed copied)
  | check position =>
      rename_i call generation
      have rested : Rested state call generation := by
        rw [Settled] at settled
        rcases position with position | position
        · rwa [position] at settled
        · rwa [position] at settled
      by_cases moved : state.system.driver.rxGeneration call.priority ≠ generation
      · rw [State.check, if_pos moved]
        trivial
      · rw [State.check, if_neg moved]
        exact ⟨rested.counted, rested.watched, rested.ended⟩
  | signal => trivial

theorem reachable_invariant {state : State} (reached : machine.Reachable state) :
    Invariant state := by
  induction reached with
  | init start =>
      obtain ⟨system, -, rfl⟩ := start
      refine ⟨?_, trivial⟩
      intro call inside
      cases inside
  | step earlier taken inductionHypothesis =>
      have system := reachable_system earlier
      exact ⟨step_fileHeld inductionHypothesis.held (SessionInvariant.reachable system) taken,
        step_settled inductionHypothesis (reachable_side earlier) system taken⟩

/-! ### Results -/

theorem Send.on_of_due {send : Send} {priority : Priority} (due : send.due priority = true) :
    send.on priority = true := by
  cases send with
  | idle => cases due
  | pushed other result => exact due
  | observed other result busy => exact (Bool.and_eq_true_iff.mp due).1

/-- A counter that moved fewer than 2^32 times and stands where it stood did not move. -/
theorem count_eq_zero {generation : U32} {count : Nat} (few : count < 2 ^ 32)
    (back : generation + BitVec.ofNat 32 count = generation) : count = 0 := by
  have none : BitVec.ofNat 32 count = 0#32 := by simpa using back
  have value := congrArg BitVec.toNat none
  rw [BitVec.toNat_ofNat, Nat.mod_eq_of_lt few] at value
  exact value

/-- The session of a read in its loop is ACTIVE or OFFLINE. -/
theorem FileHeld.state {state : State} {call : Call} (held : FileHeld state)
    (reading : state.reader.call? = some call) (reached : driverMachine.Reachable state.system) :
    state.system.driver.mailmsgState = .active ∨ state.system.driver.mailmsgState = .offline := by
  obtain ⟨file, found, -⟩ := held call reading
  exact (FilesInvariant.reachable reached).state (List.ne_nil_of_mem (System.file?_some found).1)

/-- A step under a read in its loop keeps the session, or ends it and moves the reader's counter. -/
theorem step_session {state next : State} {label : Label} {call : Call}
    (reached : machine.Reachable state) (reading : state.reader.call? = some call)
    (stepped : step state label = some next) :
    next.system.driver.mailmsgState = state.system.driver.mailmsgState ∨
      state.system.driver.mailmsgState = .active ∧
        next.system.driver.mailmsgState = .offline ∧
        next.system.driver.rxGeneration call.priority =
          state.system.driver.rxGeneration call.priority + 1 := by
  have system := reachable_system reached
  cases step_taken stepped with
  | linux admitted moved =>
      cases linux_moved (reachable_invariant reached).held reading system admitted moved with
      | quiet session counter callbacks watched => exact .inl session
      | called session counter callbacks => exact .inl session
      | ended active offline counter callbacks => exact .inr ⟨active, offline, counter⟩
  | notify priority result busy position =>
      cases busy <;> exact .inl rfl
  | enter outside free found =>
      rw [outside] at reading
      cases reading
  | receive position free found claimed =>
      rename_i file copied
      have data := (userRead_step state.system file copied
        (SessionInvariant.reachable system).bound).toDataStep
      exact .inl (congrArg Lifecycle.mailmsgState data.lifecycle)
  | interrupt channel pending | callback channel message owed | bind idle | push idle
  | observe priority result position | snapshot call position | check position | signal =>
      exact .inl rfl

/-- An iteration in OFFLINE. -/
theorem receive_offline {state : State} {call : Call} {generation : U32}
    (held : FileHeld state) (position : state.reader = .receiving call generation)
    (free : state.system.lock = .free) (offline : state.system.driver.mailmsgState = .offline)
    (copied : Bool) :
    step state (.receive copied) =
      some { state with reader := .returned (.returned (-Errno.nolink)) } := by
  obtain ⟨file, found, -, claimed⟩ := held call (by rw [position]; rfl)
  simp [step, position, free, found, claimed, Option.filter, State.receive,
    userRead_offline offline]

/-- For every run in which a snapshot is followed by fewer than 2^32 - 1 callbacks on its channel:
(1) while the reader sleeps and its counter stands where it was read, the session is ACTIVE, and the
ring is empty, or a doorbell is pending, or a callback is owed, or a send is before its doorbell;
(2) a step that leaves ACTIVE goes to OFFLINE and moves the counter of the read; (3) a sleeper that
it wakes returns -ENOLINK with its next iteration; (4) so does every iteration outside ACTIVE, and
OFFLINE stays until the read has returned. -/
theorem no_lost_wakeup {state : State} (reached : machine.Reachable state) {call : Call}
    (reading : state.reader.call? = some call) :
    (∀ generation, state.reader = .asleep call generation →
      state.system.driver.rxGeneration call.priority = generation →
      state.callbacks + 1 < 2 ^ 32 →
      state.system.driver.mailmsgState = .active ∧
        (state.system.reverseEmpty call.priority ∨
          state.system.hardware.b2a.status call.priority = true ∨
          0 < state.owed call.priority ∨ state.send.on call.priority = true)) ∧
    (∀ label next, machine.step state label = some next →
      state.system.driver.mailmsgState = .active → next.system.driver.mailmsgState ≠ .active →
      next.system.driver.mailmsgState = .offline ∧
        next.system.driver.rxGeneration call.priority =
          state.system.driver.rxGeneration call.priority + 1) ∧
    (∀ generation copied, state.reader = .asleep call generation →
      state.system.driver.rxGeneration call.priority ≠ generation →
      state.system.driver.mailmsgState ≠ .active → state.system.lock = .free →
      (machine.run state [.check, .snapshot, .receive copied]).map (·.reader) =
        some (.returned (.returned (-Errno.nolink)))) ∧
    (state.system.driver.mailmsgState ≠ .active →
      (∀ generation copied, state.reader = .receiving call generation → state.system.lock = .free →
        (machine.step state (.receive copied)).map (·.reader) =
          some (.returned (.returned (-Errno.nolink)))) ∧
      ∀ label next, machine.step state label = some next →
        next.system.driver.mailmsgState = .offline) := by
  have invariant := reachable_invariant reached
  have session := invariant.held.state reading (reachable_system reached)
  have ended : state.system.driver.mailmsgState ≠ .active →
      state.system.driver.mailmsgState = .offline := session.resolve_left
  refine ⟨?_, ?_, ?_, ?_⟩
  · intro generation position unmoved few
    have rested : Rested state call generation := by
      have settled := invariant.settled
      rwa [Settled, position] at settled
    have active : state.system.driver.mailmsgState = .active := by
      rcases session with active | offline
      · exact active
      · have back := rested.ended offline
        rw [unmoved] at back
        cases count_eq_zero few back.symm
    have counted := rested.counted active
    rw [unmoved] at counted
    have none : state.callbacks = 0 := count_eq_zero (by omega) counted.symm
    refine ⟨active, ?_⟩
    rcases rested.watched active with some | watched
    · omega
    · rcases watched with empty | pending | owed | due
      · exact .inl empty
      · exact .inr (.inl pending)
      · exact .inr (.inr (.inl owed))
      · exact .inr (.inr (.inr (Send.on_of_due due)))
  · intro label next stepped active left
    rcases step_session reached reading stepped with same | ⟨-, offline, counter⟩
    · rw [same] at left
      exact absurd active left
    · exact ⟨offline, counter⟩
  · intro generation copied position moved left free
    have woke : step state .check = some { state with reader := .looping call } := by
      simp [step, position, State.check, moved]
    have took : step { state with reader := .looping call } .snapshot =
        some
          { state with
            reader := .receiving call (state.system.driver.rxGeneration call.priority)
            callbacks := 0 } := rfl
    have held : FileHeld
        { state with
          reader := .receiving call (state.system.driver.rxGeneration call.priority)
          callbacks := 0 } := by
      refine invariant.held.of_files rfl ?_
      rw [reading]
      exact fun _ inside => inside
    have done := receive_offline held rfl free (ended left) copied
    simp only [machine, Machine.run, woke, took, done]
    rfl
  · intro left
    refine ⟨?_, ?_⟩
    · intro generation copied position free
      have stepped := receive_offline invariant.held position free (ended left) copied
      simp only [machine, stepped]
      rfl
    · intro label next stepped
      rcases step_session reached reading stepped with same | ⟨active, -, -⟩
      · rw [same]
        exact ended left
      · exact absurd active left

/-! ### Runs -/

/-- Load, start and announce, then a blocking read on p1 that goes to sleep. -/
def demoRead : List Label :=
  [.linux (.imageWrite 0 1 (fun _ => 0)), .linux (.start true 5 affinityOff 0), .bind,
    .push .critical MessageType.sessionReady (some (sessionReadyReply 1#32).payload) 8#32, .observe,
    .notify, .linux .controlEnter, .linux .controlIterate, .linux (.openFile 1 false), .enter 0 48,
    .snapshot, .receive true, .check]

theorem demoRead_init : machine.init (.probed demoProbed) := ⟨demoProbed, demoProbed_init, rfl⟩

/-- The theorem at a reader that sleeps while CPU3 has pushed a frame and rung. -/
theorem no_lost_wakeup_demo :
    ∃ state, machine.Reachable state ∧ state.reader = .asleep ⟨0, 1⟩ 0#32 ∧
      ¬ state.system.reverseEmpty 1 ∧ state.system.driver.mailmsgState = .active ∧
      (state.system.hardware.b2a.status 1 = true ∨ 0 < state.owed 1 ∨ state.send.on 1 = true) := by
  have checked : (machine.run (.probed demoProbed)
      (demoRead ++ [.push 1 MessageType.pong none 0#32, .observe, .notify])).any (fun state =>
        decide (state.reader.asleep? = some (⟨0, 1⟩, 0#32) ∧
          (state.system.hardware.shared.cpu3ToLinux 1).consumer ≠
            (state.system.hardware.shared.cpu3ToLinux 1).producer ∧
          state.system.driver.rxGeneration 1 = 0#32 ∧ state.callbacks = 0)) = true := by
    decide +kernel
  obtain ⟨state, executed, passed⟩ := Machine.exists_of_run_any checked
  have reached : machine.Reachable state := (Machine.Reachable.init demoRead_init).run executed
  obtain ⟨sleeps, nonempty, unmoved, none⟩ := of_decide_eq_true passed
  have position := Reader.eq_asleep sleeps
  obtain ⟨safe, -⟩ := no_lost_wakeup reached (by rw [position]; rfl)
  obtain ⟨active, empty | rest⟩ := safe 0#32 position unmoved (by rw [none]; decide)
  · exact absurd empty nonempty
  · exact ⟨state, reached, position, nonempty, active, rest⟩

/-- A sleeping reader whose channel had `count` callbacks since its snapshot. -/
structure Drifted (state : State) (count : Nat) : Prop where
  reached : machine.Reachable state
  position : state.reader = .asleep ⟨0, 1⟩ 0#32
  counter : state.system.driver.rxGeneration 1 = BitVec.ofNat 32 count
  callbacks : state.callbacks = count
  active : state.system.driver.mailmsgState = .active
  free : state.system.lock = .free

theorem drifted_start : ∃ state, Drifted state 0 := by
  have checked : (machine.run (.probed demoProbed) demoRead).any (fun state =>
      decide (state.reader.asleep? = some (⟨0, 1⟩, 0#32) ∧
        state.system.driver.rxGeneration 1 = 0#32 ∧ state.callbacks = 0 ∧
        state.system.driver.mailmsgState = .active ∧ state.system.lock = .free)) = true := by
    decide +kernel
  obtain ⟨state, executed, passed⟩ := Machine.exists_of_run_any checked
  have reached : machine.Reachable state := (Machine.Reachable.init demoRead_init).run executed
  obtain ⟨sleeps, counter, callbacks, active, free⟩ := of_decide_eq_true passed
  exact ⟨state, reached, Reader.eq_asleep sleeps, counter, callbacks, active, free⟩

/-- One more doorbell, interrupt and callback, before the reader gets to run. -/
theorem Drifted.succ {state : State} {count : Nat} (drifted : Drifted state count) :
    ∃ next, Drifted next (count + 1) := by
  have rung : machine.step state (.linux (.peer (.doorbell 1 0 0))) =
      some
        { state with
          system :=
            { state.system with
              hardware :=
                { state.system.hardware with b2a := state.system.hardware.b2a.write 1 0 0 }
              peerWrites := state.system.peerWrites ++ [] } } := rfl
  generalize rungIs : { state with
      system :=
        { state.system with
          hardware := { state.system.hardware with b2a := state.system.hardware.b2a.write 1 0 0 }
          peerWrites := state.system.peerWrites ++ [] } } = ringing at rung
  have pending : ringing.system.hardware.b2a.status 1 = true := by
    rw [← rungIs]
    simp [Doorbells.write]
  have cleared : machine.step ringing (.interrupt 1) = some (ringing.acknowledge 1) := by
    simp [machine, step, pending]
  have owed : 0 < (ringing.acknowledge 1).owed 1 := by
    simp [State.acknowledge]
  have called : machine.step (ringing.acknowledge 1) (.callback 1 none) =
      some ((ringing.acknowledge 1).callback 1 none) := by
    simp [machine, step, owed]
  refine ⟨_, ((drifted.reached.step rung).step cleared).step called, ?_, ?_, ?_, ?_, ?_⟩
  · rw [← rungIs]
    exact drifted.position
  · rw [← rungIs]
    have value := drifted.counter
    simp [State.callback, State.acknowledge, rxCallback, value, BitVec.ofNat_add]
  · rw [← rungIs]
    simp [State.callback, State.acknowledge, drifted.position, Reader.call?, drifted.callbacks]
  · rw [← rungIs]
    exact drifted.active
  · rw [← rungIs]
    exact drifted.free

theorem drifted_exists (count : Nat) : ∃ state, Drifted state count := by
  induction count with
  | zero => exact drifted_start
  | succ count inductionHypothesis =>
      obtain ⟨state, drifted⟩ := inductionHypothesis
      exact drifted.succ

/-- Fewer than 2^32 callbacks are one too many: after 2^32 - 1 of them the end of the session brings
the counter back to the snapshot, and the reader sleeps on in OFFLINE. -/
theorem wakeup_counter_wraps :
    ∃ state call generation, machine.Reachable state ∧ state.reader = .asleep call generation ∧
      state.system.driver.rxGeneration call.priority = generation ∧ state.callbacks < 2 ^ 32 ∧
      state.system.driver.mailmsgState ≠ .active := by
  obtain ⟨state, drifted⟩ := drifted_exists (2 ^ 32 - 1)
  have session := SessionInvariant.reachable (reachable_system drifted.reached)
  have poweredOn := (session.active_session drifted.active).cpuOnRet
  have seenOn := (session.announced (by simp [drifted.active, SessionState.announced])).1
  have ended : machine.step state (.linux (.affinityWork affinityOff)) =
      some { state with system := affinityWork state.system affinityOff } := by
    simp [machine, step, State.admits, driverStep, lockedStep, drifted.free]
  have off : ¬ (affinityOff = affinityOn ∨ affinityOff = affinityOnPending) := by decide
  have answered : ¬ affinityOff < 0 := by decide
  have offline : (affinityWork state.system affinityOff).driver.mailmsgState = .offline := by
    simp [affinityWork, refreshAffinityLocked, markOfflineLocked, Driver.wakeReaders,
      SessionState.watched, drifted.active, poweredOn, seenOn, off, answered]
  have counter : (affinityWork state.system affinityOff).driver.rxGeneration 1 = 0#32 := by
    have value := drifted.counter
    simp [affinityWork, refreshAffinityLocked, markOfflineLocked, Driver.wakeReaders,
      SessionState.watched, drifted.active, poweredOn, seenOn, off, answered, value]
  -- The reader looks once more, finds its snapshot, and sleeps on.
  have looked : machine.step { state with system := affinityWork state.system affinityOff } .check =
      some { state with system := affinityWork state.system affinityOff } := by
    have position := drifted.position
    simp [machine, step, State.check, position, counter]
  refine ⟨_, ⟨0, 1⟩, 0#32, (drifted.reached.step ended).step looked, drifted.position,
    counter, ?_, ?_⟩
  · rw [drifted.callbacks]
    decide
  · rw [offline]
    decide

end MailMsg.Wakeup
