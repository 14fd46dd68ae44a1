/-
Module: MailMsg.Driver.Effects
Purpose: What each data-plane operation of the driver can do: which parts of the state it leaves
  alone, and which single push or pop it performs.
Source: LZAMP/linux/drivers/lzamp_amp_mailmsg.c
Trusted boundary: none
Main exports: DataStep, SendEffect, ReceiveEffect, linuxSend_effect, linuxReceive_effect,
  linuxReceive_found, SendStep, ReceiveStep
-/
import MailMsg.Driver.Machine

namespace MailMsg

/-! ### What the data plane leaves alone

The frame of the data plane: whatever is sent, received or rung, the configuration, the lifecycle
and the files are as before.
-/

/-- The part of the state that sending and receiving do not write: the lifecycle, the counters, the
work queue, the readers' wake-up counters, the open files, the header, the slots of the reverse
rings, the B2A registers, and what the endpoint is bound to. -/
structure DataStep (before after : System) : Prop where
  config : after.config = before.config
  lifecycle : after.driver.toLifecycle = before.driver.toLifecycle
  counts : after.driver.toUserCounts = before.driver.toUserCounts
  queue : after.driver.toWorkQueue = before.driver.toWorkQueue
  rxGeneration : after.driver.rxGeneration = before.driver.rxGeneration
  role : after.driver.endpoint.role = before.driver.endpoint.role
  generation : after.driver.endpoint.generation = before.driver.endpoint.generation
  b2a : after.hardware.b2a = before.hardware.b2a
  magic : after.hardware.shared.magic = before.hardware.shared.magic
  version : after.hardware.shared.version = before.hardware.shared.version
  header : after.hardware.shared.generation = before.hardware.shared.generation
  reverseSlots : ∀ priority, (after.hardware.shared.cpu3ToLinux priority).slot =
    (before.hardware.shared.cpu3ToLinux priority).slot
  files : after.files = before.files
  nextFile : after.nextFile = before.nextFile
  epoch : after.epoch = before.epoch
  peerWrites : after.peerWrites = before.peerWrites

namespace DataStep

/-- Nothing happened. -/
theorem refl (system : System) : DataStep system system where
  config := rfl
  lifecycle := rfl
  counts := rfl
  queue := rfl
  rxGeneration := rfl
  role := rfl
  generation := rfl
  b2a := rfl
  magic := rfl
  version := rfl
  header := rfl
  reverseSlots := fun _ => rfl
  files := rfl
  nextFile := rfl
  epoch := rfl
  peerWrites := rfl

/-- One operation after the other. -/
theorem trans {first second third : System} (earlier : DataStep first second)
    (later : DataStep second third) : DataStep first third where
  config := later.config.trans earlier.config
  lifecycle := later.lifecycle.trans earlier.lifecycle
  counts := later.counts.trans earlier.counts
  queue := later.queue.trans earlier.queue
  rxGeneration := later.rxGeneration.trans earlier.rxGeneration
  role := later.role.trans earlier.role
  generation := later.generation.trans earlier.generation
  b2a := later.b2a.trans earlier.b2a
  magic := later.magic.trans earlier.magic
  version := later.version.trans earlier.version
  header := later.header.trans earlier.header
  reverseSlots := fun priority =>
    (later.reverseSlots priority).trans (earlier.reverseSlots priority)
  files := later.files.trans earlier.files
  nextFile := later.nextFile.trans earlier.nextFile
  epoch := later.epoch.trans earlier.epoch
  peerWrites := later.peerWrites.trans earlier.peerWrites

/-- Who holds the mutex is not part of it. -/
theorem relock {before after : System} (step : DataStep before after) (lock : LockOwner) :
    DataStep before { after with lock := lock } :=
  ⟨step.config, step.lifecycle, step.counts, step.queue, step.rxGeneration, step.role,
    step.generation, step.b2a, step.magic, step.version, step.header, step.reverseSlots, step.files,
    step.nextFile, step.epoch, step.peerWrites⟩

end DataStep

/-! ### Doorbells -/

/-- A doorbell touches only mailbox records, the injection counter and the A2B registers. -/
structure DoorbellStep (before after : System) : Prop extends DataStep before after where
  shared : after.hardware.shared = before.hardware.shared
  endpoint : after.driver.endpoint = before.driver.endpoint
  lock : after.lock = before.lock

/-- No doorbell. -/
theorem DoorbellStep.refl (system : System) : DoorbellStep system system where
  toDataStep := .refl system
  shared := rfl
  endpoint := rfl
  lock := rfl

/-- A doorbell writes its channel, the injected failures and the mailbox. -/
theorem DoorbellStep.of_eq {system : System} (mbox : Priority → MboxChannel) (remaining : U32)
    (last : Int) (a2b : Doorbells) :
    DoorbellStep system
      { system with
        driver :=
          { system.driver with
            mbox := mbox
            notifyInjectRemaining := remaining
            mailmsgLastNotifyResult := last }
        hardware := { system.hardware with a2b := a2b } } where
  toDataStep := ⟨rfl, rfl, rfl, rfl, rfl, rfl, rfl, rfl, rfl, rfl, rfl, fun _ => rfl, rfl,
    rfl, rfl, rfl⟩
  shared := rfl
  endpoint := rfl
  lock := rfl

/-- The message goes out, or the channel is busy. -/
theorem mboxDirectSendLocked_step (system : System) (channel : Priority) (command value : U32) :
    DoorbellStep system (mboxDirectSendLocked system channel command value).2 := by
  unfold mboxDirectSendLocked
  split
  · exact .of_eq _ system.driver.notifyInjectRemaining system.driver.mailmsgLastNotifyResult
      system.hardware.a2b
  · exact .of_eq _ system.driver.notifyInjectRemaining system.driver.mailmsgLastNotifyResult _

/-- Counting the answer of a doorbell is part of it. -/
theorem notified_step {before after : System} (step : DoorbellStep before after)
    (priority : Priority) (result : Int) (count : MboxChannel → MboxChannel) :
    DoorbellStep before
      { after with driver := after.driver.notified priority result count } where
  toDataStep := ⟨step.config, step.lifecycle, step.counts, step.queue, step.rxGeneration, step.role,
    step.generation, step.b2a, step.magic, step.version, step.header, step.reverseSlots, step.files,
    step.nextFile, step.epoch, step.peerWrites⟩
  shared := step.shared
  endpoint := step.endpoint
  lock := step.lock

/-- A doorbell that may be made to fail. -/
theorem notifyLocked_step (system : System) (priority : Priority) :
    DoorbellStep system (notifyLocked system priority).2 := by
  simp only [notifyLocked]
  split
  · exact .of_eq _ _ _ system.hardware.a2b
  · have sent := mboxDirectSendLocked_step system priority
      (mailmsgDoorbell ||| BitVec.ofNat 32 priority.val) (BitVec.ofNat 32 priority.val)
    split
    · exact notified_step sent _ _ _
    · split
      · exact notified_step sent _ _ _
      · exact notified_step sent _ _ _

/-! ### Sends and receives -/

/-- What an operation that offers one frame to a forward ring does to the region. -/
inductive SendEffect (before after : System) (priority : Priority) (type length : U32) : Prop where
  | nothing (same : after.hardware.shared = before.hardware.shared)
  | pushed (slot : Message) (typed : slot.type = type) (sized : slot.length = length)
      (numbered : slot.sequence = endpointNextSequence before.driver.endpoint)
      (committed : slot.commit = slot.sequence)
      (space : ringNext (before.hardware.shared.linuxToCpu3 priority).producer ≠
        (before.hardware.shared.linuxToCpu3 priority).consumer)
      (published : after.hardware.shared = before.hardware.shared.setRing .linux priority
        ((before.hardware.shared.linuxToCpu3 priority).publish slot))

/-- What an operation that tries to take one frame from a reverse ring does to the region. -/
inductive ReceiveEffect (before after : System) (priority : Priority) : Prop where
  | nothing (same : after.hardware.shared = before.hardware.shared)
  | popped (released : after.hardware.shared = before.hardware.shared.setRing .cpu3 priority
      (ringPop (before.hardware.shared.cpu3ToLinux priority)).2.1)

section Contents

variable {before after : System} {priority : Priority}

/-- A send leaves the reverse rings alone. -/
theorem SendEffect.reverse {type length : U32}
    (effect : SendEffect before after priority type length) :
    after.hardware.shared.cpu3ToLinux = before.hardware.shared.cpu3ToLinux := by
  cases effect with
  | nothing same => rw [same]
  | pushed slot typed sized numbered committed space published =>
      rw [published]
      rfl

/-- What a forward ring holds after a send: what it held, and the new frame. -/
theorem SendEffect.forward {type length : U32}
    (effect : SendEffect before after priority type length)
    {other : Priority} (wellFormed : (before.hardware.shared.linuxToCpu3 other).WellFormed) :
    (after.hardware.shared.linuxToCpu3 other).WellFormed ∧
      ∀ message ∈ (after.hardware.shared.linuxToCpu3 other).contents,
        message ∈ (before.hardware.shared.linuxToCpu3 other).contents ∨
          (other = priority ∧ message.type = type ∧ message.length = length ∧
            message.sequence = endpointNextSequence before.driver.endpoint) := by
  cases effect with
  | nothing same =>
      rw [same]
      exact ⟨wellFormed, fun _ => .inl⟩
  | pushed slot typed sized numbered committed space published =>
      by_cases here : other = priority
      · subst here
        have ring : after.hardware.shared.linuxToCpu3 other =
            (before.hardware.shared.linuxToCpu3 other).publish slot := by
          simp [published, Shared.setRing]
        rw [ring]
        refine ⟨wellFormed.publish slot, ?_⟩
        intro message member
        rcases wellFormed.mem_publish space member with old | rfl
        · exact .inl old
        · exact .inr ⟨rfl, typed, sized, numbered⟩
      · have ring : after.hardware.shared.linuxToCpu3 other =
            before.hardware.shared.linuxToCpu3 other := by
          simp [published, Shared.setRing, Function.update_of_ne here]
        rw [ring]
        exact ⟨wellFormed, fun _ => .inl⟩

/-- A receive leaves the forward rings alone. -/
theorem ReceiveEffect.forward (effect : ReceiveEffect before after priority) :
    after.hardware.shared.linuxToCpu3 = before.hardware.shared.linuxToCpu3 := by
  cases effect with
  | nothing same => rw [same]
  | popped released =>
      rw [released]
      rfl

/-- A receive only removes from the reverse rings. -/
theorem ReceiveEffect.reverse (effect : ReceiveEffect before after priority) {other : Priority}
    (wellFormed : (before.hardware.shared.cpu3ToLinux other).WellFormed) :
    (after.hardware.shared.cpu3ToLinux other).WellFormed ∧
      ∀ message ∈ (after.hardware.shared.cpu3ToLinux other).contents,
        message ∈ (before.hardware.shared.cpu3ToLinux other).contents := by
  cases effect with
  | nothing same =>
      rw [same]
      exact ⟨wellFormed, fun _ => id⟩
  | popped released =>
      by_cases here : other = priority
      · subst here
        have ring : after.hardware.shared.cpu3ToLinux other =
            (ringPop (before.hardware.shared.cpu3ToLinux other)).2.1 := by
          simp [released, Shared.setRing]
        rw [ring]
        exact ⟨wellFormed.pop, fun _ => wellFormed.mem_pop⟩
      · have ring : after.hardware.shared.cpu3ToLinux other =
            before.hardware.shared.cpu3ToLinux other := by
          simp [released, Shared.setRing, Function.update_of_ne here]
        rw [ring]
        exact ⟨wellFormed, fun _ => id⟩

end Contents

/-- Storing an endpoint with the same binding and a region with the same header and reverse
slots. -/
theorem DataStep.store {before after : System} (step : DataStep before after) {endpoint : Endpoint}
    {shared : Shared} (role : endpoint.role = before.driver.endpoint.role)
    (generation : endpoint.generation = before.driver.endpoint.generation)
    (magic : shared.magic = before.hardware.shared.magic)
    (version : shared.version = before.hardware.shared.version)
    (header : shared.generation = before.hardware.shared.generation)
    (reverseSlots : ∀ priority, (shared.cpu3ToLinux priority).slot =
      (before.hardware.shared.cpu3ToLinux priority).slot) :
    DataStep before (after.store endpoint shared) :=
  ⟨step.config, step.lifecycle, step.counts, step.queue, step.rxGeneration, role,
    generation, step.b2a, magic, version, header, reverseSlots, step.files, step.nextFile,
    step.epoch, step.peerWrites⟩

/-- Everything that a send on the driver's endpoint can do. -/
structure LinuxSent (system : System) (priority : Priority) (type length : U32)
    (sent : SendOutcome × System) : Prop where
  data : DataStep system sent.2
  lock : sent.2.lock = system.lock
  /-- A frame is in the ring exactly when the send answers OK, and then under the sequence it
  reports. -/
  refused : sent.1.ret ≠ .ok → sent.2.hardware.shared = system.hardware.shared
  accepted : sent.1.ret = .ok → sent.1.result.sequence = endpointNextSequence system.driver.endpoint
  effect : SendEffect system sent.2 priority type length
  pushed : sent.1.ret = .ok → ∃ slot : Message, slot.type = type ∧
    sent.2.hardware.shared = system.hardware.shared.setRing .linux priority
      ((system.hardware.shared.linuxToCpu3 priority).publish slot)

/-- A send of Linux is a push and a doorbell. -/
theorem linuxSend_effect (system : System) (priority : Priority) (type : U32)
    (payload : Option (Nat → U8)) (length : U32)
    (bound : system.driver.endpoint.BoundBy .linux) :
    LinuxSent system priority type length (linuxSend system priority type payload length) := by
  have queueing := endpointSend_sameQueueing (fun priority system => notifyLocked system priority)
    system system.driver.endpoint system.hardware.shared priority type payload length .zero
  have spec := endpointEnqueue_spec system.driver.endpoint system.hardware.shared
    priority type payload
    length .zero
  have doorbell : DoorbellStep system
    (endpointSend (fun priority system => notifyLocked system priority)
      system system.driver.endpoint system.hardware.shared priority type payload
        length .zero).2 := by
    simp only [endpointSend]
    split
    · exact .refl system
    · exact notifyLocked_step system priority
  simp only [linuxSend]
  generalize endpointSend (fun priority system => notifyLocked system priority) system
    system.driver.endpoint system.hardware.shared priority type payload length .zero = sent at *
  generalize endpointEnqueue system.driver.endpoint system.hardware.shared priority type
    payload length
    .zero = queued at *
  cases spec with
  | refused ret notFull sameEndpoint sameShared cause =>
      have shared : sent.1.shared = system.hardware.shared := queueing.shared.trans sameShared
      have failed : sent.1.ret ≠ .ok := by
        rw [queueing.ret]
        exact ret
      refine ⟨doorbell.toDataStep.store ?_ ?_ ?_ ?_ ?_ ?_, doorbell.lock, fun _ => shared,
        fun ok => absurd ok failed, .nothing shared, fun ok => absurd ok failed⟩
      · rw [queueing.role, sameEndpoint]
      · rw [queueing.generation, sameEndpoint]
      · rw [shared]
      · rw [shared]
      · rw [shared]
      · simp [shared]
  | pushed role hasRole session arguments push =>
      obtain rfl := bound role hasRole
      cases push with
      | full noSpace ret queueResult sameShared counted =>
          have shared : sent.1.shared = system.hardware.shared := queueing.shared.trans sameShared
          have failed : sent.1.ret ≠ .ok := by
            rw [queueing.ret, ret]
            decide
          refine ⟨doorbell.toDataStep.store ?_ ?_ ?_ ?_ ?_ ?_, doorbell.lock, fun _ => shared,
            fun ok => absurd ok failed, .nothing shared, fun ok => absurd ok failed⟩
          · rw [queueing.role, counted]
            rfl
          · rw [queueing.generation, counted]
            rfl
          · rw [shared]
          · rw [shared]
          · rw [shared]
          · simp [shared]
      | queued space ret sequence pushed published sameRole sameGeneration drawn =>
          have shared : sent.1.shared = _ := queueing.shared.trans published
          -- The pushed slot is the committed frame of the message that the send builds.
          obtain ⟨slot, typed, sized, numbered, committed, stored⟩ : ∃ slot :
            Message, slot.type = type ∧
              slot.length = length ∧
              slot.sequence = endpointNextSequence system.driver.endpoint ∧
              slot.commit = slot.sequence ∧
              sent.1.shared = system.hardware.shared.setRing .linux priority
                ((system.hardware.shared.linuxToCpu3 priority).publish slot) := by
            rw [(ringPush_ok pushed).2] at shared
            exact ⟨_, rfl, rfl, rfl, rfl, shared⟩
          refine ⟨doorbell.toDataStep.store ?_ ?_ ?_ ?_ ?_ ?_, doorbell.lock, ?_, ?_,
            .pushed slot typed sized numbered committed space stored, fun _ =>
              ⟨slot, typed, stored⟩⟩
          · rw [queueing.role, sameRole]
          · rw [queueing.generation, sameGeneration]
          · simp [shared]
          · simp [shared]
          · simp [shared]
          · simp [shared]
          · intro failed
            rw [queueing.ret] at failed
            exact absurd ret failed
          · intro _
            rw [queueing.sequence, sequence]
            rfl

/-- Everything that a receive on the driver's endpoint can do. -/
structure LinuxReceived (system : System) (priority : Priority)
    (received : ReceiveOutcome × System) : Prop where
  data : DataStep system received.2
  lock : received.2.lock = system.lock
  jiffies : received.2.jiffies = system.jiffies
  effect : ReceiveEffect system received.2 priority
  /-- A delivered message is a good frame of the endpoint's generation at the head of the ring. -/
  delivered : received.1.ret = .ok →
    ∃ message, received.1.message = some message ∧
      ringPop (system.hardware.shared.cpu3ToLinux priority) =
        (.ok, (ringPop (system.hardware.shared.cpu3ToLinux priority)).2.1, some message) ∧
      message.generation = system.driver.endpoint.generation

/-- A receive of Linux is a pop. -/
theorem linuxReceive_effect (system : System) (priority : Priority)
    (bound : system.driver.endpoint.BoundBy .linux) :
    LinuxReceived system priority (linuxReceive system priority) := by
  have spec := endpointReceive_spec system.driver.endpoint system.hardware.shared priority
  simp only [linuxReceive]
  generalize endpointReceive system.driver.endpoint system.hardware.shared priority = outcome at *
  cases spec with
  | refused ret notStale sameEndpoint sameShared nothing cause =>
      refine ⟨(DataStep.refl system).store ?_ ?_ ?_ ?_ ?_ ?_, rfl, rfl, .nothing sameShared, ?_⟩
      · rw [sameEndpoint]
      · rw [sameEndpoint]
      · rw [sameShared]
      · rw [sameShared]
      · rw [sameShared]
      · simp [sameShared]
      · intro ok
        exact absurd ok (ret .ok)
  | popped role hasRole session ret released message counted =>
      obtain rfl := bound role hasRole
      refine ⟨(DataStep.refl system).store ?_ ?_ ?_ ?_ ?_ ?_, rfl, rfl, .popped released, ?_⟩
      · rw [counted]
        rfl
      · rw [counted]
        rfl
      · simp [released]
      · simp [released]
      · simp [released]
      · intro other
        rw [released]
        by_cases same : other = priority
        · subst same
          simp [Shared.setRing, Role.peer, Shared.ring, ringPop_slot]
        · simp [Shared.setRing, Role.peer, Function.update_of_ne same]
      · intro ok
        rw [ok] at ret
        obtain ⟨delivered, popped, current⟩ := receiveResult_ok ret.symm
        refine ⟨delivered, ?_, popped, current⟩
        exact message.trans (congrArg (fun result => result.2.2) popped)

/-- A receive on a valid session, by what it finds in the reverse ring. -/
theorem linuxReceive_found {system : System} (priority : Priority)
    (role : system.driver.endpoint.role = some .linux)
    (session : endpointSessionValid system.driver.endpoint system.hardware.shared = .ok) :
    ∃ ret ring message,
      Found system.driver.endpoint.generation (system.hardware.shared.ring .cpu3 priority) ret ring
        message ∧
      linuxReceive system priority =
        (⟨ret, system.driver.endpoint.updateStats priority fun stats => stats.received ret,
            system.hardware.shared.setRing .cpu3 priority ring, message⟩,
          system.store (system.driver.endpoint.updateStats priority fun stats => stats.received ret)
            (system.hardware.shared.setRing .cpu3 priority ring)) := by
  obtain ⟨ret, ring, message, found, received⟩ := endpointReceive_found priority role session
  refine ⟨ret, ring, message, found, ?_⟩
  rw [linuxReceive, received]
  rfl

/-! ### The data-plane operations -/

/-- An operation that offers one frame to a forward ring. -/
structure SendStep (before after : System) (priority : Priority) (type length : U32) : Prop
    extends DataStep before after where
  lock : after.lock = before.lock
  effect : SendEffect before after priority type length

/-- An operation that tries to take one frame from a reverse ring. -/
structure ReceiveStep (before after : System) (priority : Priority) : Prop
    extends DataStep before after where
  lock : after.lock = before.lock
  effect : ReceiveEffect before after priority

/-- Nothing was sent. -/
theorem SendStep.refl (system : System) (priority : Priority) (type length : U32) :
    SendStep system system priority type length where
  toDataStep := .refl system
  lock := rfl
  effect := .nothing rfl

/-- Nothing was received. -/
theorem ReceiveStep.refl (system : System) (priority : Priority) :
    ReceiveStep system system priority where
  toDataStep := .refl system
  lock := rfl
  effect := .nothing rfl

/-- A doorbell after the frame. -/
theorem SendStep.doorbell {first second third : System} {priority : Priority} {type length : U32}
    (sent : SendStep first second priority type length) (rung : DoorbellStep second third) :
    SendStep first third priority type length where
  toDataStep := sent.toDataStep.trans rung.toDataStep
  lock := rung.lock.trans sent.lock
  effect := by
    cases sent.effect with
    | nothing same => exact .nothing (rung.shared.trans same)
    | pushed slot typed sized numbered committed space published =>
        exact .pushed slot typed sized numbered committed space (rung.shared.trans published)

/-- A send on one ring. -/
theorem linuxSend_step (system : System) (priority : Priority) (type : U32)
    (payload : Option (Nat → U8)) (length : U32) (bound : system.driver.endpoint.BoundBy .linux) :
    SendStep system (linuxSend system priority type payload length).2 priority type length :=
  have sent := linuxSend_effect system priority type payload length bound
  { toDataStep := sent.data, lock := sent.lock, effect := sent.effect }

/-- A receive on one ring. -/
theorem linuxReceive_step (system : System) (priority : Priority)
    (bound : system.driver.endpoint.BoundBy .linux) :
    ReceiveStep system (linuxReceive system priority).2 priority :=
  have received := linuxReceive_effect system priority bound
  { toDataStep := received.data, lock := received.lock, effect := received.effect }

/-- The test push appends one committed slot or leaves the ring alone. -/
theorem linuxRingPush_cases (ring : Ring) (message : Message) (corrupt : Bool) :
    (linuxRingPush ring message corrupt).2 = ring ∨
      ∃ slot : Message, slot.type = message.type ∧ slot.length = message.length ∧
        slot.sequence = message.sequence ∧ slot.commit = slot.sequence ∧
        ringNext ring.producer ≠ ring.consumer ∧
        (linuxRingPush ring message corrupt).2 = ring.publish slot := by
  simp only [linuxRingPush]
  split
  · exact .inl rfl
  · split
    · exact .inl rfl
    · rename_i space
      refine .inr ⟨_, ?_, ?_, ?_, ?_, space, rfl⟩ <;> cases corrupt <;> rfl

/-- A push of a PING whose CRC may be damaged. -/
theorem testEnqueueLocked_step (system : System) (priority : Priority) (value : U32)
    (corrupt : Bool) :
    SendStep system (testEnqueueLocked system priority value corrupt).2 priority
      MessageType.ping 4 := by
  simp only [testEnqueueLocked]
  split
  · exact .refl system priority _ _
  · refine ⟨(DataStep.refl system).store rfl rfl ?_ ?_ ?_ ?_, rfl, ?_⟩
    · simp
    · simp
    · simp
    · simp
    · rcases linuxRingPush_cases (system.hardware.shared.linuxToCpu3 priority)
          (sendMessage system.driver.endpoint.generation MessageType.ping
            (endpointNextSequence system.driver.endpoint) 4
            (some (storePayloadU32 (fun _ => 0) 0 value))) corrupt with
        same | ⟨slot, typed, sized, numbered, committed, space, published⟩
      · refine .nothing ?_
        simp only [System.store, same]
        exact Shared.setRing_ring system.hardware.shared .linux priority
      · refine .pushed slot typed sized numbered committed space ?_
        simp only [System.store, published]

/-- The priority that the numbers of a test attribute name; a text that is refused names none. -/
def namedPriority : Option (U32 × U32) → Priority
  | none => 0
  | some (number, _) => if inRange :
      number.toNat < priorityCount then ⟨number.toNat, inRange⟩ else 0

/-- The PING attributes send at the priority that the text names. -/
theorem sendPing_step (system : System) (numbers : Option (U32 × U32)) (count : Nat)
    (corrupt : Bool) (bound : system.driver.endpoint.BoundBy .linux) :
    SendStep system (sendPing system numbers count corrupt).2 (namedPriority numbers)
      MessageType.ping 4 := by
  cases numbers with
  | none => exact .refl system 0 _ _
  | some pair =>
      simp only [sendPing, namedPriority]
      split
      · rename_i inRange
        split
        · exact .refl system _ _ _
        · split
          · have queued := testEnqueueLocked_step system ⟨pair.1.toNat, inRange⟩ pair.2 true
            split
            · exact queued
            · exact queued.doorbell (notifyLocked_step _ _)
          · exact linuxSend_step system _ _ _ _ bound
      · exact .refl system 0 _ _

/-- `mailmsg_queue_push` pushes a PING. -/
theorem queuePushStore_step (system : System) (numbers : Option (U32 × U32)) (count : Nat) :
    SendStep system (queuePushStore system numbers count).2 (namedPriority numbers)
      MessageType.ping 4 := by
  cases numbers with
  | none => exact .refl system 0 _ _
  | some pair =>
      simp only [queuePushStore, namedPriority]
      split
      · rename_i inRange
        split
        · exact .refl system _ _ _
        · exact testEnqueueLocked_step system ⟨pair.1.toNat, inRange⟩ pair.2 false
      · exact .refl system 0 _ _

/-- `write` sends at the priority of its file. -/
theorem userWrite_step (system : System) (file : UserFile) (count : Nat) (copied : Bool)
    (frame : UserFrame) (bound : system.driver.endpoint.BoundBy .linux) :
    SendStep system (userWrite system file count copied frame).2 file.priority frame.type
      frame.length := by
  simp only [userWrite]
  split
  · exact .refl system _ _ _
  · split
    · exact .refl system _ _ _
    · split
      · exact .refl system _ _ _
      · split
        · exact .refl system _ _ _
        · exact linuxSend_step system _ _ _ _ bound

/-- Whatever a read iteration returns, its effect is that of the gated receive. -/
theorem userRead_system (system : System) (file : UserFile) (copied : Bool) :
    (userRead system file copied).2 =
      if dataGateLocked system.driver ≠ 0 then system
        else (linuxReceive system file.priority).2 := by
  simp only [userRead]
  generalize (if dataGateLocked system.driver ≠ 0 then system
    else (linuxReceive system file.priority).2) = after
  generalize (if dataGateLocked system.driver ≠ 0 then dataGateLocked system.driver
    else (linuxReceive system file.priority).1.ret.code) = ret
  repeat' split
  all_goals rfl

/-- `read` receives at the priority of its file. -/
theorem userRead_step (system : System) (file : UserFile) (copied : Bool)
    (bound : system.driver.endpoint.BoundBy .linux) :
    ReceiveStep system (userRead system file copied).2 file.priority := by
  rw [userRead_system]
  split
  · exact .refl system _
  · exact linuxReceive_step system _ bound

/-- `mailmsg_notify_inject` writes what the doorbells answer. -/
theorem notifyInjectStore_step (system : System) (text : InjectText) (count : Nat) :
    DoorbellStep system (notifyInjectStore system text count).2 := by
  cases text with
  | clear =>
      exact .of_eq system.driver.mbox 0 system.driver.mailmsgLastNotifyResult system.hardware.a2b
  | other => exact .refl system
  | numbers priority errno remaining =>
      simp only [notifyInjectStore]
      split
      · exact .refl system
      · split
        · exact .refl system
        · exact ⟨⟨rfl, rfl, rfl, rfl, rfl, rfl, rfl, rfl, rfl, rfl, rfl, fun _ => rfl, rfl, rfl,
            rfl, rfl⟩, rfl, rfl,
            rfl⟩

/-- `doorbell` rings and sends nothing. -/
theorem doorbellStore_step (system : System) (numbers : Option (U32 × U32)) (count : Nat) :
    DoorbellStep system (doorbellStore system numbers count).2 := by
  cases numbers with
  | none => exact .refl system
  | some pair =>
      simp only [doorbellStore]
      split
      · split
        · exact .refl system
        · exact mboxDirectSendLocked_step system _ _ _
      · exact .refl system

/-- The legacy request is refused in every state: it demands UNARMED and then asks the gate, which
is closed there. -/
theorem pingStore_refused (system : System) (value : U32) (count : Nat) :
    (pingStore system value count).2 = system ∧ (pingStore system value count).1 < 0 := by
  by_cases unarmed : system.driver.mailmsgState = .unarmed
  · simp [pingStore, unarmed, dataGateLocked, Errno.nolink]
  · simp [pingStore, unarmed, Errno.opnotsupp]

/-- An iteration of `mailmsg_response` receives from the ring it stands at. -/
theorem responseIterate_step (system : System) (priority : Priority) (lines : List ResponseLine)
    (bound : system.driver.endpoint.BoundBy .linux) :
    DataStep system (responseIterate system priority lines) ∧
      ReceiveEffect system (responseIterate system priority lines) priority := by
  obtain ⟨data, -, -, effect, -⟩ := linuxReceive_effect system priority bound
  have relocked : ∀ lock : LockOwner,
      DataStep system { (linuxReceive system priority).2 with lock := lock } ∧
        ReceiveEffect system { (linuxReceive system priority).2 with lock := lock } priority := by
    intro lock
    refine ⟨data.relock lock, ?_⟩
    cases effect with
    | nothing same => exact .nothing same
    | popped released => exact .popped released
  simp only [responseIterate]
  split
  · exact relocked _
  · split
    · split
      · exact relocked _
      · exact relocked _
    · exact relocked _

end MailMsg
