/-
Module: MailMsg.Amp.RoundTrip
Purpose: A user's record arrives at CPU3 as it was written, a frame of CPU3 arrives at the user as
  it was sent, and neither carries a byte that its sender did not give.
Source: LZAMP/linux/drivers/lzamp_amp_mailmsg.c (r1_amp_mailmsg_user_read,
  r1_amp_mailmsg_user_write), LZAMP/protocol/mailmsg/mailmsg_endpoint.c,
  LZAMP/protocol/mailmsg/mailmsg_user.h
Trusted boundary: none
Main exports: Application.WriteArrives, Application.SendDelivered, Application.takenAt,
  Application.takenAt_head, Application.user_records_round_trip
-/
import MailMsg.Amp.Application
import MailMsg.Driver.Exclusive

namespace MailMsg.Application

/-! ### Records and frames -/

/-- A message of CPU3 is the record that a user wrote: its type, its length, its payload below the
length, and zeros behind. -/
structure WriteArrives (record : UserFrame) (message : Message) : Prop where
  type : message.type = record.type
  length : message.length = record.length
  payload : ∀ index, message.payload index =
    if index.val < record.length.toNat then record.payloadAt index.val else 0#8

/-- A record that a read hands out is the frame that CPU3 sent: its priority, type, length and
sequence, its payload below the length, and zeros in the rest of the 32 bytes. -/
structure SendDelivered (priority : Priority) (sent : Sent) (record : UserFrame) : Prop where
  priority : record.priority = BitVec.ofNat 32 priority.val
  type : record.type = sent.type
  length : record.length = sent.length
  sequence : record.sequence = sent.sequence
  payload : ∀ index, record.payload index =
    if index.val < sent.length.toNat then (sent.payload.getD fun _ => 0#8) index.val else 0#8

theorem recordFrame_arrives (generation sequence : U32) (record : UserFrame) :
    WriteArrives record (recordFrame generation sequence record).committed where
  type := rfl
  length := rfl
  payload := fun _ => rfl

theorem sentFrame_delivered (generation : U32) (priority : Priority) {sent : Sent}
    (fits : sent.length.toNat ≤ payloadBytes) :
    SendDelivered priority sent (userFrameOf priority (sentFrame generation sent).committed) where
  priority := rfl
  type := rfl
  length := rfl
  sequence := rfl
  payload := by
    intro index
    change (if index.val < sent.length.toNat then
      (sentFrame generation sent).committed.payloadAt index.val else 0) = _
    by_cases below : index.val < sent.length.toNat
    · have inside : index.val < payloadBytes := by omega
      rw [if_pos below, if_pos below, Message.payloadAt, dif_pos inside]
      change (if index.val < sent.length.toNat then
        (sent.payload.map fun bytes => bytes index.val).getD 0 else 0) = _
      rw [if_pos below]
      cases sent.payload with
      | none => rfl
      | some bytes => rfl
    · rw [if_neg below, if_neg below]
      rfl

/-! ### The step that takes a frame

A frame leaves a forward ring in one kind of step only, the receive of the worker, and a reverse
ring only in a receive of Linux.
-/

theorem reachable_next {state next : State} {label : Label} (reached : machine.Reachable state)
    (stepped : step state label = some next) : machine.Reachable next := .step reached stepped

/-- The step of a run that takes the frame behind `ahead` others out of the ring whose consumer
index is `consumer`, with the state that it is taken from.  A launch before that clears the ring. -/
def takenAt (consumer : State → U32) : State → Nat → List Label → Option (State × Label)
  | _, _, [] => none
  | state, ahead, label :: labels =>
      match step state label with
      | none => none
      | some next =>
          if next.system.driver.sessionGeneration ≠ state.system.driver.sessionGeneration then none
          else if consumer next = consumer state then takenAt consumer next ahead labels
          else
            match ahead with
            | 0 => some (state, label)
            | ahead + 1 => takenAt consumer next ahead labels

/-- The consumer index that CPU3 moves. -/
def forwardConsumer (priority : Priority) (state : State) : U32 :=
  (state.system.hardware.shared.linuxToCpu3 priority).consumer

/-- The consumer index that Linux moves. -/
def reverseConsumer (priority : Priority) (state : State) : U32 :=
  (state.system.hardware.shared.cpu3ToLinux priority).consumer

/-- `queue` follows the ring whose consumer index is `consumer`: between two launches a step appends
to it, and drops its head when it moves the index. -/
def Follows {Origin : Type} (consumer : State → U32) (queue : State → List Origin) : Prop :=
  ∀ {state next : State} {label : Label}, machine.Reachable state → step state label = some next →
    next.system.driver.sessionGeneration = state.system.driver.sessionGeneration →
    consumer next = consumer state ∧ queue state <+: queue next ∨
      consumer next ≠ consumer state ∧ (queue state).tail <+: queue next

/-- The first step of a run launches nothing.  It takes none of the frames, one of those ahead, or
the frame itself. -/
theorem takenAt_cons {consumer : State → U32} {state last : State}
    {first label : Label} {ahead : Nat}
    {labels : List Label} (taken : takenAt consumer state ahead (first :: labels) =
      some (last, label)) :
    ∃ next, step state first = some next ∧
      next.system.driver.sessionGeneration = state.system.driver.sessionGeneration ∧
      (consumer next = consumer state ∧ takenAt consumer next ahead labels = some (last, label) ∨
        consumer next ≠ consumer state ∧
          (ahead = 0 ∧ state = last ∧ first = label ∨
            ∃ fewer, ahead = fewer + 1 ∧ takenAt consumer next fewer labels =
              some (last, label))) := by
  simp only [takenAt] at taken
  split at taken
  · cases taken
  · rename_i next stepped
    split at taken
    · cases taken
    · rename_i kept
      refine ⟨next, stepped, not_not.mp kept, ?_⟩
      split at taken
      · rename_i still
        exact .inl ⟨still, taken⟩
      · rename_i moved
        refine .inr ⟨moved, ?_⟩
        cases ahead with
        | zero =>
            cases taken
            exact .inl ⟨rfl, rfl, rfl⟩
        | succ fewer => exact .inr ⟨fewer, rfl, taken⟩

/-- The step that takes a frame moves the consumer index, in a reachable state of the same
session. -/
theorem takenAt_step {consumer : State → U32} {state last : State} {label : Label} {ahead : Nat}
    {labels : List Label} (reached : machine.Reachable state)
    (taken : takenAt consumer state ahead labels = some (last, label)) :
    machine.Reachable last ∧
      last.system.driver.sessionGeneration = state.system.driver.sessionGeneration ∧
      ∃ next, step last label = some next ∧
        next.system.driver.sessionGeneration = last.system.driver.sessionGeneration ∧
        consumer next ≠ consumer last := by
  induction labels generalizing state ahead with
  | nil => cases taken
  | cons first labels inductionHypothesis =>
      obtain ⟨next, stepped, same, ⟨-, later⟩ | ⟨moved, ⟨-, rfl, rfl⟩ | ⟨fewer, -, later⟩⟩⟩ :=
        takenAt_cons taken
      · obtain ⟨final, generation, released⟩ :=
          inductionHypothesis (reachable_next reached stepped) later
        exact ⟨final, generation.trans same, released⟩
      · exact ⟨reached, rfl, next, stepped, same, moved⟩
      · obtain ⟨final, generation, released⟩ :=
          inductionHypothesis (reachable_next reached stepped) later
        exact ⟨final, generation.trans same, released⟩

/-- The step that takes a frame takes what was queued there: every frame before it is gone. -/
theorem takenAt_head {Origin : Type} {consumer : State → U32} {queue : State → List Origin}
    (follows : Follows consumer queue) {state last : State} {label : Label} {earlier : List Origin}
    {origin : Origin} {labels : List Label} (reached : machine.Reachable state)
    (listed : earlier ++ [origin] <+: queue state)
    (taken : takenAt consumer state earlier.length labels = some (last, label)) :
    (queue last).head? = some origin := by
  induction labels generalizing state earlier with
  | nil => cases taken
  | cons first labels inductionHypothesis =>
      obtain ⟨next, stepped, same, rest⟩ := takenAt_cons taken
      have reached' := reachable_next reached stepped
      rcases follows reached stepped same with ⟨still, grown⟩ | ⟨moved, grown⟩
      · obtain ⟨-, later⟩ := rest.resolve_right fun other => other.1 still
        exact inductionHypothesis reached' (listed.trans grown) later
      · obtain ⟨-, rest⟩ := rest.resolve_left fun other => moved other.1
        obtain ⟨more, split⟩ := listed
        rcases rest with ⟨none, rfl, -⟩ | ⟨fewer, count, later⟩
        · rw [← split, List.length_eq_zero_iff.mp none]
          rfl
        · cases earlier with
          | nil => cases count
          | cons gone earlier =>
              obtain rfl : earlier.length = fewer := Nat.succ.inj count
              have shorter : earlier ++ [origin] <+: (queue state).tail := by
                rw [← split]
                exact ⟨more, rfl⟩
              exact inductionHypothesis reached' (shorter.trans grown) later

/-- Only a receive of CPU3 takes a frame out of a forward ring. -/
theorem step_outgoing {state next : State} {label : Label} (reached : machine.Reachable state)
    (stepped : step state label = some next)
    (same : next.system.driver.sessionGeneration = state.system.driver.sessionGeneration)
    (priority : Priority) :
    forwardConsumer priority next = forwardConsumer priority state ∧
        state.outgoing priority <+: next.outgoing priority ∨
      label = .receive priority ∧ forwardConsumer priority next ≠ forwardConsumer priority state ∧
        next.outgoing priority = (state.outgoing priority).tail := by
  cases label with
  | linux label =>
      simp only [step] at stepped
      split at stepped
      · rename_i admitted
        obtain ⟨system, moved, rfl⟩ := Option.map_eq_some_iff.mp stepped
        have kept : ¬ system.driver.sessionGeneration ≠ state.system.driver.sessionGeneration :=
          not_not_intro same
        simp only [forwardConsumer, State.linux, outgoingAfter, if_neg kept]
        rcases linux_forward (reachable_session reached) admitted moved same priority with
          ring | ⟨slot, -, ring, -⟩
        · rw [ring, if_pos rfl]
          exact .inl ⟨rfl, List.prefix_rfl⟩
        · rw [ring]
          refine .inl ⟨rfl, ?_⟩
          split
          · exact List.prefix_rfl
          · exact List.prefix_append _ _
      · cases stepped
  | bind =>
      cases stepped
      exact .inl ⟨rfl, List.prefix_rfl⟩
  | stage target slot =>
      cases stepped
      exact .inl ⟨rfl, List.prefix_rfl⟩
  | send target type payload length =>
      cases stepped
      left
      cases send_taken state (reachable_side reached) target type payload length with
      | refused binding system outgoing incoming =>
          rw [forwardConsumer, system, outgoing]
          exact ⟨rfl, List.prefix_rfl⟩
      | queued binding session sent numbered fits space b2a rung system arguments
          outgoing incoming =>
          rw [forwardConsumer, system, outgoing]
          exact ⟨rfl, List.prefix_rfl⟩
  | receive target =>
      cases stepped
      cases receive_taken state (reachable_side reached) target with
      | refused unchanged =>
          rw [unchanged]
          exact .inl ⟨rfl, List.prefix_rfl⟩
      | popped binding system outgoing incoming =>
          simp only [forwardConsumer, system, outgoing]
          by_cases here : priority = target
          · subst here
            simp only [Shared.setRing, Function.update_self]
            split
            · rename_i still
              exact .inl ⟨still, List.prefix_rfl⟩
            · rename_i moved
              rw [Function.update_self]
              exact .inr ⟨trivial, moved, rfl⟩
          · simp only [Shared.setRing, Function.update_of_ne here]
            left
            refine ⟨trivial, ?_⟩
            split
            · exact List.prefix_rfl
            · rw [Function.update_of_ne here]

/-- The origins of a forward ring follow it. -/
theorem outgoing_follows (priority : Priority) :
    Follows (forwardConsumer priority) (fun state => state.outgoing priority) := by
  intro state next label reached stepped same
  rcases step_outgoing reached stepped same priority with kept | ⟨-, moved, rest⟩
  · exact .inl kept
  · right
    refine ⟨moved, ?_⟩
    simp only [rest]
    exact List.prefix_rfl

/-- Only a step of the driver takes a frame out of a reverse ring. -/
theorem step_incoming {state next : State} {label : Label} (reached : machine.Reachable state)
    (stepped : step state label = some next)
    (same : next.system.driver.sessionGeneration = state.system.driver.sessionGeneration)
    (priority : Priority) :
    reverseConsumer priority next = reverseConsumer priority state ∧
        state.incoming priority <+: next.incoming priority ∨
      (∃ driver, label = .linux driver ∧ driver.isPeer = false) ∧
        reverseConsumer priority next ≠ reverseConsumer priority state ∧
        next.incoming priority = (state.incoming priority).tail := by
  cases label with
  | linux label =>
      simp only [step] at stepped
      split at stepped
      · obtain ⟨system, moved, rfl⟩ := Option.map_eq_some_iff.mp stepped
        have kept : ¬ system.driver.sessionGeneration ≠ state.system.driver.sessionGeneration :=
          not_not_intro same
        simp only [reverseConsumer, State.linux, incomingAfter, if_neg kept]
        split
        · rename_i still
          exact .inl ⟨still, List.prefix_rfl⟩
        · rename_i released
          refine .inr ⟨⟨label, rfl, ?_⟩, released, rfl⟩
          rw [Bool.eq_false_iff]
          intro isPeer
          cases label with
          | peer write =>
              cases moved
              exact released (peerWrite_consumer write state.system.hardware priority)
          | _ => cases isPeer
      · cases stepped
  | bind =>
      cases stepped
      exact .inl ⟨rfl, List.prefix_rfl⟩
  | stage target slot =>
      cases stepped
      refine .inl ⟨?_, List.prefix_rfl⟩
      by_cases here : priority = target
      · subst here
        simp [reverseConsumer, State.stage, Shared.updateRing, Shared.setRing, Shared.ring]
      · simp [reverseConsumer, State.stage, Shared.updateRing, Shared.setRing,
          Function.update_of_ne here]
  | send target type payload length =>
      cases stepped
      left
      cases send_taken state (reachable_side reached) target type payload length with
      | refused binding system outgoing incoming =>
          rw [reverseConsumer, system, incoming]
          exact ⟨rfl, List.prefix_rfl⟩
      | queued binding session sent numbered fits space b2a rung system arguments
          outgoing incoming =>
          rw [reverseConsumer, system, incoming]
          by_cases here : priority = target
          · subst here
            simp only [Shared.setRing, Function.update_self]
            exact ⟨rfl, List.prefix_append _ _⟩
          · simp only [Shared.setRing, Function.update_of_ne here]
            exact ⟨rfl, List.prefix_rfl⟩
  | receive target =>
      cases stepped
      left
      cases receive_taken state (reachable_side reached) target with
      | refused unchanged =>
          rw [unchanged]
          exact ⟨rfl, List.prefix_rfl⟩
      | popped binding system outgoing incoming =>
          rw [reverseConsumer, system, incoming]
          exact ⟨rfl, List.prefix_rfl⟩

/-- The sends behind a reverse ring follow it. -/
theorem incoming_follows (priority : Priority) :
    Follows (reverseConsumer priority) (fun state => state.incoming priority) := by
  intro state next label reached stepped same
  rcases step_incoming reached stepped same priority with kept | ⟨-, moved, rest⟩
  · exact .inl kept
  · right
    refine ⟨moved, ?_⟩
    simp only [rest]
    exact List.prefix_rfl

/-! ### The two ends -/

/-- A receive that takes a user's record returns it. -/
theorem receive_arrives {state : State} (reached : machine.Reachable state)
    (launched : state.system.driver.sessionGeneration ≠ 0#32) {priority : Priority}
    {record : UserFrame} (first : (state.outgoing priority).head? = some (.user record))
    (moved : forwardConsumer priority (state.receive priority).2 ≠ forwardConsumer priority state) :
    (state.receive priority).1.ret = .ok ∧
      ∃ message, (state.receive priority).1.message = some message ∧
        WriteArrives record message := by
  have spec := endpointReceive_spec state.cpu3 state.system.hardware.shared priority
  have side := reachable_side reached
  have carries := (reachable_tracked reached).forward launched priority
  cases spec with
  | refused ret notStale sameEndpoint sameShared nothing cause =>
      -- A receive that is refused takes nothing.
      refine absurd ?_ moved
      simp only [forwardConsumer, State.receive, sameShared]
  | popped role hasRole session ret released message counted =>
      obtain rfl := side role hasRole
      obtain ⟨ret, ring, message, found, received⟩ := endpointReceive_found priority hasRole session
      obtain ⟨-, nonzero, -, -, header⟩ := (endpointSessionValid_ok_iff _ _).mp session
      obtain ⟨something, fits, sequence, numbered, head⟩ := carries.head first
      rw [header] at head
      obtain ⟨rfl, -, rfl⟩ := found.of_committed something head
        (sendMessage_wellFormed nonzero numbered fits) rfl
      simp only [State.receive, received]
      exact ⟨trivial, _, rfl, recordFrame_arrives _ _ _⟩

/-- A user's read takes a frame in ACTIVE, and from its own ring. -/
theorem read_took {system next : System} (invariant : SessionInvariant system) {id : Nat}
    {copied : Bool}
    {priority : Priority} (stepped : driverStep system (.read id copied) = some next)
    (moved : (next.hardware.shared.cpu3ToLinux priority).consumer ≠
      (system.hardware.shared.cpu3ToLinux priority).consumer)
    {file : UserFile} (opened : system.file? id = some file) :
    system.driver.mailmsgState = .active ∧ file.priority = priority := by
  obtain rfl := driverStep_read opened stepped
  have active : system.driver.mailmsgState = .active := by
    by_contra closed
    rw [userRead_gated closed] at moved
    exact moved rfl
  refine ⟨active, ?_⟩
  by_contra elsewhere
  have session := invariant.active_session active
  obtain ⟨ret, ring, message, -, -, shared⟩ := userRead_found active session file copied
  rw [shared] at moved
  simp only [Shared.setRing, Function.update_of_ne (Ne.symm elsewhere)] at moved
  exact moved rfl

/-- A user's read in ACTIVE hands out the frame of CPU3 at the head of its ring. -/
theorem read_delivers {state : State} (reached : machine.Reachable state)
    (active : state.system.driver.mailmsgState = .active) (file : UserFile)
    (copied : Bool) {sent : Sent} (first : (state.incoming file.priority).head? = some sent) :
    ∃ record, SendDelivered file.priority sent record ∧
      (userRead state.system file copied).1 =
        if copied then .delivered record else .returned (-Errno.fault) := by
  have session := (reachable_session reached).active_session active
  obtain ⟨ret, ring, message, found, answer, -⟩ := userRead_found active session file copied
  have carries := (reachable_tracked reached).reverse session.nonzero file.priority
  obtain ⟨something, fits, numbered, head⟩ := carries.head first
  rw [session.header] at head
  obtain ⟨rfl, -, rfl⟩ := found.of_committed something head
    (sendMessage_wellFormed session.nonzero numbered fits) rfl
  refine ⟨_, sentFrame_delivered state.system.driver.sessionGeneration file.priority fits, ?_⟩
  rw [answer]
  rfl

/-- A write that is accepted puts its record behind the frames that wait in its ring. -/
theorem write_queued {state next : State} (reached : machine.Reachable state) {id count : Nat}
    {copied : Bool} {record : UserFrame} {file : UserFile}
    (opened : state.system.file? id = some file)
    (stepped : step state (.linux (.write id count copied record)) = some next)
    (accepted : (userWrite state.system file count copied record).1 = userFrameBytes) :
    next.system.driver.sessionGeneration ≠ 0#32 ∧
      (state.outgoing file.priority).length =
        (state.system.hardware.shared.linuxToCpu3 file.priority).contents.length ∧
      next.outgoing file.priority = state.outgoing file.priority ++ [.user record] := by
  have session := reachable_session reached
  simp only [step, admits, if_true] at stepped
  obtain ⟨system, moved, rfl⟩ := Option.map_eq_some_iff.mp stepped
  cases userWrite_effect state.system file count copied record session.bound with
  | refused value same => exact absurd accepted value
  | accepted value complete readable own fits active valid space published =>
      have launched := (session.active_session active).nonzero
      have same : system.driver.sessionGeneration = state.system.driver.sessionGeneration := by
        rcases SessionInvariant.generation_cases
            (driverStep_lifecycle session.bound session.control moved) with same | ⟨cpuOn, launch⟩
        · exact same
        · have unarmed := session.launched_unarmed launch
          rw [active] at unarmed
          cases unarmed
      have kept : ¬ system.driver.sessionGeneration ≠ state.system.driver.sessionGeneration :=
        not_not_intro same
      have carries := (reachable_tracked reached).forward launched file.priority
      obtain rfl := driverStep_write opened moved
      have grown : ((userWrite state.system file count copied
          record).2.hardware.shared.linuxToCpu3 file.priority).producer ≠
          (state.system.hardware.shared.linuxToCpu3 file.priority).producer := by
        rw [published]
        simp only [Shared.setRing, Function.update_self]
        exact ringNext_ne _
      refine ⟨?_, carries.carried.length_eq, ?_⟩
      · intro zero
        exact launched (same.symm.trans zero)
      · simp only [State.linux, outgoingAfter, if_neg kept, if_neg grown, origin]

/-! ### The round trip -/

/-- A record that a write accepts in `state` arrives at CPU3: in every run, the step that takes the
frame behind those that waited before it is a receive of CPU3 that returns the record. -/
def WritesArrive (state : State) : Prop :=
  ∀ (id count : Nat) (copied : Bool) (record : UserFrame) (file : UserFile) (next : State),
    state.system.file? id = some file →
    step state (.linux (.write id count copied record)) = some next →
    (userWrite state.system file count copied record).1 = userFrameBytes →
    ∀ (labels : List Label) (last : State) (label : Label),
      takenAt (forwardConsumer file.priority) next
          (state.system.hardware.shared.linuxToCpu3 file.priority).contents.length labels =
        some (last, label) →
      label = .receive file.priority ∧ (last.receive file.priority).1.ret = .ok ∧
        ∃ message, (last.receive file.priority).1.message = some message ∧
          WriteArrives record message

/-- A frame that CPU3 sends in `state` is delivered: in every run, when a user's read takes the
frame behind those that waited before it, it hands the frame out, unless the user's buffer cannot be
written. -/
def SendsDelivered (state : State) : Prop :=
  ∀ (priority : Priority) (type : U32) (payload : Option (Nat → U8)) (length : U32),
    (state.send priority type payload length).1.ret = .ok →
    ∀ (labels : List Label) (last : State) (id : Nat) (copied : Bool) (file : UserFile),
      takenAt (reverseConsumer priority) (state.send priority type payload length).2
          (state.system.hardware.shared.cpu3ToLinux priority).contents.length labels =
        some (last, .linux (.read id copied)) →
      last.system.file? id = some file →
      ∃ record,
        SendDelivered priority
          ⟨type, payload, length, (state.send priority type payload length).1.result.sequence⟩ record ∧
        (userRead last.system file copied).1 =
          if copied then .delivered record else .returned (-Errno.fault)

theorem writes_arrive {state : State} (reached : machine.Reachable state) : WritesArrive state := by
  intro id count copied record file next opened stepped accepted labels last label taken
  have reached' := reachable_next reached stepped
  obtain ⟨launched, waiting, queued⟩ := write_queued reached opened stepped accepted
  rw [← waiting] at taken
  have listed : state.outgoing file.priority ++ [.user record] <+: next.outgoing file.priority := by
    rw [queued]
  have first := takenAt_head (outgoing_follows file.priority) reached' listed taken
  obtain ⟨final, generation, after, moved, same, released⟩ := takenAt_step reached' taken
  rcases step_outgoing final moved same file.priority with ⟨kept, -⟩ | ⟨rfl, -, -⟩
  · exact absurd kept released
  · cases moved
    refine ⟨rfl, receive_arrives final ?_ first released⟩
    rw [generation]
    exact launched

theorem sends_delivered {state : State} (reached : machine.Reachable state) :
    SendsDelivered state := by
  intro priority type payload length ok labels last id copied file taken opened
  have stepped : step state (.send priority type payload length) =
      some (state.send priority type payload length).2 := rfl
  have reached' := reachable_next reached stepped
  obtain ⟨final, generation, after, moved, same, released⟩ := takenAt_step reached' taken
  simp only [step, admits, if_true] at moved
  obtain ⟨system, read, rfl⟩ := Option.map_eq_some_iff.mp moved
  have session := reachable_session final
  obtain ⟨active, rfl⟩ := read_took session read released opened
  have launched : state.system.driver.sessionGeneration ≠ 0#32 := by
    have nonzero := (session.active_session active).nonzero
    rw [generation] at nonzero
    exact nonzero
  have carries := (reachable_tracked reached).reverse launched file.priority
  rw [← carries.carried.length_eq] at taken
  have queued : (state.send file.priority type payload length).2.incoming file.priority =
      state.incoming file.priority ++ [⟨type, payload, length,
        (state.send file.priority type payload length).1.result.sequence⟩] := by
    simp only [State.send] at ok ⊢
    simp only [State.afterSend, if_pos ok, Function.update_self]
  have listed : state.incoming file.priority ++ [⟨type, payload, length,
      (state.send file.priority type payload length).1.result.sequence⟩] <+:
        (state.send file.priority type payload length).2.incoming file.priority := by
    rw [queued]
  exact read_delivers final active file copied
    (takenAt_head (incoming_follows file.priority) reached' listed taken)

/-- In every run, the record of every write that is accepted arrives at CPU3 as it was written, and
the frame of every send of CPU3 is delivered as it was sent; a write sees neither the sequence of
its record nor the payload behind its length. -/
theorem user_records_round_trip {state : State} (reached : machine.Reachable state) :
    WritesArrive state ∧ SendsDelivered state ∧
      ∀ (system : System) (file : UserFile) (count : Nat) (copied : Bool) (left right : UserFrame),
        SameRecord left right →
          userWrite system file count copied left = userWrite system file count copied right := by
  refine ⟨writes_arrive reached, sends_delivered reached, ?_⟩
  intro system file count copied left right same
  exact userWrite_congr system file count copied same

/-- A session with one reader on p1. -/
def demoOpen : List Label :=
  [.linux (.imageWrite 0 1 (fun _ => 0)), .linux (.start true 5 affinityOff 0), .bind,
    .send .critical MessageType.sessionReady (some (sessionReadyReply 1#32).payload) 8#32,
    .linux .controlEnter, .linux .controlIterate, .linux (.openFile 1 true), .linux (.claim 0)]

/-- A ping of one byte. -/
def demoWritten : UserFrame :=
  ⟨1, MessageType.ping, 7, 1, fun index => if index.val = 0 then 41 else 99⟩

/-- The theorem in a fresh session, where CPU3 receives a record that was written and a read takes a
frame that CPU3 sent. -/
theorem user_records_round_trip_demo :
    ∃ state next, machine.Reachable state ∧
      step state (.linux (.write 0 48 true demoWritten)) = some next ∧
      (takenAt (forwardConsumer 1) next
        (state.system.hardware.shared.linuxToCpu3 1).contents.length [.receive 1]).isSome ∧
      WritesArrive state ∧
      (takenAt (reverseConsumer 1) (state.send 1 MessageType.pong (some fun _ => 41) 1#32).2
        (state.system.hardware.shared.cpu3ToLinux 1).contents.length
          [.linux (.read 0 true)]).isSome ∧
      SendsDelivered state := by
  have checked : (machine.run (.probed demoProbed) demoOpen).any (fun state =>
      ((step state (.linux (.write 0 48 true demoWritten))).any fun next =>
        (takenAt (forwardConsumer 1) next
          (state.system.hardware.shared.linuxToCpu3 1).contents.length [.receive 1]).isSome) &&
      (takenAt (reverseConsumer 1) (state.send 1 MessageType.pong (some fun _ => 41) 1#32).2
        (state.system.hardware.shared.cpu3ToLinux 1).contents.length
          [.linux (.read 0 true)]).isSome) =
          true := by
    decide +kernel
  obtain ⟨state, executed, passed⟩ := Machine.exists_of_run_any checked
  obtain ⟨written, delivered⟩ := Bool.and_eq_true_iff.mp passed
  obtain ⟨next, stepped, received⟩ := (Option.any_eq_true _ _).mp written
  have start : machine.init (.probed demoProbed) := ⟨demoProbed, demoProbed_init, rfl⟩
  have reached : machine.Reachable state := (Machine.Reachable.init start).run executed
  obtain ⟨writes, sends, -⟩ := user_records_round_trip reached
  exact ⟨state, next, reached, stepped, received, writes, delivered, sends⟩

end MailMsg.Application
