/-
Module: MailMsg.Firmware.Doorbell
Purpose: The way of a frame from a Linux send to the CPU3 worker: ring, doorbell, interrupt handler,
  pending mask, semaphore and service.  Which frames can be left behind, and when none is.
Source: LZAMP/firmware/zephyr/app/src/main.c, LZAMP/linux/drivers/lzamp_amp_mailmsg.c
  (mailmsg_notify_locked)
Trusted boundary: none beyond the models of the two sides
Main exports: Covered, Coverage, gateAdmissible, no_frame_stranded
-/
import MailMsg.Firmware.Effects
import MailMsg.Firmware.Link

namespace MailMsg

/-! ### Who still knows about a frame

A queued frame is covered by a doorbell, by the handler that serves it, by the pending mask, by a
send that has still to ring, or by the worker on its way to the ring.
-/

/-- The rest of a round comes back to this priority. -/
def Round.covers (round : Round) (reached : Nat) (priority : Priority) : Prop :=
  round.reschedule priority ∨ (round.pending priority ∧ reached ≤ priority.val)

/-- The worker will look into the ring of this priority, or will not block again. -/
def Worker.covers (worker : Worker) (priority : Priority) : Prop :=
  match worker with
  | .waiting | .woken | .posting => False
  | .entering pending => pending priority
  | .scanning round reached => round.covers reached priority
  | .draining visit =>
      (visit.priority = priority ∧ visit.handled ≤ drainQuota) ∨
        visit.round.covers (visit.priority.val + 1) priority
  | .replying visit _ next | .ringing visit _ next =>
      (visit.priority = priority ∧ visit.handled ≤ drainQuota ∧ next ≠ .leave) ∨
        visit.round.covers (visit.priority.val + 1) priority
  | .checking visit =>
      (visit.priority = priority ∧ visit.handled = drainQuota) ∨
        visit.round.covers (visit.priority.val + 1) priority
  | .reporting round => round.reschedule priority
  | .stopping _ | .quiescing _ | .acknowledging _ _ | .poweringOff _ | .off | .halted => True

/-- The worker will swap the mask without another give, or will give. -/
def Worker.willSwap : Worker → Prop
  | .woken | .posting => True
  | .stopping _ | .quiescing _ | .acknowledging _ _ | .poweringOff _ | .off | .halted => True
  | _ => False

/-- The command that the running handler read. -/
def Isr.command : Isr → Option U32
  | .idle => none
  | .entered _ command _ | .echoed _ command | .cleared _ command => some command

/-- The handler runs for this channel. -/
def Isr.handles (isr : Isr) (channel : Priority) : Prop :=
  match isr with
  | .idle => False
  | .entered other _ _ | .echoed other _ | .cleared other _ => other = channel

/-- Something still leads from this priority's ring to the service. -/
inductive Covered (link : Link) (priority : Priority) : Prop where
  | doorbell (set : link.board.hardware.a2b.status priority)
  | handler (running : link.board.firmware.isr.handles priority)
  | posted (pending : link.board.firmware.pendingPriorities priority)
  | sending (due : link.send.due priority)
  | visited (visits : link.board.firmware.worker.covers priority)

/-- The ring holds committed frames of this generation. -/
def Ring.Current (ring : Ring) (generation : U32) : Prop :=
  ∃ frames, ring.Holds frames ∧ ∀ frame ∈ frames, frame.generation = generation

/-- What holds in every state of the link. -/
structure Coverage (link : Link) : Prop where
  build : link.board.firmware.build.skipPriority = none
  magic : link.board.hardware.shared.magic = protocolMagic
  version : link.board.hardware.shared.version = protocolVersion
  nonzero : link.board.hardware.shared.generation ≠ 0#32
  linux : link.linux.role = some .linux ∧
    link.linux.generation = link.board.hardware.shared.generation
  boundBy : link.board.firmware.endpoint.BoundBy .cpu3
  ready : link.board.firmware.endpointReady → link.board.firmware.endpoint.role = some .cpu3 ∧
    link.board.firmware.endpoint.generation = link.board.hardware.shared.generation
  service : link.board.firmware.worker.inService → link.board.firmware.endpointReady
  rings : ∀ priority, (link.board.hardware.shared.linuxToCpu3 priority).Current
    link.board.hardware.shared.generation
  /-- Every doorbell that is pending or being handled belongs to the protocol. -/
  doorbells : ∀ channel, link.board.hardware.a2b.status channel →
    protocolDoorbell (link.board.hardware.a2b.command channel)
  handler : ∀ command, link.board.firmware.isr.command = some command → protocolDoorbell command
  /-- A posted priority comes with a wake-up. -/
  wake : ∀ priority, link.board.firmware.pendingPriorities priority →
    link.board.firmware.workSem ∨ link.board.firmware.worker.willSwap
  covered : ∀ priority, (link.board.hardware.shared.linuxToCpu3 priority).consumer ≠
    (link.board.hardware.shared.linuxToCpu3 priority).producer → Covered link priority

/-! ### Steps that keep the coverage -/

theorem Covered.transfer {link next : Link} {priority : Priority} (covered : Covered link priority)
    (doorbell : link.board.hardware.a2b.status priority → next.board.hardware.a2b.status priority)
    (handler : link.board.firmware.isr.handles priority → next.board.firmware.isr.handles priority)
    (sending : link.send.due priority → next.send.due priority)
    (kept : link.board.firmware.pendingPriorities priority ∨
        link.board.firmware.worker.covers priority →
      next.board.firmware.pendingPriorities priority ∨
        next.board.firmware.worker.covers priority) : Covered next priority := by
  have still : next.board.firmware.pendingPriorities priority ∨
      next.board.firmware.worker.covers priority → Covered next priority := by
    rintro (pending | visits)
    · exact .posted pending
    · exact .visited visits
  cases covered with
  | doorbell set => exact .doorbell (doorbell set)
  | handler running => exact .handler (handler running)
  | posted pending => exact still (kept (.inl pending))
  | sending due => exact .sending (sending due)
  | visited visits => exact still (kept (.inr visits))

namespace Coverage

variable {link : Link}

/-- The session of the firmware's endpoint, once it is bound. -/
theorem session (coverage : Coverage link) (ready : link.board.firmware.endpointReady) :
    endpointSessionValid link.board.firmware.endpoint link.board.hardware.shared = .ok := by
  obtain ⟨role, generation⟩ := coverage.ready ready
  rw [endpointSessionValid_ok_iff]
  refine ⟨by simp [role], ?_, coverage.magic, coverage.version, generation.symm⟩
  rw [generation]
  exact coverage.nonzero

/-- The firmware moves without a ring call: nothing that was going to be looked at may be
dropped. -/
theorem moved (coverage : Coverage link) (firmware : Firmware)
    (build : firmware.build = link.board.firmware.build)
    (endpoint : firmware.endpoint = link.board.firmware.endpoint)
    (ready : firmware.endpointReady = link.board.firmware.endpointReady)
    (isr : firmware.isr = link.board.firmware.isr)
    (service : firmware.worker.inService → link.board.firmware.endpointReady)
    (wake : ∀ priority, firmware.pendingPriorities priority →
      firmware.workSem ∨ firmware.worker.willSwap)
    (kept : ∀ priority, (link.board.hardware.shared.linuxToCpu3 priority).consumer ≠
        (link.board.hardware.shared.linuxToCpu3 priority).producer →
      link.board.firmware.pendingPriorities priority ∨
        link.board.firmware.worker.covers priority →
      firmware.pendingPriorities priority ∨ firmware.worker.covers priority) :
    Coverage { link with board := { link.board with firmware := firmware } } where
  build := by
    rw [← coverage.build, ← build]
  magic := coverage.magic
  version := coverage.version
  nonzero := coverage.nonzero
  linux := coverage.linux
  boundBy := by
    have same := coverage.boundBy
    rw [← endpoint] at same
    exact same
  ready := by
    have same := coverage.ready
    rw [← endpoint, ← ready] at same
    exact same
  service := by
    rw [← ready] at service
    exact service
  rings := coverage.rings
  doorbells := coverage.doorbells
  handler := by
    have same := coverage.handler
    rw [← isr] at same
    exact same
  wake := wake
  covered := by
    intro priority occupied
    refine (coverage.covered priority occupied).transfer id ?_ id (kept priority occupied)
    intro running
    rw [← isr] at running
    exact running

/-- The worker moves and nothing else. -/
theorem rework (coverage : Coverage link) {worker : Worker}
    (service : worker.inService → link.board.firmware.endpointReady)
    (swap : link.board.firmware.worker.willSwap → worker.willSwap)
    (kept : ∀ priority, (link.board.hardware.shared.linuxToCpu3 priority).consumer ≠
      (link.board.hardware.shared.linuxToCpu3 priority).producer →
      link.board.firmware.worker.covers priority → worker.covers priority) :
    Coverage { link with board := link.board.work worker } := by
  apply coverage.moved { link.board.firmware with worker := worker } rfl rfl rfl rfl service
  · intro priority pending
    exact (coverage.wake priority pending).imp_right swap
  · intro priority occupied
    exact Or.imp_right (kept priority occupied)

/-- Sends of CPU3 do not concern the forward direction. -/
theorem sent (coverage : Coverage link) {board : Board} (frame : SendFrame link.board board) :
    Coverage { link with board := board } := by
  obtain ⟨⟨magic, version, generation, forward, a2b⟩, ⟨role, own⟩, firmware⟩ := frame
  obtain ⟨⟨build, endpoint, endpointReady, committed, published, pending, workSem,
    irqEnabled, isr, worker, main, irq, wakes, drains, messages, emptyWakes, rxErrors, full⟩,
    ⟨shared, doorbells, b2a⟩⟩ := board
  simp only [Firmware.mk.injEq] at firmware
  obtain ⟨rfl, -, rfl, rfl, rfl, rfl, rfl, rfl, rfl, rfl, rfl, -⟩ := firmware
  simp only at magic version generation forward a2b role own
  subst a2b
  refine { coverage with
    magic := ?_
    version := ?_
    nonzero := ?_
    linux := ?_
    boundBy := ?_
    ready := ?_
    rings := ?_
    covered := ?_ }
  · rw [magic]
    exact coverage.magic
  · rw [version]
    exact coverage.version
  · rw [generation]
    exact coverage.nonzero
  · rw [generation]
    exact coverage.linux
  · intro party bound
    exact coverage.boundBy party (role ▸ bound)
  · rw [generation, role, own]
    exact coverage.ready
  · rw [generation, forward]
    exact coverage.rings
  · intro priority occupied
    rw [forward] at occupied
    exact (coverage.covered priority occupied).transfer id id id id

/-! ### The drain loop -/

/-- Where a good frame leads keeps the visit: the loop comes back to the ring, or CPU3 stops. -/
theorem answer_covers (build : Build) {visit : Visit} (within : visit.handled ≤ drainQuota)
    (request : Message) (priority : Priority)
    (visits : visit.priority = priority ∨ visit.round.covers (visit.priority.val + 1) priority) :
    (answer build visit request).covers priority := by
  have back : ∀ next, next ≠ Continuation.leave → ∀ reply,
      (Worker.replying visit reply next).covers priority := by
    intro next notLeave reply
    exact visits.imp_left fun here => ⟨here, within, notLeave⟩
  unfold answer
  split
  · split
    · exact back _ (by simp) _
    · split
      · exact back _ (by simp) _
      · exact back _ (by simp) _
  · split
    · trivial
    · split
      · exact back _ (by simp) _
      · exact back _ (by simp) _

/-- Taking the oldest frame from a forward ring. -/
theorem taken (coverage : Coverage link) {priority : Priority} {frame : Frame} {frames : List Frame}
    {ring : Ring}
    (before : (link.board.hardware.shared.linuxToCpu3 priority).Holds (frame :: frames))
    (current : ∀ other ∈ frame :: frames,
      other.generation = link.board.hardware.shared.generation)
    (after : ring.Holds frames) {endpoint : Endpoint}
    (binding : link.board.firmware.endpoint.SameBinding endpoint) :
    Coverage
      { link with
        board :=
          { firmware := { link.board.firmware with endpoint := endpoint }
            hardware :=
              { link.board.hardware with
                shared := link.board.hardware.shared.setRing .linux priority ring } } } := by
  refine { coverage with
    boundBy := ?_
    ready := ?_
    rings := ?_
    covered := ?_ }
  · intro party bound
    exact coverage.boundBy party (binding.role ▸ bound)
  · intro ready
    obtain ⟨role, generation⟩ := coverage.ready ready
    exact ⟨binding.role.trans role, binding.generation.trans generation⟩
  · intro other
    by_cases same : other = priority
    · subst same
      refine ⟨frames, ?_, fun frame member => current frame (List.mem_cons_of_mem _ member)⟩
      simpa [Shared.setRing] using after
    · simpa [Shared.setRing, Function.update_of_ne same] using coverage.rings other
  · intro other occupied
    refine (coverage.covered other ?_).transfer id id id id
    by_cases same : other = priority
    · subst same
      rw [ne_eq, before.empty_iff]
      simp
    · simpa [Shared.setRing, Function.update_of_ne same] using occupied

/-- One iteration of the drain loop. -/
theorem drained (coverage : Coverage link) {visit : Visit}
    (position : link.board.firmware.worker = .draining visit) :
    Coverage { link with board := drain link.board visit } := by
  have ready : link.board.firmware.endpointReady := coverage.service (by rw [position]; trivial)
  have session := coverage.session ready
  obtain ⟨role, generation⟩ := coverage.ready ready
  obtain ⟨frames, holds, current⟩ := coverage.rings visit.priority
  by_cases quota : visit.handled < drainQuota
  · cases frames with
    | nil =>
        -- The ring is empty, so the loop ends and this visit owes nothing.
        have received := endpointReceive_nil visit.priority role session holds
        have stays : drain link.board visit = link.board.work (.checking visit) := by
          simp [drain, quota, received, Board.received]
        rw [stays]
        apply coverage.rework
        · intro _
          exact ready
        · rw [position]
          exact False.elim
        · intro priority occupied visits
          rw [position] at visits
          rcases visits with ⟨here, -⟩ | later
          · rw [← here] at occupied
            exact absurd (holds.empty_iff.mpr rfl) occupied
          · exact .inr later
    | cons frame frames =>
        obtain ⟨rest, received⟩ := endpointReceive_cons visit.priority role session holds
          ((current frame (by simp)).trans generation.symm)
        have popped := coverage.taken holds current rest
          (Endpoint.sameBinding_updateStats link.board.firmware.endpoint visit.priority
            fun stats => stats.received .ok)
        have serves : drain link.board visit =
            Board.work
              { firmware :=
                  { link.board.firmware with
                    endpoint := link.board.firmware.endpoint.updateStats visit.priority
                      fun stats => stats.received .ok }
                hardware :=
                  { link.board.hardware with
                    shared := link.board.hardware.shared.setRing .linux visit.priority
                      (ringPop (link.board.hardware.shared.linuxToCpu3 visit.priority)).2.1 } }
              (answer link.board.firmware.build visit.next frame.committed) := by
          simp only [drain, if_pos quota, received]
          rfl
        rw [serves]
        apply popped.rework
        · intro _
          exact ready
        · rw [position]
          exact False.elim
        · intro priority _ visits
          apply answer_covers
          · exact quota
          · rw [position] at visits
            exact visits.imp_left And.left
  · have stays : drain link.board visit = link.board.work (.checking visit) := by
      simp [drain, quota]
    rw [stays]
    apply coverage.rework
    · intro _
      exact ready
    · rw [position]
      exact False.elim
    · intro priority _ visits
      rw [position] at visits
      rcases visits with ⟨here, within⟩ | later
      · exact .inl ⟨here, by omega⟩
      · exact .inr later

/-- The worker goes back to the loop after a reply. -/
theorem resume_covers {visit : Visit} {accepted : Bool} {next : Continuation} {priority : Priority}
    (visits : (visit.priority = priority ∧ visit.handled ≤ drainQuota ∧ next ≠ .leave) ∨
      visit.round.covers (visit.priority.val + 1) priority) :
    (next.resume visit accepted).covers priority := by
  cases next with
  | drain => exact visits.imp_left fun here => ⟨here.1, here.2.1⟩
  | leave => exact .inr (visits.resolve_left fun here => here.2.2 rfl)
  | pong request => exact visits.imp_left fun here => ⟨here.1, here.2.1, by simp⟩
  | cpuOff request =>
      cases accepted with
      | true => trivial
      | false => exact visits.imp_left fun here => ⟨here.1, here.2.1⟩

/-- A reply, its doorbell, and the way back to the loop. -/
theorem replied (coverage : Coverage link) {visit : Visit} {reply : Reply} {next : Continuation}
    (position : link.board.firmware.worker = .replying visit reply next) :
    Coverage { link with board := sendReply link.board visit reply next } := by
  have ready : link.board.firmware.endpointReady := coverage.service (by rw [position]; trivial)
  cases sendReply_spec link.board visit reply next coverage.boundBy with
  | refused noted frame hardware cause moved =>
      rw [moved]
      have same : noted.firmware.worker = .replying visit reply next := by
        rw [frame.firmware]
        exact position
      apply (coverage.sent frame).rework
      · intro _
        rw [frame.firmware]
        exact ready
      · rw [same]
        exact False.elim
      · intro priority _ visits
        rw [same] at visits
        exact resume_covers visits
  | queued pushed result frame space valid published moved =>
      rw [moved]
      have same : pushed.firmware.worker = .replying visit reply next := by
        rw [frame.firmware]
        exact position
      apply (coverage.sent frame).rework
      · intro _
        rw [frame.firmware]
        exact ready
      · rw [same]
        exact False.elim
      · intro priority _ visits
        rw [same] at visits
        exact visits

theorem rung (coverage : Coverage link) {visit : Visit} {result : SendResult} {next : Continuation}
    (position : link.board.firmware.worker = .ringing visit result next) :
    Coverage { link with board := ringReply link.board visit result next } := by
  have ready : link.board.firmware.endpointReady := coverage.service (by rw [position]; trivial)
  obtain ⟨board, frame, moved⟩ := ringReply_spec link.board visit result next
  rw [moved]
  have same : board.firmware.worker = .ringing visit result next := by
    rw [frame.firmware]
    exact position
  apply (coverage.sent frame.toSendFrame).rework
  · intro _
    rw [frame.firmware]
    exact ready
  · rw [same]
    exact False.elim
  · intro priority _ visits
    rw [same] at visits
    exact resume_covers visits

/-- A ring that the quota left occupied is rescheduled. -/
theorem checked (coverage : Coverage link) {visit : Visit}
    (position : link.board.firmware.worker = .checking visit) :
    Coverage { link with board := check link.board visit } := by
  have ready : link.board.firmware.endpointReady := coverage.service (by rw [position]; trivial)
  have session := coverage.session ready
  obtain ⟨role, -⟩ := coverage.ready ready
  obtain ⟨frames, holds, -⟩ := coverage.rings visit.priority
  have available := endpointHasReceived_eq_one_iff visit.priority role session holds
  apply coverage.rework
  · intro _
    exact ready
  · rw [position]
    exact False.elim
  · intro priority occupied visits
    rw [position] at visits
    rcases visits with ⟨rfl, quota⟩ | later
    · have more : frames ≠ [] := fun none => occupied (holds.empty_iff.mpr none)
      left
      simp [quota, available.mpr more]
    · rcases later with again | ⟨pending, ahead⟩
      · left
        split
        · simp only [Function.update_apply]
          split
          · rfl
          · exact again
        · exact again
      · right
        refine ⟨?_, ahead⟩
        split
        · exact pending
        · exact pending

end Coverage

/-! ### The gate

The one place where coverage can be lost: the worker takes the mask and finds the gate closed.  The
condition on the gate step excludes a mask with frames behind it.
-/

/-- The service gate does not swallow a wake-up: when the worker finds the gate closed, the rings of
the mask that it swapped out are empty. -/
def gateAdmissible (link : Link) : LinkLabel → Bool
  | .cpu3 .worker =>
      match link.board.firmware.worker with
      | .entering pending =>
          link.board.firmware.serviceOpen ||
            decide (∀ priority, pending priority = true →
              (link.board.hardware.shared.linuxToCpu3 priority).consumer =
                (link.board.hardware.shared.linuxToCpu3 priority).producer)
      | _ => true
  | _ => true

namespace Coverage

variable {link : Link}

/-- The open gate: every priority of the mask is still to be visited. -/
theorem admitted (coverage : Coverage link) {pending : Priority → Bool}
    (position : link.board.firmware.worker = .entering pending)
    (isOpen : link.board.firmware.serviceOpen = true) :
    Coverage { link with board := link.board.work (.scanning (.start pending) 0) } := by
  apply coverage.rework
  · intro _
    simp only [Firmware.serviceOpen, Bool.and_eq_true] at isOpen
    exact isOpen.1
  · rw [position]
    exact False.elim
  · intro priority _ visits
    rw [position] at visits
    exact .inr ⟨visits, Nat.zero_le _⟩

/-- The closed gate forgets the mask, and only the condition says that nothing is lost with it. -/
theorem dismissed (coverage : Coverage link) {pending : Priority → Bool}
    (position : link.board.firmware.worker = .entering pending)
    (gate : gateAdmissible link (.cpu3 .worker))
    (closed : ¬ link.board.firmware.serviceOpen = true) :
    Coverage { link with board := link.board.work (.reporting (.start pending)) } := by
  simp only [gateAdmissible, position, Bool.or_eq_true, decide_eq_true_eq] at gate
  apply coverage.rework
  · exact False.elim
  · rw [position]
    exact False.elim
  · intro priority occupied visits
    rw [position] at visits
    exact absurd (gate.resolve_left closed priority visits) occupied

section Scan

variable {round : Round} {reached : Nat}

/-- A priority outside the mask is passed over. -/
theorem skipped (coverage : Coverage link)
    (position : link.board.firmware.worker = .scanning round reached)
    (inRange : reached < priorityCount) (idle : ¬ round.pending ⟨reached, inRange⟩ ∨
      link.board.firmware.build.skipPriority = some ⟨reached, inRange⟩) :
    Coverage { link with board := link.board.work (.scanning round (reached + 1)) } := by
  rw [coverage.build] at idle
  apply coverage.rework
  · exact fun _ => coverage.service (by rw [position]; trivial)
  · rw [position]
    exact False.elim
  · intro priority _ visits
    rw [position] at visits
    rcases visits with again | ⟨wanted, ahead⟩
    · exact .inl again
    · refine .inr ⟨wanted, ?_⟩
      rcases Nat.lt_or_eq_of_le ahead with later | here
      · exact later
      · -- The priority just passed was not in the mask.
        have same : (⟨reached, inRange⟩ : Priority) = priority := Fin.ext here
        rw [same] at idle
        simp [wanted] at idle

/-- A priority of the mask is visited. -/
theorem visited (coverage : Coverage link)
    (position : link.board.firmware.worker = .scanning round reached)
    (inRange : reached < priorityCount) :
    Coverage { link with board := link.board.work (.draining ⟨round, ⟨reached, inRange⟩, 0⟩) } := by
  apply coverage.rework
  · exact fun _ => coverage.service (by rw [position]; trivial)
  · rw [position]
    exact False.elim
  · intro priority _ visits
    rw [position] at visits
    rcases visits with again | ⟨wanted, ahead⟩
    · exact .inr (.inl again)
    · rcases Nat.lt_or_eq_of_le ahead with later | here
      · exact .inr (.inr ⟨wanted, later⟩)
      · exact .inl ⟨Fin.ext here, Nat.zero_le _⟩

/-- Behind the last priority only the reschedule bits are left. -/
theorem finished (coverage : Coverage link)
    (position : link.board.firmware.worker = .scanning round reached)
    (past : ¬ reached < priorityCount) :
    Coverage { link with board := link.board.work (.reporting round) } := by
  apply coverage.rework
  · exact False.elim
  · rw [position]
    exact False.elim
  · intro priority _ visits
    rw [position] at visits
    rcases visits with again | ⟨-, ahead⟩
    · exact again
    · exact absurd (Nat.lt_of_le_of_lt ahead priority.isLt) past

end Scan

/-- One step of the worker. -/
theorem worked (coverage : Coverage link) (gate : gateAdmissible link (.cpu3 .worker))
    {board : Board}
    (stepped : workerStep link.board = some board) : Coverage { link with board := board } := by
  cases workerStep_turn stepped with
  | woke position =>
      refine coverage.moved _ rfl rfl rfl rfl False.elim (fun _ _ => .inr trivial) ?_
      rw [position]
      exact fun _ _ kept => kept
  | swapped position =>
      -- The mask moves into the worker's hands.
      refine coverage.moved _ rfl rfl rfl rfl False.elim (fun _ pending => by cases pending) ?_
      rw [position]
      exact fun _ _ kept => .inr (kept.resolve_right id)
  | spurious position nothing =>
      refine coverage.moved _ rfl rfl rfl rfl False.elim (fun _ pending => by cases pending) ?_
      rw [position]
      intro priority _ kept
      exact absurd (anyPriority_eq_true (kept.resolve_right id)) nothing
  | admitted position isOpen => exact coverage.admitted position isOpen
  | dismissed position closed => exact coverage.dismissed position gate closed
  | skipped position inRange idle => exact coverage.skipped position inRange idle
  | visited position inRange => exact coverage.visited position inRange
  | finished position past => exact coverage.finished position past
  | drained position => exact coverage.drained position
  | replied position => exact coverage.replied position
  | rung position => exact coverage.rung position
  | checked position => exact coverage.checked position
  | rescheduled position =>
      -- The reschedule bits go back into the mask before the worker blocks.
      refine coverage.moved _ rfl rfl rfl rfl False.elim (fun _ _ => .inr trivial) ?_
      rw [position]
      intro priority _ kept
      left
      simp only [Bool.or_eq_true]
      exact kept
  | returned position settled =>
      have notSwapping : ¬ link.board.firmware.worker.willSwap := by
        rw [position]
        exact id
      refine coverage.moved _ rfl rfl rfl rfl False.elim ?_ ?_
      · intro priority pending
        exact .inl ((coverage.wake priority pending).resolve_right notSwapping)
      · rw [position]
        intro priority _ kept
        rcases kept with pending | again
        · exact .inl pending
        · exact absurd (anyPriority_eq_true again) settled
  | posted position =>
      refine coverage.moved _ rfl rfl rfl rfl False.elim (fun _ _ => .inl rfl) ?_
      rw [position]
      exact fun _ _ kept => kept
  | muted =>
      exact coverage.moved _ rfl rfl rfl rfl False.elim (fun _ _ => .inr trivial)
        fun _ _ _ => .inr trivial
  | observed => exact coverage.rework False.elim (fun _ => trivial) (fun _ _ _ => trivial)
  | acknowledged =>
      refine { coverage with
        service := False.elim
        doorbells := ?_
        wake := fun _ _ => .inr trivial
        covered := fun _ _ => .visited trivial }
      intro channel set
      simp only [Bool.and_eq_true] at set
      exact coverage.doorbells channel set.1

/-- Entering the handler: the doorbell that it read belongs to the protocol. -/
theorem interrupted (coverage : Coverage link) {channel : Priority}
    (set : link.board.hardware.a2b.status channel) (idle : link.board.firmware.isr.isIdle) :
    Coverage
      { link with
        board :=
          { link.board with
            firmware :=
              { link.board.firmware with
                isr := .entered channel (link.board.hardware.a2b.command channel)
                  (link.board.hardware.a2b.data channel) } } } := by
  refine { coverage with
    handler := ?_
    covered := ?_ }
  · intro command read
    cases read
    exact coverage.doorbells channel set
  · intro priority occupied
    refine (coverage.covered priority occupied).transfer id ?_ id id
    intro running
    cases isr : link.board.firmware.isr with
    | idle =>
        rw [isr] at running
        exact False.elim running
    | entered _ _ _ | echoed _ _ | cleared _ _ => simp [isr, Isr.isIdle] at idle

/-- One step of the handler.  Between the clear and the post it is the handler itself that covers
the ring. -/
theorem handled (coverage : Coverage link) {board : Board}
    (stepped : isrStep link.board = some board) : Coverage { link with board := board } := by
  cases isr : link.board.firmware.isr with
  | idle =>
      simp only [isrStep, isr] at stepped
      cases stepped
  | entered channel command data =>
      have belongs : protocolDoorbell command := coverage.handler command (by rw [isr]; rfl)
      simp only [isrStep, isr, belongs, if_true] at stepped
      cases stepped
      refine { coverage with
        handler := ?_
        covered := ?_ }
      · intro other read
        cases read
        exact belongs
      · intro priority occupied
        refine (coverage.covered priority occupied).transfer id ?_ id id
        rw [isr]
        exact id
  | echoed channel command =>
      have belongs : protocolDoorbell command := coverage.handler command (by rw [isr]; rfl)
      simp only [isrStep, isr] at stepped
      cases stepped
      refine { coverage with
        doorbells := ?_
        handler := ?_
        covered := ?_ }
      · intro other set
        simp only [Doorbells.acknowledge, Function.update_apply] at set
        split at set
        · cases set
        · exact coverage.doorbells other set
      · intro other read
        cases read
        exact belongs
      · intro priority occupied
        by_cases here : channel = priority
        · exact .handler here
        · refine (coverage.covered priority occupied).transfer ?_ ?_ id id
          · intro set
            simpa [Doorbells.acknowledge, Function.update_of_ne (Ne.symm here)] using set
          · rw [isr]
            exact id
  | cleared channel command =>
      have belongs : protocolDoorbell command := coverage.handler command (by rw [isr]; rfl)
      have wakes : wakingDoorbell channel command := by
        simp [wakingDoorbell, belongs]
      simp only [isrStep, isr, isrPost, wakes, if_true] at stepped
      cases stepped
      refine { coverage with
        handler := ?_
        wake := fun _ _ => .inl rfl
        covered := ?_ }
      · intro other read
        cases read
      · intro priority occupied
        by_cases here : channel = priority
        · apply Covered.posted
          simp [here]
        · refine (coverage.covered priority occupied).transfer id ?_ id ?_
          · rw [isr]
            intro running
            exact absurd running here
          · intro kept
            simpa [Function.update_of_ne (Ne.symm here)] using kept

/-- One step of the main thread. -/
theorem advanced (coverage : Coverage link) (blocked : link.board.firmware.workerBlocked) :
    Coverage { link with board := mainStep link.board } := by
  have waiting : ¬ link.board.firmware.worker.inService := by
    cases position : link.board.firmware.worker with
    | waiting => exact id
    | _ => simp [Firmware.workerBlocked, position] at blocked
  cases mainStep_spec link.board coverage.boundBy with
  | bind start moved =>
      rw [moved]
      refine { coverage with
        boundBy := ?_
        ready := ?_
        service := fun serving => absurd serving waiting
        covered := fun priority occupied =>
          (coverage.covered priority occupied).transfer id id id id }
      · have side := (mainStep_sameImage coverage.boundBy).side coverage.boundBy
        rw [moved] at side
        exact side
      · intro ready
        obtain ⟨role, generation, -⟩ := endpointBind_ok (of_decide_eq_true ready)
        exact ⟨role, generation⟩
  | flags irqEnabled committed published main moved =>
      rw [moved]
      exact coverage.moved _ rfl rfl rfl rfl coverage.service coverage.wake fun _ _ => id
  | refused noted frame hardware moved =>
      rw [moved]
      exact coverage.sent frame
  | announced start uncommitted unpublished pushed result frame space valid published moved =>
      rw [moved]
      have after := coverage.sent frame
      exact after.moved _ rfl rfl rfl rfl after.service after.wake fun _ _ => id
  | rung rung frame main moved =>
      rw [moved]
      have after := coverage.sent frame.toSendFrame
      exact after.moved _ rfl rfl rfl rfl after.service after.wake fun _ _ => id

/-- One step of CPU3. -/
theorem cpu3 (coverage : Coverage link) {label : FirmwareLabel}
    (gate : gateAdmissible link (.cpu3 label)) {board : Board}
    (stepped : firmwareStep link.board label = some board) :
    Coverage { link with board := board } := by
  cases label with
  | interrupt channel =>
      simp only [firmwareStep] at stepped
      split at stepped
      · rename_i deliverable
        simp only [Board.deliverable, Bool.and_eq_true] at deliverable
        cases stepped
        exact coverage.interrupted deliverable.2 deliverable.1.1
      · cases stepped
  | isr => exact coverage.handled stepped
  | worker =>
      simp only [firmwareStep] at stepped
      split at stepped
      · exact coverage.worked gate stepped
      · cases stepped
  | cpuOff returned =>
      simp only [firmwareStep, cpuOffStep] at stepped
      split at stepped
      · split at stepped
        · cases stepped
          apply coverage.rework
          · cases returned <;> exact False.elim
          · cases returned <;> exact fun _ => trivial
          · cases returned <;> exact fun _ _ _ => trivial
        · cases stepped
      · cases stepped
  | main =>
      simp only [firmwareStep] at stepped
      split at stepped
      · rename_i turn
        cases stepped
        exact coverage.advanced turn.2
      · cases stepped

/-- The session of the Linux endpoint. -/
theorem linuxSession (coverage : Coverage link) :
    endpointSessionValid link.linux link.board.hardware.shared = .ok := by
  obtain ⟨role, generation⟩ := coverage.linux
  rw [endpointSessionValid_ok_iff]
  refine ⟨by simp [role], ?_, coverage.magic, coverage.version, generation.symm⟩
  rw [generation]
  exact coverage.nonzero

/-- A Linux receive takes from a reverse ring. -/
theorem received (coverage : Coverage link) (priority : Priority) (active : Bool) :
    Coverage { (link.receive priority).2 with active := active } := by
  have spec := endpointReceive_spec link.linux link.board.hardware.shared priority
  simp only [Link.receive]
  generalize endpointReceive link.linux link.board.hardware.shared priority = outcome at spec
  cases spec with
  | refused ret notStale sameEndpoint sameShared nothing cause =>
      exact absurd coverage.linuxSession cause
  | popped role bound session ret released message counted =>
      rw [coverage.linux.1] at bound
      cases bound
      rw [released, counted]
      exact { coverage with
        covered := fun other occupied => (coverage.covered other occupied).transfer id id id id }

/-- A Linux push leaves the doorbell to the send that made it. -/
theorem pushed (coverage : Coverage link) (idle : link.send = .idle)
    (priority : Priority) (type : U32) (payload : Option (Nat → U8)) (length : U32) :
    Coverage (link.push priority type payload length) := by
  have spec := endpointEnqueue_spec link.linux link.board.hardware.shared priority type
    payload length
    .pending
  simp only [Link.push]
  generalize endpointEnqueue link.linux link.board.hardware.shared priority type payload length
    .pending = outcome at spec
  cases spec with
  | refused ret notFull sameEndpoint sameShared cause =>
      rw [sameEndpoint, sameShared, if_neg ret, ← idle]
      exact coverage
  | pushed role bound session arguments push =>
      rw [coverage.linux.1] at bound
      cases bound
      cases push with
      | full noSpace ret queueResult sameShared counted =>
          rw [sameShared, counted, ret, if_neg (by simp), ← idle]
          exact { coverage with
            covered := fun other occupied =>
              (coverage.covered other occupied).transfer id id id id }
      | queued space ret sequence pushed published sameRole sameGeneration drawn =>
          rw [published, if_pos ret]
          refine { coverage with
            linux := ?_
            rings := ?_
            covered := ?_ }
          · exact ⟨sameRole.trans coverage.linux.1, sameGeneration.trans coverage.linux.2⟩
          · intro other
            by_cases same : other = priority
            · subst same
              obtain ⟨frames, holds, current⟩ := coverage.rings other
              refine ⟨_, by simpa [Shared.setRing, Shared.ring] using holds.push pushed, ?_⟩
              intro frame member
              rcases List.mem_append.mp member with old | new
              · exact current frame old
              · rw [List.mem_singleton.mp new]
                exact coverage.linux.2
            · simpa [Shared.setRing, Function.update_of_ne same] using coverage.rings other
          · intro other occupied
            by_cases same : priority = other
            · apply Covered.sending
              simp [LinuxSend.due, same]
            · refine (coverage.covered other ?_).transfer id id ?_ id
              · simpa [Shared.setRing, Function.update_of_ne (Ne.symm same)] using occupied
              · rw [idle]
                intro due
                cases due

/-- Reading A2B_STATUS: a set bit takes over from the send. -/
theorem observed (coverage : Coverage link) {priority : Priority} {result : SendResult}
    (position : link.send = .pushed priority result) :
    Coverage
      { link with
        send := .observed priority result (link.board.hardware.a2b.status priority) } := by
  refine { coverage with
    covered := ?_ }
  intro other occupied
  by_cases set : link.board.hardware.a2b.status other
  · exact .doorbell set
  · refine (coverage.covered other occupied).transfer id id ?_ id
    rw [position]
    intro due
    simp only [LinuxSend.due, beq_iff_eq] at due
    subst due
    simp [LinuxSend.due, set]

/-- The doorbell that Linux writes belongs to the protocol. -/
theorem protocolDoorbell_linux (priority : Priority) :
    protocolDoorbell (0xa2b10000#32 ||| BitVec.ofNat 32 priority.val) := by
  revert priority
  decide

/-- The doorbell decision. -/
theorem decided (coverage : Coverage link) {priority : Priority} {result : SendResult} {busy : Bool}
    (position : link.send = .observed priority result busy) :
    Coverage (link.notify priority result busy) := by
  cases busy with
  | true =>
      refine { coverage with
        covered := ?_ }
      intro other occupied
      refine (coverage.covered other occupied).transfer id id ?_ id
      rw [position]
      simp [LinuxSend.due]
  | false =>
      refine { coverage with
        doorbells := ?_
        covered := ?_ }
      · intro other set
        by_cases same : other = priority
        · subst same
          simpa [Link.notify, Link.notified, Doorbells.write] using protocolDoorbell_linux other
        · simp only [Link.notify, Link.notified, Doorbells.write, Bool.false_eq_true, if_false,
            Function.update_of_ne same] at set ⊢
          exact coverage.doorbells other set
      · intro other occupied
        by_cases same : other = priority
        · apply Covered.doorbell
          simp [Link.notify, Link.notified, Doorbells.write, same]
        · refine (coverage.covered other occupied).transfer ?_ id ?_ id
          · intro set
            simpa [Link.notify, Link.notified, Doorbells.write,
              Function.update_of_ne same] using set
          · rw [position]
            intro due
            simp only [LinuxSend.due, Bool.and_eq_true, beq_iff_eq] at due
            exact absurd due.1.symm same

theorem booted {build : Build} {generation : U32} {a2b b2a : Doorbells}
    (skip : build.skipPriority = none) (nonzero : generation ≠ 0#32)
    (clear : ∀ channel, a2b.status channel = false) :
    Coverage (.booted build generation a2b b2a) where
  build := skip
  magic := rfl
  version := rfl
  nonzero := nonzero
  linux := by simp [Link.booted, endpointBind, sessionRegion, nonzero]
  boundBy := by
    intro party bound
    cases bound
  ready := by
    intro ready
    cases ready
  service := False.elim
  rings := fun _ => ⟨[], .zero, by simp⟩
  doorbells := by
    intro channel set
    rw [show (Link.booted build generation a2b b2a).board.hardware.a2b = a2b from rfl, clear] at set
    cases set
  handler := by
    intro command read
    cases read
  wake := by
    intro priority pending
    cases pending
  covered := by
    intro priority occupied
    exact absurd rfl occupied

/-- One step of the link through an admissible gate. -/
theorem step (coverage : Coverage link) {label : LinkLabel} {next : Link}
    (gate : gateAdmissible link label) (stepped : linkStep link label = some next) :
    Coverage next := by
  cases label with
  | cpu3 label =>
      simp only [linkStep, Option.map_eq_some_iff] at stepped
      obtain ⟨board, moved, rfl⟩ := stepped
      exact coverage.cpu3 gate moved
  | activate =>
      simp only [linkStep] at stepped
      split at stepped
      · cases stepped
        exact coverage.received .critical true
      · cases stepped
  | push priority type payload length =>
      simp only [linkStep] at stepped
      split at stepped
      · rename_i free
        cases stepped
        exact coverage.pushed free.2 priority type payload length
      · cases stepped
  | observe =>
      simp only [linkStep] at stepped
      split at stepped
      · rename_i position
        cases stepped
        exact coverage.observed position
      · cases stepped
  | notify =>
      simp only [linkStep] at stepped
      split at stepped
      · rename_i position
        cases stepped
        exact coverage.decided position
      · cases stepped
  | receive priority =>
      simp only [linkStep] at stepped
      split at stepped
      · cases stepped
        exact coverage.received priority link.active
      · cases stepped
  | b2aAcknowledge channel =>
      simp only [linkStep] at stepped
      cases stepped
      exact { coverage with
        covered := fun other occupied => (coverage.covered other occupied).transfer id id id id }

end Coverage

/-! ### No frame is stranded -/

/-- The worker is blocked on an empty semaphore, no handler is running or can be taken, the doorbell
bit of the priority is clear, and no Linux send on it is between its push and its doorbell
decision. -/
def Link.settled (link : Link) (priority : Priority) : Bool :=
  link.board.firmware.workerBlocked && link.board.firmware.isr.isIdle &&
    decide (∀ channel, link.board.deliverable channel = false) &&
    !link.board.hardware.a2b.status priority && !link.send.on priority

/-- The link with the gate as its condition asks for it. -/
def gatedMachine : Machine Link LinkLabel :=
  linkMachine.restrict fun link label => gateAdmissible link label = true

theorem Coverage.reachable {link : Link} (reached : gatedMachine.Reachable link) :
    Coverage link := by
  induction reached with
  | init start =>
      obtain ⟨build, generation, a2b, b2a, skip, nonzero, clear, rfl⟩ := start
      exact .booted skip nonzero clear
  | step _ taken inductionHypothesis =>
      obtain ⟨gate, stepped⟩ := Machine.restrict_step_iff.mp taken
      exact inductionHypothesis.step gate stepped

/-- In a settled state nothing covers the priority any more, so its ring is empty. -/
theorem no_frame_stranded {link : Link} {priority : Priority}
    (reached : gatedMachine.Reachable link) (settled : link.settled priority) :
    (link.board.hardware.shared.linuxToCpu3 priority).contents = [] := by
  have coverage := Coverage.reachable reached
  simp only [Link.settled, Bool.and_eq_true, Bool.not_eq_true'] at settled
  obtain ⟨⟨⟨⟨blocked, noHandler⟩, -⟩, clear⟩, noSend⟩ := settled
  cases position : link.board.firmware.worker with
  | waiting =>
      have empty : link.board.firmware.workSem = false := by
        simpa [Firmware.workerBlocked, position] using blocked
      obtain ⟨frames, holds, -⟩ := coverage.rings priority
      rw [holds.wellFormed.contents_eq_nil_iff]
      by_contra occupied
      cases coverage.covered priority occupied with
      | doorbell set =>
          rw [clear] at set
          cases set
      | handler running =>
          cases isr : link.board.firmware.isr with
          | idle =>
              rw [isr] at running
              exact running
          | entered _ _ _ | echoed _ _ | cleared _ _ => simp [isr, Isr.isIdle] at noHandler
      | posted pending =>
          rcases coverage.wake priority pending with given | swapping
          · rw [empty] at given
            cases given
          · rw [position] at swapping
            exact swapping
      | sending due =>
          cases send : link.send with
          | idle => simp [send, LinuxSend.due] at due
          | pushed other result =>
              simp only [send, LinuxSend.due] at due
              simp [send, LinuxSend.on, due] at noSend
          | observed other result busy =>
              simp only [send, LinuxSend.due, Bool.and_eq_true] at due
              simp [send, LinuxSend.on, due.1] at noSend
      | visited visits =>
          rw [position] at visits
          exact visits
  | _ => simp [Firmware.workerBlocked, position] at blocked

/-- An image with every option at its default. -/
def demoBuild : Build := ⟨false, none, none, false⟩

/-- Session 1 right after CPU_ON. -/
def demoLink : Link := .booted demoBuild 1 .zero .zero

theorem demoLink_init : linkMachine.init demoLink :=
  ⟨demoBuild, 1, .zero, .zero, rfl, by decide, fun _ => rfl, rfl⟩

/-- The main thread up to the doorbell of SESSION_READY; its two flags are not yet written. -/
def demoAnnounce : List LinkLabel := [.cpu3 .main, .cpu3 .main, .cpu3 .main, .cpu3 .main]

/-- Linux opens its data plane, sends a PING on p1, and CPU3 takes the interrupt up to the swapped
mask. -/
def demoPing : List LinkLabel :=
  [.activate, .push 1 MessageType.ping (some (storePayloadU32 (fun _ => 0) 0 41)) 4,
    .observe, .notify, .cpu3 (.interrupt 1), .cpu3 .isr, .cpu3 .isr, .cpu3 .isr, .cpu3 .worker,
    .cpu3 .worker]

/-- The theorem after a PING that came once SESSION_READY was published, and was served. -/
theorem no_frame_stranded_demo :
    ∃ link, gatedMachine.run demoLink
        (demoAnnounce ++ [.cpu3 .main, .cpu3 .main] ++ demoPing ++
          List.replicate 14 (.cpu3 .worker)) = some link ∧
      link.settled 1 = true ∧ (link.board.firmware.endpoint.stats 1).rxOk = 1#32 ∧
      (link.board.hardware.shared.linuxToCpu3 1).contents = [] := by
  have checked : (gatedMachine.run demoLink
      (demoAnnounce ++ [.cpu3 .main, .cpu3 .main] ++ demoPing ++
        List.replicate 14 (.cpu3 .worker))).any (fun link =>
          link.settled 1 && (link.board.firmware.endpoint.stats 1).rxOk == 1#32) = true := by
    decide +kernel
  obtain ⟨link, executed, passed⟩ := gatedMachine.exists_of_run_any checked
  rw [Bool.and_eq_true, beq_iff_eq] at passed
  exact ⟨link, executed, passed.1, passed.2,
    no_frame_stranded (Machine.Reachable.run (.init demoLink_init) executed) passed.1⟩

/-- Without the condition: Linux reads SESSION_READY and sends while the main thread still stands
before its flags.  The worker preempts it, finds the gate closed and drops the mask. -/
theorem closed_gate_strands_frame :
    ∃ link, linkMachine.run demoLink
        (demoAnnounce ++ demoPing ++ [.cpu3 .worker, .cpu3 .worker]) = some link ∧
      linkMachine.Reachable link ∧ link.settled 1 = true ∧
      (link.board.hardware.shared.linuxToCpu3 1).contents ≠ [] := by
  have checked : (linkMachine.run demoLink
      (demoAnnounce ++ demoPing ++ [.cpu3 .worker, .cpu3 .worker])).any (fun link =>
        link.settled 1 &&
          (link.board.hardware.shared.linuxToCpu3 1).contents.length == 1) = true := by
    decide +kernel
  obtain ⟨link, executed, passed⟩ := linkMachine.exists_of_run_any checked
  rw [Bool.and_eq_true, beq_iff_eq] at passed
  refine ⟨link, executed, Machine.Reachable.run (.init demoLink_init) executed, passed.1, ?_⟩
  intro empty
  rw [empty] at passed
  exact absurd passed.2 (by decide)

end MailMsg
