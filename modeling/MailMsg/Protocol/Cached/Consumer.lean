/-
Module: MailMsg.Protocol.Cached.Consumer
Purpose: Every step of the consumer keeps the relation to coherent memory: the accesses of a pop,
  its copies and the lines that its hooks drop and write back.
Source: LZAMP/protocol/mailmsg/mailmsg.c (mailmsg_ring_pop)
Trusted boundary: none beyond the machine
Main exports: Cached.Refines.callPop, Cached.Refines.popStep, Cached.Refines.popCopy,
  Cached.Refines.popHook
-/
import MailMsg.Protocol.Cached.Refinement

namespace MailMsg.Cached

open Spsc (Field copyField PushPc PopPc)

/-! ### The consumer's steps -/

section Consumer

variable {base : Nat} {state : State} {coherent : Spsc.State}

/-- A step of the consumer that leaves memory as it is and is one step of the coherent pop. -/
theorem Refines.coherentPopStep (refines : Refines base state coherent) {cpu : Cpu} {pop : PopPc}
    {pops : List (RingResult × Message)} {label : Spsc.Label} {after : Spsc.State}
    (taken : Spsc.machine.step coherent label = some after) (sameRing : after.ring = coherent.ring)
    (position : after.pop = coherentPop state.memory cpu.pending pop)
    (samePush : after.push = coherent.push) (history : after.pops = pops)
    (samePublished : after.published = coherent.published)
    (knows : ConsumerKnows base state.memory cpu pop) :
    Refines base { state with consuming := cpu, pop := pop, pops := pops } after where
  reached := refines.reached.step taken
  producer := by rw [sameRing, refines.producer]
  consumer := by rw [sameRing, refines.consumer]
  slots := by
    intro index other
    rw [samePush] at other
    rw [sameRing]
    exact refines.slots index other
  push := by rw [samePush, refines.push]
  pop := position
  pops := history
  pushed := by rw [samePublished, refines.pushed]
  producing := refines.producing
  consuming := knows

/-- The call of a pop. -/
theorem Refines.callPop (refines : Refines base state coherent) (aligned : base % 4 = 0)
    (buffer : Message) (idle : state.pop = .idle) :
    ∃ after, Refines base
      { state with
        consuming :=
          { state.consuming.load base state.memory .consumer with
            pending := acquire base (Place.offset .producer) 4 }
        pop := .loaded buffer (state.consuming.view base state.memory .consumer) } after := by
  have position : coherent.pop = .idle := by rw [refines.pop, idle]; rfl
  have own := refines.consuming.own (by simp [idle, releasing])
  have index : state.consuming.view base state.memory .consumer = coherent.ring.consumer := by
    rw [own, refines.consumer]
  have stepped : Spsc.machine.step coherent (.pop buffer) =
      some { coherent with pop := .loaded buffer coherent.ring.consumer } := by
    simp [Spsc.machine, Spsc.step, position]
  refine ⟨_, refines.coherentPopStep stepped rfl ?_ rfl refines.pops rfl ⟨fun _ => ?_, .inl ?_⟩⟩
  · rw [index]
    rfl
  · rw [← view_load] at own
    exact own
  · exact acquire_producer aligned

/-- The memory and the consumer after the hook's next line. -/
def popHooked (base : Nat) (state : State) (operation : Cache.LineOp Nat)
    (rest : List (Cache.LineOp Nat)) : State :=
  { state with
    memory := (state.consuming.cache.perform (lineOf base) state.memory operation).1
    consuming :=
      { cache := (state.consuming.cache.perform (lineOf base) state.memory operation).2
        pending := rest } }

/-- A line dropped before the other side's words are loaded: the coherent run stands still. -/
theorem Refines.popHook_drop (refines : Refines base state coherent) {line : Nat}
    {rest : List (Cache.LineOp Nat)} (quiet : ∀ pending, ¬ releasing pending state.pop)
    (samePosition : coherentPop state.memory rest state.pop =
      coherentPop state.memory state.consuming.pending state.pop)
    (current : carriesCurrent base state.memory state.consuming .consumer (.drop line) = true)
    (known : PopKnown base state.memory (popHooked base state (.drop line) rest).consuming state.pop) :
    Refines base (popHooked base state (.drop line) rest) coherent := by
  have own := refines.consuming.own (quiet _)
  have same : (popHooked base state (.drop line) rest).memory = state.memory := by
    funext place
    apply perform_same current
    intro owned
    cases place with
    | consumer => exact own
    | producer => cases owned
    | slot index field => cases owned
  have kept : Refines base
      { state with consuming := (popHooked base state (.drop line) rest).consuming } coherent :=
    { refines with
      pop := refines.pop.trans samePosition.symm
      consuming := by
        refine ⟨fun _ => ?_, known⟩
        refine (Cache.view_drop (lineOf base) state.memory state.consuming.cache line _).trans ?_
        split
        · rfl
        · exact own }
  have whole : popHooked base state (.drop line) rest =
      { state with consuming := (popHooked base state (.drop line) rest).consuming } := by
    simp only [popHooked] at same ⊢
    rw [same]
  rw [whole]
  exact kept

/-- The coherent push depends on memory through the producer's index. -/
theorem coherentPush_memory {memory memory' : Memory} (same : memory' .producer = memory .producer)
    (pending : List (Cache.LineOp Nat)) (push : PushPc) :
    coherentPush memory' pending push = coherentPush memory pending push := by
  cases push <;> simp [coherentPush, same]

/-- The written-back index: the coherent run stores it too. -/
theorem Refines.popHook_index (refines : Refines base state coherent) {buffer : Message}
    (checking : state.pop = .checking buffer)
    (queued : state.consuming.pending = [.clean (lineOf base .consumer)])
    (advanced : state.consuming.view base state.memory .consumer =
      ringNext (state.memory .consumer))
    (current : carriesCurrent base state.memory state.consuming .consumer
      (.clean (lineOf base .consumer)) = true) :
    ∃ after, Refines base (popHooked base state (.clean (lineOf base .consumer)) []) after := by
  have position : coherent.pop = .copying buffer (state.memory .consumer) [] := by
    rw [refines.pop, checking, queued]
    rfl
  have stepped : Spsc.machine.step coherent .popStep =
      some { coherent with
        ring := { coherent.ring with consumer := ringNext (state.memory .consumer) }
        consumed := coherent.consumed + 1
        pop := .checking buffer } := by
    simp [Spsc.machine, Spsc.step, Spsc.popStep, position]
  have same : ∀ place, place.owner = .producer →
      (popHooked base state (.clean (lineOf base .consumer)) []).memory place =
        state.memory place := by
    intro place owned
    apply perform_same current
    intro other
    rw [owned] at other
    cases other
  have stored : (popHooked base state (.clean (lineOf base .consumer)) []).memory .consumer =
      ringNext (state.memory .consumer) := by
    have written := Cache.memory_clean (lineOf base) state.memory state.consuming.cache
      (lineOf base .consumer) .consumer
    rw [if_pos rfl] at written
    exact written.trans advanced
  refine ⟨_, refines.reached.step stepped, ?_, stored.symm, ?_, ?_, ?_, refines.pops,
    refines.pushed, ?_, ?_⟩
  · rw [same .producer rfl]
    exact refines.producer
  · intro index other
    rw [messageAt_congr fun field => same (.slot index field) rfl]
    exact refines.slots index other
  · exact refines.push.trans (coherentPush_memory (same .producer rfl) _ _).symm
  · simp [popHooked, checking, coherentPop]
  · exact refines.producing.transport same
  · constructor
    · intro _
      have view := Cache.view_clean (lineOf base) state.memory state.consuming.cache
        (lineOf base .consumer)
      exact (congrFun view _).trans (advanced.trans stored.symm)
    · rw [popHooked, checking]
      exact .inl rfl

/-- The next line of any hook of the consumer. -/
theorem Refines.popHook (refines : Refines base state coherent) {operation : Cache.LineOp Nat}
    {rest : List (Cache.LineOp Nat)} (queued : state.consuming.pending = operation :: rest)
    (current : carriesCurrent base state.memory state.consuming .consumer operation = true) :
    ∃ after, Refines base (popHooked base state operation rest) after := by
  have known := refines.consuming.position
  cases position : state.pop with
  | idle =>
      rw [position, PopKnown, queued] at known
      cases known
  | loaded buffer consumer =>
      rw [position] at known
      rcases known with pending | ⟨pending, -⟩
      · rw [queued, List.cons.injEq] at pending
        obtain ⟨rfl, rfl⟩ := pending
        refine ⟨coherent, refines.popHook_drop ?_ ?_ current ?_⟩
        · simp [position, releasing]
        · rw [position]
          rfl
        · rw [position]
          exact .inr ⟨rfl, by simp [popHooked, Cache.perform]⟩
      · rw [queued] at pending
        cases pending
  | nonempty buffer consumer =>
      rw [position] at known
      obtain ⟨drops, fetched⟩ := known
      obtain ⟨line, rfl⟩ := drops operation (by simp [queued])
      refine ⟨coherent, refines.popHook_drop ?_ ?_ current ?_⟩
      · simp [position, releasing]
      · rw [position]
        rfl
      · rw [position]
        refine ⟨fun other member => drops other ?_, fun field later => ?_⟩
        · rw [queued]
          exact List.mem_cons_of_mem _ member
        · refine (Cache.view_drop (lineOf base) state.memory state.consuming.cache line _).trans ?_
          split
          · rfl
          · rename_i other
            apply fetched field
            rw [queued]
            intro member
            rcases List.mem_cons.mp member with same | member
            · exact other (Cache.LineOp.drop.inj same)
            · exact later member
  | commit buffer consumer commit =>
      rw [position, PopKnown, queued] at known
      cases known.1
  | copying buffer consumer remaining =>
      rw [position, PopKnown, queued] at known
      cases known.1
  | checking buffer =>
      rw [position] at known
      rcases known with pending | ⟨pending, advanced⟩
      · rw [queued] at pending
        cases pending
      · rw [queued, List.cons.injEq] at pending
        obtain ⟨rfl, rfl⟩ := pending
        exact refines.popHook_index position queued advanced current

/-- The consumer's slot as its cache shows it. -/
theorem Refines.view_slot (refines : Refines base state coherent) {consumer : U32}
    (reading : reads state.pop = some (slotIndex consumer))
    (inside : consumer = coherent.ring.consumer)
    (fetched : ∀ field, state.consuming.view base state.memory (.slot (slotIndex consumer) field) =
      state.memory (.slot (slotIndex consumer) field)) :
    messageAt (state.consuming.view base state.memory) (slotIndex consumer) =
      coherent.ring.slot consumer := by
  have bound : consumer.toNat < ringSlots := by
    rw [inside, refines.consumer]
    exact refines.inside.2
  have slot := refines.read_slot reading
  rw [ofNat_slotIndex bound] at slot
  rw [slot]
  exact messageAt_congr fetched

/-- The load of the producer's index. -/
theorem Refines.popLoaded (refines : Refines base state coherent) {buffer : Message}
    {consumer : U32}
    (position : state.pop = .loaded buffer consumer) (settled : state.consuming.pending = [])
    {next : State} (taken : popStep base state = some next) : ∃ after, Refines base next after := by
  have coherentPosition : coherent.pop = .loaded buffer consumer := by
    rw [refines.pop, position]
    rfl
  have own := refines.consuming.own (by simp [position, releasing])
  rw [← view_load state.consuming state.memory .producer] at own
  have index : state.consuming.view base state.memory .producer = coherent.ring.producer := by
    have known := refines.consuming.position
    rw [position] at known
    rcases known with pending | ⟨-, absent⟩
    · rw [settled] at pending
      cases pending
    · rw [refines.producer]
      exact Cache.view_of_absent _ _ _ absent
  simp only [Cached.popStep, position, index] at taken
  by_cases empty : consumer = coherent.ring.producer
  · rw [if_pos empty] at taken
    cases taken
    have stepped : Spsc.machine.step coherent .popStep =
        some (coherent.popReturn .empty buffer) := by
      simp [Spsc.machine, Spsc.step, Spsc.popStep, coherentPosition, empty]
    refine ⟨_, refines.coherentPopStep stepped rfl rfl rfl ?_ rfl ⟨fun _ => own, settled⟩⟩
    rw [← refines.pops]
    rfl
  · rw [if_neg empty] at taken
    cases taken
    have stepped : Spsc.machine.step coherent .popStep =
        some { coherent with pop := .nonempty buffer consumer } := by
      simp [Spsc.machine, Spsc.step, Spsc.popStep, coherentPosition, empty]
    refine ⟨_, refines.coherentPopStep stepped rfl rfl rfl refines.pops rfl ⟨fun _ => own, ?_, ?_⟩⟩
    · intro operation member
      obtain ⟨line, -, rfl⟩ := List.mem_map.mp member
      exact ⟨line, rfl⟩
    · intro field later
      exact absurd (List.mem_map_of_mem (mem_slotLines base (slotIndex consumer) field)) later

/-- The load of the commit word. -/
theorem Refines.popNonempty (refines : Refines base state coherent) {buffer : Message}
    {consumer : U32}
    (position : state.pop = .nonempty buffer consumer) (settled : state.consuming.pending = [])
    {next : State} (taken : popStep base state = some next) : ∃ after, Refines base next after := by
  have invariant := (Spsc.Invariant.reachable refines.reached).pop
  have known := refines.consuming.position
  have coherentPosition : coherent.pop = .nonempty buffer consumer := by
    rw [refines.pop, position]
    rfl
  rw [position] at known
  rw [coherentPosition] at invariant
  have fetched : ∀ field, state.consuming.view base state.memory
      (.slot (slotIndex consumer) field) = state.memory (.slot (slotIndex consumer) field) :=
    fun field => known.2 field (by simp [settled])
  have slot := refines.view_slot (by rw [position]; rfl) invariant.1 fetched
  have own := refines.consuming.own (by simp [position, releasing])
  simp only [Cached.popStep, position, Option.some.injEq] at taken
  subst taken
  have stepped : Spsc.machine.step coherent .popStep =
      some { coherent with
        pop := .commit buffer consumer (coherent.ring.slot consumer).commit } := by
    simp [Spsc.machine, Spsc.step, Spsc.popStep, coherentPosition]
  refine ⟨_, refines.coherentPopStep stepped rfl ?_ rfl refines.pops rfl ⟨fun _ => ?_, settled, ?_⟩⟩
  · rw [← slot]
    rfl
  · rw [view_load]
    exact own
  · intro field
    rw [view_load]
    exact fetched field

/-- The load of the sequence, and the comparison with the commit word. -/
theorem Refines.popCommit (refines : Refines base state coherent) {buffer : Message}
    {consumer commit : U32}
    (position : state.pop = .commit buffer consumer commit) (settled : state.consuming.pending = [])
    {next : State} (taken : popStep base state = some next) : ∃ after, Refines base next after := by
  have invariant := (Spsc.Invariant.reachable refines.reached).pop
  have known := refines.consuming.position
  have coherentPosition : coherent.pop = .commit buffer consumer commit := by
    rw [refines.pop, position]
    rfl
  rw [position] at known
  rw [coherentPosition] at invariant
  have fetched := known.2
  have slot := refines.view_slot (by rw [position]; rfl) invariant.1 fetched
  have sequence : state.consuming.view base state.memory
    (.slot (slotIndex consumer) .sequence) =
      (coherent.ring.slot consumer).sequence := congrArg Message.sequence slot
  have own := refines.consuming.own (by simp [position, releasing])
  rw [← view_load state.consuming state.memory (.slot (slotIndex consumer) .sequence)] at own
  simp only [Cached.popStep, position, sequence] at taken
  by_cases incomplete : commit ≠ (coherent.ring.slot consumer).sequence
  · rw [if_pos incomplete] at taken
    cases taken
    have stepped : Spsc.machine.step coherent .popStep =
        some (coherent.popReturn .incomplete buffer) := by
      simp [Spsc.machine, Spsc.step, Spsc.popStep, coherentPosition, incomplete]
    refine ⟨_, refines.coherentPopStep stepped rfl rfl rfl ?_ rfl ⟨fun _ => own, settled⟩⟩
    rw [← refines.pops]
    rfl
  · rw [if_neg incomplete] at taken
    cases taken
    have stepped : Spsc.machine.step coherent .popStep =
        some { coherent with pop := .copying buffer consumer Field.all } := by
      simp only [Spsc.machine, Spsc.step, Spsc.popStep, coherentPosition]
      rw [if_neg incomplete]
    refine ⟨_, refines.coherentPopStep stepped rfl rfl rfl refines.pops rfl
      ⟨fun _ => own, settled, fun field => ?_⟩⟩
    rw [view_load]
    exact fetched field

/-- The copy is complete: the index is stored, and only its write-back releases the slot. -/
theorem Refines.popCopied (refines : Refines base state coherent) (aligned : base % 4 = 0)
    {buffer : Message} {consumer : U32} (position : state.pop = .copying buffer consumer [])
    {next : State} (taken : popStep base state = some next) : ∃ after, Refines base next after := by
  have invariant := (Spsc.Invariant.reachable refines.reached).pop
  have coherentPosition : coherent.pop = .copying buffer consumer [] := by
    rw [refines.pop, position]
    rfl
  rw [coherentPosition] at invariant
  have index : consumer = state.memory .consumer := invariant.1.trans refines.consumer
  simp only [Cached.popStep, position, Option.some.injEq] at taken
  subst taken
  rw [publish_consumer aligned]
  refine ⟨coherent, { refines with
    pop := ?_
    consuming := ⟨fun quiet => ?_, .inr ⟨rfl, ?_⟩⟩ }⟩
  · rw [coherentPosition]
    simp [coherentPop, Cpu.store, index]
  · exact absurd (List.cons_ne_nil _ _) quiet
  · rw [view_store, Function.update_self, index]

/-- The checks of the copied frame. -/
theorem Refines.popChecked (refines : Refines base state coherent) {buffer : Message}
    (position : state.pop = .checking buffer) (settled : state.consuming.pending = [])
    {next : State} (taken : popStep base state = some next) : ∃ after, Refines base next after := by
  have coherentPosition : coherent.pop = .checking buffer := by
    rw [refines.pop, position, settled]
    rfl
  have own := refines.consuming.own (by simp [position, settled, releasing])
  simp only [Cached.popStep, position, Option.some.injEq] at taken
  subst taken
  have stepped : Spsc.machine.step coherent .popStep =
      some (coherent.popReturn
        (if buffer.malformed then .invalid
          else if buffer.crc32 ≠ frameCrc32 buffer then .badCrc else .ok) buffer) := by
    simp only [Spsc.machine, Spsc.step, Spsc.popStep, coherentPosition]
    split
    · rfl
    · split <;> rfl
  refine ⟨_, refines.coherentPopStep stepped rfl rfl rfl ?_ rfl ⟨fun _ => own, settled⟩⟩
  rw [← refines.pops]
  rfl

/-- Every access of the consumer is matched in the coherent run. -/
theorem Refines.popStep (refines : Refines base state coherent) (aligned : base % 4 = 0)
    (settled : state.consuming.pending = []) {next : State}
    (taken : popStep base state = some next) : ∃ after, Refines base next after := by
  cases position : state.pop with
  | idle => simp [Cached.popStep, position] at taken
  | loaded buffer consumer => exact refines.popLoaded position settled taken
  | nonempty buffer consumer => exact refines.popNonempty position settled taken
  | commit buffer consumer commit => exact refines.popCommit position settled taken
  | copying buffer consumer remaining =>
      cases remaining with
      | nil => exact refines.popCopied aligned position taken
      | cons field remaining => simp [Cached.popStep, position] at taken
  | checking buffer => exact refines.popChecked position settled taken

/-- One scalar of the copy out of the slot. -/
theorem Refines.popCopy (refines : Refines base state coherent) {buffer : Message} {consumer : U32}
    {remaining : List Field} (position : state.pop = .copying buffer consumer remaining)
    {field : Field} (member : field ∈ remaining) :
    ∃ after, Refines base
      { state with
        consuming := state.consuming.load base state.memory (.slot (slotIndex consumer) field)
        pop := .copying
          (copyField (messageAt (state.consuming.view base state.memory) (slotIndex consumer)) buffer
            field) consumer (remaining.erase field) } after := by
  have coherentPosition : coherent.pop = .copying buffer consumer remaining := by
    rw [refines.pop, position]
    rfl
  have invariant := (Spsc.Invariant.reachable refines.reached).pop
  rw [coherentPosition] at invariant
  have known := refines.consuming.position
  rw [position] at known
  have slot := refines.view_slot (by rw [position]; rfl) invariant.1 known.2
  have own := refines.consuming.own (by simp [position, releasing])
  rw [← view_load state.consuming state.memory (.slot (slotIndex consumer) field)] at own
  have stepped : Spsc.machine.step coherent (.popCopy field) =
      some { coherent with
        pop := .copying (copyField (coherent.ring.slot consumer) buffer field) consumer
          (remaining.erase field) } := by
    simp [Spsc.machine, Spsc.step, coherentPosition, member]
  refine ⟨_, refines.coherentPopStep stepped rfl ?_ rfl refines.pops rfl
    ⟨fun _ => own, known.1, fun other => ?_⟩⟩
  · rw [slot]
    rfl
  · rw [view_load]
    exact known.2 other

end Consumer

end MailMsg.Cached
