/-
Module: MailMsg.Protocol.Cached.Refinement
Purpose: The relation between a state with caches and one of coherent memory, in which a push whose
  index has been written back is already complete.
Source: LZAMP/protocol/mailmsg/mailmsg.c
Trusted boundary: none beyond the machine
Main exports: Cached.Refines, Cached.push_completes
-/
import MailMsg.Protocol.Cached.Views

namespace MailMsg.Cached

open Spsc (Field copyField PushPc PopPc)

/-! ### Completing a push in coherent memory -/

section Coherent

variable {message : Message} {producer : U32}

/-- The rest of a structure assignment, by induction on the scalars that remain. -/
theorem copies_complete (remaining : List Field) :
    ∀ {coherent : Spsc.State}, Spsc.machine.Reachable coherent →
      coherent.push = .copying message producer remaining →
      Spsc.CopiedExcept message (coherent.ring.slot producer) remaining →
      Spsc.machine.Reachable
        { coherent.storeSlot producer message with push := .copying message producer [] } := by
  induction remaining with
  | nil =>
      intro coherent reached position copied
      have written : Function.update coherent.ring.slot producer message = coherent.ring.slot := by
        rw [← copied.done]
        exact Function.update_eq_self _ _
      simp only [Spsc.State.storeSlot, written, ← position]
      exact reached
  | cons field remaining inductionHypothesis =>
      intro coherent reached position copied
      have stepped : Spsc.machine.step coherent (.pushCopy field) =
          some { coherent.storeSlot producer
            (copyField message (coherent.ring.slot producer) field) with
              push := .copying message producer remaining } := by
        simp [Spsc.machine, Spsc.step, position]
      have moved := copied.copy field
      rw [List.erase_cons_head] at moved
      have rest := inductionHypothesis (reached.step stepped) rfl
        (by simpa [Spsc.State.storeSlot] using moved)
      simpa [Spsc.State.storeSlot] using rest

/-- The coherent state after the whole push. -/
def completed (coherent : Spsc.State) (message : Message) (producer : U32) : Spsc.State :=
  { coherent with
    ring :=
      { coherent.ring with
        slot := Function.update coherent.ring.slot producer message.frame.committed
        producer := ringNext producer }
    published := coherent.published ++ [message.frame]
    push := .returning message }

/-- A push that has passed its checks can publish its frame. -/
theorem push_completes {coherent : Spsc.State} (reached : Spsc.machine.Reachable coherent)
    (position : coherent.push = .copying message producer Field.all) :
    Spsc.machine.Reachable (completed coherent message producer) := by
  have stepOf : ∀ {before after : Spsc.State}, Spsc.machine.Reachable before →
      Spsc.machine.step before .pushStep = some after → Spsc.machine.Reachable after :=
    fun earlier taken => earlier.step taken
  have copied := copies_complete Field.all reached position (.start _ _)
  have cleared := stepOf copied rfl
  have summed := stepOf cleared rfl
  have committed := stepOf summed rfl
  have published := stepOf committed rfl
  simp only [Spsc.State.storeSlot, Function.update_idem, Function.update_self] at published
  exact published

end Coherent

/-! ### Refinement of coherent memory

A word counts as stored when it reaches memory.  In the coherent run a push therefore stands still
at the head of its structure assignment until its index is written back, and a pop stands before its
index store until that is written back.
-/

/-- Where the push stands in the coherent run. -/
def coherentPush (memory : Memory) (pending : List (Cache.LineOp Nat)) : PushPc → PushPc
  | .copying message producer _ => .copying message producer Field.all
  | .crc message producer => .copying message producer Field.all
  | .commit message producer => .copying message producer Field.all
  | .index message producer => .copying message producer Field.all
  | .returning message =>
      if pending = [] then .returning message else .copying message (memory .producer) Field.all
  | .idle => .idle
  | .loaded message producer => .loaded message producer

/-- Where the pop stands in the coherent run. -/
def coherentPop (memory : Memory) (pending : List (Cache.LineOp Nat)) : PopPc → PopPc
  | .checking buffer =>
      if pending = [] then .checking buffer else .copying buffer (memory .consumer) []
  | position => position

/-- The slot that the two runs may disagree about, by the position of the coherent push. -/
def writing : PushPc → Option (Fin ringSlots)
  | .copying _ producer _ => some (slotIndex producer)
  | _ => none

/-- The frame whose index store has not reached memory. -/
def unpublished (pending : List (Cache.LineOp Nat)) : PushPc → List Frame
  | .returning message => if pending = [] then [] else [message.frame]
  | _ => []

/-- The cached state stands for a reachable state of the coherent run. -/
structure Refines (base : Nat) (state : State) (coherent : Spsc.State) : Prop where
  reached : Spsc.machine.Reachable coherent
  producer : coherent.ring.producer = state.memory .producer
  consumer : coherent.ring.consumer = state.memory .consumer
  slots : ∀ index, writing coherent.push ≠ some index →
    coherent.ring.slot (BitVec.ofNat 32 index.val) = messageAt state.memory index
  push : coherent.push = coherentPush state.memory state.producing.pending state.push
  pop : coherent.pop = coherentPop state.memory state.consuming.pending state.pop
  pops : coherent.pops = state.pops
  pushed : state.pushed = coherent.published ++ unpublished state.producing.pending state.push
  producing : ProducerKnows base state.memory state.producing state.push
  consuming : ConsumerKnows base state.memory state.consuming state.pop

section Facts

variable {base : Nat} {state : State} {coherent : Spsc.State}

/-- Both indices stay inside the ring. -/
theorem Refines.inside (refines : Refines base state coherent) :
    (state.memory .producer).toNat < ringSlots ∧ (state.memory .consumer).toNat < ringSlots := by
  have layout := (Spsc.Invariant.reachable refines.reached).layout
  rw [← refines.producer, ← refines.consumer, layout.producer, layout.consumer, Spsc.cell_toNat,
    Spsc.cell_toNat]
  exact ⟨Nat.mod_lt _ (by decide), Nat.mod_lt _ (by decide)⟩

/-- A push that writes a slot writes the one at the producer's index. -/
theorem Refines.writing_index (refines : Refines base state coherent) {message : Message}
    {producer : U32} {remaining : List Field}
    (position : coherent.push = .copying message producer remaining) :
    producer = state.memory .producer := by
  have known := (Spsc.Invariant.reachable refines.reached).push
  rw [position] at known
  exact known.1.trans refines.producer

/-- While the consumer reads a slot, its index differs from the producer's. -/
theorem Refines.reading_index (refines : Refines base state coherent) {index : Fin ringSlots}
    (reading : reads state.pop = some index) :
    index = slotIndex (state.memory .consumer) ∧
      state.memory .consumer ≠ state.memory .producer := by
  have invariant := Spsc.Invariant.reachable refines.reached
  have known := invariant.pop
  have outstanding : ∀ consumer, consumer = coherent.ring.consumer →
      coherent.consumed < coherent.published.length → slotIndex consumer = index →
      index = slotIndex (state.memory .consumer) ∧
        state.memory .consumer ≠ state.memory .producer := by
    intro consumer named pending selected
    refine ⟨by rw [← selected, named, refines.consumer], fun same => ?_⟩
    rw [← refines.consumer, ← refines.producer, invariant.layout.empty_iff] at same
    omega
  have position := refines.pop
  generalize state.pop = pop at reading position
  cases pop with
  | idle | loaded | checking => cases reading
  | nonempty buffer consumer =>
      rw [position] at known
      exact outstanding consumer known.1 known.2.2 (Option.some.inj reading)
  | commit buffer consumer commit =>
      rw [position] at known
      exact outstanding consumer known.1 known.2.2.1 (Option.some.inj reading)
  | copying buffer consumer remaining =>
      rw [position] at known
      exact outstanding consumer known.1 known.2.2.1 (Option.some.inj reading)

/-- A slot that is written stands at the producer's index. -/
theorem Refines.written_slot (refines : Refines base state coherent) {index : Fin ringSlots}
    (written : writing coherent.push = some index) :
    index = slotIndex (state.memory .producer) := by
  cases position : coherent.push with
  | copying message producer remaining =>
      rw [position] at written
      rw [← Option.some.inj written, refines.writing_index position]
  | _ =>
      rw [position] at written
      cases written

/-- The slot that the consumer reads is the same in both runs. -/
theorem Refines.read_slot (refines : Refines base state coherent) {index : Fin ringSlots}
    (reading : reads state.pop = some index) :
    coherent.ring.slot (BitVec.ofNat 32 index.val) = messageAt state.memory index := by
  obtain ⟨named, different⟩ := refines.reading_index reading
  apply refines.slots
  intro written
  have same := refines.written_slot written
  rw [named] at same
  exact slotIndex_ne refines.inside.2 refines.inside.1 different same

/-- A load does not change what its CPU sees. -/
theorem view_load (cpu : Cpu) (memory : Memory) (place : Place) :
    (cpu.load base memory place).view base memory = cpu.view base memory :=
  Cache.view_fetch _ _ _ _

/-- A store changes what its CPU sees at one place. -/
theorem view_store (cpu : Cpu) (memory : Memory) (place : Place) (value : place.Value)
    (pending : List (Cache.LineOp Nat)) :
    (cpu.store base memory place value pending).view base memory =
      Function.update (cpu.view base memory) place value :=
  Cache.view_store _ _ _ _ _

end Facts

end MailMsg.Cached
