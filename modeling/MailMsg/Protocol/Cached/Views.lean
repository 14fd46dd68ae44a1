/-
Module: MailMsg.Protocol.Cached.Views
Purpose: What each CPU sees of the ring at each position of its call: which scalars of its cache are
  as memory has them, and which lines its hook has still to maintain.
Source: LZAMP/protocol/mailmsg/mailmsg.c
Trusted boundary: none beyond the machine
Main exports: Cached.ProducerKnows, Cached.ConsumerKnows, Cached.perform_same
-/
import MailMsg.Protocol.Cached.Machine

namespace MailMsg.Cached

open Spsc (Field copyField PushPc PopPc)

/-! ### Layout facts -/

/-- A range of one aligned word lies in one line. -/
theorem linesOver_word {start : Nat} (aligned : start % 4 = 0) :
    linesOver start 4 = [start / 64] := by
  have same : (start + 4 - 1) / 64 - start / 64 + 1 = 1 := by omega
  rw [linesOver, same]
  rfl

/-- The line of every byte of a range is among its lines. -/
theorem mem_linesOver {start length offset : Nat} (low : start ≤ offset)
    (high : offset < start + length) : offset / 64 ∈ linesOver start length := by
  rw [linesOver, List.mem_range'_1]
  have first : start / 64 ≤ offset / 64 := Nat.div_le_div_right low
  have last : offset / 64 ≤ (start + length - 1) / 64 := Nat.div_le_div_right (by omega)
  omega

/-- Every scalar starts inside its message. -/
theorem fieldOffset_lt (field : Field) : fieldOffset field < messageBytes := by
  cases field with
  | payload index =>
      have bound : index.val < 28 := index.isLt
      simp only [fieldOffset, messageBytes, commitOffset, crcOffset, payloadOffset, payloadBytes]
      omega
  | _ => decide

/-- The hooks over a slot maintain the line of each of its scalars. -/
theorem mem_slotLines (base : Nat) (index : Fin ringSlots) (field : Field) :
    lineOf base (.slot index field) ∈ linesOver (base + slotOffset index.val) messageBytes := by
  have bound := fieldOffset_lt field
  apply mem_linesOver
  · simp only [Place.offset]
    omega
  · simp only [Place.offset]
    omega

/-- The region, its header and the rings are made of whole words. -/
theorem ringBase_aligned (sender : Role) (priority : Priority) :
    ringBase sender priority % 4 = 0 := by
  have ring := ringOffset_aligned sender priority
  simp only [ringBase, mailmsgOffset]
  omega

section Words

variable {base : Nat} (aligned : base % 4 = 0)
include aligned

theorem acquire_consumer : acquire base (Place.offset .consumer) 4 =
    [.drop (lineOf base .consumer)] := by
  rw [acquire, linesOver_word (by simp only [Place.offset]; omega)]
  rfl

theorem acquire_producer : acquire base (Place.offset .producer) 4 =
    [.drop (lineOf base .producer)] := by
  rw [acquire, linesOver_word (by simp only [Place.offset]; omega)]
  rfl

theorem publish_producer : publish base (Place.offset .producer) 4 =
    [.clean (lineOf base .producer)] := by
  rw [publish, linesOver_word (by simp only [Place.offset]; omega)]
  rfl

theorem publish_consumer : publish base (Place.offset .consumer) 4 =
    [.clean (lineOf base .consumer)] := by
  rw [publish, linesOver_word (by simp only [Place.offset]; omega)]
  rfl

/-- The commit word lies in one line, as it is aligned. -/
theorem publish_commit (index : Fin ringSlots) :
    publish base (Place.offset (.slot index .commit)) 4 =
      [.clean (lineOf base (.slot index .commit))] := by
  have inSlot : (slotOffset index.val + commitOffset) % 4 = 0 := by
    rw [Nat.add_mod, slotOffset_aligned]
    rfl
  rw [publish, linesOver_word (by simp only [Place.offset, fieldOffset]; omega)]
  rfl

end Words

/-! ### Slots as messages -/

/-- Storing one scalar of a message into a slot. -/
theorem messageAt_store (memory : Memory) (index : Fin ringSlots) (message : Message)
    (field : Field) :
    messageAt (Function.update memory (.slot index field) (fieldOf message field)) index =
      copyField message (messageAt memory index) field := by
  cases field with
  | payload offset =>
      have payload : ∀ other, Function.update memory (.slot index (.payload offset))
          (fieldOf message (.payload offset)) (.slot index (.payload other)) =
            Function.update (messageAt memory index).payload offset
              (message.payload offset) other := by
        intro other
        by_cases same : other = offset
        · subst same
          simp [fieldOf]
        · have different : Place.slot index (.payload other) ≠ .slot index (.payload offset) := by
            simp [same]
          rw [Function.update_of_ne different, Function.update_of_ne same]
          rfl
      simp only [messageAt, copyField, Message.mk.injEq]
      refine ⟨by simp, by simp, by simp, by simp, funext payload, by simp, by simp⟩
  | _ => simp [messageAt, copyField, fieldOf]

/-- A slot reads alike where its scalars are alike. -/
theorem messageAt_congr {memory memory' : Memory} {index : Fin ringSlots}
    (same : ∀ field, memory' (.slot index field) = memory (.slot index field)) :
    messageAt memory' index = messageAt memory index := by
  simp only [messageAt, same]

/-- An index below the number of slots selects its slot. -/
theorem slotIndex_ofNat (index : Fin ringSlots) :
    slotIndex (BitVec.ofNat 32 index.val) = index := by
  apply Fin.ext
  have bound : index.val < 8 := index.isLt
  simp only [slotIndex, BitVec.toNat_ofNat, ringSlots]
  omega

/-- The slot of an index inside the ring. -/
theorem ofNat_slotIndex {index : U32} (inside : index.toNat < ringSlots) :
    BitVec.ofNat 32 (slotIndex index).val = index := by
  apply BitVec.eq_of_toNat_eq
  have bound : index.toNat < 8 := inside
  simp only [slotIndex, BitVec.toNat_ofNat, ringSlots]
  omega

/-- Different indices inside the ring select different slots. -/
theorem slotIndex_ne {first second : U32} (firstInside : first.toNat < ringSlots)
    (secondInside : second.toNat < ringSlots) (different : first ≠ second) :
    slotIndex first ≠ slotIndex second := by
  intro same
  apply different
  rw [← ofNat_slotIndex firstInside, same, ofNat_slotIndex secondInside]

/-! ### What each side knows

A side's view of its own words is ahead of memory only at the words that it has stored and not yet
written back.  Of the other side's words it knows memory as it was when the line was fetched, and
the hooks drop a line before a word of the other side is loaded.
-/

/-- The words of the producer that its cache holds ahead of memory. -/
def ahead (base : Nat) (pending : List (Cache.LineOp Nat)) : PushPc → Place → Prop
  | .copying _ producer _, place => ∃ field, place = .slot (slotIndex producer) field
  | .crc _ producer, place => ∃ field, place = .slot (slotIndex producer) field
  | .commit _ producer, place =>
      ∃ field, place = .slot (slotIndex producer) field ∧ .clean (lineOf base place) ∈ pending
  | .index _ producer, place =>
      place = .slot (slotIndex producer) .commit ∧ .clean (lineOf base place) ∈ pending
  | .returning _, place => place = .producer ∧ .clean (lineOf base place) ∈ pending
  | .idle, _ => False
  | .loaded _ _, _ => False

/-- What the producer's position guarantees about its view. -/
def PushKnown (base : Nat) (memory : Memory) (cpu : Cpu) : PushPc → Prop
  | .idle => cpu.pending = []
  | .loaded message _ =>
      cpu.pending = [.drop (lineOf base .consumer)] ∨
        (cpu.pending = [] ∧
          (¬ message.malformed → cpu.cache.present (lineOf base .consumer) = false))
  | .copying message producer remaining =>
      cpu.pending = [] ∧
        Spsc.CopiedExcept message (messageAt (cpu.view base memory) (slotIndex producer)) remaining
  | .crc message producer =>
      cpu.pending = [] ∧
        messageAt (cpu.view base memory) (slotIndex producer) = { message with commit := 0 }
  | .commit message producer =>
      (∀ operation ∈ cpu.pending, ∃ line, operation = .clean line) ∧
        messageAt (cpu.view base memory) (slotIndex producer) =
          { message with commit := 0, crc32 := frameCrc32 message }
  | .index message producer =>
      (cpu.pending = [.clean (lineOf base (.slot (slotIndex producer) .commit))] ∨
        cpu.pending = []) ∧
        messageAt (cpu.view base memory) (slotIndex producer) = message.frame.committed
  | .returning message =>
      cpu.pending = [] ∨
        (cpu.pending = [.clean (lineOf base .producer)] ∧
          messageAt (cpu.view base memory) (slotIndex (memory .producer)) =
            message.frame.committed ∧
          cpu.view base memory .producer = ringNext (memory .producer))

/-- The producer's view of its own words. -/
structure ProducerKnows (base : Nat) (memory : Memory) (cpu : Cpu) (push : PushPc) : Prop where
  own : ∀ place, place.owner = .producer → ¬ ahead base cpu.pending push place →
    cpu.view base memory place = memory place
  position : PushKnown base memory cpu push

/-- What the consumer's position guarantees about its view. -/
def PopKnown (base : Nat) (memory : Memory) (cpu : Cpu) : PopPc → Prop
  | .idle => cpu.pending = []
  | .loaded _ _ =>
      cpu.pending = [.drop (lineOf base .producer)] ∨
        (cpu.pending = [] ∧ cpu.cache.present (lineOf base .producer) = false)
  | .nonempty _ consumer =>
      (∀ operation ∈ cpu.pending, ∃ line, operation = .drop line) ∧
        ∀ field, .drop (lineOf base (.slot (slotIndex consumer) field)) ∉ cpu.pending →
          cpu.view base memory (.slot (slotIndex consumer) field) =
            memory (.slot (slotIndex consumer) field)
  | .commit _ consumer _ =>
      cpu.pending = [] ∧ ∀ field, cpu.view base memory (.slot (slotIndex consumer) field) =
        memory (.slot (slotIndex consumer) field)
  | .copying _ consumer _ =>
      cpu.pending = [] ∧ ∀ field, cpu.view base memory (.slot (slotIndex consumer) field) =
        memory (.slot (slotIndex consumer) field)
  | .checking _ =>
      cpu.pending = [] ∨
        (cpu.pending = [.clean (lineOf base .consumer)] ∧
          cpu.view base memory .consumer = ringNext (memory .consumer))

/-- The consumer has stored its index and not yet written it back. -/
def releasing (pending : List (Cache.LineOp Nat)) : PopPc → Prop
  | .checking _ => pending ≠ []
  | _ => False

/-- The consumer's view of its own word and of the slot that it reads. -/
structure ConsumerKnows (base : Nat) (memory : Memory) (cpu : Cpu) (pop : PopPc) : Prop where
  own : ¬ releasing cpu.pending pop → cpu.view base memory .consumer = memory .consumer
  position : PopKnown base memory cpu pop

section Knowledge

variable {base : Nat} {memory memory' : Memory} {cpu : Cpu}

/-- The producer's words are not changed by the consumer. -/
theorem ProducerKnows.transport {push : PushPc} (knows : ProducerKnows base memory cpu push)
    (same : ∀ place, place.owner = .producer → memory' place = memory place) :
    ProducerKnows base memory' cpu push := by
  have view : ∀ place, place.owner = .producer → cpu.view base memory' place =
      cpu.view base memory place :=
    fun place owned => Cache.view_congr _ _ _ (same place owned)
  have slot : ∀ index, messageAt (cpu.view base memory') index =
      messageAt (cpu.view base memory) index :=
    fun index => messageAt_congr fun field => view _ rfl
  constructor
  · intro place owned behind
    rw [view place owned, same place owned]
    exact knows.own place owned behind
  · have position := knows.position
    cases push with
    | idle | loaded => exact position
    | copying | crc | commit | index => simpa only [PushKnown, slot] using position
    | returning =>
        simpa only [PushKnown, slot, same .producer rfl, view .producer rfl] using position

/-- The slot that the consumer reads, from the moment it saw the ring non-empty. -/
def reads : PopPc → Option (Fin ringSlots)
  | .nonempty _ consumer | .commit _ consumer _ | .copying _ consumer _ => some (slotIndex consumer)
  | _ => none

/-- The consumer's knowledge survives changes outside its index and the slot that it reads. -/
theorem ConsumerKnows.transport {pop : PopPc} (knows : ConsumerKnows base memory cpu pop)
    (sameIndex : memory' .consumer = memory .consumer)
    (sameSlot : ∀ index, reads pop = some index →
      ∀ field, memory' (.slot index field) = memory (.slot index field)) :
    ConsumerKnows base memory' cpu pop := by
  have view : ∀ place, memory' place = memory place →
      cpu.view base memory' place = cpu.view base memory place :=
    fun place same => Cache.view_congr _ _ _ same
  constructor
  · intro quiet
    rw [view _ sameIndex, sameIndex]
    exact knows.own quiet
  · have position := knows.position
    cases pop with
    | idle | loaded => exact position
    | nonempty buffer consumer =>
        refine ⟨position.1, fun field fetched => ?_⟩
        have same := sameSlot _ rfl field
        rw [view _ same, same]
        exact position.2 field fetched
    | commit buffer consumer commit =>
        refine ⟨position.1, fun field => ?_⟩
        have same := sameSlot _ rfl field
        rw [view _ same, same]
        exact position.2 field
    | copying buffer consumer remaining =>
        refine ⟨position.1, fun field => ?_⟩
        have same := sameSlot _ rfl field
        rw [view _ same, same]
        exact position.2 field
    | checking buffer =>
        simpa only [PopKnown, sameIndex, view _ sameIndex] using position

/-- A write-back that carries current words of the other side changes memory only where the side's
own words are ahead. -/
theorem perform_same {side : Side} {operation : Cache.LineOp Nat} {place : Place}
    (current : carriesCurrent base memory cpu side operation = true)
    (own : place.owner = side → cpu.view base memory place = memory place) :
    (cpu.cache.perform (lineOf base) memory operation).1 place = memory place := by
  unfold Cache.perform
  by_cases written : cpu.cache.writesBack operation
  · simp only [written, if_true]
    split
    · rename_i inLine
      have present : cpu.cache.present (lineOf base place) = true := by
        rw [inLine]
        cases operation with
        | clean line => exact written
        | drop line =>
            simp only [Cache.writesBack, Bool.and_eq_true] at written
            exact written.1
      by_cases owned : place.owner = side
      · have shown := own owned
        simpa [Cpu.view, Cache.view, present] using shown
      · simp only [carriesCurrent, written, Bool.not_true, Bool.false_or,
          List.all_eq_true] at current
        have carried := current place place.mem_all
        simpa [inLine, owned] using carried
    · rfl
  · simp [written]

end Knowledge

end MailMsg.Cached
