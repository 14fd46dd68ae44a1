/-
Module: MailMsg.Protocol.Cached.Machine
Purpose: Push and pop on two CPUs with private write-back caches that only the publish and acquire
  hooks keep in step.  A write-back moves whole lines, and the lines of the ring hold words of both
  CPUs.
Source: LZAMP/protocol/mailmsg/mailmsg.c, LZAMP/protocol/mailmsg/mailmsg.h
Trusted boundary: human-reviewed embedding of the source; lines of 64 bytes, no eviction or
  prefetch; the words around the ring are not accessed
Main exports: Cached.Place, Cached.ringBase, Cached.State, Cached.step, Cached.machine,
  Cached.admissible
-/
import MailMsg.Lib.Cache
import MailMsg.Protocol.Interleaving
import MailMsg.Protocol.Layout

namespace MailMsg.Cached

open Spsc (Field copyField PushPc PopPc)

/-! ### Layout -/

/-- One scalar of a ring. -/
inductive Place where
  | producer
  | consumer
  | slot (index : Fin ringSlots) (field : Field)
deriving DecidableEq

/-- Payload scalars are bytes, the others words. -/
abbrev FieldValue : Field → Type
  | .payload _ => U8
  | _ => U32

/-- What a scalar holds. -/
abbrev Place.Value : Place → Type
  | .slot _ field => FieldValue field
  | _ => U32

instance (field : Field) : DecidableEq (FieldValue field) :=
  match field with
  | .payload _ => inferInstanceAs (DecidableEq U8)
  | .generation | .type | .sequence | .length | .crc32
  | .commit => inferInstanceAs (DecidableEq U32)

instance (place : Place) : DecidableEq place.Value :=
  match place with
  | .slot _ field => inferInstanceAs (DecidableEq (FieldValue field))
  | .producer | .consumer => inferInstanceAs (DecidableEq U32)

/-- Every scalar of a ring. -/
def Place.all : List Place :=
  [.producer, .consumer] ++
    (List.finRange ringSlots).flatMap fun index => Field.all.map (Place.slot index)

theorem Place.mem_all (place : Place) : place ∈ Place.all := by
  cases place with
  | producer | consumer => simp [Place.all]
  | slot index field => simp [Place.all, Field.mem_all]

/-- Byte offsets in `struct mailmsg_message`. -/
def fieldOffset : Field → Nat
  | .generation => 0
  | .type => 4
  | .sequence => 8
  | .length => 12
  | .payload index => payloadOffset + index.val
  | .crc32 => crcOffset
  | .commit => commitOffset

/-- Byte offsets in `struct mailmsg_ring`. -/
def Place.offset : Place → Nat
  | .producer => 0
  | .consumer => 4
  | .slot index field => slotOffset index.val + fieldOffset field

/-- Byte offset of a ring from the aligned base. -/
def ringBase (sender : Role) (priority : Priority) : Nat :=
  mailmsgOffset + ringOffset sender priority

/-- The cache line of a scalar; no scalar crosses a line. -/
def lineOf (base : Nat) (place : Place) : Nat := (base + place.offset) / 64

/-- The lines that overlap a range of bytes. -/
def linesOver (start length : Nat) : List Nat :=
  List.range' (start / 64) ((start + length - 1) / 64 - start / 64 + 1)

/-- The values of every scalar. -/
abbrev Memory := (place : Place) → place.Value

/-- The slot that an index selects.  The indices of a run stay below the number of slots. -/
def slotIndex (index : U32) : Fin ringSlots := ⟨index.toNat % ringSlots, Nat.mod_lt _ (by decide)⟩

/-- One slot as a message. -/
def messageAt (memory : Memory) (index : Fin ringSlots) : Message where
  generation := memory (.slot index .generation)
  type := memory (.slot index .type)
  sequence := memory (.slot index .sequence)
  length := memory (.slot index .length)
  payload := fun offset => memory (.slot index (.payload offset))
  crc32 := memory (.slot index .crc32)
  commit := memory (.slot index .commit)

/-- One scalar of a message. -/
def fieldOf (message : Message) : (field : Field) → FieldValue field
  | .generation => message.generation
  | .type => message.type
  | .sequence => message.sequence
  | .length => message.length
  | .payload index => message.payload index
  | .crc32 => message.crc32
  | .commit => message.commit

/-! ### The two CPUs -/

/-- The sides of a ring. -/
inductive Side where
  | producer
  | consumer
deriving DecidableEq

/-- The consumer writes its index; everything else is written by the producer. -/
def Place.owner : Place → Side
  | .consumer => .consumer
  | _ => .producer

/-- A cache, and the lines that a hook in progress has still to maintain. -/
structure Cpu where
  cache : Cache Nat Place.Value
  pending : List (Cache.LineOp Nat)

/-- Memory, the two CPUs and their positions.  `pushed` are the frames whose producer-index store
has been executed and `pops` the finished pops, oldest first: history that no operation reads. -/
structure State where
  memory : Memory
  producing : Cpu
  consuming : Cpu
  push : PushPc
  pop : PopPc
  pushed : List Frame
  pops : List (RingResult × Message)

/-- One memory access, line maintenance, call or return of one side. -/
inductive Label where
  | push (message : Message)
  | pushStep
  | pushCopy (field : Field)
  | pushHook
  | pop (buffer : Message)
  | popStep
  | popCopy (field : Field)
  | popHook

section Steps

variable (base : Nat)

/-- The value that a load returns. -/
def Cpu.view (cpu : Cpu) (memory : Memory) : Memory := cpu.cache.view (lineOf base) memory

/-- A load makes its line present. -/
def Cpu.load (cpu : Cpu) (memory : Memory) (place : Place) : Cpu :=
  { cpu with cache := cpu.cache.fetch (lineOf base) memory (lineOf base place) }

/-- A store, with the lines of the hook that follows it. -/
def Cpu.store (cpu : Cpu) (memory : Memory) (place : Place) (value : place.Value)
    (pending : List (Cache.LineOp Nat)) : Cpu where
  cache := cpu.cache.store (lineOf base) memory place value
  pending := pending

/-- `ops->publish`. -/
def publish (offset length : Nat) : List (Cache.LineOp Nat) :=
  (linesOver (base + offset) length).map .clean

/-- `ops->acquire`. -/
def acquire (offset length : Nat) : List (Cache.LineOp Nat) :=
  (linesOver (base + offset) length).map .drop

/-- The next line of the hook in progress. -/
def Cpu.hook (cpu : Cpu) (memory : Memory) : Option (Memory × Cpu) :=
  match cpu.pending with
  | [] => none
  | operation :: rest =>
      let performed := cpu.cache.perform (lineOf base) memory operation
      some (performed.1, { cache := performed.2, pending := rest })

/-- The next access of `mailmsg_ring_push` in program order. -/
def pushStep (state : State) : Option State :=
  let cpu := state.producing
  match state.push with
  | .idle => none
  | .loaded message producer =>
      if message.malformed then some { state with push := .idle }
      else
        let loaded := { state with producing := cpu.load base state.memory .consumer }
        if ringNext producer = cpu.view base state.memory .consumer then
          some { loaded with push := .idle }
        else some { loaded with push := .copying message producer Field.all }
  | .copying message producer [] =>
      some
        { state with
          producing := cpu.store base state.memory (.slot (slotIndex producer) .commit) 0#32 []
          push := .crc message producer }
  | .copying _ _ (_ :: _) => none
  | .crc message producer =>
      let slot := messageAt (cpu.view base state.memory) (slotIndex producer)
      some
        { state with
          producing := cpu.store base state.memory (.slot (slotIndex producer) .crc32)
            (frameCrc32 slot) (publish base (slotOffset (slotIndex producer).val) messageBytes)
          push := .commit message producer }
  | .commit message producer =>
      some
        { state with
          producing := cpu.store base state.memory (.slot (slotIndex producer) .commit)
            message.sequence
            (publish base (Place.offset (.slot (slotIndex producer) .commit)) 4)
          push := .index message producer }
  | .index message producer =>
      some
        { state with
          producing := cpu.store base state.memory .producer (ringNext producer)
            (publish base (Place.offset .producer) 4)
          pushed := state.pushed ++ [message.frame]
          push := .returning message }
  | .returning _ => some { state with push := .idle }

/-- The next access of `mailmsg_ring_pop` in program order. -/
def popStep (state : State) : Option State :=
  let cpu := state.consuming
  match state.pop with
  | .idle => none
  | .loaded buffer consumer =>
      let loaded := cpu.load base state.memory .producer
      if consumer = cpu.view base state.memory .producer then
        some
          { state with
            consuming := loaded
            pop := .idle
            pops := state.pops ++ [(.empty, buffer)] }
      else
        some
          { state with
            consuming :=
              { loaded with pending := acquire base (slotOffset (slotIndex consumer).val) messageBytes }
            pop := .nonempty buffer consumer }
  | .nonempty buffer consumer =>
      some
        { state with
          consuming := cpu.load base state.memory (.slot (slotIndex consumer) .commit)
          pop := .commit buffer consumer
            (cpu.view base state.memory (.slot (slotIndex consumer) .commit)) }
  | .commit buffer consumer commit =>
      let loaded := cpu.load base state.memory (.slot (slotIndex consumer) .sequence)
      if commit ≠ cpu.view base state.memory (.slot (slotIndex consumer) .sequence) then
        some
          { state with
            consuming := loaded
            pop := .idle
            pops := state.pops ++ [(.incomplete, buffer)] }
      else some { state with consuming := loaded, pop := .copying buffer consumer Field.all }
  | .copying buffer consumer [] =>
      some
        { state with
          consuming := cpu.store base state.memory .consumer (ringNext consumer)
            (publish base (Place.offset .consumer) 4)
          pop := .checking buffer }
  | .copying _ _ (_ :: _) => none
  | .checking buffer =>
      let result :=
        if buffer.malformed then RingResult.invalid
        else if buffer.crc32 ≠ frameCrc32 buffer then .badCrc
        else .ok
      some { state with pop := .idle, pops := state.pops ++ [(result, buffer)] }

/-- One step of either side.  A call does not go on while a hook is in progress. -/
def step (state : State) : Label → Option State
  | .push message =>
      match state.push, state.producing.pending with
      | .idle, [] =>
          let cpu := state.producing
          some
            { state with
              producing :=
                { cpu.load base state.memory .producer with
                  -- The argument checks precede the hook.
                  pending :=
                    if message.malformed then [] else acquire base (Place.offset .consumer) 4 }
              push := .loaded message (cpu.view base state.memory .producer) }
      | _, _ => none
  | .pushStep => if state.producing.pending = [] then pushStep base state else none
  | .pushCopy field =>
      match state.push, state.producing.pending with
      | .copying message producer remaining, [] =>
          if field ∈ remaining then
            some
              { state with
                producing := state.producing.store base state.memory
                  (.slot (slotIndex producer) field) (fieldOf message field) []
                push := .copying message producer (remaining.erase field) }
          else none
      | _, _ => none
  | .pushHook =>
      match state.producing.hook base state.memory with
      | none => none
      | some (memory, cpu) => some { state with memory := memory, producing := cpu }
  | .pop buffer =>
      match state.pop, state.consuming.pending with
      | .idle, [] =>
          let cpu := state.consuming
          some
            { state with
              consuming :=
                { cpu.load base state.memory .consumer with
                  pending := acquire base (Place.offset .producer) 4 }
              pop := .loaded buffer (cpu.view base state.memory .consumer) }
      | _, _ => none
  | .popStep => if state.consuming.pending = [] then popStep base state else none
  | .popCopy field =>
      match state.pop, state.consuming.pending with
      | .copying buffer consumer remaining, [] =>
          if field ∈ remaining then
            let source := messageAt (state.consuming.view base state.memory) (slotIndex consumer)
            some
              { state with
                consuming := state.consuming.load base state.memory
                  (.slot (slotIndex consumer) field)
                pop := .copying (copyField source buffer field) consumer (remaining.erase field) }
          else none
      | _, _ => none
  | .popHook =>
      match state.consuming.hook base state.memory with
      | none => none
      | some (memory, cpu) => some { state with memory := memory, consuming := cpu }

/-- An empty ring, clean caches and nobody inside a call.  A cache may hold any lines as memory has
them. -/
structure Start (state : State) : Prop where
  empty : state.memory .producer = state.memory .consumer
  inside : (state.memory .producer).toNat < ringSlots
  producing : ∀ place, state.producing.view base state.memory place = state.memory place
  consuming : ∀ place, state.consuming.view base state.memory place = state.memory place
  settled : state.producing.pending = [] ∧ state.consuming.pending = []
  resting : state.push = .idle ∧ state.pop = .idle
  fresh : state.pushed = [] ∧ state.pops = []

/-- Two CPUs over the ring at this offset. -/
def machine : Machine State Label where
  init := Start base
  step := step base

/-- The frames that pop delivered, oldest first. -/
def State.delivered (state : State) : List Frame :=
  state.pops.filterMap fun record => if record.1 = .ok then some record.2.frame else none

/-- If this operation writes its line back, the words of the other side in the cached copy are as
memory has them. -/
def carriesCurrent (memory : Memory) (cpu : Cpu) (side : Side)
    (operation : Cache.LineOp Nat) : Bool :=
  !cpu.cache.writesBack operation ||
    Place.all.all fun place =>
      decide (lineOf base place ≠ operation.line) || decide (place.owner = side) ||
        decide (cpu.cache.copy place = memory place)

/-- No write-back carries a stale word of the other side. -/
def admissible (state : State) : Label → Bool
  | .pushHook =>
      state.producing.pending.head?.all (carriesCurrent base state.memory state.producing .producer)
  | .popHook =>
      state.consuming.pending.head?.all (carriesCurrent base state.memory state.consuming .consumer)
  | _ => true

end Steps

end MailMsg.Cached
