/-
Module: MailMsg.Protocol.Damage
Purpose: Whole runs of calls on one ring: the FIFO list that they implement, and what becomes of a
  slot whose memory is damaged between its push and its pop.
Source: LZAMP/protocol/mailmsg/mailmsg.c
Trusted boundary: none
Main exports: RingCall, Ring.results, Ring.copies, fifoCall, Ring.WellFormed.results_eq,
  Ring.strike, Ring.Queued, burst_rejected
-/
import MailMsg.Protocol.Crc
import MailMsg.Protocol.Ring

namespace MailMsg

/-! ### Runs of calls -/

/-- A call on a ring. -/
inductive RingCall where
  | push (message : Message)
  | pop

/-- What a call answers: its code, and the frame it copied out. -/
abbrev RingAnswer := RingResult × Option Message

/-- One call: its answer and the ring it leaves. -/
def Ring.call (ring : Ring) : RingCall → RingAnswer × Ring
  | .push message => (((ringPush ring message).1, none), (ringPush ring message).2)
  | .pop => (((ringPop ring).1, (ringPop ring).2.2), (ringPop ring).2.1)

/-- The ring after a run of calls. -/
def Ring.afterCalls (ring : Ring) : List RingCall → Ring
  | [] => ring
  | call :: calls => (ring.call call).2.afterCalls calls

/-- The answers of a run of calls. -/
def Ring.results (ring : Ring) : List RingCall → List RingAnswer
  | [] => []
  | call :: calls => (ring.call call).1 :: (ring.call call).2.results calls

/-- How many frames a run of calls copies out. -/
def Ring.copies (ring : Ring) (calls : List RingCall) : Nat :=
  (ring.results calls).countP fun answer => answer.2.isSome

/-! ### The list that a ring implements -/

/-- The verdict of pop on a committed slot. -/
def slotVerdict (slot : Message) : RingResult :=
  if slot.malformed then .invalid
  else if slot.crc32 ≠ frameCrc32 slot then .badCrc
  else .ok

/-- A call on the FIFO list: push appends a committed frame while there are fewer than seven, pop
takes the oldest one once it is committed. -/
def fifoCall (slots : List Message) : RingCall → RingAnswer × List Message
  | .push message =>
      if message.malformed then ((.invalid, none), slots)
      else if slots.length = ringSlots - 1 then ((.full, none), slots)
      else ((.ok, none), slots ++ [message.frame.committed])
  | .pop =>
      match slots with
      | [] => ((.empty, none), [])
      | slot :: rest =>
          if slot.commit ≠ slot.sequence then ((.incomplete, none), slot :: rest)
          else ((slotVerdict slot, some slot), rest)

/-- The answers of a run of calls on the FIFO list. -/
def fifoResults (slots : List Message) : List RingCall → List RingAnswer
  | [] => []
  | call :: calls => (fifoCall slots call).1 :: fifoResults (fifoCall slots call).2 calls

/-- A ring answers as its FIFO list does. -/
theorem Ring.WellFormed.call_eq {ring : Ring} (wellFormed : ring.WellFormed) (call : RingCall) :
    (ring.call call).1 = (fifoCall ring.contents call).1 ∧
      (ring.call call).2.contents = (fifoCall ring.contents call).2 ∧
      (ring.call call).2.WellFormed := by
  cases call with
  | push message =>
      obtain ⟨code, contents⟩ := ringPush_contents wellFormed message
      refine ⟨?_, ?_, wellFormed.push message⟩
      · simp only [Ring.call, fifoCall, code]
        split
        · rfl
        · split <;> rfl
      · simp only [Ring.call, fifoCall, contents, code]
        split
        · rfl
        · split <;> rfl
  | pop =>
      refine ⟨?_, ?_, wellFormed.pop⟩
      all_goals
        rcases ringPop_cases ring with ⟨empty, same⟩ | ⟨nonempty, pending, same⟩ |
          ⟨nonempty, committed, -⟩
      · simp [Ring.call, fifoCall, same, wellFormed.contents_eq_nil_iff.mpr empty]
      · simp [Ring.call, fifoCall, same, wellFormed.contents_release nonempty, pending]
      · simp only [Ring.call, fifoCall, wellFormed.contents_release nonempty, ringPop, nonempty,
          committed, slotVerdict]
        grind
      · simp [Ring.call, fifoCall, same, wellFormed.contents_eq_nil_iff.mpr empty]
      · simp [Ring.call, fifoCall, same, wellFormed.contents_release nonempty, pending]
      · simp only [Ring.call, fifoCall, wellFormed.contents_release nonempty, ringPop, nonempty,
          committed]
        grind

/-- A run of calls is determined by what the ring holds. -/
theorem Ring.WellFormed.results_eq {ring : Ring} (wellFormed : ring.WellFormed)
    (calls : List RingCall) : ring.results calls = fifoResults ring.contents calls := by
  induction calls generalizing ring with
  | nil => rfl
  | cons call calls inductionHypothesis =>
      obtain ⟨answer, contents, next⟩ := wellFormed.call_eq call
      rw [Ring.results, fifoResults, answer, inductionHypothesis next, contents]

/-! ### Lists that differ in one slot -/

/-- How many frames a run of calls on the list copies out. -/
def fifoCopies (slots : List Message) (calls : List RingCall) : Nat :=
  (fifoResults slots calls).countP fun answer => answer.2.isSome

theorem fifoCopies_cons (slots : List Message) (call : RingCall) (calls : List RingCall) :
    fifoCopies slots (call :: calls) =
      fifoCopies (fifoCall slots call).2 calls +
        if (fifoCall slots call).1.2.isSome then 1 else 0 := by
  rw [fifoCopies, fifoResults, List.countP_cons]
  rfl

/-- The call at a position of the run is the pop that reads the slot with `ahead` others in
front. -/
def ReadsSlot (slots : List Message) (ahead : Nat) (calls : List RingCall)
    (position : Nat) : Prop :=
  calls[position]? = some .pop ∧ fifoCopies slots (calls.take position) = ahead

/-- The call at a position of the run is the pop that comes after `ahead` frames are out. -/
def Ring.Reads (ring : Ring) (ahead : Nat) (calls : List RingCall) (position : Nat) : Prop :=
  calls[position]? = some .pop ∧ ring.copies (calls.take position) = ahead

theorem Ring.WellFormed.reads_iff {ring : Ring} (wellFormed : ring.WellFormed) {ahead : Nat}
    {calls : List RingCall} {position : Nat} :
    ring.Reads ahead calls position ↔ ReadsSlot ring.contents ahead calls position := by
  unfold Ring.Reads ReadsSlot Ring.copies fifoCopies
  rw [wellFormed.results_eq]

/-- Two lists that differ in one committed slot answer alike, except for the pop that reads it. -/
theorem fifoResults_twin (left right : Message) (leftCommitted : left.commit = left.sequence)
    (rightCommitted : right.commit = right.sequence) (front rest : List Message)
    (calls : List RingCall) (position : Nat) :
    (ReadsSlot (front ++ right :: rest) front.length calls position →
      (fifoResults (front ++ left :: rest) calls)[position]? = some (slotVerdict left, some left) ∧
        (fifoResults (front ++ right :: rest) calls)[position]? =
          some (slotVerdict right, some right)) ∧
      (¬ ReadsSlot (front ++ right :: rest) front.length calls position →
        (fifoResults (front ++ right :: rest) calls)[position]? =
          (fifoResults (front ++ left :: rest) calls)[position]?) := by
  induction calls generalizing front rest position with
  | nil => simp [ReadsSlot, fifoResults]
  | cons call calls inductionHypothesis =>
      cases call with
      | push message =>
          -- Both lists are equally long, so push takes the same branch and appends behind the slot.
          have same : ∃ more answer, ∀ slot : Message,
              fifoCall (front ++ slot :: rest) (.push message) =
                ((answer, none), front ++ slot :: (rest ++ more)) := by
            by_cases malformed : message.malformed
            · exact ⟨[], .invalid, fun slot => by simp [fifoCall, malformed]⟩
            · by_cases full : (front ++ left :: rest).length = ringSlots - 1
              · exact ⟨[], .full, fun slot => by simp_all [fifoCall]⟩
              · exact ⟨[message.frame.committed], .ok, fun slot => by simp_all [fifoCall]⟩
          obtain ⟨more, answer, same⟩ := same
          cases position with
          | zero => simp [ReadsSlot, fifoResults, same]
          | succ position =>
              have reads : ReadsSlot (front ++ right :: rest) front.length
                  (.push message :: calls) (position + 1) ↔
                  ReadsSlot (front ++ right :: (rest ++ more)) front.length calls position := by
                simp [ReadsSlot, fifoCopies_cons, same]
              rw [reads]
              simpa [fifoResults, same] using inductionHypothesis front (rest ++ more) position
      | pop =>
          cases front with
          | nil =>
              have popped : ∀ slot : Message, slot.commit = slot.sequence →
                  fifoCall (slot :: rest) .pop = ((slotVerdict slot, some slot), rest) := by
                intro slot committed
                simp [fifoCall, committed]
              cases position with
              | zero =>
                  simp [ReadsSlot, fifoCopies, fifoResults, popped left leftCommitted,
                    popped right rightCommitted]
              | succ position =>
                  simp [ReadsSlot, fifoCopies_cons, fifoResults, popped left leftCommitted,
                    popped right rightCommitted]
          | cons first front =>
              by_cases pending : first.commit = first.sequence
              · have popped : ∀ slot : Message,
                    fifoCall (first :: (front ++ slot :: rest)) .pop =
                      ((slotVerdict first, some first), front ++ slot :: rest) := by
                  intro slot
                  simp [fifoCall, pending]
                cases position with
                | zero => simp [ReadsSlot, fifoCopies, fifoResults, popped]
                | succ position =>
                    have reads : ReadsSlot (first :: front ++ right :: rest) (first :: front).length
                        (.pop :: calls) (position + 1) ↔
                        ReadsSlot (front ++ right :: rest) front.length calls position := by
                      simp [ReadsSlot, fifoCopies_cons, popped]
                    rw [reads]
                    simpa [fifoResults, popped] using inductionHypothesis front rest position
              · have stuck : ∀ slot : Message,
                    fifoCall (first :: (front ++ slot :: rest)) .pop =
                      ((.incomplete, none), first :: (front ++ slot :: rest)) := by
                  intro slot
                  simp [fifoCall, pending]
                cases position with
                | zero => simp [ReadsSlot, fifoCopies, fifoResults, stuck]
                | succ position =>
                    have reads : ReadsSlot (first :: front ++ right :: rest) (first :: front).length
                        (.pop :: calls) (position + 1) ↔
                        ReadsSlot (first :: front ++ right :: rest) (first :: front).length
                          calls position := by
                      simp [ReadsSlot, fifoCopies_cons, stuck]
                    rw [reads]
                    simpa [fifoResults, stuck] using
                      inductionHypothesis (first :: front) rest position

/-! ### A slot on its way to the consumer

Two runs of the same calls, one over a damaged slot: they agree call by call until the consumer
comes to the slot, and again from there on.
-/

/-- Memory damage to one slot of a ring. -/
def Ring.strike (ring : Ring) (index : U32) (damage : Damage) : Ring :=
  { ring with slot := Function.update ring.slot index ((ring.slot index).damaged damage) }

/-- The slot at `index` waits in the ring with `ahead` others in front of it. -/
structure Ring.Queued (index : U32) (slot : Message) (ahead : Nat) (ring : Ring) : Prop where
  wellFormed : ring.WellFormed
  waits : ahead < ring.occupied
  place : BitVec.ofNat 32 ((ring.consumer.toNat + ahead) % ringSlots) = index
  held : ring.slot index = slot

namespace Ring.Queued

variable {index : U32} {slot : Message} {ahead : Nat} {ring : Ring}

/-- A published slot waits behind everything that the ring held. -/
theorem publish (wellFormed : ring.WellFormed) (space : ringNext ring.producer ≠ ring.consumer) :
    (ring.publish slot).Queued ring.producer slot ring.occupied where
  wellFormed := wellFormed.publish slot
  waits := by
    have grown := congrArg List.length (wellFormed.contents_publish space slot)
    rw [Ring.contents_length, List.length_append, Ring.contents_length] at grown
    exact Nat.lt_of_lt_of_eq (Nat.lt_succ_self _) grown.symm
  place := by
    change BitVec.ofNat 32 ((ring.consumer.toNat + ring.occupied) % ringSlots) = ring.producer
    rw [wellFormed.producer_eq]
    simp
  held := Function.update_self _ _ _

theorem strike (queued : ring.Queued index slot ahead) (damage : Damage) :
    (ring.strike index damage).Queued index (slot.damaged damage) ahead where
  wellFormed := ⟨queued.wellFormed.producer, queued.wellFormed.consumer⟩
  waits := queued.waits
  place := queued.place
  held := by
    simp only [Ring.strike, Function.update_self, queued.held]

/-- A later push writes another slot. -/
theorem push (queued : ring.Queued index slot ahead) (message : Message) :
    (ringPush ring message).2.Queued index slot ahead := by
  have apart : index ≠ ring.producer := by
    rw [← queued.place]
    exact queued.wellFormed.occupied_ne_producer queued.waits
  rcases ringPush_cases ring message with ⟨-, same⟩ | ⟨-, -, same⟩ | ⟨-, space, same⟩
  · rw [same]
    exact queued
  · rw [same]
    exact queued
  · have grown := queued.wellFormed.occupied_push (congrArg Prod.fst same)
    have waits := queued.waits
    rw [same] at grown ⊢
    exact
      { wellFormed := queued.wellFormed.publish _
        waits := by rw [grown]; omega
        place := queued.place
        held := (Function.update_of_ne apart _ _).trans queued.held }

/-- With nothing in front of it the slot is the one that pop reads. -/
theorem reached (queued : ring.Queued index slot 0) :
    ring.consumer = index ∧ ring.consumer ≠ ring.producer := by
  constructor
  · have place := queued.place
    rw [Nat.add_zero, Nat.mod_eq_of_lt queued.wellFormed.consumer] at place
    simpa using place
  · intro empty
    have none := queued.wellFormed.occupied_eq_zero_iff.mpr empty
    have waits := queued.waits
    omega

/-- A pop of a slot in front brings it one place nearer. -/
theorem pop (queued : ring.Queued index slot (ahead + 1)) :
    (ringPop ring).2.1.Queued index slot
      (if (ringPop ring).2.2.isSome then ahead else ahead + 1) := by
  rcases ringPop_cases ring with ⟨-, same⟩ | ⟨-, -, same⟩ | ⟨nonempty, -, _, -, -, same⟩
  · rw [same]
    exact queued
  · rw [same]
    exact queued
  · have shrunk := queued.wellFormed.occupied_release nonempty
    have waits := queued.waits
    rw [same]
    exact
      { wellFormed := ⟨queued.wellFormed.producer, ringNext_lt _⟩
        waits := by
          simp only [Option.isSome_some, if_true]
          omega
        place := by
          simp only [Option.isSome_some, if_true, ringNext_toNat, Nat.mod_add_mod]
          rw [← queued.place, show ring.consumer.toNat + 1 + ahead =
            ring.consumer.toNat + (ahead + 1) by omega]
        held := queued.held }

/-- Calls that copy out no more than the frames in front bring the slot as many places nearer. -/
theorem afterCalls {calls : List RingCall} (queued : ring.Queued index slot ahead)
    (inFront : ring.copies calls ≤ ahead) :
    (ring.afterCalls calls).Queued index slot (ahead - ring.copies calls) := by
  induction calls generalizing ring ahead with
  | nil => exact queued
  | cons call calls inductionHypothesis =>
      have count : ring.copies (call :: calls) =
          (ring.call call).2.copies calls + if (ring.call call).1.2.isSome then 1 else 0 := by
        rw [Ring.copies, Ring.results, List.countP_cons]
        rfl
      rw [Ring.afterCalls, count]
      rw [count] at inFront
      cases call with
      | push message =>
          have none : (ring.call (.push message)).1.2.isSome = false := rfl
          rw [none] at inFront ⊢
          exact inductionHypothesis (queued.push message) inFront
      | pop =>
          cases ahead with
          | zero =>
              have unread : (ring.call .pop).1.2.isSome = false := by
                cases copied : (ring.call .pop).1.2.isSome with
                | false => rfl
                | true =>
                    rw [copied] at inFront
                    simp at inFront
              have still : (ring.call .pop).2 = ring := by
                rcases ringPop_cases ring with ⟨-, same⟩ | ⟨-, -, same⟩ | ⟨-, -, _, -, -, same⟩
                · simp only [Ring.call, same]
                · simp only [Ring.call, same]
                · simp [Ring.call, same] at unread
              rw [unread, still] at inFront ⊢
              exact inductionHypothesis queued inFront
          | succ ahead =>
              have next := queued.pop
              cases copied : (ring.call .pop).1.2.isSome with
              | false =>
                  rw [copied] at inFront
                  rw [show (ringPop ring).2.2.isSome = false from copied] at next
                  exact inductionHypothesis next inFront
              | true =>
                  rw [copied, if_pos rfl] at inFront
                  rw [show (ringPop ring).2.2.isSome = true from copied, if_pos rfl] at next
                  have nearer := inductionHypothesis next
                    (show (ring.call .pop).2.copies calls ≤ ahead by omega)
                  rw [if_pos rfl, show ahead + 1 - ((ring.call .pop).2.copies calls + 1) =
                    ahead - (ring.call .pop).2.copies calls by omega]
                  exact nearer

end Ring.Queued

/-- A pop that reads a committed slot after a burst does not return OK. -/
theorem ringPop_damaged {reached : Ring} {frame : Frame} {damage : Damage}
    (burst : Crc.Burst 32 damage.bits)
    (read : reached.slot reached.consumer = frame.committed.damaged damage) :
    (ringPop reached).1 ≠ .ok := by
  intro ok
  have checked := crc_of_ringPop_ok ok
  rw [read] at checked
  exact damaged_crc_ne rfl burst checked

/-- The CRC rejects every burst.  A frame is pushed and at most 32 consecutive bits of its 48 bytes
are turned over.  Whichever pop reads the damaged slot does not return OK; and on a ring with
indices inside the array that pop is the one after the frames in front of it are out, whatever calls
are made before and after the damage. -/
theorem burst_rejected {ring : Ring} {message : Message} {damage : Damage}
    (accepted : (ringPush ring message).1 = .ok) (burst : Crc.Burst 32 damage.bits) :
    (∀ reached : Ring,
      reached.slot reached.consumer =
          ((ringPush ring message).2.slot ring.producer).damaged damage →
        (ringPop reached).1 ≠ .ok) ∧
      (ring.WellFormed → ∀ early late : List RingCall,
        let pushed := (ringPush ring message).2
        let struck := (pushed.afterCalls early).strike ring.producer damage
        let reached := struck.afterCalls late
        pushed.copies early + struck.copies late = ring.occupied →
          reached.consumer = ring.producer ∧
            reached.slot reached.consumer = (pushed.slot ring.producer).damaged damage ∧
            (ringPop reached).1 ≠ .ok) := by
  obtain ⟨-, same⟩ := ringPush_ok accepted
  have written : (ringPush ring message).2.slot ring.producer = message.frame.committed := by
    rw [same]
    exact Function.update_self _ _ _
  rw [written]
  refine ⟨fun reached read => ringPop_damaged burst read, ?_⟩
  intro wellFormed early late pushed struck reached inFront
  have space : ringNext ring.producer ≠ ring.consumer := by
    rcases ringPush_cases ring message with ⟨-, refused⟩ | ⟨-, -, refused⟩ | ⟨-, space, -⟩
    · rw [refused] at accepted
      cases accepted
    · rw [refused] at accepted
      cases accepted
    · exact space
  have queued : pushed.Queued ring.producer message.frame.committed ring.occupied := by
    simp only [pushed, same]
    exact Ring.Queued.publish wellFormed space
  have waiting := (queued.afterCalls (show pushed.copies early ≤ ring.occupied by omega)).strike damage
  have head : reached.Queued ring.producer (message.frame.committed.damaged damage) 0 := by
    have arrived := waiting.afterCalls
      (show struck.copies late ≤ ring.occupied - pushed.copies early by omega)
    have front : ring.occupied - pushed.copies early - struck.copies late = 0 := by omega
    rw [show ((pushed.afterCalls early).strike ring.producer damage).copies late =
      struck.copies late from rfl, front] at arrived
    exact arrived
  obtain ⟨place, -⟩ := head.reached
  have read : reached.slot reached.consumer = message.frame.committed.damaged damage := by
    rw [place]
    exact head.held
  exact ⟨place, read.trans (by rw [← written]), ringPop_damaged burst read⟩

/-- The last payload bit and the first bit of the stored CRC: a burst across the two fields. -/
def straddlingDamage : Damage where
  generation := 0
  type := 0
  sequence := 0
  length := 0
  payload := fun index => if index.val = 27 then 0x80#8 else 0#8
  crc32 := 1

theorem straddlingDamage_burst : Crc.Burst 32 straddlingDamage.bits := by
  have padded : straddlingDamage.bits =
      List.replicate 351 false ++ [true, true] ++ List.replicate 31 false := by decide +kernel
  rw [padded]
  exact Crc.Burst.of_padded (by decide) (by decide)

theorem burst_rejected_straddling :
    (ringPop (((ringPush .zero { Message.zero with generation := 1, sequence := 1 }).2.afterCalls
      []).strike 0 straddlingDamage)).1 ≠ .ok := by
  have accepted : (ringPush .zero { Message.zero with generation := 1, sequence := 1 }).1 = .ok := by
    decide
  have run := (burst_rejected accepted straddlingDamage_burst).2 Ring.zero_wellFormed [] []
  exact (run rfl).2.2

end MailMsg
