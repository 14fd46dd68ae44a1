/-
Module: MailMsg.Protocol.Cached.Producer
Purpose: Every step of the producer keeps the relation to coherent memory: the accesses of a push,
  its copies and the write-backs of its hooks.
Source: LZAMP/protocol/mailmsg/mailmsg.c (mailmsg_ring_push)
Trusted boundary: none beyond the machine
Main exports: Cached.Refines.callPush, Cached.Refines.pushStep, Cached.Refines.pushCopy,
  Cached.Refines.pushHook
-/
import MailMsg.Protocol.Cached.Refinement

namespace MailMsg.Cached

open Spsc (Field copyField PushPc PopPc)

/-! ### The producer's steps -/

section Producer

variable {base : Nat} {state : State} {coherent : Spsc.State}

/-- A step of the producer that leaves memory and the coherent run as they are. -/
theorem Refines.internalPush (refines : Refines base state coherent) {cpu : Cpu} {push : PushPc}
    {pushed : List Frame}
    (position : coherentPush state.memory cpu.pending push =
      coherentPush state.memory state.producing.pending state.push)
    (history : pushed = coherent.published ++ unpublished cpu.pending push)
    (knows : ProducerKnows base state.memory cpu push) :
    Refines base { state with producing := cpu, push := push, pushed := pushed } coherent :=
  { refines with
    push := refines.push.trans position.symm
    pushed := history
    producing := knows }

/-- A step of the producer that leaves memory as it is and moves the coherent push between two
positions that write no slot. -/
theorem Refines.coherentPushStep (refines : Refines base state coherent) {cpu : Cpu} {push : PushPc}
    {label : Spsc.Label} {after : Spsc.State}
    (taken : Spsc.machine.step coherent label = some after) (sameRing : after.ring = coherent.ring)
    (quiet : writing coherent.push = none)
    (position : after.push = coherentPush state.memory cpu.pending push)
    (samePop : after.pop = coherent.pop) (samePops : after.pops = coherent.pops)
    (samePublished : after.published = coherent.published)
    (history : unpublished cpu.pending push = unpublished state.producing.pending state.push)
    (knows : ProducerKnows base state.memory cpu push) :
    Refines base { state with producing := cpu, push := push } after where
  reached := refines.reached.step taken
  producer := by rw [sameRing, refines.producer]
  consumer := by rw [sameRing, refines.consumer]
  slots := by
    intro index _
    rw [sameRing]
    exact refines.slots index (by simp [quiet])
  push := position
  pop := by rw [samePop, refines.pop]
  pops := by rw [samePops, refines.pops]
  pushed := by rw [samePublished, history, refines.pushed]
  producing := knows
  consuming := refines.consuming

/-- The call of a push. -/
theorem Refines.callPush (refines : Refines base state coherent) (aligned : base % 4 = 0)
    {message : Message} (idle : state.push = .idle) :
    ∃ after, Refines base
      { state with
        producing :=
          { state.producing.load base state.memory .producer with
            pending := if message.malformed then [] else acquire base (Place.offset .consumer) 4 }
        push := .loaded message (state.producing.view base state.memory .producer) } after := by
  have position : coherent.push = .idle := by rw [refines.push, idle]; rfl
  have own := refines.producing.own
  rw [idle] at own
  have index : state.producing.view base state.memory .producer = coherent.ring.producer := by
    rw [own .producer rfl (by simp [ahead]), refines.producer]
  have stepped : Spsc.machine.step coherent (.push message) =
      some { coherent with
        push := .loaded message coherent.ring.producer
        called := coherent.ring } := by
    simp [Spsc.machine, Spsc.step, position]
  refine ⟨_, refines.coherentPushStep stepped rfl (by simp [position, writing]) ?_ rfl rfl rfl ?_ ?_⟩
  · rw [index]
    rfl
  · simp [unpublished, idle]
  · constructor
    · intro place owned _
      have same := own place owned (by simp [ahead])
      rw [← view_load] at same
      exact same
    · by_cases malformed : message.malformed
      · simp [PushKnown, malformed]
      · simp only [PushKnown, malformed, acquire_consumer aligned]
        exact .inl rfl

theorem not_ahead_consumer (pending : List (Cache.LineOp Nat)) (push : PushPc) :
    ¬ ahead base pending push .consumer := by
  cases push <;> simp [ahead]

/-- A slot whose words are ahead is the one being written. -/
theorem writing_of_ahead (memory : Memory) {pending : List (Cache.LineOp Nat)} {push : PushPc}
    {index : Fin ringSlots} {field : Field} (early : ahead base pending push (.slot index field)) :
    writing (coherentPush memory pending push) = some index := by
  cases push with
  | idle | loaded => cases early
  | copying message producer remaining | crc message producer =>
      obtain ⟨other, same⟩ := early
      cases same
      rfl
  | commit message producer =>
      obtain ⟨other, same, -⟩ := early
      cases same
      rfl
  | index message producer =>
      obtain ⟨same, -⟩ := early
      cases same
      rfl
  | returning message =>
      obtain ⟨same, -⟩ := early
      cases same

/-- Words of other lines stay ahead when one line is written back. -/
theorem ahead_of_cons {line : Nat} {rest : List (Cache.LineOp Nat)} {push : PushPc} {place : Place}
    (early : ahead base (.clean line :: rest) push place) (other : lineOf base place ≠ line) :
    ahead base rest push place := by
  have later : Cache.LineOp.clean (lineOf base place) ∈ Cache.LineOp.clean line :: rest →
      Cache.LineOp.clean (lineOf base place) ∈ rest := by
    intro member
    rcases List.mem_cons.mp member with same | member
    · exact absurd (Cache.LineOp.clean.inj same) other
    · exact member
  cases push with
  | idle | loaded => cases early
  | copying message producer remaining | crc message producer => exact early
  | commit message producer =>
      obtain ⟨field, same, member⟩ := early
      exact ⟨field, same, later member⟩
  | index message producer => exact ⟨early.1, later early.2⟩
  | returning message => exact ⟨early.1, later early.2⟩

/-- The memory and the producer after the hook's next line. -/
def hooked (base : Nat) (state : State) (operation : Cache.LineOp Nat)
    (rest : List (Cache.LineOp Nat)) : State :=
  { state with
    memory := (state.producing.cache.perform (lineOf base) state.memory operation).1
    producing :=
      { cache := (state.producing.cache.perform (lineOf base) state.memory operation).2
        pending := rest } }

section Hook

variable {operation : Cache.LineOp Nat} {rest : List (Cache.LineOp Nat)}

/-- A hook of the producer changes memory only where its words are ahead. -/
theorem Refines.hook_memory (refines : Refines base state coherent)
    (current : carriesCurrent base state.memory state.producing .producer operation = true)
    {place : Place} (behind : ¬ ahead base state.producing.pending state.push place) :
    (hooked base state operation rest).memory place = state.memory place :=
  perform_same current fun owned => refines.producing.own place owned behind

/-- What a hook of the producer leaves to the consumer. -/
theorem Refines.hook_consuming (refines : Refines base state coherent)
    (current : carriesCurrent base state.memory state.producing .producer operation = true) :
    ConsumerKnows base (hooked base state operation rest).memory state.consuming state.pop := by
  apply refines.consuming.transport
  · exact refines.hook_memory current (not_ahead_consumer _ _)
  · intro index reading field
    apply refines.hook_memory current
    intro early
    have written := writing_of_ahead state.memory early
    rw [← refines.push] at written
    obtain ⟨named, different⟩ := refines.reading_index reading
    have same := refines.written_slot written
    rw [named] at same
    exact slotIndex_ne refines.inside.2 refines.inside.1 different same

/-- A cleaned line leaves the producer's view alone and brings memory up to it. -/
theorem Refines.hook_own (refines : Refines base state coherent) {line : Nat}
    (queued : state.producing.pending = .clean line :: rest) {place : Place}
    (owned : place.owner = .producer) (behind : ¬ ahead base rest state.push place) :
    (hooked base state (.clean line) rest).producing.view base
        (hooked base state (.clean line) rest).memory place =
      (hooked base state (.clean line) rest).memory place := by
  have view := Cache.view_clean (lineOf base) state.memory state.producing.cache line
  have memory := Cache.memory_clean (lineOf base) state.memory state.producing.cache line place
  have shown := congrFun view place
  refine shown.trans (Eq.trans ?_ memory.symm)
  split
  · rfl
  · rename_i other
    apply refines.producing.own place owned
    rw [queued]
    exact fun early => behind (ahead_of_cons early other)

/-- Before its last store a push stands in the coherent run where its position alone puts it. -/
theorem coherentPush_congr {push : PushPc} (notReturning : ∀ message, push ≠ .returning message)
    (memory memory' : Memory) (pending pending' : List (Cache.LineOp Nat)) :
    coherentPush memory pending push = coherentPush memory' pending' push ∧
      unpublished pending push = unpublished pending' push := by
  cases push with
  | returning message => exact absurd rfl (notReturning message)
  | _ => exact ⟨rfl, rfl⟩

/-- A cleaned line of the slot being written: the coherent run stands still. -/
theorem Refines.hook_slot (refines : Refines base state coherent) {line : Nat}
    (queued : state.producing.pending = .clean line :: rest)
    (current : carriesCurrent base state.memory state.producing .producer (.clean line) = true)
    (notReturning : ∀ message, state.push ≠ .returning message)
    (known : PushKnown base (hooked base state (.clean line) rest).memory
      (hooked base state (.clean line) rest).producing state.push) :
    Refines base (hooked base state (.clean line) rest) coherent := by
  have position := coherentPush_congr notReturning state.memory
    (hooked base state (.clean line) rest).memory state.producing.pending rest
  constructor
  · exact refines.reached
  · rw [refines.hook_memory current]
    · exact refines.producer
    · intro early
      cases push : state.push with
      | returning message => exact notReturning message push
      | _ => simp [push, ahead] at early
  · rw [refines.hook_memory current (not_ahead_consumer _ _)]
    exact refines.consumer
  · intro index other
    rw [refines.slots index other]
    symm
    apply messageAt_congr
    intro field
    apply refines.hook_memory current
    intro early
    have written := writing_of_ahead state.memory early
    rw [← refines.push] at written
    exact other written
  · exact refines.push.trans position.1
  · have index : (hooked base state (.clean line) rest).memory .consumer = state.memory .consumer :=
      refines.hook_memory current (not_ahead_consumer _ _)
    rw [refines.pop]
    unfold coherentPop
    rw [index]
    rfl
  · exact refines.pops
  · exact refines.pushed.trans (congrArg _ position.2)
  · exact ⟨fun place owned behind => refines.hook_own queued owned behind, known⟩
  · exact refines.hook_consuming current

/-- The written-back index: the coherent run does the whole push. -/
theorem Refines.hook_index (refines : Refines base state coherent) {message : Message}
    (returning : state.push = .returning message)
    (queued : state.producing.pending = [.clean (lineOf base .producer)])
    (written : messageAt (state.producing.view base state.memory)
      (slotIndex (state.memory .producer)) = message.frame.committed)
    (advanced : state.producing.view base state.memory .producer =
      ringNext (state.memory .producer))
    (current : carriesCurrent base state.memory state.producing .producer
      (.clean (lineOf base .producer)) = true) :
    Refines base (hooked base state (.clean (lineOf base .producer)) [])
      (completed coherent message (state.memory .producer)) := by
  have position : coherent.push = .copying message (state.memory .producer) Field.all := by
    rw [refines.push, returning, queued]
    rfl
  have slotOf : ∀ index field, (hooked base state (.clean (lineOf base .producer)) []).memory
      (.slot index field) = state.memory (.slot index field) := by
    intro index field
    apply refines.hook_memory current
    simp [returning, ahead]
  constructor
  · exact push_completes refines.reached position
  · have stored := Cache.memory_clean (lineOf base) state.memory state.producing.cache
      (lineOf base .producer) .producer
    rw [if_pos rfl] at stored
    exact advanced.symm.trans stored.symm
  · rw [refines.hook_memory current (not_ahead_consumer _ _)]
    exact refines.consumer
  · intro index _
    rw [messageAt_congr (slotOf index)]
    by_cases own : index = slotIndex (state.memory .producer)
    · have inMemory : messageAt state.memory index = message.frame.committed := by
        rw [own, ← written]
        symm
        apply messageAt_congr
        intro field
        apply refines.producing.own _ rfl
        simp [returning, ahead]
      rw [inMemory, own, ofNat_slotIndex refines.inside.1]
      simp [completed]
    · have other : BitVec.ofNat 32 index.val ≠ state.memory .producer := by
        intro same
        apply own
        rw [← same, slotIndex_ofNat]
      simp only [completed, Function.update_of_ne other]
      apply refines.slots
      rw [position]
      exact fun same => own (Option.some.inj same).symm
  · simp [hooked, returning, coherentPush, completed]
  · have index : (hooked base state (.clean (lineOf base .producer)) []).memory .consumer =
        state.memory .consumer := refines.hook_memory current (not_ahead_consumer _ _)
    simp only [completed]
    rw [refines.pop]
    unfold coherentPop
    rw [index]
    rfl
  · exact refines.pops
  · have history := refines.pushed
    rw [returning, queued] at history
    simpa [hooked, returning, unpublished, completed] using history
  · constructor
    · exact fun place owned behind => refines.hook_own queued owned behind
    · rw [hooked, returning]
      exact .inl rfl
  · exact refines.hook_consuming current

/-- The line of the consumer's index, dropped before the index is loaded. -/
theorem Refines.hook_drop (refines : Refines base state coherent) {message : Message}
    {producer : U32} (position : state.push = .loaded message producer)
    (current : carriesCurrent base state.memory state.producing .producer
      (.drop (lineOf base .consumer)) = true) :
    Refines base (hooked base state (.drop (lineOf base .consumer)) []) coherent := by
  have behind : ∀ place pending, ¬ ahead base pending state.push place := by
    intro place pending
    simp [position, ahead]
  have same : (hooked base state (.drop (lineOf base .consumer)) []).memory = state.memory :=
    funext fun place => refines.hook_memory current (behind place _)
  have knows : ProducerKnows base state.memory
      (hooked base state (.drop (lineOf base .consumer)) []).producing state.push := by
    constructor
    · intro place owned _
      refine (Cache.view_drop (lineOf base) state.memory state.producing.cache _ place).trans ?_
      split
      · rfl
      · exact refines.producing.own place owned (behind place _)
    · rw [position]
      exact .inr ⟨rfl, fun _ => by simp [hooked, Cache.perform]⟩
  have kept : Refines base
      { state with producing := (hooked base state (.drop (lineOf base .consumer)) []).producing }
      coherent := by
    refine refines.internalPush ?_ ?_ knows
    · rw [position]
      rfl
    · rw [refines.pushed, position]
      rfl
  have whole : hooked base state (.drop (lineOf base .consumer)) [] =
      { state with producing := (hooked base state (.drop (lineOf base .consumer)) []).producing } := by
    simp only [hooked] at same ⊢
    rw [same]
  rw [whole]
  exact kept

/-- The next line of any hook of the producer. -/
theorem Refines.pushHook (refines : Refines base state coherent)
    (queued : state.producing.pending = operation :: rest)
    (current : carriesCurrent base state.memory state.producing .producer operation = true) :
    ∃ after, Refines base (hooked base state operation rest) after := by
  have known := refines.producing.position
  cases position : state.push with
  | idle =>
      rw [position, PushKnown, queued] at known
      cases known
  | loaded message producer =>
      rw [position] at known
      rcases known with pending | ⟨pending, -⟩
      · rw [queued, List.cons.injEq] at pending
        obtain ⟨rfl, rfl⟩ := pending
        exact ⟨coherent, refines.hook_drop position current⟩
      · rw [queued] at pending
        cases pending
  | copying message producer remaining =>
      rw [position, PushKnown, queued] at known
      cases known.1
  | crc message producer =>
      rw [position, PushKnown, queued] at known
      cases known.1
  | commit message producer =>
      rw [position] at known
      obtain ⟨cleans, written⟩ := known
      obtain ⟨line, rfl⟩ := cleans operation (by simp [queued])
      refine ⟨coherent, refines.hook_slot queued current (by simp [position]) ?_⟩
      rw [position]
      refine ⟨fun other member => cleans other (by simp [queued, show other ∈ rest from member]), ?_⟩
      have view := Cache.view_clean (lineOf base) state.memory state.producing.cache line
      exact (congrArg (messageAt · _) view).trans written
  | index message producer =>
      rw [position] at known
      obtain ⟨pending, written⟩ := known
      rw [queued] at pending
      rcases pending with pending | pending
      · rw [List.cons.injEq] at pending
        obtain ⟨rfl, rfl⟩ := pending
        refine ⟨coherent, refines.hook_slot queued current (by simp [position]) ?_⟩
        rw [position]
        refine ⟨.inr rfl, ?_⟩
        have view := Cache.view_clean (lineOf base) state.memory state.producing.cache
          (lineOf base (.slot (slotIndex producer) .commit))
        exact (congrArg (messageAt · _) view).trans written
      · cases pending
  | returning message =>
      rw [position] at known
      rcases known with pending | ⟨pending, written, advanced⟩
      · rw [queued] at pending
        cases pending
      · rw [queued, List.cons.injEq] at pending
        obtain ⟨rfl, rfl⟩ := pending
        exact ⟨_, refines.hook_index position queued written advanced current⟩

end Hook

/-- After a store, the stored word is ahead and the others are as before. -/
theorem ProducerKnows.store {memory : Memory} {cpu : Cpu} {push push' : PushPc}
    (knows : ProducerKnows base memory cpu push) {place : Place} {value : place.Value}
    {pending : List (Cache.LineOp Nat)}
    (covers : ∀ other, ahead base cpu.pending push other → ahead base pending push' other)
    (stored : ahead base pending push' place)
    (position : PushKnown base memory (cpu.store base memory place value pending) push') :
    ProducerKnows base memory (cpu.store base memory place value pending) push' := by
  refine ⟨fun other owned behind => ?_, position⟩
  have different : other ≠ place := by
    rintro rfl
    exact behind stored
  rw [view_store, Function.update_of_ne different]
  exact knows.own other owned fun early => behind (covers other early)

/-- The checks of a push, and its load of the consumer's index. -/
theorem Refines.pushChecks (refines : Refines base state coherent) {message : Message}
    {producer : U32}
    (position : state.push = .loaded message producer) (settled : state.producing.pending = [])
    {next : State} (taken : pushStep base state = some next) :
    ∃ after, Refines base next after := by
  have coherentPosition : coherent.push = .loaded message producer := by
    rw [refines.push, position]
    rfl
  have quiet : writing coherent.push = none := by simp [coherentPosition, writing]
  have own : ∀ place, place.owner = .producer →
      state.producing.view base state.memory place = state.memory place := by
    intro place owned
    exact refines.producing.own place owned (by simp [position, ahead])
  simp only [Cached.pushStep, position] at taken
  by_cases malformed : message.malformed
  · rw [if_pos malformed] at taken
    cases taken
    have stepped : Spsc.machine.step coherent .pushStep =
        some (coherent.pushReturn message .invalid) := by
      simp [Spsc.machine, Spsc.step, Spsc.pushStep, coherentPosition, malformed]
    refine ⟨_, refines.coherentPushStep stepped rfl quiet rfl rfl rfl rfl ?_ ?_⟩
    · rw [position]
      rfl
    · exact ⟨fun place owned _ => own place owned, settled⟩
  · have index : state.producing.view base state.memory .consumer = coherent.ring.consumer := by
      have known := refines.producing.position
      rw [position] at known
      rcases known with pending | ⟨-, absent⟩
      · rw [settled] at pending
        cases pending
      · rw [refines.consumer]
        exact Cache.view_of_absent _ _ _ (absent malformed)
    have loadedOwn : ∀ place, place.owner = .producer →
        (state.producing.load base state.memory .consumer).view base state.memory place =
          state.memory place := by
      intro place owned
      rw [view_load]
      exact own place owned
    rw [if_neg malformed, index] at taken
    by_cases full : ringNext producer = coherent.ring.consumer
    · rw [if_pos full] at taken
      cases taken
      have stepped : Spsc.machine.step coherent .pushStep =
          some (coherent.pushReturn message .full) := by
        simp [Spsc.machine, Spsc.step, Spsc.pushStep, coherentPosition, malformed, full]
      refine ⟨_, refines.coherentPushStep stepped rfl quiet rfl rfl rfl rfl ?_ ?_⟩
      · rw [position]
        rfl
      · exact ⟨fun place owned _ => loadedOwn place owned, settled⟩
    · rw [if_neg full] at taken
      cases taken
      have stepped : Spsc.machine.step coherent .pushStep =
          some { coherent with push := .copying message producer Field.all } := by
        simp [Spsc.machine, Spsc.step, Spsc.pushStep, coherentPosition, malformed, full]
      refine ⟨_, refines.coherentPushStep stepped rfl quiet rfl rfl rfl rfl ?_ ?_⟩
      · rw [position]
        rfl
      · exact ⟨fun place owned _ => loadedOwn place owned, settled, .start _ _⟩

/-- One scalar of the structure assignment. -/
theorem Refines.pushCopy (refines : Refines base state coherent) {message : Message}
    {producer : U32}
    {remaining : List Field} (position : state.push = .copying message producer remaining)
    (field : Field) :
    Refines base
      { state with
        producing := state.producing.store base state.memory (.slot (slotIndex producer) field)
          (fieldOf message field) []
        push := .copying message producer (remaining.erase field) } coherent := by
  have knows := refines.producing
  rw [position] at knows
  refine refines.internalPush ?_ ?_ (knows.store ?_ ⟨field, rfl⟩ ⟨rfl, ?_⟩)
  · rw [position]
    rfl
  · rw [refines.pushed, position]
    rfl
  · exact fun other early => early
  · rw [view_store, messageAt_store]
    exact knows.position.2.copy field

/-- The copy is complete: the commit word of the slot is cleared, which the peer does not see yet. -/
theorem Refines.pushCopied (refines : Refines base state coherent) {message : Message}
    {producer : U32} (position : state.push = .copying message producer []) {next : State}
    (taken : pushStep base state = some next) : Refines base next coherent := by
  have knows := refines.producing
  rw [position] at knows
  simp only [Cached.pushStep, position, Option.some.injEq] at taken
  subst taken
  have stored := messageAt_store (state.producing.view base state.memory) (slotIndex producer)
    { message with commit := 0 } .commit
  refine refines.internalPush ?_ ?_
    (knows.store (fun other early => early) ⟨.commit, rfl⟩ ⟨rfl, ?_⟩)
  · rw [position]
    rfl
  · rw [refines.pushed, position]
    rfl
  · rw [view_store]
    refine stored.trans ?_
    rw [knows.position.2.done]
    rfl

/-- The checksum of the copy is stored, and the lines of the slot are queued for the write-back. -/
theorem Refines.pushCrc (refines : Refines base state coherent) {message : Message}
    {producer : U32} (position : state.push = .crc message producer) {next : State}
    (taken : pushStep base state = some next) : Refines base next coherent := by
  have knows := refines.producing
  rw [position] at knows
  simp only [Cached.pushStep, position, Option.some.injEq] at taken
  subst taken
  have before := knows.position.2
  have inLines : ∀ field, Cache.LineOp.clean (lineOf base (.slot (slotIndex producer) field)) ∈
      publish base (slotOffset (slotIndex producer).val) messageBytes :=
    fun field => List.mem_map_of_mem (mem_slotLines base (slotIndex producer) field)
  have stored := messageAt_store (state.producing.view base state.memory) (slotIndex producer)
    { message with crc32 := frameCrc32 message } .crc32
  refine refines.internalPush ?_ ?_ (knows.store ?_ ⟨.crc32, rfl, inLines .crc32⟩ ⟨?_, ?_⟩)
  · rw [position]
    rfl
  · rw [refines.pushed, position]
    rfl
  · rintro other ⟨field, rfl⟩
    exact ⟨field, rfl, inLines field⟩
  · intro operation member
    obtain ⟨line, -, rfl⟩ := List.mem_map.mp member
    exact ⟨line, rfl⟩
  · rw [view_store, before]
    refine stored.trans ?_
    rw [before]
    rfl

/-- The commit word is stored. -/
theorem Refines.pushCommit (refines : Refines base state coherent) (aligned : base % 4 = 0)
    (settled : state.producing.pending = []) {message : Message} {producer : U32}
    (position : state.push = .commit message producer) {next : State}
    (taken : pushStep base state = some next) : Refines base next coherent := by
  have knows := refines.producing
  rw [position] at knows
  simp only [Cached.pushStep, position, Option.some.injEq] at taken
  subst taken
  have before := knows.position.2
  have stored := messageAt_store (state.producing.view base state.memory) (slotIndex producer)
    { message with commit := message.sequence } .commit
  rw [publish_commit aligned]
  refine refines.internalPush ?_ ?_
    (knows.store ?_ ⟨rfl, List.mem_singleton_self _⟩ ⟨.inl rfl, ?_⟩)
  · rw [position]
    rfl
  · rw [refines.pushed, position]
    rfl
  · rintro other ⟨field, rfl, member⟩
    rw [settled] at member
    cases member
  · rw [view_store]
    refine stored.trans ?_
    rw [before]
    rfl

/-- The index is stored; only its write-back publishes the frame. -/
theorem Refines.pushIndex (refines : Refines base state coherent) (aligned : base % 4 = 0)
    (settled : state.producing.pending = []) {message : Message} {producer : U32}
    (position : state.push = .index message producer) {next : State}
    (taken : pushStep base state = some next) : Refines base next coherent := by
  have knows := refines.producing
  have index : producer = state.memory .producer := by
    apply refines.writing_index
    rw [refines.push, position]
    rfl
  rw [position] at knows
  simp only [Cached.pushStep, position, Option.some.injEq] at taken
  subst taken
  have before := knows.position.2
  rw [publish_producer aligned]
  refine refines.internalPush ?_ ?_
    (knows.store ?_ ⟨rfl, List.mem_singleton_self _⟩ (.inr ⟨rfl, ?_, ?_⟩))
  · rw [position]
    simp [coherentPush, index, Cpu.store]
  · rw [refines.pushed, position]
    simp [unpublished, Cpu.store]
  · rintro other ⟨rfl, member⟩
    rw [settled] at member
    cases member
  · rw [view_store, ← index, ← before]
    apply messageAt_congr
    intro field
    exact Function.update_of_ne (by simp) _ _
  · rw [view_store, Function.update_self, index]

/-- The return of a push. -/
theorem Refines.pushReturn (refines : Refines base state coherent) {message : Message}
    (position : state.push = .returning message) (settled : state.producing.pending = []) :
    ∃ after, Refines base { state with push := .idle } after := by
  have coherentPosition : coherent.push = .returning message := by
    rw [refines.push, position, settled]
    rfl
  have stepped : Spsc.machine.step coherent .pushStep = some (coherent.pushReturn message .ok) := by
    simp [Spsc.machine, Spsc.step, Spsc.pushStep, coherentPosition]
  refine ⟨_, refines.coherentPushStep stepped rfl ?_ rfl rfl rfl rfl ?_ ⟨?_, settled⟩⟩
  · simp [coherentPosition, writing]
  · simp [unpublished, position, settled]
  · intro place owned _
    apply refines.producing.own place owned
    simp [position, settled, ahead]

/-- Every access of the producer is matched in the coherent run. -/
theorem Refines.pushStep (refines : Refines base state coherent) (aligned : base % 4 = 0)
    (settled : state.producing.pending = []) {next : State}
    (taken : pushStep base state = some next) : ∃ after, Refines base next after := by
  cases position : state.push with
  | idle => simp [Cached.pushStep, position] at taken
  | loaded message producer => exact refines.pushChecks position settled taken
  | copying message producer remaining =>
      cases remaining with
      | nil => exact ⟨coherent, refines.pushCopied position taken⟩
      | cons field remaining => simp [Cached.pushStep, position] at taken
  | crc message producer => exact ⟨coherent, refines.pushCrc position taken⟩
  | commit message producer => exact ⟨coherent, refines.pushCommit aligned settled position taken⟩
  | index message producer => exact ⟨coherent, refines.pushIndex aligned settled position taken⟩
  | returning message =>
      simp only [Cached.pushStep, position, Option.some.injEq] at taken
      subst taken
      exact refines.pushReturn position settled

end Producer

end MailMsg.Cached
