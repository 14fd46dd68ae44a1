/-
Module: MailMsg.Tools.WindowBench
Purpose: The window benchmark as a machine over the answers of its system calls: how it keeps its
  books of the requests in flight while CPU3 answers every accepted PING with one PONG.  A PONG that
  carries zero is taken for an unknown frame, so the books close exactly in the runs that never send
  the largest value.
Source: LZAMP/tools/mailmsg_window_bench.c (parse_ulong, find_free_slot, find_value, main),
  LZAMP/firmware/zephyr/app/src/main.c (mailmsg_send_pong, mailmsg_send_feedback)
Trusted boundary: the clock, poll, read and write may answer anything that their manual allows; a
  write that returns the size of the record is an accepted PING, and the replies to it are read in
  any order
Main exports: Options, Bench, benchStep, machine, Accounts, window_accounts
-/
import MailMsg.Driver.User
import MailMsg.Firmware.Service
import MailMsg.Lib.Transition

namespace MailMsg.WindowBench

/-! ### The command line -/

/-- The arguments of an accepted command line. -/
structure Options where
  priority : Priority
  window : Nat
  duration : Nat
  base : U32
  windowPositive : 0 < window
  windowBound : window ≤ 4096
  durationPositive : 0 < duration
  durationBound : duration ≤ 3600
  baseBound : base.toNat ≤ 4294967295 - 1000000

/-- `parse_ulong`, where `value` is what `strtoul` read from the whole text without an error. -/
def parseUlong (value maximum : Nat) : Option { parsed : Nat // parsed ≤ maximum } :=
  if bounded : value ≤ maximum then some ⟨value, bounded⟩ else none

/-- The argument checks at the head of `main`. -/
def parseOptions (priority window duration base : Nat) : Option Options := do
  let priority ← parseUlong priority (priorityCount - 1)
  let window ← parseUlong window 4096
  let duration ← parseUlong duration 3600
  let base ← parseUlong base (4294967295 - 1000000)
  if nonzero : window.val ≠ 0 ∧ duration.val ≠ 0 then
    some
      { priority := ⟨priority.val, Nat.lt_of_le_of_lt priority.property (by decide)⟩
        window := window.val
        duration := duration.val
        base := BitVec.ofNat 32 base.val
        windowPositive := Nat.pos_of_ne_zero nonzero.1
        windowBound := window.property
        durationPositive := Nat.pos_of_ne_zero nonzero.2
        durationBound := duration.property
        baseBound := (Nat.mod_le _ _).trans base.property }
  else none

/-- The arguments of `Options` are those of an accepted command line. -/
theorem parseOptions_self (options : Options) :
    parseOptions options.priority.val options.window options.duration options.base.toNat =
      some options := by
  have priority : options.priority.val ≤ 3 := Nat.le_sub_one_of_lt options.priority.isLt
  have nonzero : options.window ≠ 0 ∧ options.duration ≠ 0 :=
    ⟨options.windowPositive.ne', options.durationPositive.ne'⟩
  simp [parseOptions, parseUlong, priority, options.windowBound, options.durationBound,
    options.baseBound, nonzero]

/-! ### The state -/

/-- `struct request_slot`, without the time stamp of the latency statistics. -/
structure Slot where
  value : U32
  active : Bool
deriving DecidableEq

/-- Where `main` stands. -/
inductive Position where
  /-- At the head of the outer loop, before it reads the clock. -/
  | clock
  /-- At the head of `while (outstanding < window)`. -/
  | filling
  /-- Before `poll` in the outer loop. -/
  | polling
  /-- At the head of the read loop. -/
  | reading
  /-- At the head of the drain loop. -/
  | draining
  /-- Before `poll` in the drain loop. -/
  | drainPolling
  /-- At the head of the read loop inside the drain loop. -/
  | drainReading
  /-- Behind `timeouts = outstanding`. -/
  | finished
deriving DecidableEq

/-- The variables of `main`. -/
structure Bench where
  position : Position
  slots : List Slot
  nextValue : U32
  attempts : Nat
  writeOk : Nat
  enospc : Nat
  eagain : Nat
  writeOther : Nat
  ack : Nat
  nack : Nat
  pong : Nat
  duplicate : Nat
  unknown : Nat
  readError : Nat
  outstanding : Nat
  maxInflight : Nat
  timeouts : Nat

/-- `find_free_slot`. -/
def findFreeSlot (slots : List Slot) : Option Nat := slots.findIdx? fun slot => !slot.active

/-- `find_value`. -/
def findValue (slots : List Slot) (value : U32) : Option Nat :=
  slots.findIdx? fun slot => slot.active && slot.value == value

namespace Bench

/-- The start of the outer loop, after `calloc` and the initial poll. -/
def start (options : Options) : Bench where
  position := .clock
  slots := List.replicate options.window ⟨0, false⟩
  nextValue := options.base
  attempts := 0
  writeOk := 0
  enospc := 0
  eagain := 0
  writeOther := 0
  ack := 0
  nack := 0
  pong := 0
  duplicate := 0
  unknown := 0
  readError := 0
  outstanding := 0
  maxInflight := 0
  timeouts := 0

/-- Go to another position. -/
def goto (bench : Bench) (position : Position) : Bench := { bench with position := position }

/-- `goto drain` after a failed poll or read. -/
def fail (bench : Bench) : Bench :=
  { bench with readError := bench.readError + 1, position := .draining }

/-- `timeouts = outstanding`. -/
def finish (bench : Bench) : Bench :=
  { bench with timeouts := bench.outstanding, position := .finished }

end Bench

/-! ### The system calls -/

/-- The PING that the benchmark writes. -/
def ping (options : Options) (value : U32) : UserFrame where
  priority := BitVec.ofNat 32 options.priority.val
  type := MessageType.ping
  sequence := 0
  length := 4
  payload := fun index => storePayloadU32 (fun _ => 0) 0 value index.val

/-- The numbers that the two sides put on an accepted PING and on its replies. -/
structure Stamps where
  generation : U32
  sequence : U32
  ackSequence : U32
  pongSequence : U32

/-- What `write` answers. -/
inductive Written where
  /-- The whole record: the PING is accepted. -/
  | accepted (stamps : Stamps)
  | noSpace
  | again
  /-- A short write or another errno. -/
  | other

/-- What `poll` answers. -/
inductive Polled where
  | interrupted
  | failed
  | timedOut
  /-- A positive result, with POLLIN or not, and with one of POLLERR, POLLHUP and POLLNVAL or
  not. -/
  | events (readable broken : Bool)

/-- The branch of a write that was tried with a free slot. -/
def Bench.written (bench : Bench) (index : Nat) : Written → Bench
  | .accepted _ =>
      { bench with
        attempts := bench.attempts + 1
        slots := bench.slots.set index ⟨bench.nextValue, true⟩
        nextValue := bench.nextValue + 1
        writeOk := bench.writeOk + 1
        outstanding := bench.outstanding + 1
        maxInflight :=
          if bench.maxInflight < bench.outstanding + 1 then bench.outstanding + 1
          else bench.maxInflight }
  | .noSpace =>
      { bench with
        attempts := bench.attempts + 1, enospc := bench.enospc + 1, position := .polling }
  | .again =>
      { bench with
        attempts := bench.attempts + 1, eagain := bench.eagain + 1, position := .polling }
  | .other =>
      { bench with
        attempts := bench.attempts + 1
        writeOther := bench.writeOther + 1
        position := .draining }

/-- What both read loops do with a record. -/
def Bench.receive (bench : Bench) (frame : UserFrame) : Bench :=
  if frame.type = MessageType.ack then { bench with ack := bench.ack + 1 }
  else if frame.type = MessageType.nack then { bench with nack := bench.nack + 1 }
  else if frame.type ≠ MessageType.pong ∨ frame.length.toNat < 4 then
    { bench with unknown := bench.unknown + 1 }
  else
    let pongValue := payloadU32 frame.payloadAt 0
    if pongValue = 0#32 then { bench with unknown := bench.unknown + 1 }
    else
      match findValue bench.slots (pongValue - 1) with
      | none => { bench with duplicate := bench.duplicate + 1 }
      | some index =>
          { bench with
            slots := bench.slots.modify index fun slot => { slot with active := false }
            outstanding := bench.outstanding - 1
            pong := bench.pong + 1 }

/-- The outer loop after `poll`. -/
def Bench.polled (bench : Bench) : Polled → Bench
  | .interrupted | .timedOut => bench.goto .clock
  | .failed => bench.fail
  | .events readable broken =>
      if broken then bench.fail else if readable then bench.goto .reading else bench.goto .clock

/-- The drain loop after `poll`. -/
def Bench.drainPolled (bench : Bench) : Polled → Bench
  | .interrupted | .failed | .timedOut => bench.goto .draining
  | .events readable _ => if readable then bench.goto .drainReading else bench.finish

/-! ### The machine -/

/-- A record of CPU3 that was not yet read, with the number of the request that it answers. -/
structure Reply where
  request : Nat
  record : UserFrame

/-- The benchmark and the replies on their way to it.  `placed` records the slot of every accepted
request, oldest first; nothing reads it. -/
structure Run where
  bench : Bench
  undelivered : List Reply
  placed : List Nat

/-- The record in which a reply of CPU3 arrives. -/
def replyRecord (options : Options) (reply : MailMsg.Reply) (sequence : U32) : UserFrame where
  priority := BitVec.ofNat 32 options.priority.val
  type := reply.type
  sequence := sequence
  length := reply.length
  payload := fun index => if index.val < reply.length.toNat then reply.payload index.val else 0

/-- The PING as CPU3 takes it out of its ring. -/
def pingMessage (options : Options) (value : U32) (stamps : Stamps) : Message :=
  sendMessage stamps.generation (ping options value).type stamps.sequence
    (ping options value).length (some (ping options value).payloadAt)

/-- What CPU3 sends for an accepted PING: an ACK on a reliable priority, and the PONG. -/
def answers (options : Options) (request : Nat) (value : U32) (stamps : Stamps) : List Reply :=
  let message := pingMessage options value stamps
  let ack := replyRecord options (feedbackReply MessageType.ack message.sequence 0)
    stamps.ackSequence
  let pong := replyRecord options (pongReply message) stamps.pongSequence
  (if priorityIsReliable options.priority then [⟨request, ack⟩] else []) ++ [⟨request, pong⟩]

/-- What `read` answers. -/
inductive Fetched where
  | again
  /-- A short read or another errno. -/
  | failed
  /-- The undelivered record at this position. -/
  | record (index : Nat)

inductive Label where
  /-- The clock is read; `early` says that the deadline has not passed. -/
  | clock (early : Bool)
  | write (answer : Written)
  /-- The fill loop ends without a write. -/
  | full
  | poll (answer : Polled)
  | read (answer : Fetched)

/-- A read loop: EAGAIN leads to `next`, a failure to `broken`. -/
def Run.fetch (run : Run) (next broken : Bench) : Fetched → Option Run
  | .again => some { run with bench := next }
  | .failed => some { run with bench := broken }
  | .record index =>
      run.undelivered[index]?.map fun reply =>
        { run with
          bench := run.bench.receive reply.record
          undelivered := run.undelivered.eraseIdx index }

/-- One write of the fill loop. -/
def Run.write (options : Options) (run : Run) (index : Nat) (answer : Written) : Run :=
  match answer with
  | .accepted stamps =>
      { bench := run.bench.written index answer
        undelivered := run.undelivered ++
          answers options run.bench.writeOk run.bench.nextValue stamps
        placed := run.placed ++ [index] }
  | _ => { run with bench := run.bench.written index answer }

/-- One step of `main`. -/
def benchStep (options : Options) (run : Run) (label : Label) : Option Run :=
  let bench := run.bench
  match bench.position, label with
  -- After the deadline `break` and `goto drain` meet at the label.
  | .clock, .clock early =>
      some { run with bench := bench.goto (if early then .filling else .draining) }
  | .filling, .write answer =>
      if bench.outstanding < options.window then
        (findFreeSlot bench.slots).map fun index => run.write options index answer
      else none
  | .filling, .full =>
      if bench.outstanding < options.window ∧ (findFreeSlot bench.slots).isSome then none
      else some { run with bench := bench.goto .polling }
  | .polling, .poll answer => some { run with bench := bench.polled answer }
  | .reading, .read answer => run.fetch (bench.goto .clock) bench.fail answer
  | .draining, .clock early =>
      some
        { run with
          bench := if bench.outstanding ≠ 0 ∧ early then bench.goto .drainPolling
            else bench.finish }
  | .drainPolling, .poll answer => some { run with bench := bench.drainPolled answer }
  | .drainReading, .read answer => run.fetch (bench.goto .draining) bench.fail answer
  | _, _ => none

/-- Every run of the benchmark with these arguments. -/
def machine (options : Options) : Machine Run Label where
  init run := run = ⟨.start options, [], []⟩
  step := benchStep options

/-! ### The replies -/

/-- The value of an accepted PING reaches CPU3. -/
theorem pingMessage_value (options : Options) (value : U32) (stamps : Stamps) :
    payloadU32 (pingMessage options value stamps).payloadAt 0 = value := by
  have stored := payloadU32_store (fun _ => 0) 0 value
  refine Eq.trans (payloadU32_congr ?_) stored
  intro offset small
  have inside : offset < payloadBytes := by simp only [payloadBytes]; omega
  have covered : offset < userPayloadBytes := by simp only [userPayloadBytes]; omega
  simp [Message.payloadAt, pingMessage, sendMessage, ping, UserFrame.payloadAt, inside,
    covered, small]

/-- The value of a PONG reaches the benchmark. -/
theorem pongRecord_value (options : Options) (message : Message) (sequence : U32) :
    payloadU32 (replyRecord options (pongReply message) sequence).payloadAt 0 =
      payloadU32 message.payloadAt 0 + 1 := by
  have stored := payloadU32_store (fun _ => 0) 0 (payloadU32 message.payloadAt 0 + 1)
  refine Eq.trans (payloadU32_congr ?_) stored
  intro offset small
  have covered : offset < userPayloadBytes := by simp only [userPayloadBytes]; omega
  simp [UserFrame.payloadAt, replyRecord, pongReply, covered, small]

/-- The record is the PONG to a PING of this value. -/
structure IsPong (record : UserFrame) (value : U32) : Prop where
  type : record.type = MessageType.pong
  length : 4 ≤ record.length.toNat
  value : payloadU32 record.payloadAt 0 = value + 1

/-- The requests whose PONG is undelivered. -/
def awaited (undelivered : List Reply) : List Nat :=
  undelivered.filterMap fun reply =>
    if reply.record.type = MessageType.pong then some reply.request else none

theorem ack_ne_pong : MessageType.ack ≠ MessageType.pong := by decide

theorem awaited_append (first second : List Reply) :
    awaited (first ++ second) = awaited first ++ awaited second := by
  simp [awaited]

theorem awaited_pong {reply : Reply} (pong : reply.record.type = MessageType.pong) :
    awaited [reply] = [reply.request] := by
  simp [awaited, pong]

theorem awaited_other {reply : Reply} (other : reply.record.type ≠ MessageType.pong) :
    awaited [reply] = [] := by
  simp [awaited, other]

section Answers

variable (options : Options) (request : Nat) (value : U32) (stamps : Stamps)

/-- CPU3 sends one PONG for a request. -/
theorem awaited_answers : awaited (answers options request value stamps) = [request] := by
  unfold answers
  rw [awaited_append]
  have pong : awaited [⟨request, replyRecord options (pongReply (pingMessage options value stamps))
      stamps.pongSequence⟩] = [request] := awaited_pong rfl
  rw [pong]
  split
  · rw [awaited_other ack_ne_pong]
    rfl
  · rfl

/-- What CPU3 sends is an ACK or that PONG. -/
theorem mem_answers {reply : Reply} (member : reply ∈ answers options request value stamps) :
    reply.request = request ∧
      (reply.record.type = MessageType.ack ∨ IsPong reply.record value) := by
  have pong : IsPong (replyRecord options (pongReply (pingMessage options value stamps))
      stamps.pongSequence) value := by
    refine ⟨rfl, le_refl 4, ?_⟩
    rw [pongRecord_value, pingMessage_value]
  unfold answers at member
  split at member
  · simp only [List.cons_append, List.nil_append, List.mem_cons, List.not_mem_nil,
      or_false] at member
    rcases member with rfl | rfl
    · exact ⟨rfl, .inl rfl⟩
    · exact ⟨rfl, .inr pong⟩
  · simp only [List.nil_append, List.mem_cons, List.not_mem_nil, or_false] at member
    subst member
    exact ⟨rfl, .inr pong⟩

end Answers

/-! ### The slots -/

theorem findFreeSlot_some {slots : List Slot} {index : Nat}
    (found : findFreeSlot slots = some index) :
    ∃ slot, slots[index]? = some slot ∧ slot.active = false := by
  obtain ⟨inside, free, -⟩ := List.findIdx?_eq_some_iff_getElem.mp found
  exact ⟨slots[index], List.getElem?_eq_getElem inside, by simpa using free⟩

/-- While the window is open a slot is free. -/
theorem findFreeSlot_isSome {slots : List Slot} (room : slots.countP Slot.active < slots.length) :
    ∃ index, findFreeSlot slots = some index := by
  apply Option.isSome_iff_exists.mp
  rw [findFreeSlot, List.findIdx?_isSome, List.any_eq_true]
  by_contra none
  have all : ∀ slot ∈ slots, slot.active = true := by
    intro slot member
    by_contra inactive
    exact none ⟨slot, member, by simpa using inactive⟩
  rw [List.countP_eq_length.mpr all] at room
  exact lt_irrefl _ room

theorem findValue_some {slots : List Slot} {value : U32} {index : Nat}
    (found : findValue slots value = some index) : slots[index]? = some ⟨value, true⟩ := by
  obtain ⟨inside, matching, -⟩ := List.findIdx?_eq_some_iff_getElem.mp found
  rw [List.getElem?_eq_getElem inside]
  simp only [Bool.and_eq_true, beq_iff_eq] at matching
  cases entry : slots[index] with
  | mk stored active =>
      rw [entry] at matching
      rw [← matching.1, ← matching.2]

theorem findValue_isSome {slots : List Slot} {value : U32} {index : Nat}
    (entry : slots[index]? = some ⟨value, true⟩) : ∃ found, findValue slots value = some found := by
  apply Option.isSome_iff_exists.mp
  rw [findValue, List.findIdx?_isSome, List.any_eq_true]
  exact ⟨⟨value, true⟩, List.mem_of_getElem? entry, by simp⟩

/-- Taking a free slot. -/
theorem countP_take {slots : List Slot} {index : Nat} {slot : Slot} (value : U32)
    (entry : slots[index]? = some slot) (free : slot.active = false) :
    (slots.set index ⟨value, true⟩).countP Slot.active = slots.countP Slot.active + 1 := by
  obtain ⟨inside, same⟩ := List.getElem?_eq_some_iff.mp entry
  rw [List.countP_set inside, same]
  simp [free]

/-- Retiring the slot of a value. -/
theorem retire_eq {slots : List Slot} {index : Nat} {value : U32}
    (entry : slots[index]? = some ⟨value, true⟩) :
    (slots.modify index fun slot => { slot with active := false }) =
      slots.set index ⟨value, false⟩ := by
  apply List.ext_getElem?
  intro other
  by_cases same : index = other
  · subst same
    obtain ⟨inside, -⟩ := List.getElem?_eq_some_iff.mp entry
    rw [List.getElem?_modify_eq, entry, List.getElem?_set_self inside]
    rfl
  · rw [List.getElem?_modify_ne _ _ same, List.getElem?_set_ne same]

theorem countP_retire {slots : List Slot} {index : Nat} {value : U32}
    (entry : slots[index]? = some ⟨value, true⟩) :
    (slots.set index ⟨value, false⟩).countP Slot.active + 1 = slots.countP Slot.active := by
  obtain ⟨inside, same⟩ := List.getElem?_eq_some_iff.mp entry
  have positive : 0 < slots.countP Slot.active := by
    rw [List.countP_pos_iff]
    exact ⟨_, List.mem_of_getElem? entry, rfl⟩
  rw [List.countP_set inside, same]
  simp only [if_true, Bool.false_eq_true, if_false, Nat.add_zero]
  omega

/-! ### The books

The counters of the benchmark against its slots and the replies that are still to come, in a run
that has not sent the largest value.
-/

/-- The value of a request, counted from the base. -/
def requestValue (options : Options) (request : Nat) : U32 :=
  BitVec.ofNat 32 (options.base.toNat + request)

/-- The books of a run that has not sent the largest value.  Every undelivered PONG belongs to one
active slot, the one that its request was placed in, and every active slot waits for one. -/
structure Books (options : Options) (run : Run) : Prop where
  length : run.bench.slots.length = options.window
  placed : run.placed.length = run.bench.writeOk
  next : run.bench.nextValue = requestValue options run.bench.writeOk
  range : options.base.toNat + run.bench.writeOk < 4294967296
  active : run.bench.slots.countP Slot.active = run.bench.outstanding
  written : run.bench.writeOk = run.bench.pong + run.bench.outstanding
  duplicate : run.bench.duplicate = 0
  unknown : run.bench.unknown = 0
  replies : ∀ reply ∈ run.undelivered, reply.record.type = MessageType.ack ∨
    IsPong reply.record (requestValue options reply.request)
  once : (awaited run.undelivered).Nodup
  older : ∀ request ∈ awaited run.undelivered, request < run.bench.writeOk
  owned : ∀ request ∈ awaited run.undelivered, ∃ place, run.placed[request]? = some place ∧
    run.bench.slots[place]? = some ⟨requestValue options request, true⟩
  owner : ∀ place value, run.bench.slots[place]? = some ⟨value, true⟩ →
    ∃ request ∈ awaited run.undelivered, run.placed[request]? = some place ∧
      value = requestValue options request

/-- The request values of the run are distinct. -/
theorem requestValue_inj {options : Options} {first second count : Nat}
    (range : options.base.toNat + count < 4294967296) (firstOlder : first < count)
    (secondOlder : second < count)
    (same : requestValue options first = requestValue options second) : first = second := by
  have numbers := congrArg BitVec.toNat same
  simp only [requestValue, BitVec.toNat_ofNat] at numbers
  omega

theorem Books.start (options : Options) : Books options ⟨.start options, [], []⟩ := by
  have idle : ∀ (place : Nat) (value : U32),
      (Bench.start options).slots[place]? ≠ some ⟨value, true⟩ := by
    intro place value entry
    have member := List.mem_of_getElem? entry
    simp [Bench.start, List.mem_replicate] at member
  constructor
  case length => simp [Bench.start]
  case next => simp [Bench.start, requestValue]
  case range =>
    have bound := options.baseBound
    simp only [Bench.start]
    omega
  case active => simp [Bench.start, List.countP_replicate]
  case owner => exact fun place value entry => absurd entry (idle place value)
  all_goals simp [Bench.start, awaited]

/-- A step that only moves the benchmark or touches the counters that the books do not read. -/
theorem Books.moved {options : Options} {run : Run} (books : Books options run) {bench : Bench}
    (slots : bench.slots = run.bench.slots) (nextValue : bench.nextValue = run.bench.nextValue)
    (writeOk : bench.writeOk = run.bench.writeOk) (pong : bench.pong = run.bench.pong)
    (duplicate : bench.duplicate = run.bench.duplicate)
    (unknown : bench.unknown = run.bench.unknown)
    (outstanding : bench.outstanding = run.bench.outstanding) :
    Books options { run with bench := bench } := by
  obtain ⟨length, placed, next, range, active, written, noDuplicate, noUnknown,
    replies, once, older, owned, owner⟩ := books
  constructor <;> simp only [slots, nextValue, writeOk, pong, duplicate, unknown, outstanding] <;>
    assumption

/-- An accepted PING: its PONG is awaited, and the slot that was free waits for it. -/
theorem Books.accepted {options : Options} {run : Run} (books : Books options run) {index : Nat}
    (free : findFreeSlot run.bench.slots = some index)
    (notLast : run.bench.nextValue ≠ 0xffffffff#32) (stamps : Stamps) :
    Books options (run.write options index (.accepted stamps)) := by
  obtain ⟨slot, entry, inactive⟩ := findFreeSlot_some free
  obtain ⟨inside, -⟩ := List.getElem?_eq_some_iff.mp entry
  have fresh : run.bench.writeOk ∉ awaited run.undelivered := fun member =>
    lt_irrefl _ (books.older _ member)
  have grown :
      awaited (run.undelivered ++ answers options run.bench.writeOk run.bench.nextValue stamps) =
        awaited run.undelivered ++ [run.bench.writeOk] := by
    rw [awaited_append, awaited_answers]
  have elsewhere : ∀ {place value}, run.bench.slots[place]? = some ⟨value, true⟩ →
      index ≠ place := by
    rintro place value taken rfl
    rw [entry, Option.some.injEq] at taken
    rw [taken] at inactive
    cases inactive
  constructor
  case length => simp [Run.write, Bench.written, books.length]
  case placed => simp [Run.write, Bench.written, books.placed]
  case next =>
    simp only [Run.write, Bench.written, books.next, requestValue]
    exact (BitVec.ofNat_add (options.base.toNat + run.bench.writeOk) 1).symm
  case range =>
    have value := congrArg BitVec.toNat books.next
    have differs : run.bench.nextValue.toNat ≠ 4294967295 := fun largest =>
      notLast (BitVec.eq_of_toNat_eq largest)
    have range := books.range
    simp only [requestValue, BitVec.toNat_ofNat] at value
    simp only [Run.write, Bench.written]
    omega
  case active =>
    simp only [Run.write, Bench.written]
    rw [countP_take _ entry inactive, books.active]
  case written =>
    have written := books.written
    simp only [Run.write, Bench.written]
    omega
  case duplicate => exact books.duplicate
  case unknown => exact books.unknown
  case replies =>
    intro reply member
    rcases List.mem_append.mp member with old | new
    · exact books.replies reply old
    · obtain ⟨request, kind⟩ := mem_answers _ _ _ _ new
      rw [request, ← books.next]
      exact kind
  case once =>
    simp only [Run.write, grown]
    rw [List.nodup_append]
    refine ⟨books.once, List.nodup_singleton _, ?_⟩
    rintro request member _ last rfl
    rw [List.mem_singleton] at last
    exact fresh (last ▸ member)
  case older =>
    intro request member
    simp only [Run.write, grown, List.mem_append, List.mem_singleton] at member
    simp only [Run.write, Bench.written]
    rcases member with old | rfl
    · exact Nat.lt_succ_of_lt (books.older request old)
    · exact Nat.lt_succ_self _
  case owned =>
    intro request member
    simp only [Run.write, grown, List.mem_append, List.mem_singleton] at member
    simp only [Run.write, Bench.written]
    rcases member with old | rfl
    · obtain ⟨place, recorded, taken⟩ := books.owned request old
      refine ⟨place, ?_, ?_⟩
      · rw [List.getElem?_append_left (by rw [books.placed]; exact books.older request old)]
        exact recorded
      · rw [List.getElem?_set_ne (elsewhere taken)]
        exact taken
    · refine ⟨index, ?_, ?_⟩
      · rw [← books.placed, List.getElem?_concat_length]
      · rw [List.getElem?_set_self inside, books.next]
  case owner =>
    intro place value taken
    simp only [Run.write, Bench.written] at taken ⊢
    rw [grown]
    by_cases same : index = place
    · subst same
      rw [List.getElem?_set_self inside, Option.some.injEq, Slot.mk.injEq] at taken
      refine ⟨run.bench.writeOk, List.mem_append_right _ (List.mem_singleton_self _), ?_, ?_⟩
      · rw [← books.placed, List.getElem?_concat_length]
      · rw [← taken.1, books.next]
    · rw [List.getElem?_set_ne same] at taken
      obtain ⟨request, member, recorded, matching⟩ := books.owner place value taken
      refine ⟨request, List.mem_append_left _ member, ?_, matching⟩
      rw [List.getElem?_append_left (by rw [books.placed]; exact books.older request member)]
      exact recorded

/-- Taking out one of the undelivered records. -/
theorem undelivered_split {undelivered : List Reply} {index : Nat} {reply : Reply}
    (found : undelivered[index]? = some reply) :
    ∃ before after, undelivered = before ++ reply :: after ∧
      undelivered.eraseIdx index = before ++ after := by
  obtain ⟨inside, same⟩ := List.getElem?_eq_some_iff.mp found
  refine ⟨undelivered.take index, undelivered.drop (index + 1), ?_,
    List.eraseIdx_eq_take_drop_succ ..⟩
  rw [← same, ← List.drop_eq_getElem_cons inside, List.take_append_drop]

/-- A PONG retires the slot that its own request was placed in. -/
theorem Books.retires {options : Options} {run : Run} (books : Books options run) {reply : Reply}
    (member : reply ∈ run.undelivered) (pong : reply.record.type = MessageType.pong) :
    ∃ place, run.placed[reply.request]? = some place ∧
      run.bench.slots[place]? = some ⟨requestValue options reply.request, true⟩ ∧
      run.bench.receive reply.record =
        { run.bench with
          slots := run.bench.slots.set place ⟨requestValue options reply.request, false⟩
          outstanding := run.bench.outstanding - 1
          pong := run.bench.pong + 1 } := by
  have waits : reply.request ∈ awaited run.undelivered :=
    List.mem_filterMap.mpr ⟨reply, member, if_pos pong⟩
  have record : IsPong reply.record (requestValue options reply.request) := by
    rcases books.replies reply member with ack | record
    · exact absurd (ack.symm.trans pong) ack_ne_pong
    · exact record
  have range := books.range
  have older := books.older _ waits
  obtain ⟨place, recorded, taken⟩ := books.owned _ waits
  obtain ⟨found, search⟩ := findValue_isSome taken
  have entry := findValue_some search
  -- The slot that the search finds is the slot of this request, since no other has its value.
  obtain ⟨other, otherWaits, otherPlace, sameValue⟩ := books.owner _ _ entry
  obtain rfl := requestValue_inj range older (books.older _ otherWaits) sameValue
  obtain rfl : found = place := Option.some.inj (otherPlace.symm.trans recorded)
  refine ⟨found, recorded, taken, ?_⟩
  have nonzero : requestValue options reply.request + 1 ≠ 0#32 := by
    intro wrapped
    have number := congrArg BitVec.toNat wrapped
    simp only [requestValue, BitVec.toNat_add, BitVec.ofNat_eq_ofNat, BitVec.toNat_ofNat] at number
    omega
  have notAck : ¬ MessageType.pong = MessageType.ack := ack_ne_pong.symm
  have notNack : ¬ MessageType.pong = MessageType.nack := by decide
  have long : ¬ reply.record.length.toNat < 4 := Nat.not_lt.mpr record.length
  have back : requestValue options reply.request + 1 - 1 = requestValue options reply.request :=
    BitVec.add_sub_cancel _ _
  simp only [Bench.receive, pong, notAck, notNack, long, record.value, nonzero, back,
    search, if_false, ne_eq, not_true_eq_false, or_self, retire_eq taken]

/-- An ACK only adds to its counter. -/
theorem Books.receivedAck {options : Options} {run : Run} (books : Books options run) {index : Nat}
    {reply : Reply} (found : run.undelivered[index]? = some reply)
    (ack : reply.record.type = MessageType.ack) :
    Books options
      { run with
        bench := run.bench.receive reply.record
        undelivered := run.undelivered.eraseIdx index } := by
  obtain ⟨before, after, whole, rest⟩ := undelivered_split found
  have counted : run.bench.receive reply.record = { run.bench with ack := run.bench.ack + 1 } := by
    simp [Bench.receive, ack]
  have same : awaited (before ++ after) = awaited run.undelivered := by
    have nothing : awaited [reply] = [] := by
      apply awaited_other
      rw [ack]
      exact ack_ne_pong
    rw [whole, awaited_append, awaited_append, ← List.singleton_append, awaited_append, nothing]
    rfl
  have subset : ∀ other ∈ before ++ after, other ∈ run.undelivered := by
    intro other member
    rw [whole]
    simp only [List.mem_append, List.mem_cons] at member ⊢
    tauto
  rw [rest, counted]
  obtain ⟨length, placed, next, range, active, written, duplicate, unknown, replies,
    once, older, owned,
    owner⟩ := books
  constructor
  case replies => exact fun other member => replies other (subset other member)
  all_goals
    simp only [same]
    assumption

/-- A PONG is taken out of the books together with its slot. -/
theorem Books.receivedPong {options : Options} {run : Run} (books : Books options run) {index : Nat}
    {reply : Reply} (found : run.undelivered[index]? = some reply)
    (pong : reply.record.type = MessageType.pong) :
    Books options
      { run with
        bench := run.bench.receive reply.record
        undelivered := run.undelivered.eraseIdx index } := by
  obtain ⟨before, after, whole, rest⟩ := undelivered_split found
  have member : reply ∈ run.undelivered := List.mem_of_getElem? found
  obtain ⟨place, recorded, taken, retired⟩ := books.retires member pong
  have shape : awaited run.undelivered = awaited before ++ reply.request :: awaited after := by
    rw [whole, awaited_append, ← List.singleton_append, awaited_append, awaited_pong pong]
    rfl
  have subset : ∀ request ∈ awaited (before ++ after), request ∈ awaited run.undelivered := by
    intro request waits
    rw [awaited_append] at waits
    rw [shape]
    simp only [List.mem_append, List.mem_cons] at waits ⊢
    tauto
  have once := books.once
  rw [shape, List.nodup_middle] at once
  obtain ⟨gone, distinct⟩ := List.nodup_cons.mp once
  rw [← awaited_append] at gone distinct
  have positive : 0 < run.bench.outstanding := by
    rw [← books.active, List.countP_pos_iff]
    exact ⟨_, List.mem_of_getElem? taken, rfl⟩
  rw [rest, retired]
  constructor
  case length => simpa using books.length
  case placed => exact books.placed
  case next => exact books.next
  case range => exact books.range
  case active =>
    have counted := countP_retire taken
    have before := books.active
    dsimp only
    omega
  case written =>
    have written := books.written
    dsimp only
    omega
  case duplicate => exact books.duplicate
  case unknown => exact books.unknown
  case replies =>
    intro other kept
    apply books.replies other
    rw [whole]
    simp only [List.mem_append, List.mem_cons] at kept ⊢
    tauto
  case once => exact distinct
  case older => exact fun request waits => books.older request (subset request waits)
  case owned =>
    intro request waits
    obtain ⟨other, otherPlace, otherTaken⟩ := books.owned request (subset request waits)
    refine ⟨other, otherPlace, ?_⟩
    have different : place ≠ other := by
      rintro rfl
      rw [taken, Option.some.injEq, Slot.mk.injEq] at otherTaken
      have same := requestValue_inj books.range
        (books.older _ (by rw [shape]; simp)) (books.older _ (subset request waits)) otherTaken.1
      exact gone (same ▸ waits)
    dsimp only
    rw [List.getElem?_set_ne different]
    exact otherTaken
  case owner =>
    intro other value active
    dsimp only at active ⊢
    have different : place ≠ other := by
      rintro rfl
      obtain ⟨inside, -⟩ := List.getElem?_eq_some_iff.mp taken
      rw [List.getElem?_set_self inside, Option.some.injEq, Slot.mk.injEq] at active
      cases active.2
    rw [List.getElem?_set_ne different] at active
    obtain ⟨request, waits, otherPlace, matching⟩ := books.owner other value active
    refine ⟨request, ?_, otherPlace, matching⟩
    rw [shape, List.mem_append, List.mem_cons] at waits
    rw [awaited_append, List.mem_append]
    rcases waits with early | rfl | late
    · exact .inl early
    · exact absurd (Option.some.inj (recorded.symm.trans otherPlace)) different
    · exact .inr late

/-! ### Runs -/

/-- No accepted PING carries the largest value. -/
def belowLast (run : Run) : Label → Bool
  | .write (.accepted _) => run.bench.nextValue != 0xffffffff#32
  | _ => true

/-- The runs in which no accepted PING carries the largest value. -/
def boundedMachine (options : Options) : Machine Run Label :=
  (machine options).restrict fun run label => belowLast run label = true

/-- `timeouts` is the number of requests that were still outstanding at the end. -/
def Ended (run : Run) : Prop :=
  run.bench.position = .finished → run.bench.timeouts = run.bench.outstanding

theorem receive_position (bench : Bench) (frame : UserFrame) :
    (bench.receive frame).position = bench.position := by
  unfold Bench.receive
  dsimp only
  split_ifs
  · rfl
  · rfl
  · rfl
  · rfl
  · split <;> rfl

/-- Everything that a step can do to the books. -/
inductive Moved (options : Options) (run : Run) (label : Label) : Run → Prop where
  /-- The benchmark goes on and the books stay as they are. -/
  | onward (bench : Bench) (slots : bench.slots = run.bench.slots)
      (nextValue : bench.nextValue = run.bench.nextValue)
      (writeOk : bench.writeOk = run.bench.writeOk) (pong : bench.pong = run.bench.pong)
      (duplicate : bench.duplicate = run.bench.duplicate)
      (unknown : bench.unknown = run.bench.unknown)
      (outstanding : bench.outstanding = run.bench.outstanding)
      (ended : bench.position = .finished → bench.timeouts = bench.outstanding) :
      Moved options run label { run with bench := bench }
  | accepted (index : Nat) (stamps : Stamps) (turn : label = .write (.accepted stamps))
      (position : run.bench.position = .filling)
      (free : findFreeSlot run.bench.slots = some index) :
      Moved options run label (run.write options index (.accepted stamps))
  | received (index : Nat) (reply : Reply) (turn : label = .read (.record index))
      (position : run.bench.position ≠ .finished)
      (found : run.undelivered[index]? = some reply) :
      Moved options run label
        { run with
          bench := run.bench.receive reply.record
          undelivered := run.undelivered.eraseIdx index }

section Steps

variable {options : Options} {run next : Run} {label : Label}

/-- The benchmark goes to another position before its end. -/
theorem Moved.goto {position : Position} (onward : position ≠ .finished) :
    Moved options run label { run with bench := run.bench.goto position } :=
  .onward _ rfl rfl rfl rfl rfl rfl rfl fun ended => absurd ended onward

/-- The benchmark gives up reading. -/
theorem Moved.fail : Moved options run label { run with bench := run.bench.fail } := by
  refine .onward _ rfl rfl rfl rfl rfl rfl rfl ?_
  intro ended
  cases ended

theorem Moved.finish : Moved options run label { run with bench := run.bench.finish } :=
  .onward _ rfl rfl rfl rfl rfl rfl rfl fun _ => rfl

theorem fetch_moved {position : Position} {answer : Fetched}
    (working : run.bench.position ≠ .finished) (onward : position ≠ .finished)
    (stepped : run.fetch (run.bench.goto position) run.bench.fail answer = some next) :
    Moved options run (.read answer) next := by
  cases answer with
  | again =>
      cases stepped
      exact .goto onward
  | failed =>
      cases stepped
      exact .fail
  | record index =>
      simp only [Run.fetch, Option.map_eq_some_iff] at stepped
      obtain ⟨reply, found, rfl⟩ := stepped
      exact .received index reply rfl working found

theorem write_moved {index : Nat} (answer : Written) (position : run.bench.position = .filling)
    (free : findFreeSlot run.bench.slots = some index) :
    Moved options run (.write answer) (run.write options index answer) := by
  cases answer with
  | accepted stamps => exact .accepted index stamps rfl position free
  | noSpace | again | other =>
      refine .onward _ rfl rfl rfl rfl rfl rfl rfl ?_
      intro ended
      cases ended

theorem polled_moved (answer : Polled) :
    Moved options run label { run with bench := run.bench.polled answer } := by
  cases answer with
  | interrupted | timedOut => exact .goto (by simp)
  | failed => exact .fail
  | events readable broken =>
      simp only [Bench.polled]
      split_ifs
      · exact .fail
      · exact .goto (by simp)
      · exact .goto (by simp)

theorem drainPolled_moved (answer : Polled) :
    Moved options run label { run with bench := run.bench.drainPolled answer } := by
  cases answer with
  | interrupted | failed | timedOut => exact .goto (by simp)
  | events readable broken =>
      simp only [Bench.drainPolled]
      split_ifs
      · exact .goto (by simp)
      · exact .finish

theorem benchStep_moved (stepped : benchStep options run label = some next) :
    Moved options run label next := by
  unfold benchStep at stepped
  dsimp only at stepped
  split at stepped
  · cases stepped
    apply Moved.goto
    split_ifs <;> simp
  · rename_i position
    split_ifs at stepped
    obtain ⟨index, free, rfl⟩ := Option.map_eq_some_iff.mp stepped
    exact write_moved _ position free
  · split_ifs at stepped
    cases stepped
    exact .goto (by simp)
  · cases stepped
    exact polled_moved _
  · rename_i position
    exact fetch_moved (by simp [position]) (by simp) stepped
  · cases stepped
    split_ifs
    · exact .goto (by simp)
    · exact .finish
  · cases stepped
    exact drainPolled_moved _
  · rename_i position
    exact fetch_moved (by simp [position]) (by simp) stepped
  · cases stepped

/-- Every admitted step keeps the books. -/
theorem Books.step (books : Books options run) (admitted : belowLast run label = true)
    (stepped : benchStep options run label = some next) : Books options next := by
  cases benchStep_moved stepped with
  | onward bench slots nextValue writeOk pong duplicate unknown outstanding ended =>
      exact books.moved slots nextValue writeOk pong duplicate unknown outstanding
  | accepted index stamps turn position free =>
      subst turn
      exact books.accepted free (by simpa [belowLast] using admitted) stamps
  | received index reply turn position found =>
      rcases books.replies reply (List.mem_of_getElem? found) with ack | pong
      · exact books.receivedAck found ack
      · exact books.receivedPong found pong.type

theorem Ended.step (stepped : benchStep options run label = some next) : Ended next := by
  cases benchStep_moved stepped with
  | onward bench slots nextValue writeOk pong duplicate unknown outstanding ended => exact ended
  | accepted index stamps turn position free =>
      intro ended
      have same : (run.write options index (.accepted stamps)).bench.position =
        run.bench.position := rfl
      rw [same, position] at ended
      cases ended
  | received index reply turn position found =>
      intro ended
      exact absurd ((receive_position _ _).symm.trans ended) position

end Steps

theorem reachable_books {options : Options} {run : Run}
    (reached : (boundedMachine options).Reachable run) : Books options run ∧ Ended run := by
  induction reached with
  | init start =>
      obtain rfl := start
      refine ⟨Books.start options, ?_⟩
      intro ended
      cases ended
  | step earlier taken inductionHypothesis =>
      obtain ⟨admitted, stepped⟩ := Machine.restrict_step_iff.mp taken
      exact ⟨inductionHypothesis.1.step admitted stepped, Ended.step stepped⟩

/-! ### Results -/

/-- What the benchmark's numbers say at a loop boundary. -/
structure Accounts (options : Options) (bench : Bench) : Prop where
  active : (bench.slots.filter Slot.active).length = bench.outstanding
  window : bench.outstanding ≤ options.window
  distinct : ((bench.slots.filter Slot.active).map Slot.value).Nodup
  written : bench.writeOk = bench.pong + bench.outstanding
  duplicate : bench.duplicate = 0
  unknown : bench.unknown = 0

/-- No two active slots have one value. -/
theorem Books.distinct {options : Options} {run : Run} (books : Books options run) :
    ((run.bench.slots.filter Slot.active).map Slot.value).Nodup := by
  rw [List.Nodup, List.pairwise_map, List.pairwise_filter, List.pairwise_iff_getElem]
  intro first second firstInside secondInside before firstActive secondActive same
  have entry : ∀ {index : Nat} (inside : index < run.bench.slots.length),
      run.bench.slots[index].active = true →
      run.bench.slots[index]? = some ⟨run.bench.slots[index].value, true⟩ := by
    intro index inside active
    rw [List.getElem?_eq_getElem inside, ← active]
  obtain ⟨one, oneWaits, onePlace, oneValue⟩ := books.owner _ _ (entry firstInside firstActive)
  obtain ⟨two, twoWaits, twoPlace, twoValue⟩ := books.owner _ _ (entry secondInside secondActive)
  obtain rfl := requestValue_inj books.range (books.older _ oneWaits) (books.older _ twoWaits)
    (oneValue.symm.trans (same.trans twoValue))
  have together : first = second := Option.some.inj (onePlace.symm.trans twoPlace)
  exact absurd together (Nat.ne_of_lt before)

theorem Books.accounts {options : Options} {run : Run} (books : Books options run) :
    Accounts options run.bench where
  active := by
    rw [← List.countP_eq_length_filter]
    exact books.active
  window := by
    rw [← books.active, ← books.length]
    exact List.countP_le_length
  distinct := books.distinct
  written := books.written
  duplicate := books.duplicate
  unknown := books.unknown

/-- When every reply is read, nothing is outstanding. -/
theorem Books.settled {options : Options} {run : Run} (books : Books options run)
    (delivered : run.undelivered = []) : run.bench.outstanding = 0 := by
  rw [← books.active, List.countP_eq_zero]
  intro slot member active
  obtain ⟨place, entry⟩ := List.getElem?_of_mem member
  have taken : run.bench.slots[place]? = some ⟨slot.value, true⟩ := by
    rw [entry, ← active]
  obtain ⟨request, waits, -⟩ := books.owner place slot.value taken
  simp [delivered, awaited] at waits

/-- The step in which the benchmark reads an undelivered PONG, and the slot of the PONG's own
request. -/
structure Retires (options : Options) (run next : Run) (reply : Reply) (place : Nat) : Prop where
  placed : run.placed[reply.request]? = some place
  active : run.bench.slots[place]? = some ⟨requestValue options reply.request, true⟩
  retired : next.bench.slots =
    run.bench.slots.set place ⟨requestValue options reply.request, false⟩
  pong : next.bench.pong = run.bench.pong + 1
  outstanding : next.bench.outstanding + 1 = run.bench.outstanding

theorem Books.read {options : Options} {run next : Run} (books : Books options run) {index : Nat}
    {reply : Reply} (found : run.undelivered[index]? = some reply)
    (pong : reply.record.type = MessageType.pong)
    (stepped : benchStep options run (.read (.record index)) = some next) :
    ∃ place, Retires options run next reply place := by
  obtain ⟨place, placed, taken, retired⟩ := books.retires (List.mem_of_getElem? found) pong
  have moved : next.bench = run.bench.receive reply.record := by
    cases position : run.bench.position with
    | reading | drainReading =>
        simp only [benchStep, position, Run.fetch, found, Option.map_some,
          Option.some.injEq] at stepped
        rw [← stepped]
    | clock | filling | polling | draining | drainPolling | finished =>
        simp [benchStep, position] at stepped
  have positive : 0 < run.bench.outstanding := by
    rw [← books.active, List.countP_pos_iff]
    exact ⟨_, List.mem_of_getElem? taken, rfl⟩
  rw [retired] at moved
  refine ⟨place, placed, taken, ?_, ?_, ?_⟩
  · rw [moved]
  · rw [moved]
  · rw [moved]
    exact Nat.succ_pred_eq_of_pos positive

/-- In a run that never sends the largest value the books close at every loop boundary, a PONG
retires the slot of its own request, and once every reply is read all requests are answered: the
drain loop ends at once and reports no timeout. -/
theorem window_accounts {options : Options} {run : Run}
    (reached : (boundedMachine options).Reachable run) :
    Accounts options run.bench ∧
      (∀ index reply next, run.undelivered[index]? = some reply →
        reply.record.type = MessageType.pong →
        (machine options).step run (.read (.record index)) = some next →
        ∃ place, Retires options run next reply place) ∧
      (run.undelivered = [] →
        run.bench.pong = run.bench.writeOk ∧
          (run.bench.position = .finished → run.bench.timeouts = 0) ∧
          (run.bench.position = .draining → ∀ early, ∃ next,
            (machine options).step run (.clock early) = some next ∧
              next.bench.position = .finished ∧ next.bench.timeouts = 0 ∧
              next.bench.pong = next.bench.writeOk)) := by
  obtain ⟨books, ended⟩ := reachable_books reached
  refine ⟨books.accounts, ?_, ?_⟩
  · intro index reply next found pong stepped
    exact books.read found pong stepped
  · intro delivered
    have settled := books.settled delivered
    have answered : run.bench.pong = run.bench.writeOk := by
      have written := books.written
      omega
    refine ⟨answered, ?_, ?_⟩
    · intro finished
      rw [ended finished, settled]
    · intro draining early
      refine ⟨{ run with bench := run.bench.finish }, ?_, rfl, settled, answered⟩
      simp [machine, benchStep, draining, settled]

/-- A window of two on a reliable priority. -/
def demoOptions : Options where
  priority := .critical
  window := 2
  duration := 1
  base := 7
  windowPositive := by decide
  windowBound := by decide
  durationPositive := by decide
  durationBound := by decide
  baseBound := by decide

/-- Numbers for the frames of a demonstration. -/
def demoStamps : Stamps := ⟨1, 1, 1, 2⟩

/-- Two requests, whose four replies are read with the last one first. -/
def demoRun : List Label :=
  [.clock true, .write (.accepted demoStamps), .write (.accepted demoStamps), .full,
    .poll (.events true false), .read (.record 3), .read (.record 0), .read (.record 0),
    .read (.record 0), .read .again, .clock false, .clock false]

theorem window_accounts_two :
    ∃ run, (boundedMachine demoOptions).Reachable run ∧ run.bench.writeOk = 2 ∧
      run.bench.pong = 2 ∧ Accounts demoOptions run.bench := by
  have checked : ((boundedMachine demoOptions).run ⟨.start demoOptions, [], []⟩ demoRun).any
      (fun run => decide (run.bench.writeOk = 2 ∧ run.bench.pong = 2)) = true := by
    decide +kernel
  obtain ⟨run, executed, passed⟩ := Machine.exists_of_run_any checked
  have reached : (boundedMachine demoOptions).Reachable run :=
    Machine.Reachable.run (.init rfl) executed
  obtain ⟨written, answered⟩ := of_decide_eq_true passed
  exact ⟨run, reached, written, answered, (window_accounts reached).1⟩

/-! ### The largest value -/

/-- One request at a time on an unreliable priority, from the largest base that is accepted. -/
def lastOptions : Options where
  priority := 2
  window := 1
  duration := 3600
  base := 4293967295
  windowPositive := by decide
  windowBound := by decide
  durationPositive := by decide
  durationBound := by decide
  baseBound := by decide

/-- `count` requests are answered and the next may be written. -/
structure Idle (count : Nat) (run : Run) : Prop where
  reached : (boundedMachine lastOptions).Reachable run
  position : run.bench.position = .filling
  delivered : run.undelivered = []
  writeOk : run.bench.writeOk = count

/-- From a full window to the next look at the clock: the one reply is read. -/
def exchangeTail : List Label :=
  [.full, .poll (.events true false), .read (.record 0), .read .again]

theorem exchangeTail_run {run : Run} {reply : Reply} (position : run.bench.position = .filling)
    (full : ¬ run.bench.outstanding < lastOptions.window) (answered : run.undelivered = [reply]) :
    (boundedMachine lastOptions).run run exchangeTail =
      some ⟨((run.bench.goto .reading).receive reply.record).goto .clock, [], run.placed⟩ := by
  have reading : ((run.bench.goto .reading).receive reply.record).position = .reading :=
    receive_position _ _
  have first : (boundedMachine lastOptions).step run .full =
      some { run with bench := run.bench.goto .polling } :=
    Machine.restrict_step_iff.mpr ⟨rfl, by simp [machine, benchStep, position, full]⟩
  have second : (boundedMachine lastOptions).step { run with bench := run.bench.goto .polling }
      (.poll (.events true false)) = some { run with bench := run.bench.goto .reading } :=
    Machine.restrict_step_iff.mpr ⟨rfl, rfl⟩
  have third : (boundedMachine lastOptions).step { run with bench := run.bench.goto .reading }
      (.read (.record 0)) =
      some ⟨(run.bench.goto .reading).receive reply.record, [], run.placed⟩ := by
    refine Machine.restrict_step_iff.mpr ⟨rfl, ?_⟩
    simp [machine, benchStep, Bench.goto, Run.fetch, answered]
  have fourth : (boundedMachine lastOptions).step
      ⟨(run.bench.goto .reading).receive reply.record, [], run.placed⟩ (.read .again) =
      some ⟨((run.bench.goto .reading).receive reply.record).goto .clock, [], run.placed⟩ := by
    refine Machine.restrict_step_iff.mpr ⟨rfl, ?_⟩
    simp [machine, benchStep, reading, Run.fetch]
  simp only [exchangeTail, Machine.run, first, second, third, fourth]

theorem receive_writeOk (bench : Bench) (frame : UserFrame) :
    (bench.receive frame).writeOk = bench.writeOk := by
  unfold Bench.receive
  dsimp only
  split_ifs
  · rfl
  · rfl
  · rfl
  · rfl
  · split <;> rfl

section Idle

variable {count : Nat} {run : Run}

/-- The PONG to the next PING of an idle benchmark. -/
def nextPong (run : Run) : Reply :=
  ⟨run.bench.writeOk, replyRecord lastOptions
    (pongReply (pingMessage lastOptions run.bench.nextValue demoStamps)) demoStamps.pongSequence⟩

/-- An idle benchmark finds a free slot for its next PING, which is then the only one in flight. -/
theorem Idle.writes (idle : Idle count run) :
    ∃ index, (machine lastOptions).step run (.write (.accepted demoStamps)) =
        some (run.write lastOptions index (.accepted demoStamps)) ∧
      run.bench.outstanding = 0 ∧
      (run.write lastOptions index (.accepted demoStamps)).undelivered = [nextPong run] := by
  obtain ⟨books, -⟩ := reachable_books idle.reached
  have settled := books.settled idle.delivered
  obtain ⟨index, found⟩ : ∃ index, findFreeSlot run.bench.slots = some index := by
    apply findFreeSlot_isSome
    rw [books.active, settled, books.length]
    exact lastOptions.windowPositive
  refine ⟨index, ?_, settled, ?_⟩
  · simp [machine, benchStep, idle.position, settled, found, lastOptions]
  · simp only [Run.write, idle.delivered, List.nil_append]
    rfl

theorem Idle.filling (idle : Idle count run) (index : Nat) :
    (run.write lastOptions index (.accepted demoStamps)).bench.position = .filling := idle.position

theorem Idle.full (index : Nat) (settled : run.bench.outstanding = 0) :
    ¬ (run.write lastOptions index (.accepted demoStamps)).bench.outstanding < lastOptions.window := by
  simp [Run.write, Bench.written, settled, lastOptions]

/-- One more request is sent and answered. -/
theorem Idle.next (idle : Idle count run) (small : count < 1000000) :
    ∃ after, Idle (count + 1) after := by
  obtain ⟨books, -⟩ := reachable_books idle.reached
  obtain ⟨index, written, settled, answered⟩ := idle.writes
  have below : belowLast run (.write (.accepted demoStamps)) = true := by
    have value := congrArg BitVec.toNat books.next
    have base : lastOptions.base.toNat = 4293967295 := rfl
    simp only [requestValue, base, idle.writeOk, BitVec.toNat_ofNat] at value
    simp only [belowLast, bne_iff_ne]
    intro last
    rw [last] at value
    have largest : (0xffffffff#32).toNat = 4294967295 := rfl
    omega
  have sent : (boundedMachine lastOptions).Reachable
      (run.write lastOptions index (.accepted demoStamps)) :=
    idle.reached.step (Machine.restrict_step_iff.mpr ⟨below, written⟩)
  have read := exchangeTail_run (idle.filling index) (Idle.full index settled) answered
  have back := (sent.run read).step (Machine.restrict_step_iff.mpr ⟨rfl, rfl⟩ :
    (boundedMachine lastOptions).step _ (.clock true) = some _)
  refine ⟨_, back, rfl, rfl, ?_⟩
  have counted := receive_writeOk
    ((run.write lastOptions index (.accepted demoStamps)).bench.goto .reading) (nextPong run).record
  exact counted.trans (congrArg (· + 1) idle.writeOk)

end Idle

/-- A million requests can be sent and answered one by one. -/
theorem reaches_idle {count : Nat} (small : count ≤ 1000000) : ∃ run, Idle count run := by
  induction count with
  | zero =>
      have start : (boundedMachine lastOptions).Reachable ⟨.start lastOptions, [], []⟩ := .init rfl
      exact ⟨_, start.step (Machine.restrict_step_iff.mpr ⟨rfl, rfl⟩ :
        (boundedMachine lastOptions).step _ (.clock true) = some _), rfl, rfl, rfl⟩
  | succ count inductionHypothesis =>
      obtain ⟨run, idle⟩ := inductionHypothesis (Nat.le_of_succ_le small)
      exact idle.next (Nat.lt_of_succ_le small)

/-- The PONG to the largest value carries zero: it is counted as unknown, its slot stays active, and
with every reply read the run ends with a timeout. -/
theorem window_loses_largest :
    ∃ run, (machine lastOptions).Reachable run ∧ run.undelivered = [] ∧
      run.bench.position = .finished ∧ run.bench.unknown = 1 ∧ run.bench.timeouts = 1 ∧
      run.bench.writeOk = run.bench.pong + 1 := by
  obtain ⟨run, idle⟩ := reaches_idle (le_refl 1000000)
  obtain ⟨books, -⟩ := reachable_books idle.reached
  obtain ⟨index, written, settled, answered⟩ := idle.writes
  have largest : run.bench.nextValue = 0xffffffff#32 := by
    rw [books.next, idle.writeOk]
    rfl
  have zero : payloadU32 (nextPong run).record.payloadAt 0 = 0#32 := by
    rw [nextPong, pongRecord_value, pingMessage_value, largest]
    rfl
  have unknown : ∀ bench : Bench, bench.receive (nextPong run).record =
      { bench with unknown := bench.unknown + 1 } := by
    intro bench
    have type : (nextPong run).record.type = MessageType.pong := rfl
    have notAck : ¬ MessageType.pong = MessageType.ack := ack_ne_pong.symm
    have notNack : ¬ MessageType.pong = MessageType.nack := by decide
    simp only [Bench.receive, type, notAck, notNack, zero, if_false, if_true, ite_self]
  have sent : (machine lastOptions).Reachable (run.write lastOptions index (.accepted demoStamps)) :=
    (Machine.Reachable.of_restrict idle.reached).step written
  have read := Machine.run_of_restrict
    (exchangeTail_run (idle.filling index) (Idle.full index settled) answered)
  rw [unknown] at read
  have drained := (sent.run read).step (rfl : (machine lastOptions).step _ (.clock false) = some _)
  have last : ∀ (bench : Bench) (placed : List Nat),
      (machine lastOptions).step ⟨bench.goto .draining, [], placed⟩ (.clock false) =
        some ⟨(bench.goto .draining).finish, [], placed⟩ := by
    intro bench placed
    simp [machine, benchStep, Bench.goto]
  refine ⟨_, drained.step (last _ _), rfl, rfl, ?_, ?_, ?_⟩
  · exact congrArg (· + 1) books.unknown
  · exact congrArg (· + 1) settled
  · have accounts := books.written
    rw [settled, Nat.add_zero] at accounts
    exact congrArg (· + 1) accounts

end MailMsg.WindowBench
