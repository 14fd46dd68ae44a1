/-
Module: MailMsg.Amp.Observation
Purpose: The diagnostic lines that CPU3 publishes with a commit word and its inverse and that Linux
  reads without a lock: every snapshot that the reader takes for valid is one whole publication.
Source: LZAMP/firmware/zephyr/app/src/main.c (mailmsg_publish_worker_observation,
  mailmsg_publish_tx_full_observation), LZAMP/linux/drivers/lzamp_amp_mailmsg.c (status_show)
Trusted boundary: human-reviewed embedding of the source; one store or one load of a word is one
  step, in program order over one coherent memory
Main exports: Observation.ObservationLine, Observation.workerObservation,
  Observation.txFullObservation, Observation.machine, Observation.snapshot_untorn
-/
import MailMsg.Lib.Transition
import MailMsg.Protocol.Message

namespace MailMsg.Observation

/-! ### The two lines -/

/-- One kind of line: its magic as the writer and as the reader know it, and its data words in the
order in which they are stored and loaded. -/
structure ObservationLine (Field : Type) where
  magic : U32
  expectedMagic : U32
  stores : List Field
  loads : List Field
  stored : ∀ field, field ∈ stores
  loaded : ∀ field, field ∈ loads

/-- The data words of `struct mailmsg_worker_observation_line`. -/
inductive WorkerField where
  | irqCount
  | wakeCount
  | drainCount
  | messageCount
  | emptyWakeCount
  | lastPending
  | pendingNow
  | lastPriority
deriving DecidableEq, Repr

/-- The stores of `mailmsg_publish_worker_observation` and the loads of `status_show`. -/
def workerObservation : ObservationLine WorkerField where
  magic := 0x4d455654
  expectedMagic := 0x4d455654
  stores := [.irqCount, .wakeCount, .drainCount, .messageCount, .emptyWakeCount, .lastPending,
    .pendingNow, .lastPriority]
  loads := [.irqCount, .wakeCount, .drainCount, .messageCount, .emptyWakeCount, .lastPending,
    .pendingNow, .lastPriority]
  stored := by intro field; cases field <;> decide
  loaded := by intro field; cases field <;> decide

/-- The data words of `struct mailmsg_tx_full_observation`; `last_result` is the signed one. -/
inductive TxFullField where
  | fullCount
  | lastPriority
  | lastType
  | lastResult
deriving DecidableEq, Repr

/-- The stores of `mailmsg_publish_tx_full_observation` and the loads of `status_show`. -/
def txFullObservation : ObservationLine TxFullField where
  magic := 0x4d46554c
  expectedMagic := 0x4d46554c
  stores := [.fullCount, .lastPriority, .lastType, .lastResult]
  loads := [.fullCount, .lastPriority, .lastType, .lastResult]
  stored := by intro field; cases field <;> decide
  loaded := by intro field; cases field <;> decide

/-! ### The machine -/

section Machine

variable {Field : Type} [DecidableEq Field]

/-- The words of a line. -/
structure Words (Field : Type) where
  magic : U32
  commit : U32
  commitInv : U32
  field : Field → U32

/-- The zeroed region. -/
def Words.zero : Words Field where
  magic := 0
  commit := 0
  commitInv := 0
  field := fun _ => 0

/-- Where CPU3 stands in a publication: the store that comes next. -/
inductive Writer (Field : Type) where
  | idle
  /-- `commit = 0`. -/
  | clearing (commit : U32)
  /-- The magic. -/
  | marking (commit : U32)
  /-- The first of these fields, or `commit_inv` behind the last. -/
  | storing (commit : U32) (remaining : List Field)
  /-- `commit = commit`, after the barrier. -/
  | committing (commit : U32)

/-- What `status_show` has read of a line.  `publications` counts the publications that were
completed during the read; it is history that nothing reads. -/
structure Snapshot (Field : Type) where
  first : U32
  magic : U32
  field : Field → U32
  second : U32
  inverse : U32
  publications : Nat

/-- Where Linux stands in a read: the load that comes next.  `since` is the number of publications
completed before the first load, and history too. -/
inductive Reader (Field : Type) where
  | idle
  /-- The magic. -/
  | marking (since : Nat) (first : U32)
  /-- The first of these fields, or the second load of `commit` behind the last. -/
  | loading (since : Nat) (first magic : U32) (remaining : List Field) (field : Field → U32)
  /-- `commit_inv`. -/
  | inverting (since : Nat) (first magic : U32) (field : Field → U32) (second : U32)
  | finished (since : Nat) (snapshot : Snapshot Field)

/-- The line, the commit counter of CPU3 and the two positions.  `current` are the fields stored by
the publication under way and `published` those of every completed one, in order: history that no
operation reads. -/
structure State (Field : Type) where
  words : Words Field
  counter : U32
  writer : Writer Field
  reader : Reader Field
  current : Field → U32
  published : List (Field → U32)

/-- `value` is what the next store of a field writes: the counters move while a publication is under
way. -/
inductive Label where
  /-- A publication is called. -/
  | publish
  | store (value : U32)
  /-- `status_show` loads `commit` for the first time. -/
  | read
  | load
deriving DecidableEq

/-- The next store of a publication. -/
def store (line : ObservationLine Field) (state : State Field) (value : U32) :
    Option (State Field) :=
  match state.writer with
  | .idle => none
  | .clearing commit =>
      some
        { state with
          words := { state.words with commit := 0 }
          writer := .marking commit }
  | .marking commit =>
      some
        { state with
          words := { state.words with magic := line.magic }
          writer := .storing commit line.stores }
  | .storing commit (next :: remaining) =>
      some
        { state with
          words := { state.words with field := Function.update state.words.field next value }
          current := Function.update state.current next value
          writer := .storing commit remaining }
  | .storing commit [] =>
      some
        { state with
          words := { state.words with commitInv := ~~~commit }
          writer := .committing commit }
  | .committing commit =>
      some
        { state with
          words := { state.words with commit := commit }
          published := state.published ++ [state.current]
          writer := .idle }

/-- The next load of a read. -/
def load (line : ObservationLine Field) (state : State Field) : Option (State Field) :=
  match state.reader with
  | .idle | .finished _ _ => none
  | .marking since first =>
      some
        { state with reader := .loading since first state.words.magic line.loads fun _ => 0 }
  | .loading since first magic (next :: remaining) field =>
      some
        { state with
          reader := .loading since first magic remaining
            (Function.update field next (state.words.field next)) }
  | .loading since first magic [] field =>
      some { state with reader := .inverting since first magic field state.words.commit }
  | .inverting since first magic field second =>
      some
        { state with
          reader := .finished since
            { first := first
              magic := magic
              field := field
              second := second
              inverse := state.words.commitInv
              publications := state.published.length - since } }

/-- No read is under way. -/
def Reader.resting : Reader Field → Bool
  | .idle | .finished _ _ => true
  | _ => false

/-- No publication is under way. -/
def Writer.resting : Writer Field → Bool
  | .idle => true
  | _ => false

/-- One step. -/
def step (line : ObservationLine Field) (state : State Field) : Label → Option (State Field)
  | .publish =>
      if state.writer.resting then
        let commit := nextNonzero state.counter
        some { state with counter := commit, writer := .clearing commit, current := fun _ => 0 }
      else none
  | .store value => store line state value
  | .read =>
      if state.reader.resting then
        some { state with reader := .marking state.published.length state.words.commit }
      else none
  | .load => load line state

/-- The zeroed region, before any publication. -/
def start : State Field where
  words := .zero
  counter := 0
  writer := .idle
  reader := .idle
  current := fun _ => 0
  published := []

/-- Any number of publications by CPU3 and of reads by Linux. -/
def machine (line : ObservationLine Field) : Machine (State Field) Label where
  init := fun state => state = start
  step := step line

/-- `tx_full_valid` and `worker_valid`. -/
def Snapshot.valid (line : ObservationLine Field) (snapshot : Snapshot Field) : Bool :=
  snapshot.magic == line.expectedMagic && snapshot.first != 0#32 &&
    snapshot.first == snapshot.second && snapshot.inverse == ~~~snapshot.second

/-- The commit word of the publication with this number, the first being number 0. -/
def commitWord (number : Nat) : U32 := nextNonzero^[number + 1] 0#32

/-! ### Commit words -/

/-- The commit counter runs through 1 to 2^32 - 1 and starts over. -/
theorem commitWord_toNat (number : Nat) :
    (commitWord number).toNat = number % (2 ^ 32 - 1) + 1 := by
  induction number with
  | zero => decide
  | succ number inductionHypothesis =>
      have next : commitWord (number + 1) = nextNonzero (commitWord number) := by
        unfold commitWord
        rw [Function.iterate_succ_apply']
      rw [next]
      generalize commitWord number = word at inductionHypothesis
      unfold nextNonzero
      split
      · rename_i wrapped
        have last : word.toNat = 2 ^ 32 - 1 := by bv_omega
        have one : (word + 2#32).toNat = 1 := by bv_omega
        omega
      · rename_i inside
        have notLast : word.toNat ≠ 2 ^ 32 - 1 := by bv_omega
        have successor : (word + 1#32).toNat = word.toNat + 1 := by bv_omega
        omega

/-- Fewer publications than there are commit words do not repeat one. -/
theorem commitWord_injective {first second : Nat} (ordered : first ≤ second)
    (few : second - first < 2 ^ 32 - 1) (same : commitWord first = commitWord second) :
    first = second := by
  have values := congrArg BitVec.toNat same
  rw [commitWord_toNat, commitWord_toNat] at values
  omega

/-! ### The line as the writer keeps it

The writer stores the values between two commit words.  Where it stands decides which stores of the
snapshot are still missing.
-/

/-- The words outside a publication: the commit word is that of the last one, and so are the
fields. -/
structure Exposed (state : State Field) : Prop where
  commit : state.words.commit = nextNonzero^[state.published.length] 0#32
  field : ∀ values, state.published.getLast? = some values → state.words.field = values

/-- What CPU3 knows of the line at each position.  From its first store to its last, a publication
hides the line behind a zero commit word. -/
inductive Coherent (state : State Field) : Prop where
  | idle (position : state.writer = .idle)
      (counter : state.counter = nextNonzero^[state.published.length] 0#32)
      (exposed : Exposed state)
  | clearing (position : state.writer = .clearing state.counter)
      (counter : state.counter = commitWord state.published.length) (exposed : Exposed state)
  | marking (position : state.writer = .marking state.counter)
      (counter : state.counter = commitWord state.published.length)
      (hidden : state.words.commit = 0#32)
  | storing (remaining : List Field) (position : state.writer = .storing state.counter remaining)
      (counter : state.counter = commitWord state.published.length)
      (hidden : state.words.commit = 0#32)
      (stored : ∀ field, field ∉ remaining → state.words.field field = state.current field)
  | committing (position : state.writer = .committing state.counter)
      (counter : state.counter = commitWord state.published.length)
      (hidden : state.words.commit = 0#32)
      (stored : ∀ field, state.words.field field = state.current field)

omit [DecidableEq Field] in
/-- A commit word other than zero is that of the last publication, whose fields are in the line. -/
theorem Coherent.exposed_of_visible {state : State Field} (coherent : Coherent state)
    (visible : state.words.commit ≠ 0#32) : Exposed state := by
  cases coherent with
  | idle _ _ exposed | clearing _ _ exposed => exact exposed
  | marking _ _ hidden | storing _ _ _ hidden _ | committing _ _ hidden _ =>
      exact absurd hidden visible

/-- All that a step of the writer means to a reader. -/
structure WriterStep (before after : State Field) : Prop where
  reader : after.reader = before.reader
  /-- No publication was completed and the line did not become visible, or one more was
  completed. -/
  progress : (after.published = before.published ∧
      (after.words.commit ≠ 0#32 → before.words.commit ≠ 0#32)) ∨
    ∃ values, after.published = before.published ++ [values]

theorem store_spec {line : ObservationLine Field} {state next : State Field} {value : U32}
    (coherent : Coherent state) (taken : store line state value = some next) :
    Coherent next ∧ WriterStep state next := by
  cases coherent with
  | idle position counter exposed =>
      simp only [store, position] at taken
      cases taken
  | clearing position counter exposed =>
      simp only [store, position] at taken
      cases taken
      refine ⟨.marking rfl counter rfl, rfl, .inl ⟨rfl, fun visible => absurd rfl visible⟩⟩
  | marking position counter hidden =>
      simp only [store, position] at taken
      cases taken
      refine ⟨.storing line.stores rfl counter hidden ?_, rfl, .inl ⟨rfl, id⟩⟩
      intro field missing
      exact absurd (line.stored field) missing
  | storing remaining position counter hidden stored =>
      cases remaining with
      | nil =>
          simp only [store, position] at taken
          cases taken
          exact ⟨.committing rfl counter hidden fun field => stored field (by simp), rfl,
            .inl ⟨rfl, id⟩⟩
      | cons head remaining =>
          simp only [store, position] at taken
          cases taken
          refine ⟨.storing remaining rfl counter hidden ?_, rfl, .inl ⟨rfl, id⟩⟩
          intro field missing
          by_cases same : field = head
          · simp [same]
          · simpa [same] using stored field (by simp [same, missing])
  | committing position counter hidden stored =>
      simp only [store, position] at taken
      cases taken
      refine ⟨.idle rfl ?_ ⟨?_, ?_⟩, rfl, .inr ⟨_, rfl⟩⟩
      · simpa [commitWord] using counter
      · simpa [commitWord] using counter
      · intro values last
        have named : state.current = values := by simpa using last
        rw [← named]
        exact funext stored

theorem publish_spec {line : ObservationLine Field} {state next : State Field}
    (coherent : Coherent state) (taken : step line state .publish = some next) :
    Coherent next ∧ WriterStep state next := by
  cases coherent with
  | idle position counter exposed =>
      simp only [step, position, Writer.resting, if_true] at taken
      cases taken
      refine ⟨.clearing rfl ?_ ⟨exposed.commit, exposed.field⟩, rfl, .inl ⟨rfl, id⟩⟩
      simp only [commitWord]
      rw [Function.iterate_succ_apply', counter]
  | clearing position _ _ | marking position _ _ | storing _ position _ _ _
  | committing position _ _ _ =>
      simp [step, position, Writer.resting] at taken

/-! ### The line as the reader sees it

The reader accepts only if both commit words fit.  Between its loads the writer may go on, but then
the commit word moves and cannot come back within the bound on the number of snapshots.
-/

/-- These fields are those of a completed publication with this commit word. -/
def Attested (published : List (Field → U32)) (commit : U32) (field : Field → U32) : Prop :=
  ∃ number values, published[number]? = some values ∧ commitWord number = commit ∧ field = values

omit [DecidableEq Field] in
theorem Attested.append {published : List (Field → U32)} {commit : U32} {field : Field → U32}
    (attested : Attested published commit field) (values : Field → U32) :
    Attested (published ++ [values]) commit field := by
  obtain ⟨number, named, found, word, same⟩ := attested
  refine ⟨number, named, ?_, word, same⟩
  rw [List.getElem?_append_left (List.getElem?_eq_some_iff.mp found).1]
  exact found

/-- What a read knows.  The fields loaded so far are those of the last publication for as long as no
other one has begun to store. -/
def Reading (state : State Field) : Reader Field → Prop
  | .idle => True
  | .marking since first =>
      since ≤ state.published.length ∧ (first ≠ 0#32 → first = nextNonzero^[since] 0#32)
  | .loading since first _ remaining field =>
      since ≤ state.published.length ∧ (first ≠ 0#32 → first = nextNonzero^[since] 0#32) ∧
        (state.published.length = since → state.words.commit ≠ 0#32 →
          ∀ values, state.published.getLast? = some values →
            ∀ name, name ∉ remaining → field name = values name)
  | .inverting since first _ field second =>
      since ≤ state.published.length ∧
        (first ≠ 0#32 → first = second → state.published.length - since < 2 ^ 32 - 1 →
          Attested state.published second field)
  | .finished _ snapshot =>
      snapshot.first ≠ 0#32 → snapshot.first = snapshot.second →
        snapshot.publications < 2 ^ 32 - 1 →
          Attested state.published snapshot.second snapshot.field

omit [DecidableEq Field] in
/-- A step of the writer leaves what a read knows true. -/
theorem Reading.writer {before after : State Field} {reader : Reader Field}
    (reading : Reading before reader) (written : WriterStep before after) :
    Reading after reader := by
  rcases written.progress with ⟨same, visible⟩ | ⟨values, grown⟩
  · cases reader with
    | idle => trivial
    | marking since first => simpa only [Reading, same] using reading
    | loading since first magic remaining field =>
        simp only [Reading, same] at reading ⊢
        exact ⟨reading.1, reading.2.1, fun current shown => reading.2.2 current (visible shown)⟩
    | inverting since first magic field second => simpa only [Reading, same] using reading
    | finished since snapshot => simpa only [Reading, same] using reading
  · have longer : after.published.length = before.published.length + 1 := by simp [grown]
    cases reader with
    | idle => trivial
    | marking since first =>
        simp only [Reading] at reading ⊢
        exact ⟨by omega, reading.2⟩
    | loading since first magic remaining field =>
        simp only [Reading] at reading ⊢
        exact ⟨by omega, reading.2.1, fun current => absurd current (by omega)⟩
    | inverting since first magic field second =>
        simp only [Reading] at reading ⊢
        refine ⟨by omega, fun nonzero same few => ?_⟩
        rw [grown]
        exact (reading.2 nonzero same (by omega)).append values
    | finished since snapshot =>
        simp only [Reading] at reading ⊢
        intro nonzero same few
        rw [grown]
        exact (reading nonzero same few).append values

omit [DecidableEq Field] in
/-- The writer's view does not depend on the reader. -/
theorem Coherent.withReader {state : State Field} (coherent : Coherent state)
    (reader : Reader Field) : Coherent { state with reader := reader } := by
  cases coherent with
  | idle position counter exposed =>
      exact .idle position counter ⟨exposed.commit, exposed.field⟩
  | clearing position counter exposed =>
      exact .clearing position counter ⟨exposed.commit, exposed.field⟩
  | marking position counter hidden => exact .marking position counter hidden
  | storing remaining position counter hidden stored =>
      exact .storing remaining position counter hidden stored
  | committing position counter hidden stored => exact .committing position counter hidden stored

/-- A commit word other than zero numbers at least one publication. -/
theorem exists_commitWord {count : Nat} {word : U32} (nonzero : word ≠ 0#32)
    (named : word = nextNonzero^[count] 0#32) : ∃ number, count = number + 1 ∧
      word = commitWord number := by
  cases count with
  | zero => exact absurd named nonzero
  | succ number => exact ⟨number, rfl, named⟩

omit [DecidableEq Field] in
/-- The second load of the commit word: when it repeats the first, no publication came in
between. -/
theorem second_load {state : State Field} (coherent : Coherent state) {since : Nat}
    {first magic : U32}
    {field : Field → U32} (reading : Reading state (.loading since first magic [] field))
    (nonzero : first ≠ 0#32) (same : first = state.words.commit)
    (few : state.published.length - since < 2 ^ 32 - 1) :
    Attested state.published state.words.commit field := by
  obtain ⟨ordered, numbered, fields⟩ := reading
  have visible : state.words.commit ≠ 0#32 := same ▸ nonzero
  have exposed := coherent.exposed_of_visible visible
  obtain ⟨older, sinceEq, firstEq⟩ := exists_commitWord nonzero (numbered nonzero)
  obtain ⟨newer, lengthEq, commitEq⟩ := exists_commitWord visible exposed.commit
  have equal : older = newer :=
    commitWord_injective (by omega) (by omega) (firstEq.symm.trans (same.trans commitEq))
  have nonempty : state.published ≠ [] := by
    intro none
    simp [none] at lengthEq
  have last := List.getLast?_eq_some_getLast nonempty
  refine ⟨newer, _, ?_, commitEq.symm, funext fun name =>
    fields (by omega) visible _ last name (by simp)⟩
  rw [← last, List.getLast?_eq_getElem?]
  congr 1
  omega

theorem load_spec {line : ObservationLine Field} {state next : State Field}
    (coherent : Coherent state)
    (reading : Reading state state.reader) (taken : load line state = some next) :
    Coherent next ∧ Reading next next.reader := by
  cases position : state.reader with
  | idle => simp [load, position] at taken
  | finished since snapshot => simp [load, position] at taken
  | marking since first =>
      simp only [load, position] at taken
      cases taken
      rw [position] at reading
      refine ⟨coherent.withReader _, reading.1, reading.2, fun _ _ values _ name missing => ?_⟩
      exact absurd (line.loaded name) missing
  | loading since first magic remaining field =>
      rw [position] at reading
      cases remaining with
      | nil =>
          simp only [load, position] at taken
          cases taken
          exact ⟨coherent.withReader _, reading.1, fun nonzero same few =>
            second_load coherent reading nonzero same few⟩
      | cons head remaining =>
          simp only [load, position] at taken
          cases taken
          refine ⟨coherent.withReader _, reading.1, reading.2.1, ?_⟩
          intro current visible values last name missing
          by_cases same : name = head
          · have exposed := coherent.exposed_of_visible visible
            simp [same, exposed.field values last]
          · have earlier := reading.2.2 current visible values last name (by simp [same, missing])
            simpa [same] using earlier
  | inverting since first magic field second =>
      simp only [load, position] at taken
      cases taken
      rw [position] at reading
      exact ⟨coherent.withReader _, fun nonzero same few => reading.2 nonzero same few⟩

theorem read_spec {line : ObservationLine Field} {state next : State Field}
    (coherent : Coherent state)
    (taken : step line state .read = some next) : Coherent next ∧ Reading next next.reader := by
  simp only [step] at taken
  split at taken
  · cases taken
    refine ⟨coherent.withReader _, le_refl _, fun visible => ?_⟩
    exact (coherent.exposed_of_visible visible).commit
  · cases taken

/-- Every step keeps both views. -/
theorem step_keeps {line : ObservationLine Field} {state next : State Field} {label : Label}
    (coherent : Coherent state) (reading : Reading state state.reader)
    (taken : step line state label = some next) : Coherent next ∧ Reading next next.reader := by
  have written : Coherent next ∧ WriterStep state next → Coherent next ∧
      Reading next next.reader := by
    rintro ⟨kept, writerStep⟩
    rw [writerStep.reader]
    exact ⟨kept, reading.writer writerStep⟩
  cases label with
  | publish => exact written (publish_spec coherent taken)
  | store value => exact written (store_spec coherent taken)
  | read => exact read_spec coherent taken
  | load => exact load_spec coherent reading taken

theorem reachable_views {line : ObservationLine Field} {state : State Field}
    (reached : (machine line).Reachable state) : Coherent state ∧ Reading state state.reader := by
  induction reached with
  | init initial =>
      rw [initial]
      exact ⟨.idle rfl rfl ⟨rfl, fun _ none => by cases none⟩, trivial⟩
  | step _ taken inductionHypothesis =>
      exact step_keeps inductionHypothesis.1 inductionHypothesis.2 taken

end Machine

/-! ### Snapshots -/

/-- The two lines that `status_show` reads. -/
inductive Observed where
  | worker
  | txFull

/-- The data words of each line. -/
abbrev Observed.Field : Observed → Type
  | .worker => WorkerField
  | .txFull => TxFullField

instance (observed : Observed) : DecidableEq observed.Field :=
  match observed with
  | .worker => inferInstanceAs (DecidableEq WorkerField)
  | .txFull => inferInstanceAs (DecidableEq TxFullField)

/-- The stores and loads of each line. -/
def Observed.line : (observed : Observed) → ObservationLine observed.Field
  | .worker => workerObservation
  | .txFull => txFullObservation

/-- A snapshot of either line that `status_show` reports as valid, in any interleaving of stores and
loads with fewer than 2^32 - 1 publications during the read: all its fields are those of one
completed publication, the one numbered by the commit word that it reports. -/
theorem snapshot_untorn (observed : Observed) {state : State observed.Field}
    (reached : (machine observed.line).Reachable state) {since : Nat}
    {snapshot : Snapshot observed.Field} (finished : state.reader = .finished since snapshot)
    (few : snapshot.publications < 2 ^ 32 - 1) (valid : snapshot.valid observed.line) :
    ∃ number values, state.published[number]? = some values ∧ commitWord number = snapshot.second ∧
      ∀ field, snapshot.field field = values field := by
  obtain ⟨-, reading⟩ := reachable_views reached
  rw [finished] at reading
  simp only [Snapshot.valid, Bool.and_eq_true, bne_iff_ne, beq_iff_eq] at valid
  obtain ⟨⟨⟨-, nonzero⟩, same⟩, -⟩ := valid
  obtain ⟨number, values, found, word, fields⟩ := reading nonzero same few
  exact ⟨number, values, found, word, fun field => congrFun fields field⟩

/-- One publication with fields 1, 2, 3 and 4, and a read of it; the next publication clears the
commit word before the read is over. -/
def demoLabels : List Label :=
  [.publish, .store 0, .store 0, .store 1, .store 2, .store 3, .store 4, .store 0, .store 0, .read,
    .load, .load, .load, .load, .load, .load, .publish, .store 0, .load]

/-- A finished read whose snapshot is valid. -/
def State.validRead (observed : Observed) (state : State observed.Field) : Bool :=
  match state.reader with
  | .finished _ snapshot =>
      snapshot.valid observed.line && decide (snapshot.publications < 2 ^ 32 - 1)
  | _ => false

/-- Valid snapshots occur, and the one here is publication number 0. -/
theorem snapshot_untorn_demo :
    ∃ (state : State TxFullField) (since : Nat) (snapshot : Snapshot TxFullField),
      (machine txFullObservation).Reachable state ∧ state.reader = .finished since snapshot ∧
      snapshot.valid txFullObservation = true ∧
      ∃ number values, state.published[number]? = some values ∧
        commitWord number = snapshot.second ∧
        ∀ field, snapshot.field field = values field := by
  have executed : (((machine txFullObservation).run start demoLabels).any
      (State.validRead .txFull)) = true := by
    decide +kernel
  obtain ⟨state, run, checked⟩ := Machine.exists_of_run_any executed
  have reached : (machine txFullObservation).Reachable state :=
    (Machine.Reachable.init rfl).run run
  unfold State.validRead at checked
  split at checked
  · rename_i since snapshot finished
    rw [Bool.and_eq_true, decide_eq_true_eq] at checked
    exact ⟨state, since, snapshot, reached, finished, checked.1,
      snapshot_untorn .txFull reached finished checked.2 checked.1⟩
  · cases checked

end MailMsg.Observation
