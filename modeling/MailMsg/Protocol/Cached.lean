/-
Module: MailMsg.Protocol.Cached
Purpose: Whole runs of two CPUs with caches.  As long as no write-back carries a stale word of the
  other CPU, the caches refine coherent memory and the ring keeps its order; a run with one stale
  write-back delivers a frame twice.
Source: LZAMP/protocol/mailmsg/mailmsg.c, LZAMP/protocol/mailmsg/mailmsg.h
Trusted boundary: none beyond the machine
Main exports: Cached.Refines.step, Cached.currentMachine, Cached.cached_ring_ordered
-/
import MailMsg.Protocol.Cached.Producer
import MailMsg.Protocol.Cached.Consumer

namespace MailMsg.Cached

open Spsc (Field copyField PushPc PopPc)

/-! ### Whole runs -/

section Runs

variable {base : Nat}

/-- An empty ring with clean caches stands for the same ring in coherent memory. -/
theorem Refines.start {state : State} (start : Start base state) :
    ∃ coherent, Refines base state coherent := by
  let coherent : Spsc.State :=
    { ring :=
        { producer := state.memory .producer
          consumer := state.memory .consumer
          slot := fun index => messageAt state.memory (slotIndex index) }
      push := .idle
      pop := .idle
      start := (state.memory .producer).toNat
      called := .zero
      pushes := []
      published := []
      consumed := 0
      pops := [] }
  have initial : Spsc.Initial coherent :=
    ⟨start.empty, rfl, start.inside, rfl, rfl, rfl, rfl, rfl, rfl⟩
  refine ⟨coherent, .init initial, rfl, rfl, ?_, ?_, ?_, ?_, ?_, ?_, ?_⟩
  · intro index _
    exact congrArg (messageAt state.memory) (slotIndex_ofNat index)
  · rw [start.resting.1]
    rfl
  · rw [start.resting.2]
    rfl
  · exact start.fresh.2.symm
  · rw [start.fresh.1, start.resting.1]
    rfl
  · rw [start.resting.1]
    exact ⟨fun place _ _ => start.producing place, start.settled.1⟩
  · rw [start.resting.2]
    exact ⟨fun _ => start.consuming .consumer, start.settled.2⟩

/-- Every step that writes back no stale word of the other side is matched in the coherent run. -/
theorem Refines.step {state next : State} {coherent : Spsc.State}
    (refines : Refines base state coherent) (aligned : base % 4 = 0) {label : Label}
    (current : admissible base state label = true) (taken : step base state label = some next) :
    ∃ after, Refines base next after := by
  cases label with
  | push message =>
      simp only [Cached.step] at taken
      split at taken
      · rename_i idle _
        cases taken
        exact refines.callPush aligned idle
      · cases taken
  | pushStep =>
      simp only [Cached.step] at taken
      split at taken
      · rename_i settled
        exact refines.pushStep aligned settled taken
      · cases taken
  | pushCopy field =>
      simp only [Cached.step] at taken
      split at taken
      · rename_i message producer remaining position _
        split at taken
        · cases taken
          exact ⟨coherent, refines.pushCopy position field⟩
        · cases taken
      · cases taken
  | pushHook =>
      simp only [Cached.step, Cpu.hook] at taken
      cases queued : state.producing.pending with
      | nil =>
          rw [queued] at taken
          cases taken
      | cons operation rest =>
          rw [queued] at taken
          cases taken
          simp only [admissible, queued, List.head?_cons, Option.all_some] at current
          exact refines.pushHook queued current
  | pop buffer =>
      simp only [Cached.step] at taken
      split at taken
      · rename_i idle _
        cases taken
        exact refines.callPop aligned buffer idle
      · cases taken
  | popStep =>
      simp only [Cached.step] at taken
      split at taken
      · rename_i settled
        exact refines.popStep aligned settled taken
      · cases taken
  | popCopy field =>
      simp only [Cached.step] at taken
      split at taken
      · rename_i buffer consumer remaining position _
        split at taken
        · rename_i member
          cases taken
          exact refines.popCopy position member
        · cases taken
      · cases taken
  | popHook =>
      simp only [Cached.step, Cpu.hook] at taken
      cases queued : state.consuming.pending with
      | nil =>
          rw [queued] at taken
          cases taken
      | cons operation rest =>
          rw [queued] at taken
          cases taken
          simp only [admissible, queued, List.head?_cons, Option.all_some] at current
          exact refines.popHook queued current

/-- The runs in which no write-back carries a stale word of the other side. -/
def currentMachine (base : Nat) : Machine State Label :=
  (machine base).restrict fun state label => admissible base state label = true

theorem Refines.reachable (aligned : base % 4 = 0) {state : State}
    (reached : (currentMachine base).Reachable state) :
    ∃ coherent, Refines base state coherent := by
  induction reached with
  | init start => exact Refines.start start
  | step _ taken inductionHypothesis =>
      obtain ⟨coherent, refines⟩ := inductionHypothesis
      obtain ⟨current, stepped⟩ := Machine.restrict_step_iff.mp taken
      exact refines.step aligned current stepped

end Runs

/-- In every run of pushes on one CPU and pops on the other, over any ring of the region, in which
no write-back carries a stale word of the other side: the frames of the OK pops are a prefix of the
frames pushed, and every finished pop answers OK or EMPTY. -/
theorem cached_ring_ordered {sender : Role} {priority : Priority} {state : State}
    (reached : (currentMachine (ringBase sender priority)).Reachable state) :
    state.delivered <+: state.pushed ∧
      ∀ record ∈ state.pops, record.1 = .empty ∨ record.1 = .ok := by
  obtain ⟨coherent, refines⟩ := Refines.reachable (ringBase_aligned sender priority) reached
  have invariant := Spsc.Invariant.reachable refines.reached
  have delivered : coherent.delivered = state.delivered := by
    rw [Spsc.State.delivered, State.delivered, refines.pops]
  constructor
  · rw [← delivered, refines.pushed]
    exact invariant.delivered.trans (List.prefix_append _ _)
  · rw [← refines.pops]
    exact invariant.results

/-! ### Two runs -/

/-- A zeroed ring that stands empty at index 7. -/
def demoMemory : Memory
  | .producer => 7#32
  | .consumer => 7#32
  | .slot _ (.payload _) => 0#8
  | .slot _ .generation | .slot _ .type | .slot _ .sequence | .slot _ .length | .slot _ .crc32
  | .slot _ .commit => 0#32

/-- Both caches are empty. -/
def demoStart : State where
  memory := demoMemory
  producing := ⟨.empty demoMemory, []⟩
  consuming := ⟨.empty demoMemory, []⟩
  push := .idle
  pop := .idle
  pushed := []
  pops := []

theorem demoStart_start (base : Nat) : Start base demoStart := by
  constructor
  · rfl
  · decide
  · exact fun place => Cache.view_of_absent _ _ _ rfl
  · exact fun place => Cache.view_of_absent _ _ _ rfl
  · exact ⟨rfl, rfl⟩
  · exact ⟨rfl, rfl⟩
  · exact ⟨rfl, rfl⟩

/-- An empty PING. -/
def demoMessage (sequence : U32) : Message :=
  { Message.zero with generation := 3, type := MessageType.ping, sequence := sequence }

/-- A push up to its load of the consumer's index. -/
def demoPushChecks (sequence : U32) : List Label :=
  [.push (demoMessage sequence), .pushHook, .pushStep]

/-- The structure assignment of a push, the CRC, and the write-back of a slot of `lines` lines. -/
def demoPushSlot (lines : Nat) : List Label :=
  Field.all.map .pushCopy ++ [.pushStep, .pushStep] ++ List.replicate lines .pushHook

/-- The commit word and the index of a push. -/
def demoPushIndex : List Label := [.pushStep, .pushHook, .pushStep, .pushHook, .pushStep]

/-- A whole pop of a slot of `lines` lines. -/
def demoPop (lines : Nat) : List Label :=
  [.pop .zero, .popHook, .popStep] ++ List.replicate lines .popHook ++ [.popStep, .popStep] ++
    Field.all.map .popCopy ++ [.popStep, .popHook, .popStep]

/-- Two frames, each pushed and popped, the second over a slot of two lines.  The line of the
indices goes from the producer to the consumer, back with the consumer's index, and on again, and no
write-back is stale. -/
theorem cached_ring_ordered_demo :
    ∃ state, (currentMachine (ringBase .linux 0)).Reachable state ∧ state.delivered.length = 2 ∧
      state.delivered <+: state.pushed := by
  have executed : (((currentMachine (ringBase .linux 0)).run demoStart
      (demoPushChecks 1 ++ demoPushSlot 1 ++ demoPushIndex ++ demoPop 1 ++
        demoPushChecks 2 ++ demoPushSlot 2 ++ demoPushIndex ++ demoPop 2)).any fun state =>
          decide (state.delivered.length = 2)) = true := by
    decide +kernel
  obtain ⟨state, run, counted⟩ := Machine.exists_of_run_any executed
  have reached : (currentMachine (ringBase .linux 0)).Reachable state :=
    (Machine.Reachable.init (demoStart_start _)).run run
  exact ⟨state, reached, of_decide_eq_true counted, (cached_ring_ordered reached).1⟩

/-- The first pop moves the consumer's index while the second push holds the line of both indices;
the push writes that line back with its slot, a pop that finds the ring empty fetches the old index
with it, and the next pop delivers the first frame again. -/
def staleLabels : List Label :=
  demoPushChecks 1 ++ demoPushSlot 1 ++ demoPushIndex ++ demoPushChecks 2 ++ demoPop 1 ++
    demoPushSlot 2 ++
    [.pop .zero, .popHook, .popStep] ++ demoPop 1

/-- Hooks in the right places are not enough: one frame is pushed and two are delivered. -/
theorem stale_index_written_back :
    ∃ state, (machine (ringBase .linux 0)).Reachable state ∧
      ¬ state.delivered <+: state.pushed := by
  have executed : (((machine (ringBase .linux 0)).run demoStart staleLabels).any fun state =>
      decide (state.delivered.length = 2 ∧ state.pushed.length = 1)) = true := by
    decide +kernel
  obtain ⟨state, run, counted⟩ := Machine.exists_of_run_any executed
  have reached : (machine (ringBase .linux 0)).Reachable state :=
    (Machine.Reachable.init (demoStart_start _)).run run
  refine ⟨state, reached, fun isPrefix => ?_⟩
  have bound := isPrefix.length_le
  obtain ⟨delivered, pushed⟩ := of_decide_eq_true counted
  omega

end MailMsg.Cached
