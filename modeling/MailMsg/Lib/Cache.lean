/-
Module: MailMsg.Lib.Cache
Purpose: A private write-back cache over one memory: loads and stores act on the cached copy of a
  line, and lines are written back or dropped by explicit maintenance only.
Trusted boundary: none
Main exports: Cache, Cache.view, Cache.fetch, Cache.store, Cache.LineOp, Cache.perform,
  Cache.view_fetch, Cache.view_store, Cache.memory_clean, Cache.view_clean, Cache.view_drop
-/
import Mathlib.Logic.Function.Basic

/-- A cache of lines.  `copy` is meaningful for the places of the lines that are present. -/
structure Cache (Line : Type*) {Place : Type*} (Value : Place → Type*) where
  present : Line → Bool
  dirty : Line → Bool
  copy : (place : Place) → Value place

namespace Cache

variable {Line Place : Type*} {Value : Place → Type*}

/-- A cache without lines. -/
def empty (copy : (place : Place) → Value place) : Cache Line Value where
  present := fun _ => false
  dirty := fun _ => false
  copy := copy

/-- Maintenance of one line. -/
inductive LineOp (Line : Type*) where
  /-- Write the line back and keep it. -/
  | clean (line : Line)
  /-- Write the line back if it is dirty, and forget it. -/
  | drop (line : Line)
deriving DecidableEq

/-- The line that an operation is about. -/
def LineOp.line : LineOp Line → Line
  | .clean line => line
  | .drop line => line

variable (lineOf : Place → Line) (memory : (place : Place) → Value place) (cache : Cache Line Value)

/-- The value that a load of a place returns. -/
def view (place : Place) : Value place :=
  if cache.present (lineOf place) then cache.copy place else memory place

/-- A place of an absent line shows what memory holds. -/
theorem view_of_absent {place : Place} (absent : cache.present (lineOf place) = false) :
    cache.view lineOf memory place = memory place := by
  simp [view, absent]

/-- Another CPU's maintenance shows only where it changed memory. -/
theorem view_congr {memory' : (place : Place) → Value place} {place : Place}
    (same : memory' place = memory place) :
    cache.view lineOf memory' place = cache.view lineOf memory place := by
  simp [view, same]

variable [DecidableEq Line]

/-- Make a line present. -/
def fetch (line : Line) : Cache Line Value :=
  if cache.present line then cache
  else
    { present := Function.update cache.present line true
      dirty := Function.update cache.dirty line false
      copy := fun place => if lineOf place = line then memory place else cache.copy place }

/-- Store one place in its cached line. -/
def store [DecidableEq Place] (place : Place) (value : Value place) : Cache Line Value :=
  let fetched := cache.fetch lineOf memory (lineOf place)
  { fetched with
    dirty := Function.update fetched.dirty (lineOf place) true
    copy := Function.update fetched.copy place value }

/-- The operation writes its line to memory. -/
def writesBack : LineOp Line → Bool
  | .clean line => cache.present line
  | .drop line => cache.present line && cache.dirty line

/-- The memory and the cache after maintenance of one line. -/
def perform (operation : LineOp Line) : ((place : Place) → Value place) × Cache Line Value :=
  (if cache.writesBack operation then
      fun place => if lineOf place = operation.line then cache.copy place else memory place
    else memory,
    match operation with
    | .clean line => { cache with dirty := Function.update cache.dirty line false }
    | .drop line =>
        { cache with
          present := Function.update cache.present line false
          dirty := Function.update cache.dirty line false })

/-! ### What the operations do to the view -/

/-- Fetching a line is invisible. -/
theorem view_fetch (line : Line) :
    (cache.fetch lineOf memory line).view lineOf memory = cache.view lineOf memory := by
  funext place
  by_cases present : cache.present line
  · simp [fetch, present]
  · by_cases same : lineOf place = line
    · simp [fetch, view, present, same]
    · simp [fetch, view, present, same]

/-- A store changes the view at its place only. -/
theorem view_store [DecidableEq Place] (place : Place) (value : Value place) :
    (cache.store lineOf memory place value).view lineOf memory =
      Function.update (cache.view lineOf memory) place value := by
  have present : (cache.fetch lineOf memory (lineOf place)).present (lineOf place) = true := by
    unfold fetch
    split <;> simp_all
  have fetched := view_fetch lineOf memory cache (lineOf place)
  funext other
  by_cases same : other = place
  · subst same
    simp [store, view, present]
  · rw [Function.update_of_ne same, ← fetched]
    simp [store, view, same]

/-- A line that is cleaned shows its copy in memory. -/
theorem memory_clean (line : Line) (place : Place) :
    (cache.perform lineOf memory (.clean line)).1 place =
      if lineOf place = line then cache.view lineOf memory place else memory place := by
  by_cases same : lineOf place = line
  · by_cases present : cache.present line
    · simp [perform, writesBack, LineOp.line, view, same, present]
    · simp [perform, writesBack, view, same, present]
  · by_cases present : cache.present line
    · simp [perform, writesBack, LineOp.line, same, present]
    · simp [perform, writesBack, same, present]

/-- Cleaning a line is invisible to its own CPU. -/
theorem view_clean (line : Line) :
    (cache.perform lineOf memory (.clean line)).2.view lineOf
      (cache.perform lineOf memory (.clean line)).1 = cache.view lineOf memory := by
  funext place
  by_cases present : cache.present (lineOf place)
  · simp [perform, view, present]
  · have shown := memory_clean lineOf memory cache line place
    have absent : cache.present (lineOf place) = false := by simpa using present
    have same := view_of_absent lineOf memory cache absent
    rw [same, ite_self] at shown
    rw [same]
    simpa [view, perform, present] using shown

/-- A dropped line shows what memory holds; the others stay. -/
theorem view_drop (line : Line) {memory' : (place : Place) → Value place} (place : Place) :
    (cache.perform lineOf memory (.drop line)).2.view lineOf memory' place =
      if lineOf place = line then memory' place else cache.view lineOf memory' place := by
  by_cases same : lineOf place = line
  · simp [perform, view, same]
  · simp [perform, view, same]

end Cache
