/-
Module: MailMsg.Driver.Geometry
Purpose: The launch geometry that probe accepts, in the machine integers of the source, and the byte
  ranges of the carveout that the driver writes in a run.
Source: LZAMP/linux/drivers/lzamp_amp_mailmsg.c (r1_amp_cpu_on_probe, image_write, start_store),
  LZAMP/protocol/mailmsg/mailmsg.h
Trusted boundary: none beyond the layout
Main exports: Geometry, Geometry.accepted, CarveoutWrite, region_write_covered, Geometry.Sound,
  launch_geometry_sound
-/
import MailMsg.Driver.Image
import MailMsg.Protocol.Bounds
import MailMsg.Protocol.Layout

namespace MailMsg

/-! ### The carveout -/

/-- `R1_AMP_STATE_SIZE`. -/
abbrev stateSize : Nat := mailmsgOffset + sharedBytes

/-- What probe reads from the device tree and the reserved memory. -/
structure Geometry where
  base : BitVec 64
  size : BitVec 64
  entry : BitVec 64
  imageSize : U32
  statusOffset : U32

/-- The geometry check of `r1_amp_cpu_on_probe`.  Sums and differences of the 64-bit values wrap. -/
def Geometry.accepted (geometry : Geometry) : Bool :=
  !(geometry.imageSize == 0 || decide (geometry.statusOffset < geometry.imageSize) ||
    decide (geometry.size - BitVec.ofNat 64 stateSize < geometry.statusOffset.setWidth 64) ||
    decide (geometry.entry < geometry.base) || decide (geometry.base + geometry.size ≤
      geometry.entry))

/-- Bytes `offset` to `offset + length` of the carveout. -/
structure Span where
  offset : Nat
  length : Nat
deriving DecidableEq

/-- The span lies between two offsets. -/
def Span.inside (span : Span) (first last : Nat) : Prop :=
  first ≤ span.offset ∧ span.offset + span.length ≤ last

/-- Offset of the region in the carveout: `carveout + status_offset + R1_AMP_MAILMSG_OFF`. -/
def Geometry.shared (geometry : Geometry) : Nat := geometry.statusOffset.toNat + mailmsgOffset

/-- `&ring->producer`. -/
def Geometry.producer (geometry : Geometry) (sender : Role) (priority : Priority) : Span :=
  ⟨geometry.shared + ringOffset sender priority, 4⟩

/-- `&ring->consumer`. -/
def Geometry.consumer (geometry : Geometry) (sender : Role) (priority : Priority) : Span :=
  ⟨geometry.shared + ringOffset sender priority + 4, 4⟩

/-- `&ring->slot[index]`, for any index. -/
def Geometry.slot (geometry : Geometry) (sender : Role) (priority : Priority)
    (index : U32) : Span :=
  ⟨geometry.shared + ringOffset sender priority + slotOffset index.toNat, messageBytes⟩

/-! ### Writes -/

/-- The bytes of the carveout that an entry point may write.  `image_write` computes in `size_t`; a
push writes the slot at the producer index that it reads and the index itself, a pop the consumer
index. -/
inductive CarveoutWrite (geometry : Geometry) (system : System) : DriverLabel → Span → Prop where
  | image (offset count : BitVec 64) (bytes : Nat → U8)
      (free : system.driver.cpuOnAttempted = false)
      (place : offset.toNat = system.driver.imageWritten)
      (fits : ¬ geometry.imageSize.setWidth 64 - BitVec.ofNat 64 system.driver.imageWritten < count) :
      CarveoutWrite geometry system (.imageWrite offset.toNat count.toNat bytes)
        ⟨offset.toNat, count.toNat⟩
  /-- `memset(status_ptr, 0, R1_AMP_STATE_SIZE)`. -/
  | clear (accepted : Bool) (count : Nat) (affinity cpuOn : Int) :
      CarveoutWrite geometry system (.start accepted count affinity cpuOn)
        ⟨geometry.statusOffset.toNat, stateSize⟩
  /-- The magic, the version and the generation. -/
  | header (accepted : Bool) (count : Nat) (affinity cpuOn : Int) (field : Fin 3) :
      CarveoutWrite geometry system (.start accepted count affinity cpuOn)
        ⟨geometry.shared + 4 * field.val, 4⟩
  | slot {label : DriverLabel} {priority : Priority} {type length : U32}
      (sender : Sender system label priority type length)
      (active : system.driver.mailmsgState = .active) :
      CarveoutWrite geometry system label
        (geometry.slot .linux priority (system.hardware.shared.linuxToCpu3 priority).producer)
  | producer {label : DriverLabel} {priority : Priority} {type length : U32}
      (sender : Sender system label priority type length)
      (active : system.driver.mailmsgState = .active) :
      CarveoutWrite geometry system label (geometry.producer .linux priority)
  | consumer {label : DriverLabel} {priority : Priority}
      (receiver : Receiver system label priority) :
      CarveoutWrite geometry system label (geometry.consumer .cpu3 priority)

/-- The cells of the message region. -/
inductive Cell where
  | magic
  | version
  | generation
  | producer (sender : Role) (priority : Priority)
  | consumer (sender : Role) (priority : Priority)
  | slot (sender : Role) (priority : Priority) (index : Fin ringSlots)

/-- The bytes of a cell. -/
def Geometry.cell (geometry : Geometry) : Cell → Span
  | .magic => ⟨geometry.shared, 4⟩
  | .version => ⟨geometry.shared + 4, 4⟩
  | .generation => ⟨geometry.shared + 8, 4⟩
  | .producer sender priority => geometry.producer sender priority
  | .consumer sender priority => geometry.consumer sender priority
  | .slot sender priority index => geometry.slot sender priority (BitVec.ofNat 32 index.val)

/-- Two regions agree in a cell. -/
def Cell.same (before after : Shared) : Cell → Prop
  | .magic => after.magic = before.magic
  | .version => after.version = before.version
  | .generation => after.generation = before.generation
  | .producer sender priority =>
      (after.ring sender priority).producer = (before.ring sender priority).producer
  | .consumer sender priority =>
      (after.ring sender priority).consumer = (before.ring sender priority).consumer
  | .slot sender priority index =>
      (after.ring sender priority).slot (BitVec.ofNat 32 index.val) =
        (before.ring sender priority).slot (BitVec.ofNat 32 index.val)

/-! ### What the writers rely on -/

/-- An `image_write` leaves the number of loaded bytes or adds its count. -/
theorem imageWrite_written (system : System) (offset count : Nat) (bytes : Nat → U8) :
    (imageWrite system offset count bytes).2.driver.imageWritten = system.driver.imageWritten ∨
      (imageWrite system offset count bytes).2.driver.imageWritten =
        system.driver.imageWritten + count := by
  simp only [imageWrite]
  split
  · exact .inl rfl
  · split
    · exact .inl rfl
    · split
      · exact .inl rfl
      · exact .inr rfl

/-- The image never grows past its size. -/
theorem imageWritten_le {system : System} (reached : driverMachine.Reachable system) :
    system.driver.imageWritten ≤ system.config.imageSize := by
  induction reached with
  | init start =>
      obtain ⟨config, image, hardware, jiffies, rfl⟩ := start
      exact Nat.zero_le _
  | step earlier taken inductionHypothesis =>
      have invariant := SessionInvariant.reachable earlier
      have config := (driverStep_lifecycle invariant.bound invariant.control taken).sameConfig
      rw [config]
      cases driverStep_load invariant.bound taken with
      | same load =>
          rw [load.imageWritten]
          exact inductionHypothesis
      | written offset count bytes free place fits value =>
          rw [value]
          rcases imageWrite_written _ offset count bytes with same | grown
          · rw [same]
            exact inductionHypothesis
          · rw [grown]
            omega
      | launched cpuOn launched =>
          rw [launched.imageWritten]
          exact inductionHypothesis
      | rearmed image imageWritten =>
          rw [imageWritten]
          exact Nat.zero_le _

/-- The index of a ring that Linux writes: the producer's where it sends, the consumer's where it
receives. -/
def Ring.ownIndex (ring : Ring) : Role → U32
  | .linux => ring.producer
  | .cpu3 => ring.consumer

/-- The indices that Linux itself writes select slots. -/
def OwnIndices (shared : Shared) : Prop :=
  ∀ sender priority, ((shared.ring sender priority).ownIndex sender).toNat < ringSlots

namespace OwnIndices

variable {system next : System} {label : DriverLabel}

theorem sessionRegion (generation : U32) : OwnIndices (sessionRegion generation) := by
  intro sender priority
  cases sender with
  | linux => exact Ring.zero_wellFormed.producer
  | cpu3 => exact Ring.zero_wellFormed.consumer

theorem setRing {shared : Shared} (own : OwnIndices shared) {sender : Role} {priority : Priority}
    {ring : Ring} (inside : (ring.ownIndex sender).toNat < ringSlots) :
    OwnIndices (shared.setRing sender priority ring) := by
  intro other place
  by_cases same : other = sender ∧ place = priority
  · rw [same.1, same.2, Shared.ring_setRing_self]
    exact inside
  · have different : other ≠ sender ∨ place ≠ priority := by
      rcases not_and_or.mp same with first | second
      · exact .inl first
      · exact .inr second
    rw [Shared.ring_setRing_of_ne _ _ _ _ different]
    exact own other place

/-- CPU3 does not write them. -/
theorem peer {hardware : Hardware} (own : OwnIndices hardware.shared) (write : PeerWrite) :
    OwnIndices (write.apply hardware).shared := by
  cases write with
  | slot priority index message =>
      change OwnIndices (hardware.shared.setRing .cpu3 priority _)
      apply own.setRing
      exact own .cpu3 priority
  | producer priority value =>
      change OwnIndices (hardware.shared.setRing .cpu3 priority _)
      apply own.setRing
      exact own .cpu3 priority
  | consumer priority value =>
      change OwnIndices (hardware.shared.setRing .linux priority _)
      apply own.setRing
      exact own .linux priority
  | acknowledge channel => exact own
  | doorbell channel command data => exact own

/-- A send advances a producer index, a receive leaves or advances a consumer index. -/
theorem region (own : OwnIndices system.hardware.shared) (step : RegionStep system label next) :
    OwnIndices next.hardware.shared := by
  cases step with
  | same shared =>
      rw [shared]
      exact own
  | peer write isPeer hardware =>
      rw [hardware]
      exact own.peer write
  | sent sender active effect =>
      cases effect with
      | nothing same =>
          rw [same]
          exact own
      | pushed slot typed sized numbered committed space published =>
          rw [published]
          exact own.setRing (ringNext_lt _)
  | received receiver effect peerWrites =>
      rename_i priority
      cases effect with
      | nothing same =>
          rw [same]
          exact own
      | popped released =>
          rw [released]
          apply own.setRing
          rcases ringPop_cases (system.hardware.shared.cpu3ToLinux priority) with
            ⟨-, value⟩ | ⟨-, -, value⟩ | ⟨-, -, _, -, -, value⟩
          · rw [value]
            exact own .cpu3 priority
          · rw [value]
            exact own .cpu3 priority
          · rw [value]
            exact ringNext_lt _
  | initialised cpuOn launched =>
      rw [launched.region]
      exact .sessionRegion _

/-- From the first start on, whatever CPU3 writes. -/
theorem reachable {system : System} (reached : driverMachine.Reachable system)
    (started : system.driver.sessionGeneration ≠ 0#32) : OwnIndices system.hardware.shared := by
  induction reached with
  | init start =>
      obtain ⟨config, image, hardware, jiffies, rfl⟩ := start
      exact absurd rfl started
  | step earlier taken inductionHypothesis =>
      have invariant := SessionInvariant.reachable earlier
      rcases SessionInvariant.generation_cases
          (driverStep_lifecycle invariant.bound invariant.control taken) with same
            | ⟨cpuOn, launched⟩
      · exact (inductionHypothesis (same ▸ started)).region
          (driverStep_region invariant.bound taken)
      · rw [launched.region]
        exact .sessionRegion _

end OwnIndices

/-! ### The writes stay in their parts of the carveout -/

section Spans

variable (geometry : Geometry) (sender : Role) (priority : Priority)

theorem Geometry.producer_inside :
    (geometry.producer sender priority).inside geometry.statusOffset.toNat
      (geometry.statusOffset.toNat + stateSize) := by
  have ring := ringOffset_le sender priority
  have first := @slotOffset_le 0 (by decide)
  simp only [Geometry.producer, Geometry.shared, Span.inside, stateSize, mailmsgOffset]
  omega

theorem Geometry.consumer_inside :
    (geometry.consumer sender priority).inside geometry.statusOffset.toNat
      (geometry.statusOffset.toNat + stateSize) := by
  have ring := ringOffset_le sender priority
  have first := @slotOffset_le 0 (by decide)
  simp only [Geometry.consumer, Geometry.shared, Span.inside, stateSize, mailmsgOffset]
  omega

theorem Geometry.slot_inside {index : U32} (inside : index.toNat < ringSlots) :
    (geometry.slot sender priority index).inside geometry.statusOffset.toNat
      (geometry.statusOffset.toNat + stateSize) := by
  have ring := ringOffset_le sender priority
  have slot := slotOffset_le inside
  simp only [Geometry.slot, Geometry.shared, Span.inside, stateSize, mailmsgOffset]
  omega

end Spans

/-- What the check of probe establishes, in the naturals: the wrapped difference is a bound only
when the subtraction does not wrap. -/
theorem Geometry.accepted_cases {geometry : Geometry} (accepted : geometry.accepted) :
    0 < geometry.imageSize.toNat ∧ geometry.imageSize.toNat ≤ geometry.statusOffset.toNat ∧
      (stateSize ≤ geometry.size.toNat →
        geometry.statusOffset.toNat + stateSize ≤ geometry.size.toNat) := by
  simp only [Geometry.accepted, Bool.not_eq_true', Bool.or_eq_false_iff, beq_eq_false_iff_ne,
    decide_eq_false_iff_not] at accepted
  obtain ⟨⟨⟨⟨nonempty, ordered⟩, state⟩, -⟩, -⟩ := accepted
  have size : (BitVec.ofNat 64 stateSize).toNat = stateSize := by decide
  refine ⟨?_, ?_, ?_⟩
  · apply Nat.pos_of_ne_zero
    intro zero
    exact nonempty (BitVec.eq_of_toNat_eq zero)
  · exact Nat.le_of_not_lt ordered
  · intro large
    have difference : (geometry.size - BitVec.ofNat 64 stateSize).toNat =
        geometry.size.toNat - stateSize := by
      rw [BitVec.toNat_sub_of_le (by rw [BitVec.le_def, size]; exact large), size]
    have bound : ¬ (geometry.size - BitVec.ofNat 64 stateSize).toNat <
        (geometry.statusOffset.setWidth 64).toNat := state
    rw [difference, BitVec.toNat_setWidth] at bound
    have word := geometry.statusOffset.isLt
    omega

/-- An accepted `image_write` ends inside the image.  The subtraction in `size_t` does not wrap
because the loaded part never exceeds the image. -/
theorem imageWrite_inside {geometry : Geometry} {system : System} {offset count : BitVec 64}
    (loaded : system.driver.imageWritten ≤ geometry.imageSize.toNat)
    (place : offset.toNat = system.driver.imageWritten)
    (fits : ¬ geometry.imageSize.setWidth 64 - BitVec.ofNat 64 system.driver.imageWritten < count) :
    Span.inside ⟨offset.toNat, count.toNat⟩ 0 geometry.imageSize.toNat := by
  have word := geometry.imageSize.isLt
  have written : (BitVec.ofNat 64 system.driver.imageWritten).toNat = system.driver.imageWritten := by
    rw [BitVec.toNat_ofNat, Nat.mod_eq_of_lt]
    omega
  have size : (geometry.imageSize.setWidth 64).toNat = geometry.imageSize.toNat := by
    rw [BitVec.toNat_setWidth, Nat.mod_eq_of_lt]
    omega
  have difference : (geometry.imageSize.setWidth 64 -
      BitVec.ofNat 64 system.driver.imageWritten).toNat =
        geometry.imageSize.toNat - system.driver.imageWritten := by
    rw [BitVec.toNat_sub_of_le (by rw [BitVec.le_def, written, size]; exact loaded), written, size]
  have bound : ¬ (geometry.imageSize.setWidth 64 -
      BitVec.ofNat 64 system.driver.imageWritten).toNat < count.toNat := fits
  rw [difference] at bound
  refine ⟨Nat.zero_le _, ?_⟩
  simp only
  omega

/-! ### The writes cover every change

The list of writes is complete: a cell of the region or a byte of the image that differs after a
step lies in one of the spans of that step.
-/

/-- Replacing a ring changes no cell but those in which the two rings differ. -/
theorem Cell.of_setRing {shared : Shared} {sender : Role} {priority : Priority}
    {ring : Ring} {cell : Cell}
    (changed : ¬ cell.same shared (shared.setRing sender priority ring)) :
    (cell = .producer sender priority ∧ ring.producer ≠ (shared.ring sender priority).producer) ∨
      (cell = .consumer sender priority ∧ ring.consumer ≠ (shared.ring sender priority).consumer) ∨
      ∃ index, cell = .slot sender priority index ∧
        ring.slot (BitVec.ofNat 32 index.val) ≠
          (shared.ring sender priority).slot (BitVec.ofNat 32 index.val) := by
  cases cell with
  | magic => exact absurd (Shared.setRing_magic shared sender priority ring) changed
  | version => exact absurd (Shared.setRing_version shared sender priority ring) changed
  | generation => exact absurd (Shared.setRing_generation shared sender priority ring) changed
  | producer other place =>
      by_cases here : other = sender ∧ place = priority
      · obtain ⟨rfl, rfl⟩ := here
        simp only [Cell.same, Shared.ring_setRing_self] at changed
        exact .inl ⟨rfl, changed⟩
      · refine absurd ?_ changed
        simp only [Cell.same, Shared.ring_setRing_of_ne _ _ _ _ (not_and_or.mp here)]
  | consumer other place =>
      by_cases here : other = sender ∧ place = priority
      · obtain ⟨rfl, rfl⟩ := here
        simp only [Cell.same, Shared.ring_setRing_self] at changed
        exact .inr (.inl ⟨rfl, changed⟩)
      · refine absurd ?_ changed
        simp only [Cell.same, Shared.ring_setRing_of_ne _ _ _ _ (not_and_or.mp here)]
  | slot other place index =>
      by_cases here : other = sender ∧ place = priority
      · obtain ⟨rfl, rfl⟩ := here
        simp only [Cell.same, Shared.ring_setRing_self] at changed
        exact .inr (.inr ⟨index, rfl, changed⟩)
      · refine absurd ?_ changed
        simp only [Cell.same, Shared.ring_setRing_of_ne _ _ _ _ (not_and_or.mp here)]

/-- Every cell of the region lies in the state area. -/
theorem Geometry.cell_inside (geometry : Geometry) (cell : Cell) :
    (geometry.cell cell).inside geometry.statusOffset.toNat
      (geometry.statusOffset.toNat + stateSize) := by
  cases cell with
  | magic | version | generation =>
      simp only [Geometry.cell, Geometry.shared, Span.inside, stateSize, mailmsgOffset, sharedBytes]
      omega
  | producer sender priority => exact geometry.producer_inside sender priority
  | consumer sender priority => exact geometry.consumer_inside sender priority
  | slot sender priority index =>
      apply geometry.slot_inside sender priority
      rw [BitVec.toNat_ofNat]
      exact Nat.lt_of_le_of_lt (Nat.mod_le _ _) index.isLt

/-- A step of Linux changes no cell of the region that its writes do not cover. -/
theorem region_write_covered (geometry : Geometry) {system next : System} {label : DriverLabel}
    (invariant : SessionInvariant system) (taken : driverStep system label = some next)
    (isLinux : label.isPeer = false) {cell : Cell}
    (changed : ¬ cell.same system.hardware.shared next.hardware.shared) :
    ∃ span, CarveoutWrite geometry system label span ∧
      (geometry.cell cell).inside span.offset (span.offset + span.length) := by
  have whole : ∀ span : Span, span.inside span.offset (span.offset + span.length) := fun span =>
    ⟨Nat.le_refl _, Nat.le_refl _⟩
  cases driverStep_region invariant.bound taken with
  | same shared =>
      refine absurd ?_ changed
      rw [shared]
      cases cell <;> rfl
  | peer write isPeer =>
      rw [isPeer] at isLinux
      cases isLinux
  | sent sender active effect peerWrites =>
      rename_i priority type length
      cases effect with
      | nothing same =>
          refine absurd ?_ changed
          rw [same]
          cases cell <;> rfl
      | pushed slot typed sized numbered committed space published =>
          rw [published] at changed
          rcases Cell.of_setRing changed with ⟨rfl, -⟩ | ⟨rfl, moved⟩ | ⟨index, rfl, written⟩
          · exact ⟨_, .producer sender active, whole _⟩
          · exact absurd rfl moved
          · refine ⟨_, .slot sender active, ?_⟩
            have place : BitVec.ofNat 32 index.val =
                (system.hardware.shared.linuxToCpu3 priority).producer := by
              by_contra other
              exact written (Function.update_of_ne other _ _)
            rw [← place]
            exact whole _
  | received receiver effect =>
      cases effect with
      | nothing same =>
          refine absurd ?_ changed
          rw [same]
          cases cell <;> rfl
      | popped released =>
          rw [released] at changed
          rcases Cell.of_setRing changed with ⟨rfl, moved⟩ | ⟨rfl, -⟩ | ⟨index, rfl, written⟩
          · exact absurd (ringPop_producer _) moved
          · exact ⟨_, .consumer receiver, whole _⟩
          · exact absurd (congrFun (ringPop_slot _) _) written
  | initialised cpuOn launched =>
      obtain ⟨count, rfl⟩ := launched.label
      exact ⟨_, .clear true count affinityOff cpuOn, geometry.cell_inside cell⟩

/-- An `image_write` of the driver's model changes no byte that its write does not cover. -/
theorem image_write_covered {geometry : Geometry} {system : System} {offset count index : Nat}
    {bytes : Nat → U8} (size : system.config.imageSize = geometry.imageSize.toNat)
    (loaded : system.driver.imageWritten ≤ geometry.imageSize.toNat)
    (changed : (imageWrite system offset count bytes).2.driver.image index ≠
      system.driver.image index) :
    ∃ span, CarveoutWrite geometry system (.imageWrite offset count bytes) span ∧
      Span.inside ⟨index, 1⟩ span.offset (span.offset + span.length) := by
  rcases imageWrite_cases system offset count bytes with ⟨-, same⟩ | ⟨-, free, place, fits⟩
  · rw [same] at changed
    exact absurd rfl changed
  · have word := geometry.imageSize.isLt
    have narrow : ∀ value ≤ geometry.imageSize.toNat, (BitVec.ofNat 64 value).toNat = value := by
      intro value small
      rw [BitVec.toNat_ofNat, Nat.mod_eq_of_lt]
      omega
    have sized : (geometry.imageSize.setWidth 64).toNat = geometry.imageSize.toNat := by
      rw [BitVec.toNat_setWidth, Nat.mod_eq_of_lt]
      omega
    rw [size] at fits
    have offsetWord := narrow offset (by omega)
    have countWord := narrow count (by omega)
    have writtenWord := narrow system.driver.imageWritten loaded
    have write : CarveoutWrite geometry system (.imageWrite (BitVec.ofNat 64 offset).toNat
        (BitVec.ofNat 64 count).toNat bytes)
        ⟨(BitVec.ofNat 64 offset).toNat, (BitVec.ofNat 64 count).toNat⟩ := by
      refine .image (BitVec.ofNat 64 offset) (BitVec.ofNat 64 count) bytes free
        (offsetWord.trans place) ?_
      rw [BitVec.lt_def, countWord,
        BitVec.toNat_sub_of_le (by rw [BitVec.le_def, writtenWord, sized]; exact loaded),
        writtenWord, sized]
      omega
    rw [offsetWord, countWord] at write
    refine ⟨_, write, ?_⟩
    by_contra outside
    apply changed
    have far : ¬ (offset ≤ index ∧ index < offset + count) := by
      intro near
      exact outside ⟨near.1, near.2⟩
    simp only [imageWrite]
    repeat' split
    all_goals first | rfl | exact if_neg far

/-! ### Sound geometries -/

/-- The parts of the carveout are ordered and fit, and over all runs of the driver every byte that
`image_write` writes lies in the image and every byte that the initialisation of a session or an
access to the rings writes lies in the state area. -/
structure Geometry.Sound (geometry : Geometry) : Prop where
  nonempty : 0 < geometry.imageSize.toNat
  ordered : geometry.imageSize.toNat ≤ geometry.statusOffset.toNat
  fits : geometry.statusOffset.toNat + stateSize ≤ geometry.size.toNat
  image : ∀ {system offset count bytes span}, driverMachine.Reachable system →
    system.config.imageSize = geometry.imageSize.toNat →
    CarveoutWrite geometry system (.imageWrite offset count bytes) span →
    span.inside 0 geometry.imageSize.toNat
  state : ∀ {system label span}, driverMachine.Reachable system →
    system.config.imageSize = geometry.imageSize.toNat →
    CarveoutWrite geometry system label span →
    (∀ offset count bytes, label ≠ .imageWrite offset count bytes) →
    span.inside geometry.statusOffset.toNat (geometry.statusOffset.toNat + stateSize)

/-- Probe's check makes the geometry sound exactly when the carveout is no smaller than the state
area; for a smaller one the difference wraps and the check says nothing. -/
theorem launch_geometry_sound {geometry : Geometry} (accepted : geometry.accepted) :
    geometry.Sound ↔ stateSize ≤ geometry.size.toNat := by
  obtain ⟨nonempty, ordered, fits⟩ := Geometry.accepted_cases accepted
  constructor
  · intro sound
    exact Nat.le_trans (Nat.le_add_left _ _) sound.fits
  · intro large
    refine ⟨nonempty, ordered, fits large, ?_, ?_⟩
    · intro system offset count bytes span reached size write
      have loaded := size ▸ imageWritten_le reached
      generalize isImage : DriverLabel.imageWrite offset count bytes = label at write
      cases write with
      | image start length content free place room => exact imageWrite_inside loaded place room
      | clear | header => cases isImage
      | slot sender | producer sender =>
          rw [← isImage] at sender
          cases sender
      | consumer receiver =>
          rw [← isImage] at receiver
          cases receiver
    · intro system label span reached size write other
      cases write with
      | image start length content => exact absurd rfl (other _ _ _)
      | clear => exact ⟨Nat.le_refl _, Nat.le_refl _⟩
      | header accepted count affinity cpuOn field =>
          have bound := field.isLt
          simp only [Geometry.shared, Span.inside, stateSize, mailmsgOffset, sharedBytes]
          omega
      | slot sender active =>
          have session := (SessionInvariant.reachable reached).active_session active
          apply geometry.slot_inside
          exact OwnIndices.reachable reached session.nonzero .linux _
      | producer sender active => exact geometry.producer_inside _ _
      | consumer receiver => exact geometry.consumer_inside _ _

/-- The geometry of the board's device tree. -/
def boardGeometry : Geometry where
  base := 0x50000000
  size := 0x100000
  entry := 0x5000100c
  imageSize := 0xc000
  statusOffset := 0xff000

theorem launch_geometry_sound_board : boardGeometry.accepted = true ∧ boardGeometry.Sound :=
  ⟨by decide, (launch_geometry_sound (by decide)).mpr (by decide)⟩

/-- A carveout of 256 bytes with a one-byte image passes the check, although its state area would
end 3661 bytes behind it. -/
theorem small_carveout_accepted :
    (⟨0x50000000, 0x100, 0x50000000, 1, 1⟩ : Geometry).accepted = true ∧
      ¬ (⟨0x50000000, 0x100, 0x50000000, 1, 1⟩ : Geometry).Sound := by
  refine ⟨by decide, ?_⟩
  intro sound
  exact absurd sound.fits (by decide)

end MailMsg
