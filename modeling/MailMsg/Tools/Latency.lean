/-
Module: MailMsg.Tools.Latency
Purpose: The latencies that the window benchmark measures and the line of percentiles that it
  prints: one latency for every PONG, and the printed values are the percentiles by the nearest
  rank.
Source: LZAMP/tools/mailmsg_window_bench.c (append_latency, compare_u64, percentile_index, main)
Trusted boundary: the clock and the system calls may return anything, and realloc may fail; qsort
  sorts
Main exports: ResultSet, appendLatency, percentileIndex, latencyReport, openStep, timedMachine,
  latency_line
-/
import MailMsg.Lib.Percentile
import MailMsg.Tools.WindowBench

namespace MailMsg.WindowBench

/-! ### The result set

One array of latencies that grows by doubling, and that no entry leaves.
-/

/-- A `uint64_t` of nanoseconds. -/
abbrev Nanoseconds : Type := Fin (2 ^ 64)

/-- `struct result_set`, whose `count` is the length of the list.  The array is at most half empty
once it has outgrown its first size. -/
structure ResultSet where
  latencyNs : List Nanoseconds
  capacity : Nat
  fits : latencyNs.length ≤ capacity
  tight : capacity ≤ 4096 ∨ capacity ≤ 2 * latencyNs.length

/-- The initializer in `main`. -/
def ResultSet.empty : ResultSet := ⟨[], 0, Nat.le_refl 0, .inl (Nat.zero_le 4096)⟩

/-- The capacity with room for one more value. -/
def ResultSet.grown (results : ResultSet) : Nat :=
  if results.latencyNs.length = results.capacity then
    if results.capacity ≠ 0 then results.capacity * 2 else 4096
  else results.capacity

theorem ResultSet.lt_grown (results : ResultSet) : results.latencyNs.length < results.grown := by
  have fits := results.fits
  unfold ResultSet.grown
  split_ifs <;> omega

theorem ResultSet.grown_tight (results : ResultSet) :
    results.grown ≤ 4096 ∨ results.grown ≤ 2 * (results.latencyNs.length + 1) := by
  have tight := results.tight
  unfold ResultSet.grown
  split_ifs <;> omega

/-- `append_latency`.  When the array is full and `realloc` returns no memory, the program exits. -/
def appendLatency (results : ResultSet) (latency : Nanoseconds) (granted : Bool) :
    Option ResultSet :=
  if results.latencyNs.length = results.capacity ∧ granted = false then none
  else
    some
      { latencyNs := results.latencyNs ++ [latency]
        capacity := results.grown
        fits := by
          rw [List.length_append, List.length_singleton]
          exact results.lt_grown
        tight := by
          rw [List.length_append, List.length_singleton]
          exact results.grown_tight }

theorem appendLatency_length {results next : ResultSet} {latency : Nanoseconds} {granted : Bool}
    (appended : appendLatency results latency granted = some next) :
    next.latencyNs.length = results.latencyNs.length + 1 := by
  unfold appendLatency at appended
  split at appended
  · cases appended
  · cases appended
    simp

/-! ### The line of latencies -/

/-- `compare_u64`. -/
def compareU64 (left right : Nanoseconds) : Int :=
  (if left > right then 1 else 0) - (if left < right then 1 else 0)

theorem compareU64_le_zero (left right : Nanoseconds) : compareU64 left right ≤ 0 ↔
    left ≤ right := by
  unfold compareU64
  rcases lt_trichotomy left right with less | rfl | greater
  · simp [less, less.le, less.not_gt]
  · simp
  · simp [greater, greater.not_ge, greater.not_gt]

/-- `qsort` with `compare_u64`. -/
def qsort (latencies : List Nanoseconds) : List Nanoseconds :=
  latencies.mergeSort fun left right => decide (compareU64 left right ≤ 0)

theorem qsort_perm (latencies : List Nanoseconds) : (qsort latencies).Perm latencies :=
  List.mergeSort_perm ..

theorem qsort_sorted (latencies : List Nanoseconds) : (qsort latencies).SortedLE := by
  have same : (fun left right : Nanoseconds => decide (compareU64 left right ≤ 0)) =
      fun left right => decide (left ≤ right) := by
    funext left right
    exact decide_eq_decide.mpr (compareU64_le_zero left right)
  rw [List.sortedLE_iff_pairwise, qsort, same]
  exact List.pairwise_mergeSort' (· ≤ ·) latencies

/-- `percentile_index`, with the arithmetic of `uint64_t` and the conversion of the result to
`int`. -/
def percentileIndex (count percentile : Nat) : Int :=
  if count = 0 then 0
  else
    let rank : BitVec 64 := (BitVec.ofNat 64 count * BitVec.ofNat 64 percentile + 99#64) / 100#64
    let rank := if rank = 0#64 then 1#64 else rank
    ((rank - 1#64).setWidth 32).toInt

/-- As long as the count fits an `int`, the index is the nearest rank. -/
theorem percentileIndex_rank {count percentile : Nat} (nonempty : 0 < count) (few : count < 2 ^ 31)
    (positive : 0 < percentile) (whole : percentile ≤ 100) :
    ∃ index : Nat, percentileIndex count percentile = index ∧ index < count ∧
      index + 1 = (count * percentile + 99) / 100 := by
  have product : 0 < count * percentile := Nat.mul_pos nonempty positive
  have bound : count * percentile ≤ count * 100 := Nat.mul_le_mul_left count whole
  have rank : ((BitVec.ofNat 64 count * BitVec.ofNat 64 percentile + 99#64) / 100#64).toNat =
      (count * percentile + 99) / 100 := by
    have exactly : (BitVec.ofNat 64 count * BitVec.ofNat 64 percentile).toNat =
        count * percentile := by
      have countFits : count % 2 ^ 64 = count := Nat.mod_eq_of_lt (by omega)
      have percentileFits : percentile % 2 ^ 64 = percentile := Nat.mod_eq_of_lt (by omega)
      rw [BitVec.toNat_mul, BitVec.toNat_ofNat, BitVec.toNat_ofNat, countFits, percentileFits]
      exact Nat.mod_eq_of_lt (by omega)
    have divisor : (100#64).toNat = 100 := rfl
    have rounding : (99#64).toNat = 99 := rfl
    rw [BitVec.toNat_udiv, BitVec.toNat_add, exactly, divisor, rounding]
    omega
  refine ⟨(count * percentile + 99) / 100 - 1, ?_, by omega, by omega⟩
  have nonzero : (BitVec.ofNat 64 count * BitVec.ofNat 64 percentile + 99#64) / 100#64 ≠ 0#64 := by
    intro zero
    have value := congrArg BitVec.toNat zero
    rw [rank] at value
    simp only [BitVec.toNat_ofNat] at value
    omega
  have index : ((BitVec.ofNat 64 count * BitVec.ofNat 64 percentile + 99#64) / 100#64 - 1#64).toNat =
      (count * percentile + 99) / 100 - 1 := by
    rw [BitVec.toNat_sub, rank]
    simp only [BitVec.toNat_ofNat]
    omega
  simp only [percentileIndex, nonempty.ne', if_false, nonzero]
  rw [BitVec.toInt_eq_toNat_cond, BitVec.toNat_setWidth, index]
  split <;> omega

/-- `latency_ns[index]`; a place outside the array has no value. -/
def latencyAt (sorted : List Nanoseconds) (index : Int) : Option Nanoseconds :=
  if 0 ≤ index then sorted[index.toNat]? else none

theorem latencyAt_natCast {sorted : List Nanoseconds} {index : Nat}
    (inside : index < sorted.length) : latencyAt sorted index = some sorted[index] := by
  simp [latencyAt, inside]

/-- What the line of latencies shows, in nanoseconds; the program prints thousandths. -/
structure LatencyReport where
  count : Nat
  min : Nanoseconds
  p50 : Nanoseconds
  p95 : Nanoseconds
  p99 : Nanoseconds
  max : Nanoseconds

/-- The end of `main`, where `results.count` is not zero. -/
def latencyReport (results : ResultSet) : Option LatencyReport := do
  let sorted := qsort results.latencyNs
  let min ← latencyAt sorted 0
  let p50 ← latencyAt sorted (percentileIndex sorted.length 50)
  let p95 ← latencyAt sorted (percentileIndex sorted.length 95)
  let p99 ← latencyAt sorted (percentileIndex sorted.length 99)
  let max ← latencyAt sorted (sorted.length - 1)
  some ⟨sorted.length, min, p50, p95, p99, max⟩

/-- What the line should show of a sample. -/
structure LatencyReport.Describes (report : LatencyReport) (sample : List Nanoseconds) : Prop where
  count : report.count = sample.length
  min : IsLeast {latency | latency ∈ sample} report.min
  p50 : IsPercentile sample 50 report.p50
  p95 : IsPercentile sample 95 report.p95
  p99 : IsPercentile sample 99 report.p99
  max : IsGreatest {latency | latency ∈ sample} report.max

/-- The place of a percentile is inside the array, and the percentile stands there. -/
theorem latencyAt_percentile {sample : List Nanoseconds} {percent : Nat}
    (nonempty : 0 < sample.length)
    (few : sample.length < 2 ^ 31) (positive : 0 < percent) (whole : percent ≤ 100) :
    ∃ value, latencyAt (qsort sample) (percentileIndex (qsort sample).length percent) = some value ∧
      IsPercentile sample percent value := by
  have length := (qsort_perm sample).length_eq
  obtain ⟨index, place, inside, rank⟩ := percentileIndex_rank nonempty few positive whole
  rw [← length] at inside rank
  refine ⟨(qsort sample)[index], ?_, ?_⟩
  · rw [length, place]
    exact latencyAt_natCast inside
  · exact (IsPercentile.of_sorted (qsort_sorted sample) inside rank).perm (qsort_perm sample)

/-- The line of a result set that is not empty. -/
theorem latencyReport_describes {results : ResultSet} (nonempty : 0 < results.latencyNs.length)
    (few : results.latencyNs.length < 2 ^ 31) :
    ∃ report, latencyReport results = some report ∧ report.Describes results.latencyNs := by
  have rearranged := qsort_perm results.latencyNs
  have ascending := qsort_sorted results.latencyNs
  have length := rearranged.length_eq
  have first : 0 < (qsort results.latencyNs).length := length ▸ nonempty
  have last : (qsort results.latencyNs).length - 1 < (qsort results.latencyNs).length :=
    Nat.sub_one_lt_of_lt first
  have same : {latency | latency ∈ qsort results.latencyNs} =
      {latency | latency ∈ results.latencyNs} := by
    ext latency
    exact rearranged.mem_iff
  obtain ⟨p50, found50, rank50⟩ :=
    latencyAt_percentile nonempty few (by decide : 0 < 50) (by decide)
  obtain ⟨p95, found95, rank95⟩ :=
    latencyAt_percentile nonempty few (by decide : 0 < 95) (by decide)
  obtain ⟨p99, found99, rank99⟩ :=
    latencyAt_percentile nonempty few (by decide : 0 < 99) (by decide)
  have least : latencyAt (qsort results.latencyNs) 0 = some _ := latencyAt_natCast first
  have place : ((qsort results.latencyNs).length : Int) - 1 =
      ((qsort results.latencyNs).length - 1 : Nat) := by
    omega
  have greatest := latencyAt_natCast last
  rw [← place] at greatest
  refine ⟨_, by simp only [latencyReport, found50, found95, found99, least, greatest]; rfl,
    ⟨length, ?_, rank50, rank95, rank99, ?_⟩⟩
  · rw [← same]
    exact isLeast_of_sorted ascending first
  · rw [← same]
    exact isGreatest_of_sorted ascending last (by omega)

/-! ### The benchmark with its clock

`benchStep` lets a read return what CPU3 sends for an accepted PING.  Here a read may return any
record: a NACK, a PONG that was already taken, or a frame that another program asked for.
-/

/-- The benchmark, the time stamps of its slots and its latencies. -/
structure Timed where
  run : Run
  startNs : List Nanoseconds
  results : ResultSet

/-- A step of `main`, or a read that returns any record. -/
inductive Event where
  | call (label : Label)
  | foreign (record : UserFrame)

/-- A step, what the clock returns if the step reads it for a slot, and whether `realloc` returns
memory. -/
structure TimedLabel where
  event : Event
  now : Nanoseconds
  granted : Bool

/-- One step of `main` without its clock. -/
def openStep (options : Options) (run : Run) : Event → Option Run
  | .call label => benchStep options run label
  | .foreign record =>
      match run.bench.position with
      | .reading | .drainReading => some { run with bench := run.bench.receive record }
      | _ => none

/-- The slot whose PONG this record is. -/
def Bench.answered (bench : Bench) (frame : UserFrame) : Option Nat :=
  if frame.type = MessageType.ack ∨ frame.type = MessageType.nack then none
  else if frame.type ≠ MessageType.pong ∨ frame.length.toNat < 4 then none
  else if payloadU32 frame.payloadAt 0 = 0#32 then none
  else findValue bench.slots (payloadU32 frame.payloadAt 0 - 1)

/-- The slot whose PONG the step reads. -/
def Run.answered (run : Run) : Event → Option Nat
  | .call (.read (.record index)) =>
      run.undelivered[index]?.bind fun reply => run.bench.answered reply.record
  | .call _ => none
  | .foreign record => run.bench.answered record

/-- `slot->start_ns = monotonic_ns()`. -/
def Timed.stamp (timed : Timed) (label : TimedLabel) : List Nanoseconds :=
  match label.event, findFreeSlot timed.run.bench.slots with
  | .call (.write (.accepted _)), some index => timed.startNs.set index label.now
  | _, _ => timed.startNs

/-- `append_latency(&results, monotonic_ns() - slot->start_ns)`. -/
def Timed.measure (timed : Timed) (label : TimedLabel) : Option ResultSet :=
  match timed.run.answered label.event with
  | some index =>
      appendLatency timed.results (label.now - timed.startNs.getD index 0) label.granted
  | none => some timed.results

/-- One step of `main` with its clock. -/
def timedStep (options : Options) (timed : Timed) (label : TimedLabel) : Option Timed := do
  let run ← openStep options timed.run label.event
  let results ← timed.measure label
  some ⟨run, timed.stamp label, results⟩

/-- Every run of the benchmark with its clock. -/
def timedMachine (options : Options) : Machine Timed TimedLabel where
  init timed :=
    timed = ⟨⟨.start options, [], []⟩, List.replicate options.window 0, .empty⟩
  step := timedStep options

theorem timedStep_eq {options : Options} {timed next : Timed} {label : TimedLabel}
    (stepped : timedStep options timed label = some next) :
    openStep options timed.run label.event = some next.run ∧
      timed.measure label = some next.results := by
  simp only [timedStep, Option.bind_eq_bind, Option.bind_eq_some_iff, Option.some.injEq] at stepped
  obtain ⟨run, moved, results, measured, rfl⟩ := stepped
  exact ⟨moved, measured⟩

/-- A PONG is counted when it answers a slot. -/
theorem receive_pong (bench : Bench) (frame : UserFrame) :
    (bench.receive frame).pong = bench.pong + if (bench.answered frame).isSome then 1 else 0 := by
  unfold Bench.receive Bench.answered
  by_cases ack : frame.type = MessageType.ack
  · simp [ack]
  by_cases nack : frame.type = MessageType.nack
  · simp only [nack, or_true, if_true, Option.isSome_none, Bool.false_eq_true, if_false]
    split_ifs <;> rfl
  by_cases other : frame.type ≠ MessageType.pong ∨ frame.length.toNat < 4
  · simp [ack, nack, other]
  by_cases zero : payloadU32 frame.payloadAt 0 = 0#32
  · simp [ack, nack, other, zero]
  · simp only [ack, nack, other, zero, or_self, if_false]
    split
    · rename_i unknown
      rw [unknown]
      rfl
    · rename_i index found
      rw [found]
      rfl

/-- A step of `main` counts a PONG when it reads the one of a slot. -/
theorem benchStep_pong {options : Options} {run next : Run} {label : Label}
    (stepped : benchStep options run label = some next) :
    next.bench.pong = run.bench.pong + if (run.answered (.call label)).isSome then 1 else 0 := by
  by_cases read : ∃ index, label = .read (.record index)
  · obtain ⟨index, rfl⟩ := read
    obtain ⟨reply, found, same⟩ : ∃ reply, run.undelivered[index]? = some reply ∧
        next.bench = run.bench.receive reply.record := by
      cases position : run.bench.position <;>
        simp only [benchStep, position, Run.fetch, Option.map_eq_some_iff, reduceCtorEq] at stepped
      all_goals
        obtain ⟨reply, found, rfl⟩ := stepped
        exact ⟨reply, found, rfl⟩
    rw [same, receive_pong, Run.answered, found, Option.bind_some]
  · have unanswered : run.answered (.call label) = none := by
      unfold Run.answered
      split
      · rename_i index same
        exact absurd ⟨index, Event.call.inj same⟩ read
      · rfl
      · rename_i record foreign
        cases foreign
    rw [unanswered]
    cases benchStep_moved stepped with
    | onward bench slots nextValue writeOk pong duplicate unknown outstanding ended => exact pong
    | accepted index stamps turn position free => rfl
    | received index reply turn position found => exact absurd ⟨index, turn⟩ read

theorem openStep_pong {options : Options} {run next : Run} {event : Event}
    (stepped : openStep options run event = some next) :
    next.bench.pong = run.bench.pong + if (run.answered event).isSome then 1 else 0 := by
  cases event with
  | call label => exact benchStep_pong stepped
  | foreign record =>
      simp only [openStep] at stepped
      split at stepped
      · cases stepped
        exact receive_pong run.bench record
      · cases stepped
        exact receive_pong run.bench record
      · cases stepped

/-- One latency is measured for every PONG. -/
theorem latency_per_pong {options : Options} {timed : Timed}
    (reached : (timedMachine options).Reachable timed) :
    timed.results.latencyNs.length = timed.run.bench.pong := by
  induction reached with
  | init start =>
      obtain rfl := start
      rfl
  | @step state next label earlier taken inductionHypothesis =>
      obtain ⟨stepped, measured⟩ := timedStep_eq taken
      rw [openStep_pong stepped, ← inductionHypothesis]
      unfold Timed.measure at measured
      split at measured
      · rename_i index answered
        rw [appendLatency_length measured, answered]
        rfl
      · rename_i unanswered
        have kept : state.results = next.results := Option.some.inj measured
        rw [unanswered, ← kept]
        rfl

/-- In every run that counts at least one PONG and fewer than 2^31, whatever records its reads
return, the line counts the PONGs of the benchmark, and its values are the least and the greatest
latency and the percentiles of all latencies.  No size that `realloc` was asked for has
overflowed. -/
theorem latency_line {options : Options} {timed : Timed}
    (reached : (timedMachine options).Reachable timed) (answered : 0 < timed.run.bench.pong)
    (few : timed.run.bench.pong < 2 ^ 31) :
    timed.results.capacity * 8 < 2 ^ 64 ∧
      ∃ report, latencyReport timed.results = some report ∧
        report.count = timed.run.bench.pong ∧ report.Describes timed.results.latencyNs := by
  have measured := latency_per_pong reached
  rw [← measured] at answered few ⊢
  obtain ⟨report, printed, describes⟩ := latencyReport_describes answered few
  have small : timed.results.capacity * 8 < 2 ^ 64 := by
    have tight := timed.results.tight
    omega
  exact ⟨small, report, printed, describes.count, describes⟩

/-- A NACK that no PING of the program asked for. -/
def demoNack : UserFrame := ⟨0, MessageType.nack, 9, 8, fun _ => 0⟩

/-- The two requests of `demoRun` with a NACK between their replies.  The clock puts the PONGs 40
and 10 nanoseconds after their requests. -/
def demoTimes : List TimedLabel :=
  ((demoRun.take 7).zip [0, 100, 110, 0, 0, 120, 0]).map
    (fun entry => ⟨.call entry.1, entry.2, true⟩) ++
    [⟨.foreign demoNack, 0, true⟩] ++
    ((demoRun.drop 7).zip [140, 0, 0, 0, 0]).map fun entry => ⟨.call entry.1, entry.2, true⟩

theorem latency_line_demo :
    ∃ timed, (timedMachine demoOptions).Reachable timed ∧ timed.run.bench.pong = 2 ∧
      timed.run.bench.nack = 1 ∧ timed.results.latencyNs = [10, 40] ∧
      timed.results.capacity * 8 < 2 ^ 64 ∧
        ∃ report, latencyReport timed.results = some report ∧
          report.count = timed.run.bench.pong ∧ report.Describes timed.results.latencyNs := by
  have checked : ((timedMachine demoOptions).run
      ⟨⟨.start demoOptions, [], []⟩, List.replicate demoOptions.window 0, .empty⟩ demoTimes).any
        (fun timed => decide (timed.run.bench.pong = 2 ∧ timed.run.bench.nack = 1 ∧
          timed.results.latencyNs = [10, 40])) = true := by
    decide +kernel
  obtain ⟨timed, executed, passed⟩ := Machine.exists_of_run_any checked
  obtain ⟨pongs, nacks, latencies⟩ := of_decide_eq_true passed
  have reached : (timedMachine demoOptions).Reachable timed :=
    Machine.Reachable.run (.init rfl) executed
  exact ⟨timed, reached, pongs, nacks, latencies,
    latency_line reached (by rw [pongs]; decide) (by rw [pongs]; decide)⟩

end MailMsg.WindowBench
