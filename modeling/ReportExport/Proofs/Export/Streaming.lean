import Mathlib.Tactic.Set
import ReportExport.Export.Run

/-!
# Chunked and bulk streaming

An export streams the rows of its query into the CSV sink in one of two
modes. A chunked stream fetches windows of `s` rows (the chunk size, at
least one) until a short or empty window, storing the count after each
non-empty window; a bulk stream fetches everything, stores the total, writes
the rows and stores the count.

Over rows held in memory this module writes each stream as the list of calls
it makes (`StreamCall`): fetches, rows handed to the sink, and progress
stored. `Exporter.streamChunks_memory` and `Exporter.streamAll_memory` state
that each stream is exactly its calls, made in order; the closed forms of
the chunked calls follow: `n / s + 1` fetches at the multiples of `s`
(`offsets_chunkCalls`), the rows in order (`rows_chunkCalls`), and the count
`min ((i + 1) * s) n` after the `i`-th non-empty window
(`progress_chunkCalls`). The two modes hand the sink the same rows and end
on the same count.
-/

namespace ReportExport

open Query

/-- A call a stream makes: a fetch from the source, a row handed to the sink,
or progress stored for the record. -/
inductive StreamCall where
  | fetchChunk (size offset : Nat)
  | fetchAll
  | write (row : Row)
  | progress (rows : Int) (total : Option Int)

namespace StreamCall

/-- The offset of a windowed fetch. -/
def offset? : StreamCall → Option Nat
  | .fetchChunk _ offset => some offset
  | _ => none

/-- The row handed to the sink. -/
def row? : StreamCall → Option Row
  | .write row => some row
  | _ => none

/-- The count and total stored. -/
def progress? : StreamCall → Option (Int × Option Int)
  | .progress rows total => some (rows, total)
  | _ => none

@[simp] theorem offsets_writes (rows : List Row) : (rows.map write).filterMap offset? = [] := by
  simp [List.filterMap_map, Function.comp_def, offset?]

@[simp] theorem rows_writes (rows : List Row) : (rows.map write).filterMap row? = rows := by
  simp [List.filterMap_map, Function.comp_def, row?]

@[simp] theorem progress_writes (rows : List Row) : (rows.map write).filterMap progress? = [] := by
  simp [List.filterMap_map, Function.comp_def, progress?]

end StreamCall

/-- The calls of the `i`-th window of a chunked stream: the fetch at offset
`i * size`, the rows of the window, and when it is not empty the count of the
rows up to its end. -/
def windowCalls (rows : List Row) (size i : Nat) : List StreamCall :=
  let batch := (rows.drop (i * size)).take size
  .fetchChunk size (i * size) :: batch.map .write ++
    if batch.isEmpty then [] else [.progress ((i * size + batch.length : Nat) : Int) none]

/-- The calls of a chunked stream over `rows` in windows of `size`: the windows
from the first to the one the rows end in, which is short or empty. -/
def chunkCalls (rows : List Row) (size : Nat) : List StreamCall :=
  (List.range (rows.length / size + 1)).flatMap (windowCalls rows size)

/-- The calls of a bulk stream over `rows`: one fetch, the total stored, the
rows, and the count stored with the total. -/
def bulkCalls (rows : List Row) : List StreamCall :=
  .fetchAll :: .progress 0 (some rows.length) :: rows.map .write ++ [.progress rows.length (some rows.length)]

namespace Exporter

open ExportM

/-- Makes the calls in order, on a sink; a failing call ends the run with its
error. -/
def performCalls (id : Int) (src : QuerySource) : List StreamCall → CsvSink → ExportM CsvSink
  | [], sink => pure sink
  | .fetchChunk size offset :: rest, sink => do
    let _ ← fetchChunk src size offset
    performCalls id src rest sink
  | .fetchAll :: rest, sink => do
    let _ ← fetchAll src
    performCalls id src rest sink
  | .write row :: rest, sink => performCalls id src rest (sink.writeRow row)
  | .progress rows total :: rest, sink => do
    let _ ← withStore (·.updateProgress id rows total)
    performCalls id src rest sink

section Perform

variable (id : Int) (src : QuerySource)

theorem performCalls_append (xs ys : List StreamCall) (sink : CsvSink) :
    performCalls id src (xs ++ ys) sink = performCalls id src xs sink >>= performCalls id src ys := by
  induction xs generalizing sink with
  | nil => simp [performCalls]
  | cons call rest ih =>
    cases call <;> simp [performCalls, ih]

/-- Handing rows to the sink one by one writes them in order. -/
theorem performCalls_writes (rows : List Row) (rest : List StreamCall) (sink : CsvSink) :
    performCalls id src (rows.map .write ++ rest) sink = performCalls id src rest (rows.foldl CsvSink.writeRow sink) := by
  induction rows generalizing sink with
  | nil => rfl
  | cons row rows ih => simp [performCalls, ih]

/-- The sink a run of calls gives, when it gives one, holds the rows written
and nothing else: the calls' effects on the state do not depend on the sink. -/
theorem performCalls_result (calls : List StreamCall) (sink : CsvSink) :
    performCalls id src calls sink =
      (fun _ => (calls.filterMap StreamCall.row?).foldl CsvSink.writeRow sink) <$> performCalls id src calls sink := by
  induction calls generalizing sink with
  | nil => simp [performCalls]
  | cons call rest ih =>
    cases call with
    | write row => simp only [performCalls, List.filterMap_cons, StreamCall.row?, List.foldl_cons, ← ih]
    | fetchChunk size offset | fetchAll | progress rows total =>
      simp only [performCalls, List.filterMap_cons, StreamCall.row?, map_bind, ← ih]

end Perform

/-- A window of rows held in memory is fetched without touching the state. -/
theorem fetchChunk_memory (q : MemoryQuery) (size offset : Nat) :
    fetchChunk (.memory q none) size offset = pure (q.fetchChunk size offset) := rfl

theorem fetchAll_memory (q : MemoryQuery) : fetchAll (.memory q none) = pure q.matching := rfl

/-- From the `j`-th window on, a chunked stream with fuel for the windows left
makes the calls of those windows. -/
theorem streamChunks_from (id : Int) (q : MemoryQuery) {s : Nat} (positive : 0 < s) :
    ∀ (fuel j : Nat) (sink : CsvSink), j ≤ q.matching.length / s → q.matching.length / s + 1 - j ≤ fuel →
      streamChunks id (.memory q none) s fuel (j * s) sink =
        performCalls id (.memory q none)
          ((List.range' j (q.matching.length / s + 1 - j)).flatMap (windowCalls q.matching s)) sink := by
  intro fuel
  induction fuel with
  | zero => intro j sink within enough; omega
  | succ fuel ih =>
    intro j sink within enough
    set n := q.matching.length
    have windows : n / s + 1 - j = (n / s - j) + 1 := by omega
    rw [windows, List.range'_succ, List.flatMap_cons, performCalls_append]
    -- the window at `j * s` and what it holds
    set batch := (q.matching.drop (j * s)).take s with hbatch
    have fetched : q.fetchChunk s (j * s) = batch := rfl
    have size : batch.length = min s (n - j * s) := by simp [hbatch, n]
    have before : j * s ≤ n := Nat.le_trans (Nat.mul_le_mul_right s within) (Nat.div_mul_le_self n s)
    simp only [streamChunks, fetchChunk_memory, fetched, pure_bind, windowCalls, ← hbatch]
    by_cases empty : batch.isEmpty
    · -- an empty window ends the stream: it was the last
      have last : n / s - j = 0 := by
        have : batch.length = 0 := by simpa using empty
        have : n ≤ j * s := by omega
        have : n / s ≤ j := Nat.div_le_of_le_mul (by rw [Nat.mul_comm]; omega)
        omega
      simp [last, performCalls, fetchChunk_memory, List.isEmpty_iff.1 empty]
    · simp only [empty, if_false, Bool.false_eq_true, List.cons_append, performCalls, fetchChunk_memory,
        pure_bind, performCalls_writes, bind_assoc]
      congr 1
      funext _
      by_cases short : batch.length < s
      · -- a short window ends the stream: it was the last
        have last : n / s - j = 0 := by
          have : n - j * s < s := by omega
          have : n / s < j + 1 := (Nat.div_lt_iff_lt_mul positive).2 (by rw [Nat.add_mul]; omega)
          omega
        simp [short, last, performCalls]
      · -- a full window: the stream goes on at the next multiple of `s`
        have full : batch.length = s := by omega
        have next : j + 1 ≤ n / s := (Nat.le_div_iff_mul_le positive).2 (by rw [Nat.add_mul]; omega)
        have offset : j * s + batch.length = (j + 1) * s := by rw [full, Nat.add_mul, Nat.one_mul]
        have rest : n / s + 1 - (j + 1) = n / s - j := by omega
        rw [if_neg short, offset, ih (j + 1) _ next (by omega), rest]

/-- A chunked stream over rows held in memory, with the fuel an export gives
it, is exactly the calls of its windows. -/
theorem streamChunks_memory (id : Int) (q : MemoryQuery) (k : Nat) (sink : CsvSink) :
    streamChunks id (.memory q none) (max k 1) (q.rows.length + 2) 0 sink =
      performCalls id (.memory q none) (chunkCalls q.matching (max k 1)) sink := by
  have positive : 0 < max k 1 := by omega
  have bounded : q.matching.length ≤ q.rows.length := List.length_filter_le _ _
  have windows := streamChunks_from id q positive (q.rows.length + 2) 0 sink (Nat.zero_le _)
    (by have := Nat.div_le_self q.matching.length (max k 1); omega)
  rw [Nat.zero_mul, Nat.sub_zero, ← List.range_eq_range'] at windows
  exact windows

/-- A bulk stream over rows held in memory is exactly its calls. -/
theorem streamAll_memory (id : Int) (q : MemoryQuery) (sink : CsvSink) :
    streamAll id (.memory q none) sink = performCalls id (.memory q none) (bulkCalls q.matching) sink := by
  simp [streamAll, bulkCalls, performCalls, fetchAll_memory, performCalls_writes]

end Exporter

/-! ## The calls of a chunked stream, in closed form -/

section ChunkCalls

variable (rows : List Row) {s : Nat}

/-- The windows of `s` rows at the multiples of `s` tile the rows they cover. -/
theorem take_windows (count : Nat) :
    rows.take (count * s) = (List.range count).flatMap fun i => (rows.drop (i * s)).take s := by
  induction count with
  | zero => simp
  | succ count ih =>
    rw [Nat.succ_mul, List.take_add, ih, List.range_succ, List.flatMap_append]
    simp

/-- The indices below `c` of a range that reaches at least `c`, each giving
one value, give the values of the range up to `c`. -/
theorem flatMap_range_below {α : Type} (f : Nat → α) (c : Nat) :
    ∀ m, c ≤ m → (List.range m).flatMap (fun i => if i < c then [f i] else []) = (List.range c).map f := by
  suffices general : ∀ m, (List.range m).flatMap (fun i => if i < c then [f i] else []) =
      (List.range (min m c)).map f by
    intro m within
    rw [general, Nat.min_eq_right within]
  intro m
  induction m with
  | zero => simp
  | succ m ih =>
    rw [List.range_succ, List.flatMap_append, ih]
    by_cases below : m < c
    · rw [Nat.min_eq_left (by omega : m + 1 ≤ c), Nat.min_eq_left (by omega : m ≤ c), List.range_succ, List.map_append]
      simp [below]
    · rw [Nat.min_eq_right (by omega : c ≤ m + 1), Nat.min_eq_right (by omega : c ≤ m)]
      simp [below]

/-- The windows that start before the end of the rows are the first
`⌈n / s⌉`. -/
theorem starts_before_iff (positive : 0 < s) (i : Nat) : i * s < rows.length ↔ i < (rows.length + s - 1) / s := by
  rw [Nat.lt_iff_add_one_le (n := (rows.length + s - 1) / s), Nat.le_div_iff_mul_le positive,
    Nat.add_mul, Nat.one_mul]
  omega

/-- A window is fetched once, at its start. -/
theorem offsets_windowCalls (i : Nat) : (windowCalls rows s i).filterMap StreamCall.offset? = [i * s] := by
  simp only [windowCalls, List.cons_append, List.filterMap_cons, StreamCall.offset?, List.filterMap_append,
    StreamCall.offsets_writes, List.nil_append]
  split <;> rfl

/-- A window hands the sink its rows. -/
theorem rows_windowCalls (i : Nat) :
    (windowCalls rows s i).filterMap StreamCall.row? = (rows.drop (i * s)).take s := by
  simp only [windowCalls, List.cons_append, List.filterMap_cons, StreamCall.row?, List.filterMap_append,
    StreamCall.rows_writes]
  split <;> simp [StreamCall.row?]

/-- A window stores the count up to its end when it holds a row. -/
theorem progress_windowCalls (positive : 0 < s) (i : Nat) :
    (windowCalls rows s i).filterMap StreamCall.progress? =
      if i * s < rows.length then [(((min ((i + 1) * s) rows.length : Nat) : Int), none)] else [] := by
  simp only [windowCalls, List.cons_append, List.filterMap_cons, StreamCall.progress?, List.filterMap_append,
    StreamCall.progress_writes, List.nil_append]
  by_cases inside : i * s < rows.length
  · have holds : ((rows.drop (i * s)).take s).isEmpty = false := by
      simp
      omega
    have reach : i * s + ((rows.drop (i * s)).take s).length = min ((i + 1) * s) rows.length := by
      simp only [List.length_take, List.length_drop, Nat.add_mul, Nat.one_mul]
      omega
    simp only [holds, Bool.false_eq_true, if_false, if_pos inside, reach]
    rfl
  · have empty : ((rows.drop (i * s)).take s).isEmpty = true := by
      simp [List.isEmpty_iff]
      omega
    simp [empty, inside]

/-- A chunked stream fetches `n / s + 1` windows, at the multiples of `s`. -/
theorem offsets_chunkCalls : (chunkCalls rows s).filterMap StreamCall.offset? =
    (List.range (rows.length / s + 1)).map (· * s) := by
  rw [chunkCalls, List.filterMap_flatMap, List.map_eq_flatMap]
  simp only [offsets_windowCalls]

/-- A chunked stream hands the sink every row, in order. -/
theorem rows_chunkCalls (positive : 0 < s) : (chunkCalls rows s).filterMap StreamCall.row? = rows := by
  rw [chunkCalls, List.filterMap_flatMap]
  simp only [rows_windowCalls]
  rw [← take_windows, List.take_of_length_le]
  have := Nat.lt_div_mul_add (a := rows.length) positive
  rw [Nat.add_mul, Nat.one_mul]
  omega

/-- After the `i`-th non-empty window a chunked stream stores the count
`min ((i + 1) * s) n`, without a total, and stores nothing else. -/
theorem progress_chunkCalls (positive : 0 < s) : (chunkCalls rows s).filterMap StreamCall.progress? =
    (List.range ((rows.length + s - 1) / s)).map fun i => (((min ((i + 1) * s) rows.length : Nat) : Int), none) := by
  -- the windows holding a row are the first `⌈n / s⌉`, all fetched
  have fetched : (rows.length + s - 1) / s ≤ rows.length / s + 1 := by
    have := Nat.lt_div_mul_add (a := rows.length) positive
    have : (rows.length + s - 1) / s < rows.length / s + 2 :=
      (Nat.div_lt_iff_lt_mul positive).2 (by rw [Nat.add_mul]; omega)
    omega
  rw [chunkCalls, List.filterMap_flatMap]
  simp only [progress_windowCalls rows positive, starts_before_iff rows positive]
  exact flatMap_range_below _ _ _ fetched

/-- The counts a chunked stream stores strictly increase and end at the
number of rows; there are none when there are no rows. -/
theorem counts_chunkCalls (positive : 0 < s) :
    let counts := ((chunkCalls rows s).filterMap StreamCall.progress?).map Prod.fst
    counts.Pairwise (· < ·) ∧ counts.getLast? = if rows.length = 0 then none else some (rows.length : Int) := by
  intro counts
  have closed : counts = (List.range ((rows.length + s - 1) / s)).map fun i => ((min ((i + 1) * s) rows.length : Nat) : Int) := by
    simp only [counts, progress_chunkCalls rows positive, List.map_map, Function.comp_def]
  rw [closed]
  constructor
  · -- a later window starts after an earlier one ends, and before the last row
    rw [List.pairwise_map]
    refine List.pairwise_lt_range.imp_of_mem ?_
    intro i j _ later before
    have inside : j * s < rows.length := (starts_before_iff rows positive j).2 (List.mem_range.1 later)
    have : (i + 1) * s ≤ j * s := Nat.mul_le_mul_right s before
    have : (j + 1) * s = j * s + s := Nat.add_one_mul j s
    omega
  · -- the last window holding a row reaches the end
    rw [List.getLast?_map, List.getLast?_range]
    by_cases empty : rows.length = 0
    · have none : (rows.length + s - 1) / s = 0 := Nat.div_eq_of_lt (by omega)
      rw [if_pos none, if_pos empty, Option.map_none]
    · have some : (rows.length + s - 1) / s ≠ 0 := by
        have := (starts_before_iff rows positive 0).1 (by omega)
        omega
      have reach : rows.length ≤ (rows.length + s - 1) / s * s := by
        have := Nat.lt_div_mul_add (a := rows.length + s - 1) positive
        omega
      simp only [some, empty, if_false, Option.map_some, Nat.sub_add_cancel (Nat.pos_of_ne_zero some),
        Nat.min_eq_right reach]

end ChunkCalls

/-! ## The two modes -/

/-- Chunked and bulk streaming of rows held in memory agree. With `n` matching
rows and a chunk size `k` clamped to `s = max k 1`, a chunked stream, with
the fuel an export gives it, makes exactly its calls: `n / s + 1` fetches at
the multiples of `s`, the matching rows handed to the sink in order, and
after each non-empty window the count up to its end stored without a total,
and no other store request: counts that strictly increase up to `n`. A bulk stream makes exactly one fetch, stores
the total with the count `0`, hands the sink the same rows and stores the
count `n` with the total. Whenever either returns a sink, it is the sink
with the matching rows written. -/
theorem chunked_and_bulk_streams_agree (id : Int) (q : MemoryQuery) (k : Nat) (sink : CsvSink) :
    let s := max k 1
    let n := q.matching.length
    let calls := chunkCalls q.matching s
    let chunked := Exporter.streamChunks id (.memory q none) s (q.rows.length + 2) 0 sink
    let bulk := Exporter.streamAll id (.memory q none) sink
    chunked = Exporter.performCalls id (.memory q none) calls sink ∧
      calls.filterMap StreamCall.offset? = (List.range (n / s + 1)).map (· * s) ∧
      calls.filterMap StreamCall.row? = q.matching ∧
      calls.filterMap StreamCall.progress? =
        (List.range ((n + s - 1) / s)).map (fun i => (((min ((i + 1) * s) n : Nat) : Int), none)) ∧
      ((calls.filterMap StreamCall.progress?).map Prod.fst).Pairwise (· < ·) ∧
      ((calls.filterMap StreamCall.progress?).map Prod.fst).getLast? = (if n = 0 then none else some (n : Int)) ∧
      bulk = Exporter.performCalls id (.memory q none) (bulkCalls q.matching) sink ∧
      chunked = (fun _ => q.matching.foldl CsvSink.writeRow sink) <$> chunked ∧
      bulk = (fun _ => q.matching.foldl CsvSink.writeRow sink) <$> bulk := by
  intro s n calls chunked bulk
  have positive : 0 < s := by omega
  have chunkedCalls : chunked = Exporter.performCalls id (.memory q none) calls sink :=
    Exporter.streamChunks_memory id q k sink
  have bulkCalls' : bulk = Exporter.performCalls id (.memory q none) (bulkCalls q.matching) sink :=
    Exporter.streamAll_memory id q sink
  have written : (bulkCalls q.matching).filterMap StreamCall.row? = q.matching := by
    simp only [bulkCalls, List.filterMap_cons, List.filterMap_append, StreamCall.rows_writes, StreamCall.row?,
      List.filterMap_nil, List.append_nil]
  refine ⟨chunkedCalls, offsets_chunkCalls q.matching, rows_chunkCalls q.matching positive,
    progress_chunkCalls q.matching positive, (counts_chunkCalls q.matching positive).1,
    (counts_chunkCalls q.matching positive).2, bulkCalls', ?_, ?_⟩
  · have result := Exporter.performCalls_result id (.memory q none) calls sink
    rw [rows_chunkCalls q.matching positive] at result
    rw [chunkedCalls]
    exact result
  · have result := Exporter.performCalls_result id (.memory q none) (bulkCalls q.matching) sink
    rw [written] at result
    rw [bulkCalls']
    exact result

end ReportExport
