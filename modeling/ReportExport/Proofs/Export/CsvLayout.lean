import ReportExport.Export.Csv

/-!
# The layout of a CSV file

A sink takes its columns from the first row written to it and keeps them. The
header record names those columns through the header map, and every row, the
first included, is written as its cells in those columns: a column the row
lacks gives an empty cell, and a key beyond them is left out.

`writeRow_unset` and `writeRow_set` say what one write does before and after
the columns are fixed, and `foldl_writeRow_set` what a run of writes does once
they are. `layout_fixed_by_first_row` puts them together for any rows written
to a new sink: no rows write nothing; otherwise the file is the header record
followed by one record per row, every record as wide as the first row, and
the sink counts every row.
-/

namespace ReportExport.CsvSink

section Step

variable (s : CsvSink) (row : Row)

/-- The first write fixes the columns as the row's keys and writes the header
record before the row's own. -/
theorem writeRow_unset (unset : s.columns = none) :
    s.writeRow row =
      { s with
        columns := some (row.map Prod.fst)
        rows := s.rows + 1
        text := s.text ++ Csv.record ((row.map Prod.fst).map s.headers.labelFor) ++
          Csv.record ((row.map Prod.fst).map fun c => Csv.cell (Json.lookup c row)) } := by
  simp only [writeRow, unset]

/-- Once the columns are fixed, a write adds the row's record in them. -/
theorem writeRow_set {columns : List String} (set : s.columns = some columns) :
    s.writeRow row =
      { s with
        columns := some columns
        rows := s.rows + 1
        text := s.text ++ Csv.record (columns.map fun c => Csv.cell (Json.lookup c row)) } := by
  simp only [writeRow, set]

end Step

/-- Once the columns are fixed, a run of writes keeps them, appends one record
per row in those columns, and counts the rows. -/
theorem foldl_writeRow_set {columns : List String} (rows : List Row) :
    ∀ s : CsvSink, s.columns = some columns →
      (rows.foldl writeRow s).columns = some columns ∧
      (rows.foldl writeRow s).rows = s.rows + rows.length ∧
      (rows.foldl writeRow s).text =
        s.text ++ String.join (rows.map fun r => Csv.record (columns.map fun c => Csv.cell (Json.lookup c r))) := by
  induction rows with
  | nil => intro s set; simp [set]
  | cons r rs ih =>
    intro s set
    obtain ⟨kept, counted, written⟩ := ih (s.writeRow r) (by rw [writeRow_set s r set])
    rw [List.foldl_cons]
    refine ⟨kept, ?_, ?_⟩
    · rw [counted, writeRow_set s r set, List.length_cons]
      dsimp only
      omega
    · rw [written, writeRow_set s r set]
      simp [String.append_assoc]

/-- Rows written one after another to a new sink. The sink counts every row.
No rows write nothing. Otherwise the columns are the first row's keys, and the
file is the header record of their labels followed by one record per row, its
cells in those columns; every record has one field per column, so all are as
wide as the first. -/
theorem layout_fixed_by_first_row (headers : HeaderMap) (rows : List Row) :
    (rows.foldl writeRow (create headers)).rows = rows.length ∧
    (rows = [] → (rows.foldl writeRow (create headers)).text = "") ∧
    ∀ first rest, rows = first :: rest →
      let columns := first.map Prod.fst
      let records := columns.map headers.labelFor ::
        rows.map fun r => columns.map fun c => Csv.cell (Json.lookup c r)
      (rows.foldl writeRow (create headers)).columns = some columns ∧
      (rows.foldl writeRow (create headers)).text = String.join (records.map Csv.record) ∧
      ∀ record ∈ records, record.length = columns.length := by
  cases rows with
  | nil => exact ⟨rfl, fun _ => rfl, fun _ _ listed => absurd listed.symm (List.cons_ne_nil _ _)⟩
  | cons first rest =>
    -- the first write fixes the columns; the rest run with them fixed
    have opened := writeRow_unset (create headers) first rfl
    obtain ⟨kept, counted, written⟩ :=
      foldl_writeRow_set rest ((create headers).writeRow first) (by rw [opened])
    rw [List.foldl_cons]
    refine ⟨?_, fun empty => absurd empty (List.cons_ne_nil _ _), fun first' rest' listed => ?_⟩
    · rw [counted, opened, List.length_cons]
      dsimp only [create]
      omega
    · obtain ⟨rfl, rfl⟩ := List.cons.inj listed
      refine ⟨kept, ?_, fun record mem => ?_⟩
      · rw [written, opened]
        simp [create, String.append_assoc, Function.comp_def]
      · simp only [List.mem_cons, List.mem_map] at mem
        rcases mem with rfl | ⟨r, -, rfl⟩ <;> simp

/-- A later row with its keys in another order and one key more, and a row
with a column missing, follow the first row's columns. -/
example :
    ([[("id", Json.nat 1), ("name", .str "Ann")],
      [("name", .str "Bob"), ("id", Json.nat 2), ("extra", .bool true)],
      [("id", Json.nat 3)]].foldl writeRow (create (HeaderMap.ofPairs [("name", "Full Name")]))).text =
      "id,Full Name\n1,Ann\n2,Bob\n3,\n" := by
  decide +kernel

end ReportExport.CsvSink
