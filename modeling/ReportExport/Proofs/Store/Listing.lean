import ReportExport.Proofs.Store.Answers
import ReportExport.Proofs.Engine.Ordered

/-!
# Listing the records of a status

The repository lists the records of a status with one SELECT of the record's
columns, ordered by id. On a store of records whose rows read back, the
listing is exactly the records of that status, oldest first, and the store is
left as it was (`Stores.listByStatus_spec`). Recovery reads the Dispatched
records this way.

The SELECT is checked against its plan (`listingPlan`) by the kernel on the
migrated schema, as the lookup's is. The records are stored in id order, so
the engine's stable sort by id keeps the order of the table.
-/

namespace ReportExport.Sql

open Store Text

/-- Whether a text is one SELECT with `n` positional parameters that the
ordered plan fits on the migrated schema. -/
def OrderedPlan.fitsText (op : OrderedPlan) (text : String) (n : Nat) : Bool :=
  match (Parser.Source.ofBytes (bytesOf text)).single? with
  | some p =>
    match p.statement with
    | .query q => p.parameters == n && op.fits storeSchema q
    | _ => false
  | none => false

theorem OrderedPlan.fitsText_sound {op : OrderedPlan} {text : String} {n : Nat} (h : op.fitsText text n = true) :
    ∃ p q, (Parser.Source.ofBytes (bytesOf text)).single? = some p ∧ p.statement = .query q ∧
      p.parameters = n ∧ op.Fits storeSchema q := by
  unfold fitsText at h
  split at h
  · rename_i p single
    split at h
    · rename_i q statement
      simp only [Bool.and_eq_true, beq_iff_eq] at h
      exact ⟨p, q, single, statement, h.1, op.fits_sound h.2⟩
    · cases h
  · cases h

end ReportExport.Sql

namespace ReportExport.Store.RecordStore

open Sql Text

/-- The rows of a text that is one SELECT are the rows the connection's run
of the query gives. -/
theorem fetchAll_single {s : RecordStore} {text : String} {p : Parser.Parsed} {q : Query}
    (isOpen : s.closed = false) (single : (Parser.Source.ofBytes (bytesOf text)).single? = some p)
    (statement : p.statement = .query q) (args : List SqlValue) (count : args.length = p.parameters) :
    s.fetchAll text args =
      match s.conn.execute args.toArray (.query q) with
      | (c, .error e) => ({ s with conn := c }, .error (.database e))
      | (c, .ok rows) => ({ s with conn := c },
        .ok (rows.rows.toList.map fun row => { columns := rows.columns, values := row.toList })) := by
  simp only [fetchAll, run, isOpen, Bool.false_eq_true, if_false, Connection.run_single single s.conn args count,
    statement]
  rcases s.conn.execute args.toArray (.query q) with ⟨c, e | rows⟩
  · rfl
  · simp [Except.map]

end ReportExport.Store.RecordStore

namespace ReportExport

open Sql Store

/-- The SELECT that lists a status: the rows of `report_exports` whose status
is the parameter, with the twenty columns of a record, ordered by id. -/
def listingPlan : OrderedPlan where
  table := "report_exports"
  width := 21
  filter := .compare .eq (.column 0 6) (.param 1) .text .binary
  outputs := createPlan.returns
  names := ExportRecord.columnNames
  key := .column 0 1
  descending := false
  nullsFirst := true
  collation := .binary

/-- Listing a status runs a SELECT whose text the plan fits, checked on the
migrated schema by the kernel. -/
theorem listing_statement : ∃ text,
    (∀ (s : RecordStore) (st : ExportStatus), s.listByStatus st =
      let (s, rows) := s.fetchAll text [.ofString st.token]
      s.readAll rows) ∧
      listingPlan.fitsText text 1 = true :=
  ⟨"SELECT " ++ exportColumns ++ " FROM report_exports WHERE status = ? ORDER BY id", fun _ _ => rfl,
    by decide +kernel⟩

/-- The listing's filter holds of a record's row exactly when the record has
the status. -/
theorem listingPlan_filter (r : ExportRecord) (st : ExportStatus) :
    (listingPlan.filter.eval #[.ofString st.token] [r.scope]).truthOr false = decide (r.status = st) := by
  rw [listingPlan, PureTerm.eval, ExportRecord.eval_status, PureTerm.eval]
  simp

/-- Records in id order compare in order under the listing's key. -/
theorem listingPlan_keys_sorted {recs : List ExportRecord} (ascending : (recs.map (·.id)).Pairwise (· < ·))
    (params : Array SqlValue) :
    (recs.map fun r => ([listingPlan.key.eval params [r.scope]], r.values)).Pairwise fun a b =>
      compareKeys [(listingPlan.descending, listingPlan.nullsFirst, listingPlan.collation)] a.1 b.1 != .gt := by
  rw [List.pairwise_map]
  refine (List.pairwise_map.1 ascending).imp fun {a b} before => ?_
  have lt : compare a.id b.id = .lt := compare_lt_iff_lt.2 before
  simp [listingPlan, compareKeys, compareKey, SqlValue.compareWith, lt]

/-- The rows the listing of a status orders on a store of records in id
order: the row of each record of the status, in id order. -/
theorem listingPlan_ordered {recs : List ExportRecord} (ascending : (recs.map (·.id)).Pairwise (· < ·))
    (st : ExportStatus) :
    listingPlan.ordered #[.ofString st.token] { exportsTable with rows := (recs.map ExportRecord.row).toArray } =
      ((recs.filter fun r => r.status = st).map ExportRecord.values).toArray := by
  have led : ∀ r : ExportRecord, ({ row := r.row.led } : Scope) = r.scope := fun _ => rfl
  simp only [OrderedPlan.ordered, List.map_map, List.filter_map, Function.comp_def, led, listingPlan_filter,
    show listingPlan.outputs = createPlan.returns from rfl, ExportRecord.eval_columns]
  -- the records of the status are still in id order, and the sort keeps them so
  have kept : ((recs.filter fun r => r.status = st).map (·.id)).Pairwise (· < ·) :=
    ascending.sublist (List.filter_sublist.map _)
  rw [stableSortBy, List.mergeSort_of_pairwise (listingPlan_keys_sorted kept _), List.map_map]
  rfl

/-- Rows of records that read back read back, one by one, as the records. -/
theorem mapM_readRecord_values : ∀ recs : List ExportRecord, (∀ r ∈ recs, r.Readable) →
    (recs.map fun r => (⟨ExportRecord.columnNames, r.values.toList⟩ : ResultRow)).mapM readRecord = .ok recs
  | [], _ => rfl
  | r :: rest, readable => by
    have first := readRecord_values r (readable r List.mem_cons_self)
    have others := mapM_readRecord_values rest fun q held => readable q (List.mem_cons_of_mem r held)
    simp [List.mapM_cons, first, others]

namespace Stores

variable {s : RecordStore} {recs : List ExportRecord}

/-- Listing a status on a store of records whose rows read back gives the
records of that status, oldest first, and changes nothing. -/
theorem listByStatus_spec (hs : Stores s recs) (readable : ∀ r ∈ recs, r.Readable) (st : ExportStatus) :
    s.listByStatus st = (s, .ok (recs.filter fun r => r.status = st)) := by
  obtain ⟨text, run, fit⟩ := listing_statement
  obtain ⟨p, q, single, statement, count, fits⟩ := OrderedPlan.fitsText_sound fit
  have checked := OrderedPlan.Fits.schema _ fits hs.schemaView_db
  rw [run, RecordStore.fetchAll_single hs.isOpen single statement [.ofString st.token] count.symm,
    Connection.execute_ordered s.conn _ checked hs.table_db rfl]
  dsimp only
  rw [show listingPlan.names = ExportRecord.columnNames from rfl, listingPlan_ordered hs.ascending]
  simp only [RecordStore.readAll, List.map_map, Function.comp_def]
  -- the rows read back as the records of the status
  exact Prod.ext rfl (mapM_readRecord_values _ fun r held => readable r (List.mem_filter.1 held).1)

end Stores

end ReportExport
