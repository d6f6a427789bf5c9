import ReportExport.Proofs.Store.Reading
import ReportExport.Proofs.Engine.Select

/-!
# What the repository's requests give back

Two requests of the repository give records: creating one returns the row it
inserted, and looking one up selects the row of its id. Each reads the
record from the row's columns by name. On a store of records whose rows read
back (`ExportRecord.Readable`), both give the records themselves:

* `Stores.createExport_returns`: creating gives the new record;
* `Stores.getExport_spec`: looking an id up gives the record of that id, if
  there is one, and changes nothing.

The SELECT of a lookup is checked against its plan (`lookupPlan`) by the
kernel on the migrated schema, as the INSERT and the UPDATEs are.
-/

namespace ReportExport.Sql

open Store Text

/-- Whether a text is one SELECT with `n` positional parameters that the plan
fits on the migrated schema. -/
def SelectPlan.fitsText (sp : SelectPlan) (text : String) (n : Nat) : Bool :=
  match (Parser.Source.ofBytes (bytesOf text)).single? with
  | some p =>
    match p.statement with
    | .query q => p.parameters == n && sp.fits storeSchema q
    | _ => false
  | none => false

theorem SelectPlan.fitsText_sound {sp : SelectPlan} {text : String} {n : Nat} (h : sp.fitsText text n = true) :
    ∃ p q, (Parser.Source.ofBytes (bytesOf text)).single? = some p ∧ p.statement = .query q ∧
      p.parameters = n ∧ sp.Fits storeSchema q := by
  unfold fitsText at h
  split at h
  · rename_i p single
    split at h
    · rename_i q statement
      simp only [Bool.and_eq_true, beq_iff_eq] at h
      exact ⟨p, q, single, statement, h.1, sp.fits_sound h.2⟩
    · cases h
  · cases h

end ReportExport.Sql

namespace ReportExport.Store.RecordStore

open Sql Text

/-- The first row of a text that is one SELECT is the first row the
connection's run of the query gives. -/
theorem fetchOptional_single {s : RecordStore} {text : String} {p : Parser.Parsed} {q : Query}
    (isOpen : s.closed = false) (single : (Parser.Source.ofBytes (bytesOf text)).single? = some p)
    (statement : p.statement = .query q) (args : List SqlValue) (count : args.length = p.parameters) :
    s.fetchOptional text args =
      match s.conn.execute args.toArray (.query q) with
      | (c, .error e) => ({ s with conn := c }, .error (.database e))
      | (c, .ok rows) => ({ s with conn := c },
        .ok ((rows.rows.toList.head?).map fun row => { columns := rows.columns, values := row.toList })) := by
  simp only [fetchOptional, fetchAll, run, isOpen, Bool.false_eq_true, if_false,
    Connection.run_single single s.conn args count, statement]
  rcases s.conn.execute args.toArray (.query q) with ⟨c, e | rows⟩
  · rfl
  · dsimp only
    cases rows.rows.toList <;> rfl

end ReportExport.Store.RecordStore

namespace ReportExport

open Sql Store

/-! ## Creating returns the new record -/

section Create

variable {s : RecordStore} {recs : List ExportRecord}

/-- The twenty columns the statements return give a record's row. -/
theorem ExportRecord.eval_columns (r : ExportRecord) (params : Array SqlValue) :
    (createPlan.returns.eval params [r.scope]).toArray = r.values := by
  simp only [createPlan, PureTerms.eval_ofList, List.map_map]
  simp only [Function.comp_def, r.eval_column params]
  rfl

/-- Creating a record on a store of records, while ids remain and the record
it retries is stored, gives the new record, when its row reads back. -/
theorem Stores.createExport_returns (hs : Stores s recs) (n : NewExport)
    (accepted : lastId recs < maxInteger ∧
      (n.record (lastId recs + 1) s.clock).parentIn (recs ++ [n.record (lastId recs + 1) s.clock]) = true)
    (readable : (n.record (lastId recs + 1) s.clock).Readable) :
    (s.createExport n).2 = .ok (n.record (lastId recs + 1) s.clock) := by
  obtain ⟨text, run, fit, named⟩ := create_statement
  obtain ⟨p, columns, q, returning, parts, count, fits⟩ := InsertPlan.fitsText_sound (fit n s.clock)
  have outcome := hs.insert_spec fits (createArgs n s.clock).toArray (n.record (lastId recs + 1) s.clock) rfl
    (hs.createPlan_rowValues fits n _ s.clock) (hs.firstFalse_created fits _ n _ s.clock)
  rw [if_pos accepted] at outcome
  -- the statement returns the record's columns under their names
  have names : (hs.plainInsert fits).retNames = ExportRecord.columnNames := by
    rw [parts] at named
    exact Option.some.inj named
  rw [run, RecordStore.fetchOne_single hs.isOpen parts _ count.symm]
  rcases exec : s.conn.execute (createArgs n s.clock).toArray
    (.insert none none "report_exports" none (some columns) (.query q) [] returning) with ⟨c, e | rows⟩ <;>
    rw [exec] at outcome
  · cases outcome.1
  · obtain ⟨returned, -⟩ := outcome
    cases returned
    dsimp only
    rw [show (hs.plainInsert fits).returns = createPlan.returns from rfl, ExportRecord.eval_columns, names]
    exact readRecord_values _ readable

end Create

/-! ## Looking a record up -/

/-- The SELECT that looks a record up: the rows of `report_exports` whose id
is the parameter, with the twenty columns of a record. -/
def lookupPlan : SelectPlan where
  table := "report_exports"
  width := 21
  filter := .compare .eq (.column 0 1) (.param 1) .integer .binary
  outputs := createPlan.returns
  names := ExportRecord.columnNames

/-- Looking a record up runs a SELECT whose text the plan fits, checked on
the migrated schema by the kernel. -/
theorem lookup_statement : ∃ text,
    (∀ (s : RecordStore) (id : Int), s.getExport id =
      match s.fetchOptional text [.integer id] with
      | (s, .error e) => (s, .error (.driver e))
      | (s, .ok none) => (s, .ok none)
      | (s, .ok (some row)) => (s, (readRecord row).map some)) ∧
      lookupPlan.fitsText text 1 = true :=
  ⟨_, fun _ _ => rfl, by decide +kernel⟩

/-- The lookup's filter holds of a record's row exactly when the record has
the id. -/
theorem lookupPlan_filter (r : ExportRecord) (id : Int) :
    (lookupPlan.filter.eval #[.integer id] [r.scope]).truthOr false = (r.id == id) := by
  rw [lookupPlan, PureTerm.eval, ExportRecord.eval_id, PureTerm.eval]
  exact compareValues_eq_integer .. ▸ SqlValue.truthOr_ofTruth _ _

/-- The rows the lookup of an id selects: the row of each record of the id. -/
theorem lookupPlan_selected (recs : List ExportRecord) (id : Int) :
    lookupPlan.selected #[.integer id] { exportsTable with rows := (recs.map ExportRecord.row).toArray } =
      ((recs.filter (·.id == id)).map ExportRecord.values).toArray := by
  have led : ∀ r : ExportRecord, ({ row := r.row.led } : Scope) = r.scope := fun _ => rfl
  simp only [SelectPlan.selected, List.map_map, List.filter_map, Function.comp_def, led,
    lookupPlan_filter]
  rw [lookupPlan]
  simp only [ExportRecord.eval_columns]

namespace Stores

variable {s : RecordStore} {recs : List ExportRecord}

/-- Looking an id up on a store of records changes nothing and reads the
record of the id, if there is one. -/
theorem getExport_eq (hs : Stores s recs) (id : Int) :
    s.getExport id = (s, match recs.find? (·.id == id) with
      | some r => (readRecord ⟨ExportRecord.columnNames, r.values.toList⟩).map some
      | none => .ok none) := by
  obtain ⟨text, run, fit⟩ := lookup_statement
  obtain ⟨p, q, single, statement, count, fits⟩ := SelectPlan.fitsText_sound fit
  have checked := SelectPlan.Fits.schema _ fits hs.schemaView_db
  rw [run, RecordStore.fetchOptional_single hs.isOpen single statement [.integer id] count.symm,
    Connection.execute_select s.conn _ checked hs.table_db rfl]
  dsimp only
  rw [show lookupPlan.names = ExportRecord.columnNames from rfl, lookupPlan_selected]
  simp only [List.head?_map, List.head?_filter]
  cases recs.find? (·.id == id) <;> rfl

/-- Looking an id up on a store of records whose rows read back gives the
record of the id, if there is one, and changes nothing. -/
theorem getExport_spec (hs : Stores s recs) (readable : ∀ r ∈ recs, r.Readable) (id : Int) :
    s.getExport id = (s, .ok (recs.find? (·.id == id))) := by
  rw [hs.getExport_eq id]
  cases found : recs.find? (·.id == id) with
  | none => rfl
  | some r =>
    dsimp only
    rw [readRecord_values r (readable r (List.mem_of_find?_eq_some found))]
    rfl

end Stores

end ReportExport
