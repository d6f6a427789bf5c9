import ReportExport.Query.Compile

/-!
# In-memory query sources

A named list of rows with an optional whitelist of filterable columns and the
predicates applied so far. The rows it yields are those that satisfy every
predicate, in their original order; a chunk is a window of them. Its compiled
text is `SELECT * FROM name`, with the predicates' fragments joined by `AND`
after `WHERE` when there are any.
-/

namespace ReportExport.Query

/-- SQL text with the values of its placeholders. -/
structure CompiledQuery where
  sql : String
  bindings : List Json

/-- The SQL text with the bindings written in as literals. -/
def CompiledQuery.rawSql (q : CompiledQuery) : String := Sql.interpolate q.sql q.bindings

/-- Equal text and equal bindings. -/
def CompiledQuery.beq (a b : CompiledQuery) : Bool := a.sql == b.sql && a.bindings == b.bindings

instance : BEq CompiledQuery := ⟨CompiledQuery.beq⟩

/-- The WHERE clause of predicates joined by `AND`, and their bindings in order. -/
def whereClause (ps : List Predicate) : String × List Json :=
  (" AND ".intercalate (ps.map Predicate.sql), ps.flatMap Predicate.bindings)

/-- A query over rows held in memory. -/
structure MemoryQuery where
  name : String
  rows : List Row
  columns : Option (List String) := none
  predicates : List Predicate := []

namespace MemoryQuery

/-- Adds a predicate, unless a whitelist is set and does not name its column. -/
def apply (q : MemoryQuery) (p : Predicate) : Except CompileError MemoryQuery :=
  match q.columns with
  | some cs => if cs.contains p.column then .ok { q with predicates := q.predicates ++ [p] }
               else .error (.unknownColumn .memory p.column)
  | none => .ok { q with predicates := q.predicates ++ [p] }

/-- The rows that satisfy every predicate, in order. -/
def matching (q : MemoryQuery) : List Row :=
  q.rows.filter (fun r => q.predicates.all (fun p => p.holds r))

/-- A window of the matching rows. -/
def fetchChunk (q : MemoryQuery) (size offset : Nat) : List Row :=
  (q.matching.drop offset).take size

/-- The compiled text. -/
def compiled (q : MemoryQuery) : CompiledQuery :=
  if q.predicates.isEmpty then ⟨"SELECT * FROM " ++ q.name, []⟩
  else
    let (clause, bindings) := whereClause q.predicates
    ⟨"SELECT * FROM " ++ q.name ++ " WHERE " ++ clause, bindings⟩

end MemoryQuery

/-- Compiles every filter of a collection and applies it with `apply`, stopping
at the first failure. -/
def applyAll {σ : Type} (apply : σ → Predicate → Except CompileError σ) (source : σ)
    (filters : List Filter) : Except CompileError σ :=
  filters.foldlM (fun s f => do apply s (← Predicate.ofFilter f)) source

end ReportExport.Query
