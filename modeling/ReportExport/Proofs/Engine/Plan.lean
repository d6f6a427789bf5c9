import ReportExport.Proofs.Engine.Insert
import ReportExport.Proofs.Engine.Update
import ReportExport.Proofs.Engine.Script

/-!
# Statements checked once for every database of a schema

A statement is resolved against the schema alone: the resolver reads
`Resolve.schemaView`, the tables without their rows, and a table's
definition is all that the checks of a statement read of it. So what
`PlainUpdate` and `PlainInsert` ask of a statement and a database is decided
by the statement and the schema; the rows of the database do not enter.

An `UpdatePlan` or `InsertPlan` names the pure terms a statement should
resolve to; `UpdatePlan.fits` and `InsertPlan.fits` are boolean checks that
it does, on one database. The kernel evaluates them on a fixed database, and
`UpdatePlan.plain` and `InsertPlan.plain` carry the result to every database
with the same schema and any rows.
-/

namespace ReportExport.Sql

open Text

/-! ## What a statement reads of a table -/

section Rows

variable (t : Table) (rows : Array StoredRow)

theorem Table.changedWith_rows (rowidChanged : Bool) :
    ∀ n cs, Table.changedWith { t with rows } rowidChanged n cs = t.changedWith rowidChanged n cs
  | 0, _ => rfl
  | n + 1, cs => by
    simp only [Table.changedWith]
    rw [Table.changedWith_rows rowidChanged n]
    rfl

theorem Table.generationOrderFrom_rows :
    ∀ n left order, Table.generationOrderFrom { t with rows } n left order = t.generationOrderFrom n left order
  | 0, _, _ => rfl
  | n + 1, left, order => by
    simp only [Table.generationOrderFrom]
    rw [show Table.generationPass { t with rows } left = t.generationPass left from rfl]
    split
    · rfl
    · simp only [Table.generationOrderFrom_rows n]
      rfl

theorem Database.generators_rows (db : Database) : db.generators { t with rows } = db.generators t := by
  simp only [Database.generators, Table.generationOrder, Table.generationOrderFrom_rows]
  rfl

end Rows

/-! ## Databases of one schema -/

section SameSchema

variable {db db₀ : Database} (same : Resolve.schemaView db = Resolve.schemaView db₀)
include same

theorem Resolve.resolveIn_schema (chain : List Resolve.Level) (ctes : List Resolve.TableExprDef) (es : List Expr) :
    Resolve.resolveIn db chain ctes es = Resolve.resolveIn db₀ chain ctes es := by
  simp only [Resolve.resolveIn, Resolve.inLevel, same]

theorem Resolve.resolveOver_schema (level : Option Resolve.Level) (ctes : List Resolve.TableExprDef)
    (es : List Expr) : Resolve.resolveOver db level ctes es = Resolve.resolveOver db₀ level ctes es := by
  simp only [Resolve.resolveOver, Resolve.resolveIn_schema same]

theorem Database.resolveSets_schema (t : Table) (chain : List Resolve.Level) (ctes : List Resolve.TableExprDef)
    (sets : List Assignment) : db.resolveSets t chain ctes sets = db₀.resolveSets t chain ctes sets := by
  simp only [Database.resolveSets, Resolve.resolveUsing, Resolve.inLevel, same]

theorem Database.generators_schema (t : Table) : db.generators t = db₀.generators t := by
  simp only [Database.generators, Resolve.resolveIn_schema same]

theorem Resolve.resolveQueryIn_schema (chain : List Resolve.Level) (ctes : Option (Bool × List TableExpr))
    (q : Query) : Resolve.resolveQueryIn db chain ctes q = Resolve.resolveQueryIn db₀ chain ctes q := by
  simp only [Resolve.resolveQueryIn, same]

theorem Resolve.resolveReturning_schema (level : Resolve.Level) (cols : List ResultColumn) :
    Resolve.resolveReturning db level cols = Resolve.resolveReturning db₀ level cols := by
  simp only [Resolve.resolveReturning, Resolve.inLevel, same]

end SameSchema

/-! ## Resolved terms that are pure -/

/-- The typings of resolved terms. -/
def typingsOf : Except SqlError (List (Term × Resolve.Typing)) → List Resolve.Typing
  | .ok rs => rs.map (·.2)
  | .error _ => []

/-- Whether expressions resolved, one by one, to the images of pure terms. -/
def resolvesTo : Except SqlError (List (Term × Resolve.Typing)) → List PureTerm → Bool
  | .ok rs, ps => rs.length == ps.length && (rs.zip ps).all fun (r, p) => p.matches r.1
  | .error _, _ => false

theorem resolved_of_matches : ∀ (rs : List (Term × Resolve.Typing)) (ps : List PureTerm),
    rs.length = ps.length → (∀ x ∈ rs.zip ps, x.2.matches x.1.1 = true) →
      rs = (ps.zip (rs.map (·.2))).map fun x => (x.1.toTerm, x.2)
  | [], [], _, _ => rfl
  | r :: rs, p :: ps, hlen, hall => by
    have hhead := PureTerm.matches_sound p r.1 (hall (r, p) (by simp))
    have htail := resolved_of_matches rs ps (by simpa using hlen) (fun x hx => hall x (by simp [hx]))
    simp only [List.map_cons, List.zip_cons_cons, List.cons.injEq]
    exact ⟨by rw [← hhead], htail⟩

theorem resolvesTo_sound {r : Except SqlError (List (Term × Resolve.Typing))} {ps : List PureTerm}
    (h : resolvesTo r ps = true) :
    r = .ok ((ps.zip (typingsOf r)).map fun x => (x.1.toTerm, x.2)) ∧ (typingsOf r).length = ps.length := by
  cases r with
  | error e => simp [resolvesTo] at h
  | ok rs =>
    simp only [resolvesTo, Bool.and_eq_true, beq_iff_eq, List.all_eq_true] at h
    simp only [typingsOf, List.length_map, h.1, and_true]
    exact congrArg Except.ok (resolved_of_matches rs ps h.1 h.2)

/-- A term resolved alone that is the image of a pure term. -/
theorem resolvesTo_single {r : Except SqlError (List (Term × Resolve.Typing))} {p : PureTerm}
    (h : resolvesTo r [p] = true) : r = .ok [(p.toTerm, (typingsOf r).headD default)] := by
  obtain ⟨hr, hlen⟩ := resolvesTo_sound h
  obtain ⟨ty, hty⟩ : ∃ ty, typingsOf r = [ty] := List.length_eq_one_iff.1 hlen
  rw [hr, hty]
  rfl

/-- A SET list resolved to pure terms, one column each. -/
theorem sets_of_matches : ∀ (rs : List (List (Option Nat) × Term)) (ws : List (Nat × PureTerm)),
    rs.length = ws.length → (∀ x ∈ rs.zip ws, x.1.1 = [some x.2.1] ∧ x.2.2.matches x.1.2 = true) →
      rs = ws.map fun w => ([some w.1], w.2.toTerm)
  | [], [], _, _ => rfl
  | r :: rs, w :: ws, hlen, hall => by
    obtain ⟨hcol, hterm⟩ := hall (r, w) (by simp)
    have htail := sets_of_matches rs ws (by simpa using hlen) (fun x hx => hall x (by simp [hx]))
    simp only [List.map_cons, List.cons.injEq]
    exact ⟨Prod.ext hcol (PureTerm.matches_sound w.2 r.2 hterm), htail⟩

/-! ## Plans of UPDATE -/

/-- The table, SET list and WHERE clause of a text that is one UPDATE with
positional parameters, with nothing but SET and WHERE. -/
def updateParts (text : String) : Option (Parser.Parsed × String × List Assignment × Expr) :=
  match (Parser.Source.ofBytes (bytesOf text)).single? with
  | some p =>
    match p.statement with
    | .update none none name none sets none (some f) [] => some (p, name, sets, f)
    | _ => none
  | none => none

theorem updateParts_spec {text : String} {p : Parser.Parsed} {name : String} {sets : List Assignment} {f : Expr}
    (h : updateParts text = some (p, name, sets, f)) :
    (Parser.Source.ofBytes (bytesOf text)).single? = some p ∧
      p.statement = .update none none name none sets none (some f) [] := by
  unfold updateParts at h
  split at h
  · rename_i q hq
    split at h
    · cases h
      rename_i hs
      exact ⟨hq, hs⟩
    · cases h
  · cases h

/-- The CHECK constraints of a table that an UPDATE of some columns checks:
those that read one of them. -/
def Table.checksOn (t : Table) (cs : List Nat) : List CheckConstraint :=
  t.checks.filter fun ck => Expr.mentions (t.namesAt cs) 200 ck.e

/-- The pure terms an UPDATE is to resolve to: the columns it writes with
their values, its WHERE clause, and the CHECK constraints the written columns
bring in. -/
structure UpdatePlan where
  writes : List (Nat × PureTerm)
  filter : PureTerm
  checks : List PureTerm

namespace UpdatePlan

variable (plan : UpdatePlan)

/-- The columns the UPDATE writes. -/
def columns : List Nat := plan.writes.map (·.1)

/-- Whether an UPDATE of the table `t` on the database `db` resolves to the
plan, and nothing makes it more than a replacement of rows in place: what
`PlainUpdate` asks, but for views, triggers and indexes. -/
def fits (db : Database) (t : Table) (sets : List Assignment) (f : Expr) : Bool :=
  let level := Resolve.tableLevel t t.name
  (match db.resolveSets t [level] [] sets with
    | .ok rs => rs.length == plan.writes.length &&
        (rs.zip plan.writes).all fun (r, w) => r.1 == [some w.1] && w.2.matches r.2
    | .error _ => false) &&
  (match Database.setTargets t sets with
    | .ok targets => targets == plan.writes.map fun w => [some w.1]
    | .error _ => false) &&
  resolvesTo (Resolve.resolveIn db [level] [] [f]) [plan.filter] &&
  plan.writes.all (fun w => some w.1 != t.rowidColumn) &&
  (match db.generators t with
    | .ok [] => true
    | _ => false) &&
  t.changedWith false (t.columns.size + 1) plan.columns == plan.columns &&
  !t.withoutRowid &&
  (t.checksOn plan.columns).length == plan.checks.length &&
  resolvesTo (Resolve.resolveOver db (some level) [] ((t.checksOn plan.columns).map (·.e))) plan.checks &&
  decide (plan.filter.depth < 100000) && plan.writes.all (fun w => decide (w.2.depth < 100000)) &&
  plan.checks.all (fun c => decide (c.depth < 100000))

/-- The typings the WHERE clause of an UPDATE resolves with. -/
def filterTypings (db : Database) (t : Table) (f : Expr) : List Resolve.Typing :=
  typingsOf (Resolve.resolveIn db [Resolve.tableLevel t t.name] [] [f])

/-- The typings the CHECK constraints an UPDATE brings in resolve with. -/
def checkTypings (db : Database) (t : Table) : List Resolve.Typing :=
  typingsOf (Resolve.resolveOver db (some (Resolve.tableLevel t t.name)) []
    ((t.checksOn plan.columns).map (·.e)))

/-- What `fits` checks, as facts. -/
structure Fits (db : Database) (t : Table) (sets : List Assignment) (f : Expr) : Prop where
  resolvedSets : db.resolveSets t [Resolve.tableLevel t t.name] [] sets =
    .ok (plan.writes.map fun w => ([some w.1], w.2.toTerm))
  targets : Database.setTargets t sets = .ok (plan.writes.map fun w => [some w.1])
  resolvedFilter : Resolve.resolveIn db [Resolve.tableLevel t t.name] [] [f] =
    .ok [(plan.filter.toTerm, (filterTypings db t f).headD default)]
  keepsRowid : ∀ w ∈ plan.writes, some w.1 ≠ t.rowidColumn
  noGenerated : db.generators t = .ok []
  changed : t.changedWith false (t.columns.size + 1) plan.columns = plan.columns
  hasRowid : t.withoutRowid = false
  checksLength : (t.checksOn plan.columns).length = plan.checks.length
  resolvedChecks :
    Resolve.resolveOver db (some (Resolve.tableLevel t t.name)) [] ((t.checksOn plan.columns).map (·.e)) =
      .ok ((plan.checks.zip (plan.checkTypings db t)).map fun x => (x.1.toTerm, x.2))
  typingsLength : (plan.checkTypings db t).length = plan.checks.length
  shallowFilter : plan.filter.depth < 100000
  shallowWrites : ∀ w ∈ plan.writes, w.2.depth < 100000
  shallowChecks : ∀ c ∈ plan.checks, c.depth < 100000

theorem fits_sound {db : Database} {t : Table} {sets : List Assignment} {f : Expr}
    (h : plan.fits db t sets f = true) : plan.Fits db t sets f := by
  simp only [fits, Bool.and_eq_true, beq_iff_eq, List.all_eq_true, decide_eq_true_eq, bne_iff_ne, ne_eq,
    Bool.not_eq_true', and_assoc] at h
  obtain ⟨hsets, htargets, hfilter, hrowid, hgen, hchanged, hrow, hlen, hchecks, hdf, hdw, hdc⟩ := h
  obtain ⟨hcheckRes, htys⟩ := resolvesTo_sound hchecks
  refine ⟨?_, ?_, resolvesTo_single hfilter, hrowid, ?_, hchanged, hrow, hlen, hcheckRes, htys, hdf, hdw, hdc⟩
  · split at hsets
    · rename_i rs hrs
      simp only [Bool.and_eq_true, beq_iff_eq, List.all_eq_true] at hsets
      rw [hrs, sets_of_matches rs plan.writes hsets.1 fun x hx => by simpa using hsets.2 x hx]
    · cases hsets
  · split at htargets
    · rename_i ts hts
      rw [hts, beq_iff_eq.1 htargets]
    · cases htargets
  · split at hgen
    · assumption
    · cases hgen

variable {plan} {db₀ : Database} {t₀ : Table} {sets : List Assignment} {f : Expr}

/-- A plan that fits an UPDATE on one database fits it on every database of
the same schema, whatever the rows of the table, when that database has no
view of the name and no trigger or unique index on the table. -/
def plain (checked : plan.Fits db₀ t₀ sets f) {db : Database} {name : String} (rows : Array StoredRow)
    (same : Resolve.schemaView db = Resolve.schemaView db₀)
    (noView : db.triggeredView name (.update []) = none)
    (target : db.targetIn {} name = .ok { t₀ with rows })
    (current : db.table? t₀.name = some { t₀ with rows })
    (noTriggers : db.hasTriggers t₀.name = false)
    (noUnique : (db.indexesOf t₀.name).filter (·.unique) = []) : PlainUpdate db name sets f :=
  have level : Resolve.tableLevel { t₀ with rows } t₀.name = Resolve.tableLevel t₀ t₀.name := rfl
  have firsts : ((t₀.checksOn plan.columns).zip (plan.checks.zip (plan.checkTypings db₀ t₀))).map (·.1) =
      t₀.checksOn plan.columns := by
    rw [List.map_fst_zip]
    simp [checked.checksLength, checked.typingsLength]
  have seconds : ((t₀.checksOn plan.columns).zip (plan.checks.zip (plan.checkTypings db₀ t₀))).map (·.2) =
      plan.checks.zip (plan.checkTypings db₀ t₀) := by
    rw [List.map_snd_zip]
    simp [checked.checksLength, checked.typingsLength]
  { table := { t₀ with rows }
    writes := plan.writes
    filter := plan.filter
    typing := (filterTypings db₀ t₀ f).headD default
    checks := (t₀.checksOn plan.columns).zip (plan.checks.zip (plan.checkTypings db₀ t₀))
    noView
    target
    current
    resolvedSets := by
      show db.resolveSets { t₀ with rows } [Resolve.tableLevel { t₀ with rows } t₀.name] [] sets = _
      rw [level, show db.resolveSets { t₀ with rows } = db.resolveSets t₀ from rfl,
        Database.resolveSets_schema same, checked.resolvedSets]
    targets := checked.targets
    resolvedFilter := by
      show Resolve.resolveIn db [Resolve.tableLevel { t₀ with rows } t₀.name] [] [f] = _
      rw [level, Resolve.resolveIn_schema same, checked.resolvedFilter]
    keepsRowid := checked.keepsRowid
    noTriggers
    noGenerated := by
      rw [Database.generators_rows, Database.generators_schema same, checked.noGenerated]
    changed := by
      rw [Table.changedWith_rows]
      exact checked.changed
    hasRowid := checked.hasRowid
    noUnique
    checksSelected := by
      rw [firsts]
      rfl
    resolvedChecks := by
      show Resolve.resolveOver db (some (Resolve.tableLevel { t₀ with rows } t₀.name)) [] _ = _
      have exprs : (((t₀.checksOn plan.columns).zip (plan.checks.zip (plan.checkTypings db₀ t₀))).map
          fun x => x.1.e) = (t₀.checksOn plan.columns).map (·.e) := by
        conv_rhs => rw [← firsts]
        rw [List.map_map]
        rfl
      have terms : (((t₀.checksOn plan.columns).zip (plan.checks.zip (plan.checkTypings db₀ t₀))).map
          fun c => (c.2.1.toTerm, c.2.2)) =
          (plan.checks.zip (plan.checkTypings db₀ t₀)).map fun x => (x.1.toTerm, x.2) := by
        conv_rhs => rw [← seconds]
        rw [List.map_map]
        rfl
      rw [level, Resolve.resolveOver_schema same, exprs, terms, checked.resolvedChecks]
    shallowFilter := checked.shallowFilter
    shallowWrites := checked.shallowWrites
    shallowChecks := by
      intro c hc
      exact checked.shallowChecks _ (List.of_mem_zip (List.of_mem_zip hc).2).1 }

end UpdatePlan

/-! ## Plans of INSERT -/

/-- The table, columns, query and RETURNING list of a text that is one INSERT
with positional parameters, with a column list, a query and RETURNING and
nothing else. -/
def insertParts (text : String) :
    Option (Parser.Parsed × String × List String × Query × List ResultColumn) :=
  match (Parser.Source.ofBytes (bytesOf text)).single? with
  | some p =>
    match p.statement with
    | .insert none none name none (some columns) (.query q) [] returning => some (p, name, columns, q, returning)
    | _ => none
  | none => none

theorem insertParts_spec {text : String} {p : Parser.Parsed} {name : String} {columns : List String} {q : Query}
    {returning : List ResultColumn} (h : insertParts text = some (p, name, columns, q, returning)) :
    (Parser.Source.ofBytes (bytesOf text)).single? = some p ∧
      p.statement = .insert none none name none (some columns) (.query q) [] returning := by
  unfold insertParts at h
  split at h
  · rename_i r hr
    split at h
    · cases h
      rename_i hs
      exact ⟨hr, hs⟩
    · cases h
  · cases h

/-- The pure terms an INSERT is to resolve to: the columns its values go to,
the VALUES row, the RETURNING list, and the CHECK constraints of the table. -/
structure InsertPlan where
  targets : List Nat
  values : PureTerms
  returns : PureTerms
  checks : List PureTerm

namespace InsertPlan

variable (plan : InsertPlan)

/-- The query of the VALUES row, resolved. -/
def resolvedOf (db : Database) (q : Query) : Resolve.Resolved :=
  match Resolve.resolveQueryIn db [] none q with
  | .ok r => r
  | .error _ => default

/-- The names of the RETURNING columns. -/
def namesOf (db : Database) (t : Table) (returning : List ResultColumn) : List String :=
  match Resolve.resolveReturning db (Resolve.tableLevel t t.name) returning with
  | .ok (names, _) => names
  | .error _ => []

/-- The typings the CHECK constraints of a table resolve with. -/
def checkTypings (db : Database) (t : Table) : List Resolve.Typing :=
  typingsOf (Resolve.resolveOver db (some (Resolve.tableLevel t t.name)) [] (t.checks.map (·.e)))

/-- Whether an INSERT into the table `t` on the database `db` resolves to the
plan, and nothing makes it more than the storing of one row: what
`PlainInsert` asks, but for views, triggers and indexes. -/
def fits (db : Database) (t : Table) (columns : List String) (q : Query) (returning : List ResultColumn) : Bool :=
  (match Database.insertTargets t (some columns) with
    | .ok targets => targets == plan.targets.map some
    | .error _ => false) &&
  !Database.unevenValues q &&
  (match Resolve.resolveQueryIn db [] none q with
    | .ok r =>
      (match r.plan with
        | .values [row] => plan.values.matches row
        | _ => false) && r.columns.size == columns.length
    | .error _ => false) &&
  plan.targets.length == plan.values.toTerms.length &&
  (match db.generators t with
    | .ok [] => true
    | _ => false) &&
  !returning.isEmpty &&
  (match Resolve.resolveReturning db (Resolve.tableLevel t t.name) returning with
    | .ok (_, terms) => plan.returns.matches terms
    | .error _ => false) &&
  !plan.returns.toTerms.isEmpty &&
  !t.withoutRowid && !t.strict && t.autoincrement && t.rowidColumn == some 0 && !plan.targets.contains 0 &&
  decide (0 < t.columns.size) &&
  (List.range t.columns.size).all (fun j => plan.targets.contains j || (t.columns[j]!).default.isNone) &&
  t.checks.length == plan.checks.length &&
  resolvesTo (Resolve.resolveOver db (some (Resolve.tableLevel t t.name)) [] (t.checks.map (·.e))) plan.checks &&
  decide (plan.values.depth < 99999) && decide (plan.returns.depth < 100000) &&
  plan.checks.all (fun c => decide (c.depth < 100000))

/-- What `fits` checks, as facts. -/
structure Fits (db : Database) (t : Table) (columns : List String) (q : Query) (returning : List ResultColumn) :
    Prop where
  inserting : Database.insertTargets t (some columns) = .ok (plan.targets.map some)
  even : Database.unevenValues q = false
  resolvedRow : Resolve.resolveQueryIn db [] none q = .ok (resolvedOf db q)
  rowPlan : (resolvedOf db q).plan = .values [plan.values.toTerms]
  width : (resolvedOf db q).columns.size = columns.length
  arity : plan.targets.length = plan.values.toTerms.length
  noGenerated : db.generators t = .ok []
  returningGiven : returning.isEmpty = false
  resolvedReturning : Resolve.resolveReturning db (Resolve.tableLevel t t.name) returning =
    .ok (namesOf db t returning, plan.returns.toTerms)
  someReturns : plan.returns.toTerms.isEmpty = false
  hasRowid : t.withoutRowid = false
  notStrict : t.strict = false
  autoincrement : t.autoincrement = true
  rowidColumn : t.rowidColumn = some 0
  rowidUntargeted : 0 ∉ plan.targets
  someColumn : 0 < t.columns.size
  untargeted : ∀ j < t.columns.size, j ∉ plan.targets → (t.columns[j]!).default = none
  checksLength : t.checks.length = plan.checks.length
  resolvedChecks : Resolve.resolveOver db (some (Resolve.tableLevel t t.name)) [] (t.checks.map (·.e)) =
    .ok ((plan.checks.zip (checkTypings db t)).map fun x => (x.1.toTerm, x.2))
  typingsLength : (checkTypings db t).length = plan.checks.length
  shallowValues : plan.values.depth < 99999
  shallowReturns : plan.returns.depth < 100000
  shallowChecks : ∀ c ∈ plan.checks, c.depth < 100000

theorem fits_sound {db : Database} {t : Table} {columns : List String} {q : Query} {returning : List ResultColumn}
    (h : plan.fits db t columns q returning = true) : plan.Fits db t columns q returning := by
  simp only [fits, Bool.and_eq_true, beq_iff_eq, List.all_eq_true, decide_eq_true_eq, Bool.not_eq_true',
    List.contains_eq_mem, List.mem_range, Bool.or_eq_true, Option.isNone_iff_eq_none, and_assoc] at h
  obtain ⟨htargets, heven, hrow, harity, hgen, hret, hreturning, hsome, hrowid, hstrict, hauto, hcol, hzero, hpos,
    hdefaults, hlen, hchecks, hdv, hdr, hdc⟩ := h
  obtain ⟨hcheckRes, htys⟩ := resolvesTo_sound hchecks
  obtain ⟨r, hr, hplan, hwidth⟩ : ∃ r, Resolve.resolveQueryIn db [] none q = .ok r ∧
      r.plan = .values [plan.values.toTerms] ∧ r.columns.size = columns.length := by
    cases hq : Resolve.resolveQueryIn db [] none q with
    | error e => simp [hq] at hrow
    | ok r =>
      simp only [hq, Bool.and_eq_true, beq_iff_eq] at hrow
      obtain ⟨hvalues, hwidth⟩ := hrow
      refine ⟨r, rfl, ?_, hwidth⟩
      split at hvalues
      · rename_i row hrp
        rw [hrp, PureTerms.matches_sound _ _ hvalues]
      · cases hvalues
  have hres : resolvedOf db q = r := by simp [resolvedOf, hr]
  refine ⟨?_, heven, by rw [hres, hr], by rw [hres, hplan], by rw [hres, hwidth], harity, ?_, hret, ?_, hsome,
    hrowid, hstrict, hauto, hcol, by simpa using hzero, hpos, ?_, hlen, hcheckRes, htys, hdv, hdr, hdc⟩
  · split at htargets
    · rename_i ts hts
      rw [hts, beq_iff_eq.1 htargets]
    · cases htargets
  · split at hgen
    · assumption
    · cases hgen
  · unfold namesOf
    split at hreturning
    · rename_i names terms hrt
      rw [hrt, PureTerms.matches_sound _ _ hreturning]
    · cases hreturning
  · intro j hj hnot
    rcases hdefaults j hj with hin | hnone
    · exact absurd hin hnot
    · exact hnone

variable {plan} {db₀ : Database} {t₀ : Table} {columns : List String} {q : Query} {returning : List ResultColumn}

/-- A plan that fits an INSERT on one database fits it on every database of
the same schema, whatever the rows of the table, when that database has no
view of the name and no trigger or unique index on the table. -/
def plain (checked : plan.Fits db₀ t₀ columns q returning) {db : Database} {name : String}
    (rows : Array StoredRow) (same : Resolve.schemaView db = Resolve.schemaView db₀)
    (noView : db.triggeredView name .insert = none)
    (target : db.targetIn {} name = .ok { t₀ with rows })
    (current : db.table? t₀.name = some { t₀ with rows })
    (noTriggers : db.hasTriggers t₀.name = false)
    (noUnique : (db.indexesOf t₀.name).filter (·.unique) = []) : PlainInsert db name columns q returning :=
  have level : Resolve.tableLevel { t₀ with rows } t₀.name = Resolve.tableLevel t₀ t₀.name := rfl
  have firsts : (t₀.checks.zip (plan.checks.zip (checkTypings db₀ t₀))).map (·.1) = t₀.checks := by
    rw [List.map_fst_zip]
    simp [checked.checksLength, checked.typingsLength]
  have seconds : (t₀.checks.zip (plan.checks.zip (checkTypings db₀ t₀))).map (·.2) =
      plan.checks.zip (checkTypings db₀ t₀) := by
    rw [List.map_snd_zip]
    simp [checked.checksLength, checked.typingsLength]
  { table := { t₀ with rows }
    targets := plan.targets
    values := plan.values
    resolved := resolvedOf db₀ q
    retNames := namesOf db₀ t₀ returning
    returns := plan.returns
    checks := t₀.checks.zip (plan.checks.zip (checkTypings db₀ t₀))
    noView
    target
    current
    inserting := checked.inserting
    even := checked.even
    resolvedRow := by rw [Resolve.resolveQueryIn_schema same, checked.resolvedRow]
    plan := checked.rowPlan
    width := checked.width
    arity := checked.arity
    noGenerated := by rw [Database.generators_rows, Database.generators_schema same, checked.noGenerated]
    returningGiven := checked.returningGiven
    resolvedReturning := by
      show Resolve.resolveReturning db (Resolve.tableLevel { t₀ with rows } t₀.name) returning = _
      rw [level, Resolve.resolveReturning_schema same, checked.resolvedReturning]
    someReturns := checked.someReturns
    noTriggers
    hasRowid := checked.hasRowid
    notStrict := checked.notStrict
    autoincrement := checked.autoincrement
    rowidColumn := checked.rowidColumn
    rowidUntargeted := checked.rowidUntargeted
    someColumn := checked.someColumn
    untargeted := checked.untargeted
    noUnique
    allChecks := firsts.symm
    resolvedChecks := by
      have exprs : ((t₀.checks.zip (plan.checks.zip (checkTypings db₀ t₀))).map fun x => x.1.e) =
          t₀.checks.map (·.e) := by
        conv_rhs => rw [← firsts]
        rw [List.map_map]
        rfl
      have terms : ((t₀.checks.zip (plan.checks.zip (checkTypings db₀ t₀))).map fun c => (c.2.1.toTerm, c.2.2)) =
          (plan.checks.zip (checkTypings db₀ t₀)).map fun x => (x.1.toTerm, x.2) := by
        conv_rhs => rw [← seconds]
        rw [List.map_map]
        rfl
      show Resolve.resolveOver db (some (Resolve.tableLevel { t₀ with rows } t₀.name)) [] _ = _
      rw [level, Resolve.resolveOver_schema same, exprs, terms, checked.resolvedChecks]
    shallowValues := checked.shallowValues
    shallowReturns := checked.shallowReturns
    shallowChecks := by
      intro c hc
      exact checked.shallowChecks _ (List.of_mem_zip (List.of_mem_zip hc).2).1 }

end InsertPlan

end ReportExport.Sql
