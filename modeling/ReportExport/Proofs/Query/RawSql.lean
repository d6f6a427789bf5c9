import Mathlib
import ReportExport.Filter.Collection
import ReportExport.Proofs.Query.Placeholders

/-!
# Raw SQL: bindings written in place of their placeholders

A compiled query is shown with its bindings written in as literals. SQL reads
a `?` as a parameter token only outside quoted runs: inside a double-quoted
identifier or a single-quoted text it is a character of the run.
`Sql.fillPlaceholders` writes each binding's literal in place of the character
the SQL reader (`Sql.LexMode`) takes for a parameter token, in order, and keeps
everything else.

`Sql.interpolate`, which raw SQL is written with, tracks apostrophes alone.
The two agree on text in which no identifier holds an apostrophe or a `?`
(`interpolateChars_eq_fillParams`), and a memory query's text is such text
when its name has no quote and its columns hold neither character
(`settled_compiled_sql`). So the raw SQL of a compiled memory query puts
every binding at its own placeholder (`rawSql_fills_placeholders`). A column
named with a `?` shows that the condition is needed: the first binding lands
inside the identifier and the placeholder stays (`rawSql_binds_inside_identifier`).
-/

namespace ReportExport

namespace Sql

/-! ## Which quoted run the reader is in -/

/-- The quoted run the reader is in after a character, from outside any run or
inside one: outside, a quote opens a run of its kind; inside, only the run's
own quote ends it (a doubled quote ends it and opens it again). -/
def quoteAfter : Option Quote → Char → Option Quote
  | none, c => if c = '"' then some .double else if c = '\'' then some .single else none
  | some q, c => if c = q.char then none else some q

/-- The quoted run a lexer mode is inside, if any. -/
def LexMode.quote? : LexMode → Option Quote
  | .quoted q _ => some q
  | _ => none

theorem quote?_startWith (c : Char) : (startWith c).2.quote? = quoteAfter none c := by
  by_cases blank : c.isWhitespace = true
  · have quoteless : c ≠ '"' ∧ c ≠ '\'' :=
      ⟨by rintro rfl; exact absurd blank (by decide), by rintro rfl; exact absurd blank (by decide)⟩
    simp [startWith, blank, quoteAfter, quoteless.1, quoteless.2, LexMode.quote?]
  · unfold startWith quoteAfter
    split_ifs <;> simp_all [LexMode.quote?]

theorem param_mem_startWith (c : Char) : Lexeme.param ∈ (startWith c).1 ↔ c = '?' := by
  by_cases blank : c.isWhitespace = true
  · have unmarked : c ≠ '?' := by rintro rfl; exact absurd blank (by decide)
    simp [startWith, blank, unmarked]
  · unfold startWith
    split_ifs <;> simp_all [markLexeme, isMark]

/-- A character inside a word is no quote and no `?`. -/
theorem not_endsWord {c : Char} (inside : ¬ endsWord c = true) : c ≠ '"' ∧ c ≠ '\'' ∧ c ≠ '?' :=
  ⟨fun same => inside (by simp [endsWord, same]), fun same => inside (by simp [endsWord, same]),
    fun same => inside (by simp [endsWord, isMark, same])⟩

/-- The reader's quoted run after a character follows `quoteAfter`. -/
theorem quote?_feed (m : LexMode) (c : Char) : (m.feed c).2.quote? = quoteAfter m.quote? c := by
  cases m with
  | blank => exact quote?_startWith c
  | word acc =>
    by_cases ends : endsWord c = true
    · simp only [LexMode.feed, ends, ite_true]
      exact quote?_startWith c
    · obtain ⟨notDouble, notSingle, -⟩ := not_endsWord ends
      simp [LexMode.feed, ends, LexMode.quote?, quoteAfter, notDouble, notSingle]
  | quoted q body =>
    by_cases closes : c = q.char <;> simp [LexMode.feed, closes, LexMode.quote?, quoteAfter]
  | closing q body =>
    by_cases again : c = q.char
    · subst again
      cases q <;> simp [LexMode.feed, LexMode.quote?, quoteAfter, Quote.char]
    · simp only [LexMode.feed, again, ite_false]
      exact quote?_startWith c

/-- A character is a parameter token exactly when it is a `?` outside every
quoted run. -/
theorem param_mem_feed_iff (m : LexMode) (c : Char) :
    Lexeme.param ∈ (m.feed c).1 ↔ c = '?' ∧ m.quote? = none := by
  cases m with
  | blank => simpa [LexMode.feed, LexMode.quote?] using param_mem_startWith c
  | word acc =>
    by_cases ends : endsWord c = true
    · simpa [LexMode.feed, ends, LexMode.quote?] using param_mem_startWith c
    · simp [LexMode.feed, ends, (not_endsWord ends).2.2]
  | quoted q body =>
    by_cases closes : c = q.char <;> simp [LexMode.feed, closes, LexMode.quote?]
  | closing q body =>
    by_cases again : c = q.char
    · subst again
      cases q <;> simp [LexMode.feed, LexMode.quote?, Quote.char]
    · have named : Lexeme.param ≠ q.lexeme body := by cases q <;> simp [Quote.lexeme]
      simp [LexMode.feed, again, LexMode.quote?, named, param_mem_startWith]

/-! ## Writing bindings in place of the parameter tokens -/

/-- The text with the literal of each binding, in order, in place of each
character the SQL reader takes for a parameter token; a parameter beyond the
bindings stays. -/
def fillParams : List Json → LexMode → List Char → List Char
  | _, _, [] => []
  | bindings, m, c :: cs =>
    if Lexeme.param ∈ (m.feed c).1 then
      match bindings with
      | b :: bs => (literal b).toList ++ fillParams bs (m.feed c).2 cs
      | [] => c :: fillParams [] (m.feed c).2 cs
    else c :: fillParams bindings (m.feed c).2 cs

/-- SQL text with its bindings written in place of its parameter tokens. -/
def fillPlaceholders (sql : String) (bindings : List Json) : String :=
  String.ofList (fillParams bindings .blank sql.toList)

/-- Whether no double-quoted identifier of a text, read from the given quoted
run, holds an apostrophe or a `?`. -/
def identsPlain : Option Quote → List Char → Bool
  | _, [] => true
  | some .double, c :: cs => c != '\'' && c != '?' && identsPlain (quoteAfter (some .double) c) cs
  | some .single, c :: cs => identsPlain (quoteAfter (some .single) c) cs
  | none, c :: cs => identsPlain (quoteAfter none c) cs

/-- What `identsPlain` asks of one character, and of the text after it. -/
theorem identsPlain_cons_iff {q : Option Quote} {c : Char} {cs : List Char} :
    identsPlain q (c :: cs) = true ↔
      (q = some .double → c ≠ '\'' ∧ c ≠ '?') ∧ identsPlain (quoteAfter q c) cs = true := by
  rcases q with _ | _ | _ <;> simp [identsPlain, and_assoc]

/-- Outside identifiers, the apostrophe tracker follows the reader: after a
character it is quoted exactly when the reader is inside a text, an apostrophe
flipping it and every other character leaving it. -/
theorem decide_quoteAfter {q : Option Quote} {c : Char} (plain : q = some .double → c ≠ '\'') :
    decide (quoteAfter q c = some .single) =
      if c = '\'' then !decide (q = some .single) else decide (q = some .single) := by
  cases q with
  | none => by_cases apostrophe : c = '\'' <;> by_cases double : c = '"' <;> simp_all [quoteAfter]
  | some q =>
    cases q with
    | double => by_cases closes : c = '"' <;> simp_all [quoteAfter, Quote.char]
    | single => by_cases closes : c = '\'' <;> simp_all [quoteAfter, Quote.char]

/-- Where no identifier holds an apostrophe or a `?`, tracking apostrophes
alone reads the text as SQL does: the substitution is in its quoted state
exactly inside single-quoted texts. -/
theorem interpolateChars_eq_fillParams : ∀ (cs : List Char) (bindings : List Json) (m : LexMode),
    identsPlain m.quote? cs = true →
      interpolateChars bindings (decide (m.quote? = some .single)) cs = fillParams bindings m cs
  | [], _, _, _ => rfl
  | c :: cs, bindings, m, plain => by
    obtain ⟨first, later⟩ := identsPlain_cons_iff.1 plain
    rw [← quote?_feed] at later
    have state := decide_quoteAfter fun double => (first double).1
    rw [← quote?_feed] at state
    simp only [interpolateChars, fillParams, param_mem_feed_iff]
    by_cases apostrophe : c = '\''
    · -- an apostrophe flips the tracker and is no parameter
      subst apostrophe
      simp only [ite_true] at state
      simp [← state, interpolateChars_eq_fillParams cs bindings _ later]
    · rw [if_neg apostrophe] at state
      by_cases mark : c = '?'
      · -- a `?` is never inside an identifier, so it is a parameter exactly
        -- where the tracker is unquoted
        subst mark
        have outside : m.quote? = none ↔ decide (m.quote? = some .single) = false := by
          rcases q : m.quote? with _ | _ | _
          · simp
          · exact absurd rfl (first q).2
          · simp
        cases bindings <;> simp [outside, ← state, interpolateChars_eq_fillParams cs _ _ later]
      · simp [apostrophe, mark, ← state, interpolateChars_eq_fillParams cs bindings _ later]

/-! ## Texts read from outside back to outside -/

/-- A text read from outside every quoted run that ends outside them and puts
no apostrophe or `?` inside an identifier. -/
def Settled (t : List Char) : Prop :=
  identsPlain none t = true ∧ t.foldl quoteAfter none = none

theorem identsPlain_append (a b : List Char) :
    ∀ q, identsPlain q (a ++ b) = (identsPlain q a && identsPlain (a.foldl quoteAfter q) b) := by
  induction a with
  | nil => intro q; cases q <;> simp [identsPlain]
  | cons c a ih =>
    intro q
    rcases q with _ | _ | _ <;> simp [identsPlain, ih, Bool.and_assoc]

theorem Settled.append {a b : List Char} (left : Settled a) (right : Settled b) : Settled (a ++ b) := by
  refine ⟨?_, ?_⟩
  · rw [identsPlain_append, left.1, left.2, right.1]
    rfl
  · rw [List.foldl_append, left.2, right.2]

theorem settled_nil : Settled [] := ⟨rfl, rfl⟩

/-- Text without quotes stays outside every quoted run. -/
theorem settled_of_unquoted {t : List Char} (unquoted : ∀ c ∈ t, c ≠ '"' ∧ c ≠ '\'') : Settled t := by
  induction t with
  | nil => exact settled_nil
  | cons c t ih =>
    have outside : quoteAfter none c = none := by
      have := unquoted c List.mem_cons_self
      simp [quoteAfter, this.1, this.2]
    have rest := ih fun d mem => unquoted d (List.mem_cons_of_mem c mem)
    exact ⟨by rw [identsPlain, outside]; exact rest.1, by rw [List.foldl_cons, outside]; exact rest.2⟩

/-- Inside an identifier, a name with no apostrophe and no `?`, its quotes
doubled, leaves the reader inside the identifier with nothing to report. -/
theorem identsPlain_doubled {name : List Char} (noApostrophe : '\'' ∉ name) (noMark : '?' ∉ name) (rest : List Char) :
    identsPlain (some .double) (Quote.double.doubled name ++ rest) = identsPlain (some .double) rest ∧
      (Quote.double.doubled name).foldl quoteAfter (some .double) = some .double := by
  induction name with
  | nil => exact ⟨rfl, rfl⟩
  | cons c name ih =>
    have fresh : c ≠ '\'' ∧ c ≠ '?' := ⟨fun same => noApostrophe (same ▸ List.mem_cons_self),
      fun same => noMark (same ▸ List.mem_cons_self)⟩
    obtain ⟨plain, back⟩ := ih (fun mem => noApostrophe (List.mem_cons_of_mem c mem))
      (fun mem => noMark (List.mem_cons_of_mem c mem))
    by_cases quote : c = '"'
    · subst quote
      simp [identsPlain, quoteAfter, Quote.char, plain, back]
    · have stays : quoteAfter (some .double) c = some .double := by simp [quoteAfter, Quote.char, quote]
      simp [identsPlain, Quote.char, quote, fresh.1, fresh.2, stays, plain, back]

/-- A quoted identifier whose name has no apostrophe and no `?` is settled. -/
theorem settled_quoteIdentifier {name : String} (noApostrophe : '\'' ∉ name.toList) (noMark : '?' ∉ name.toList) :
    Settled (quoteIdentifier name).toList := by
  obtain ⟨plain, back⟩ := identsPlain_doubled noApostrophe noMark [Quote.double.char]
  rw [toList_quoteIdentifier]
  refine ⟨?_, ?_⟩
  · simp only [identsPlain, Quote.char, quoteAfter, if_pos] at plain ⊢
    rw [plain]
    rfl
  · rw [List.foldl_cons, List.foldl_append]
    simp only [quoteAfter, Quote.char, if_pos] at back ⊢
    rw [back]
    rfl

end Sql

namespace Query

open Sql

/-- A column that raw SQL can show: its name holds neither an apostrophe nor a `?`. -/
def PlainColumn (column : String) : Prop := '\'' ∉ column.toList ∧ '?' ∉ column.toList

/-- The fragment of a predicate on a plain column is settled. -/
theorem settled_sql {p : Predicate} (plain : PlainColumn p.column) : Settled p.sql.toList := by
  have ident := settled_quoteIdentifier plain.1 plain.2
  have unquoted : ∀ s : String, (∀ c ∈ s.toList, c ≠ '"' ∧ c ≠ '\'') → Settled s.toList :=
    fun _ h => settled_of_unquoted h
  cases p with
  | compare c op v =>
    have word : ∀ c ∈ op.sql.toList, c ≠ '"' ∧ c ≠ '\'' := by cases op <;> simp [CompareOp.sql]
    simp only [Predicate.sql, String.toList_append]
    exact ((ident.append (unquoted " " (by simp))).append (unquoted _ word)).append (unquoted " ?" (by simp))
  | like c n a negated =>
    have escape : Settled " ? ESCAPE '\\'".toList := by unfold Settled; decide
    simp only [Predicate.sql, String.toList_append]
    cases negated <;> exact (ident.append (unquoted _ (by simp))).append escape
  | member c vs negated =>
    cases vs with
    | nil => cases negated <;> exact unquoted _ (by simp [Predicate.sql])
    | cons v vs =>
      have marks : Settled (", ".intercalate ((v :: vs).map fun _ => "?")).toList := by
        rw [Predicate.toList_marks]
        refine settled_of_unquoted fun ch mem => ?_
        simp only [List.mem_cons, List.mem_flatMap, List.not_mem_nil, or_false] at mem
        rcases mem with rfl | ⟨_, -, rfl | rfl | rfl⟩ <;> decide
      simp only [Predicate.sql, List.isEmpty_cons, Bool.false_eq_true, ite_false, String.toList_append]
      cases negated <;> exact ((ident.append (unquoted _ (by simp))).append marks).append (unquoted _ (by simp))
  | between c lo hi =>
    simp only [Predicate.sql, String.toList_append]
    exact ident.append (unquoted _ (by simp))
  | null c negated =>
    simp only [Predicate.sql, String.toList_append]
    cases negated <;> exact ident.append (unquoted _ (by simp))

/-- A WHERE clause of predicates on plain columns is settled. -/
theorem settled_where {ps : List Predicate} (plain : ∀ p ∈ ps, PlainColumn p.column) :
    Settled (whereClause ps).1.toList := by
  induction ps with
  | nil => exact settled_nil
  | cons p ps ih =>
    have first := settled_sql (plain p List.mem_cons_self)
    have rest := ih fun p' mem => plain p' (List.mem_cons_of_mem p mem)
    cases ps with
    | nil => simpa [whereClause] using first
    | cons p' ps =>
      simp only [whereClause] at rest ⊢
      rw [toList_where_cons_cons]
      exact first.append ((settled_of_unquoted (by simp)).append rest)

/-- The text of a memory query whose name has no quote and whose columns are
plain is settled. -/
theorem settled_compiled_sql {q : MemoryQuery} (unquoted : ∀ c ∈ q.name.toList, c ≠ '"' ∧ c ≠ '\'')
    (plain : ∀ p ∈ q.predicates, PlainColumn p.column) : Settled q.compiled.sql.toList := by
  have select : Settled ("SELECT * FROM " ++ q.name).toList := by
    rw [String.toList_append]
    exact (settled_of_unquoted (by simp)).append (settled_of_unquoted unquoted)
  by_cases empty : q.predicates = []
  · simp only [MemoryQuery.compiled, empty, List.isEmpty_nil, ite_true]
    exact select
  · rw [MemoryQuery.sql_compiled q empty, String.toList_append, String.toList_append]
    exact (select.append (settled_of_unquoted (by simp))).append (settled_where plain)

/-- The raw SQL of a memory query whose name has no quote and whose columns are
plain writes each binding in place of its own placeholder. -/
theorem rawSql_eq_fillPlaceholders {q : MemoryQuery} (unquoted : ∀ c ∈ q.name.toList, c ≠ '"' ∧ c ≠ '\'')
    (plain : ∀ p ∈ q.predicates, PlainColumn p.column) :
    q.compiled.rawSql = fillPlaceholders q.compiled.sql q.compiled.bindings := by
  rw [CompiledQuery.rawSql, interpolate, fillPlaceholders,
    ← interpolateChars_eq_fillParams _ _ .blank (settled_compiled_sql unquoted plain).1]
  rfl

/-! ## Compiling a collection -/

/-- A compiled predicate tests its filter's column. -/
theorem column_ofFilter {f : Filter} {p : Predicate} (made : Predicate.ofFilter f = .ok p) :
    p.column = f.column := by
  -- every branch builds its predicate on the filter's column
  have mapped : ∀ {α : Type} (x : Except CompileError α) (g : α → Predicate), (∀ a, (g a).column = f.column) →
      x.map g = .ok p → p.column = f.column := by
    intro α x g same built
    cases x with
    | error => cases built
    | ok a => cases built; exact same a
  cases comparator : f.comparator <;> simp only [Predicate.ofFilter, comparator] at made
  case equals | notEquals | gt | gte | lt | lte => exact mapped _ _ (fun _ => rfl) made
  case contains | notContains | startsWith | endsWith => exact mapped _ _ (fun _ => rfl) made
  case isIn | notIn | between =>
    split at made
    · cases made
      rfl
    · simp [invalidFor] at made
  case isNull | isNotNull =>
    cases made
    rfl

/-- Compiling filters onto a memory query keeps its name, and every predicate
after it is one the query had or tests the column of one of the filters. -/
theorem applyAll_columns {filters : List Filter} :
    ∀ {q q' : MemoryQuery}, applyAll MemoryQuery.apply q filters = .ok q' →
      q'.name = q.name ∧ ∀ p ∈ q'.predicates, p ∈ q.predicates ∨ ∃ f ∈ filters, p.column = f.column := by
  induction filters with
  | nil =>
    intro q q' compiled
    cases compiled
    exact ⟨rfl, fun p mem => .inl mem⟩
  | cons f fs ih =>
    intro q q' compiled
    simp only [applyAll, List.foldlM_cons, bind, Except.bind] at compiled
    split at compiled
    · cases compiled
    · next s stepped =>
      obtain ⟨named, kept⟩ := ih compiled
      split at stepped
      · cases stepped
      · next p made =>
        rw [MemoryQuery.apply_eq] at stepped
        split at stepped
        · cases stepped
          refine ⟨named, fun p' mem => ?_⟩
          rcases kept p' mem with old | ⟨f', inside, same⟩
          · rcases List.mem_append.1 old with older | added
            · exact .inl older
            · rw [List.mem_singleton] at added
              subst added
              exact .inr ⟨f, List.mem_cons_self, column_ofFilter made⟩
          · exact .inr ⟨f', List.mem_cons_of_mem f inside, same⟩
        · cases stepped

/-- Compiling a filter collection onto a memory query whose name has no quote,
where no column of the query or the collection holds an apostrophe or a `?`:
the raw SQL is the compiled text with each binding's literal in place of its
own parameter token, in order, and nothing else changed. -/
theorem rawSql_fills_placeholders {q q' : MemoryQuery} {c : FilterCollection}
    (unquoted : ∀ ch ∈ q.name.toList, ch ≠ '"' ∧ ch ≠ '\'')
    (plainQuery : ∀ p ∈ q.predicates, PlainColumn p.column) (plainFilters : ∀ f ∈ c.filters, PlainColumn f.column)
    (compiled : applyAll MemoryQuery.apply q c.filters = .ok q') :
    q'.compiled.rawSql = fillPlaceholders q'.compiled.sql q'.compiled.bindings := by
  obtain ⟨named, kept⟩ := applyAll_columns compiled
  refine rawSql_eq_fillPlaceholders (by rw [named]; exact unquoted) fun p mem => ?_
  rcases kept p mem with old | ⟨f, inside, same⟩
  · exact plainQuery p old
  · rw [same]
    exact plainFilters f inside

/-- A value with an apostrophe and a pattern with a `?`, compiled onto a plain
memory query: the raw SQL writes each binding in place of its own parameter. -/
theorem raw_sql_of_quoted_values :
    applyAll MemoryQuery.apply ⟨"users", [], none, []⟩
        ({ filters := [⟨"status", .equals, some (.str "it's")⟩, ⟨"tag", .contains, some (.str "a?b")⟩] } :
          FilterCollection).filters =
      .ok ⟨"users", [], none, [.compare "status" .eq (.str "it's"), .like "tag" "a?b" .contains false]⟩ ∧
    (⟨"users", [], none, [.compare "status" .eq (.str "it's"), .like "tag" "a?b" .contains false]⟩ :
        MemoryQuery).compiled.rawSql =
      fillPlaceholders
        (⟨"users", [], none, [.compare "status" .eq (.str "it's"), .like "tag" "a?b" .contains false]⟩ :
          MemoryQuery).compiled.sql
        (⟨"users", [], none, [.compare "status" .eq (.str "it's"), .like "tag" "a?b" .contains false]⟩ :
          MemoryQuery).compiled.bindings :=
  ⟨rfl, rawSql_fills_placeholders (q := ⟨"users", [], none, []⟩)
    (c := { filters := [⟨"status", .equals, some (.str "it's")⟩, ⟨"tag", .contains, some (.str "a?b")⟩] })
    (by simp) (by simp) (by simp [PlainColumn]) rfl⟩

/-- A column named with a `?`: the raw SQL writes the binding inside the
identifier and leaves the parameter token, where SQL's reading puts it in
place of the token. -/
theorem rawSql_binds_inside_identifier :
    ∃ q', applyAll MemoryQuery.apply ⟨"rows", [], none, []⟩ [⟨"a?b", .equals, some (Json.nat 1)⟩] = .ok q' ∧
      q'.compiled.rawSql = "SELECT * FROM rows WHERE \"a1b\" = ?" ∧
      fillPlaceholders q'.compiled.sql q'.compiled.bindings = "SELECT * FROM rows WHERE \"a?b\" = 1" :=
  ⟨_, rfl, by decide +kernel, by decide +kernel⟩

end Query

end ReportExport
