import ReportExport.Filter.Collection

/-!
# Reading a collection from array entries

An entry of a filter array names a filter when it is an object whose `column`
and `operator` are non-empty strings (`Names`); every other entry is skipped.
Each entry that names a filter must make it from its parts, or the whole read
fails.

`Reads` and `FailsWith` say this entry by entry: an array reads as the filters
of the entries that name one, in order, when each of them makes its filter, and
fails with the error of the first that does not, whatever entries are skipped
around it. `ofArray_eq_ok_iff` and `ofArray_eq_error_iff` prove that reading
does exactly this: each relation is sound for the reader
(`Reads.filterMap_mapM`, `FailsWith.filterMap_mapM`), and every array is in one
of them (`reads_or_fails`). `decoding_skips_unusable_entries` adds the two
other entry points, JSON text and request parameters, which read an array
where they find one and give the empty collection otherwise.
-/

namespace ReportExport.FilterCollection

/-! ## Entries -/

/-- An array entry that names a filter: an object whose `column` and
`operator` are non-empty strings, read with its `value`, or `null` when it has
none. -/
inductive Names : Json → String → String → Json → Prop
  | intro {members : List (String × Json)} {column operator : String}
      (columnAt : Json.lookup "column" members = some (.str column))
      (operatorAt : Json.lookup "operator" members = some (.str operator))
      (column_ne : column ≠ "") (operator_ne : operator ≠ "") :
      Names (.obj members) column operator ((Json.lookup "value" members).getD .null)

/-- An entry that names no filter: not an object, or an object whose column or
operator is missing, not a string, or empty. -/
def Unusable (entry : Json) : Prop := ∀ column operator value, ¬ Names entry column operator value

variable {entry : Json} {column operator : String} {value : Json}

/-- An entry that names a filter gives the filter its parts make. -/
theorem entryFilter?_of_names (names : Names entry column operator value) :
    entryFilter? entry = some (Filter.ofParts column operator value) := by
  obtain ⟨columnAt, operatorAt, column_ne, operator_ne⟩ := names
  simp [entryFilter?, columnAt, operatorAt, column_ne, operator_ne]

/-- What an entry gives is the filter of the parts it names. -/
theorem names_of_entryFilter? {made : Except FilterError Filter} (given : entryFilter? entry = some made) :
    ∃ column operator value, Names entry column operator value ∧ made = Filter.ofParts column operator value := by
  unfold entryFilter? at given
  split at given
  · next members =>
    split at given
    · next column operator columnAt operatorAt =>
      split at given
      · cases given
      · next nonEmpty =>
        simp only [Bool.or_eq_true, String.isEmpty_iff, not_or] at nonEmpty
        exact ⟨column, operator, _, .intro columnAt operatorAt nonEmpty.1 nonEmpty.2, (Option.some.inj given).symm⟩
    · cases given
  · cases given

/-- An entry gives nothing exactly when it names no filter. -/
theorem entryFilter?_eq_none_iff : entryFilter? entry = none ↔ Unusable entry := by
  constructor
  · intro none column operator value names
    rw [entryFilter?_of_names names] at none
    cases none
  · intro unusable
    cases given : entryFilter? entry with
    | none => rfl
    | some made =>
      obtain ⟨column, operator, value, names, -⟩ := names_of_entryFilter? given
      exact absurd names (unusable column operator value)

/-! ## Reading entries -/

/-- Entries read as these filters: every entry that names no filter is
skipped, and every other one makes its filter, in order. -/
inductive Reads : List Json → List Filter → Prop
  | nil : Reads [] []
  | skip {entry : Json} {entries : List Json} {filters : List Filter}
      (unusable : Unusable entry) (rest : Reads entries filters) : Reads (entry :: entries) filters
  | take {entry : Json} {entries : List Json} {column operator : String} {value : Json} {filter : Filter}
      {filters : List Filter} (names : Names entry column operator value)
      (made : Filter.ofParts column operator value = .ok filter) (rest : Reads entries filters) :
      Reads (entry :: entries) (filter :: filters)

/-- Reading entries fails with this error: it is the error of the first entry
that names a filter its parts cannot make; every entry before it is skipped or
makes its filter. -/
inductive FailsWith : List Json → FilterError → Prop
  | skip {entry : Json} {entries : List Json} {error : FilterError}
      (unusable : Unusable entry) (rest : FailsWith entries error) : FailsWith (entry :: entries) error
  | pass {entry : Json} {entries : List Json} {column operator : String} {value : Json} {filter : Filter}
      {error : FilterError} (names : Names entry column operator value)
      (made : Filter.ofParts column operator value = .ok filter) (rest : FailsWith entries error) :
      FailsWith (entry :: entries) error
  | here {entry : Json} {entries : List Json} {column operator : String} {value : Json} {error : FilterError}
      (names : Names entry column operator value) (refused : Filter.ofParts column operator value = .error error) :
      FailsWith (entry :: entries) error

/-- The reader gives the filters the entries read as. -/
theorem Reads.filterMap_mapM {entries : List Json} {filters : List Filter} (reads : Reads entries filters) :
    (entries.filterMap entryFilter?).mapM id = .ok filters := by
  induction reads with
  | nil => rfl
  | skip unusable _ ih => rw [List.filterMap_cons_none (entryFilter?_eq_none_iff.2 unusable), ih]
  | take names made _ ih =>
    rw [List.filterMap_cons_some (entryFilter?_of_names names), List.mapM_cons, id, made, ih]
    rfl

/-- The reader fails with the error the entries fail with. -/
theorem FailsWith.filterMap_mapM {entries : List Json} {error : FilterError} (fails : FailsWith entries error) :
    (entries.filterMap entryFilter?).mapM id = .error error := by
  induction fails with
  | skip unusable _ ih => rw [List.filterMap_cons_none (entryFilter?_eq_none_iff.2 unusable), ih]
  | pass names made _ ih =>
    rw [List.filterMap_cons_some (entryFilter?_of_names names), List.mapM_cons, id, made]
    simp only [bind, Except.bind, ih]
  | here names refused =>
    rw [List.filterMap_cons_some (entryFilter?_of_names names), List.mapM_cons, id, refused]
    rfl

/-- Every array of entries either reads as filters or fails with an error. -/
theorem reads_or_fails : ∀ entries : List Json,
    (∃ filters, Reads entries filters) ∨ ∃ error, FailsWith entries error
  | [] => .inl ⟨[], .nil⟩
  | entry :: entries => by
    cases given : entryFilter? entry with
    | none =>
      have unusable := entryFilter?_eq_none_iff.1 given
      rcases reads_or_fails entries with ⟨filters, reads⟩ | ⟨error, fails⟩
      · exact .inl ⟨filters, .skip unusable reads⟩
      · exact .inr ⟨error, .skip unusable fails⟩
    | some made =>
      obtain ⟨column, operator, value, names, -⟩ := names_of_entryFilter? given
      cases parts : Filter.ofParts column operator value with
      | error error => exact .inr ⟨error, .here names parts⟩
      | ok filter =>
        rcases reads_or_fails entries with ⟨filters, reads⟩ | ⟨error, fails⟩
        · exact .inl ⟨filter :: filters, .take names parts reads⟩
        · exact .inr ⟨error, .pass names parts fails⟩

/-- Reading an array succeeds exactly with the filters its entries read as,
under the group given. -/
theorem ofArray_eq_ok_iff {entries : List Json} {group : Option String} {filters : List Filter}
    {group' : Option String} :
    ofArray entries group = .ok ⟨filters, group'⟩ ↔ Reads entries filters ∧ group' = group := by
  constructor
  · intro read
    rcases reads_or_fails entries with ⟨found, reads⟩ | ⟨error, fails⟩
    · rw [ofArray, reads.filterMap_mapM] at read
      cases read
      exact ⟨reads, rfl⟩
    · rw [ofArray, fails.filterMap_mapM] at read
      cases read
  · rintro ⟨reads, rfl⟩
    rw [ofArray, reads.filterMap_mapM]
    rfl

/-- Entries without a column or an operator, with a null column, and a bare
string are skipped. -/
example :
    (ofArray [.obj [("column", .str "status"), ("operator", .str "equals"), ("value", .str "active")],
      .obj [("operator", .str "equals"), ("value", .str "x")], .obj [("column", .str "name"), ("value", .str "x")],
      .obj [("column", .null), ("operator", .str "equals"), ("value", .str "x")], .str "garbage",
      .obj [("column", .str "deleted_at"), ("operator", .str "is_null")]] none).map (·.filters.map Filter.column) =
      .ok ["status", "deleted_at"] := by
  rfl

/-- Reading an array fails exactly with the error its entries fail with. -/
theorem ofArray_eq_error_iff {entries : List Json} {group : Option String} {error : FilterError} :
    ofArray entries group = .error error ↔ FailsWith entries error := by
  constructor
  · intro read
    rcases reads_or_fails entries with ⟨found, reads⟩ | ⟨error', fails⟩
    · rw [ofArray, reads.filterMap_mapM] at read
      cases read
    · rw [ofArray, fails.filterMap_mapM] at read
      cases read
      exact fails
  · intro fails
    rw [ofArray, fails.filterMap_mapM]
    rfl

/-- The first entry that fails decides the error. -/
example :
    (ofArray [.str "garbage", .obj [("column", .str "status"), ("operator", .str "like"), ("value", .str "a")],
      .obj [("column", .str "age"), ("operator", .str "between"), ("value", .str "x")]] none).map
        (·.filters.length) =
      .error (.unknownOperator "like") := by
  rfl

/-! ## The three entry points -/

/-- Decoding a collection skips exactly the entries that name no filter. An
array reads as the filters of the other entries, in order and under the group
given, when each of them makes its filter, and otherwise fails with the error
of the first that does not. JSON text that is not an array, and request
parameters with no array under the group (or the default group), give the
empty collection; where there is an array, it is read. -/
theorem decoding_skips_unusable_entries :
    (∀ (entries : List Json) (group : Option String) (filters : List Filter) (group' : Option String),
      ofArray entries group = .ok ⟨filters, group'⟩ ↔ Reads entries filters ∧ group' = group) ∧
    (∀ (entries : List Json) (group : Option String) (error : FilterError),
      ofArray entries group = .error error ↔ FailsWith entries error) ∧
    (∀ (text : String) (group : Option String),
      (∀ entries, JsonText.read text ≠ .ok (.arr entries)) → ofJsonText text group = .ok ⟨[], group⟩) ∧
    (∀ (text : String) (group : Option String) (entries : List Json),
      JsonText.read text = .ok (.arr entries) → ofJsonText text group = ofArray entries group) ∧
    (∀ (params : List (String × Json)) (group : Option String) (s : FilterSettings) (entries : List Json),
      Json.lookup (group.getD s.defaultGroup) params = some (.arr entries) →
        ofParams params group s = ofArray entries group) ∧
    (∀ (params : List (String × Json)) (group : Option String) (s : FilterSettings),
      (∀ entries, Json.lookup (group.getD s.defaultGroup) params ≠ some (.arr entries)) →
        ofParams params group s = .ok ⟨[], group⟩) := by
  refine ⟨fun _ _ _ _ => ofArray_eq_ok_iff, fun _ _ _ => ofArray_eq_error_iff, ?text, ?array, ?found, ?missing⟩
  case text =>
    intro text group other
    unfold ofJsonText
    split
    · next entries read => exact absurd read (other entries)
    · rfl
  case array =>
    intro text group entries read
    rw [ofJsonText, read]
  case found =>
    intro params group s entries found
    rw [ofParams, found]
  case missing =>
    intro params group s other
    unfold ofParams
    split
    · next entries found => exact absurd found (other entries)
    · rfl

end ReportExport.FilterCollection
