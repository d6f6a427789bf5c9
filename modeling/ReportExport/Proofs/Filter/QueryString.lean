import Mathlib
import ReportExport.Proofs.QueryString.Leaves
import ReportExport.Proofs.Filter.Wire

/-!
# Filter collections through query strings

A collection's query string writes the wire object of each filter as
bracketed pairs, `filters[0][column]=status`, and reading it rebuilds the array
from the indexes. What comes back is not always what went in: every leaf is
read as text, a `null` list item writes nothing, and a list left with no items
writes nothing at all, which reading takes as the empty list.

`Filter.viaQuery` says what comes back, and `query_string_reads_back` proves
that reading the query string of any collection of filters gives exactly that,
in order and under the collection's group; a collection whose operands are all
strings or lists of strings comes back unchanged.
-/

namespace ReportExport

namespace QueryString

/-! ## Indexes -/

/-- Positions below `2 ^ 64` are read back from their decimal text. -/
theorem index?_natText {n : Nat} (small : n < 2 ^ 64) : index? (natText n) = some n := by
  obtain ⟨c, cs, first, digit⟩ := natText_cons n
  have plus : c ≠ '+' := fun same => absurd (same ▸ digit) (by decide)
  have digits : ∀ d ∈ c :: cs, d.isDigit = true := by
    rw [← first, natText, String.toList_ofList]
    exact fun d mem => Nat.isDigit_of_mem_toDigits (by decide) (by decide) mem
  -- the fold of the reader is the standard value of a digit list
  have value : (c :: cs).foldl (fun acc d => acc * 10 + (d.toNat - 48)) 0 = n := by
    rw [← first, natText, String.toList_ofList]
    conv => rhs; rw [← Nat.ofDigitChars_ten_toDigits (n := n)]
    rw [Nat.ofDigitChars]
    congr 1
    funext acc d
    rw [Nat.mul_comm]
    rfl
  unfold index?
  rw [first]
  split
  · next rest same => exact absurd (List.cons.inj same).1 plus
  · dsimp only
    rw [value, if_pos, if_pos (show n < Nat.pow 2 64 from small)]
    simpa using digits

/-- The present planted items, each with its position counted from `i`. -/
def indexed : Nat → List Json → List (Nat × Json)
  | _, [] => []
  | i, x :: xs => ((planted x).map (i, ·)).toList ++ indexed (i + 1) xs

theorem plantedItems_eq_indexed (i : Nat) (items : List Json) :
    plantedItems i items = (indexed i items).map fun q => (natText q.1, q.2) := by
  induction items generalizing i with
  | nil => rfl
  | cons x xs ih =>
    rw [plantedItems, indexed, List.map_append, ih (i + 1)]
    cases planted x <;> rfl

theorem indexed_bounds {i : Nat} {items : List Json} : ∀ q ∈ indexed i items, i ≤ q.1 ∧ q.1 < i + items.length := by
  induction items generalizing i with
  | nil => intro _ mem; cases mem
  | cons x xs ih =>
    intro q mem
    rw [indexed, List.mem_append] at mem
    rcases mem with here | later
    · cases h : planted x <;> simp [h] at here
      subst here
      simp
    · have := ih q later
      simp only [List.length_cons]
      omega

/-- Positions only grow along the present items. -/
theorem indexed_sorted (i : Nat) (items : List Json) : (indexed i items).Pairwise fun a b => a.1 < b.1 := by
  induction items generalizing i with
  | nil => exact List.Pairwise.nil
  | cons x xs ih =>
    rw [indexed, List.pairwise_append]
    refine ⟨by cases planted x <;> simp, ih (i + 1), fun a here b later => ?_⟩
    have first : a.1 = i := by cases h : planted x <;> simp [h] at here; rw [here]
    have := (indexed_bounds b later).1
    omega

theorem map_snd_indexed (i : Nat) (items : List Json) : (indexed i items).map Prod.snd = items.filterMap planted := by
  induction items generalizing i with
  | nil => rfl
  | cons x xs ih =>
    rw [indexed, List.map_append, ih (i + 1), List.filterMap_cons]
    cases planted x <;> rfl

/-! ## Normalizing -/

theorem normalizeMembers_eq_map (ms : List (String × Json)) :
    normalizeMembers ms = ms.map fun m => (m.1, normalize m.2) := by
  induction ms with
  | nil => rfl
  | cons m rest ih => rw [normalizeMembers, ih]; rfl

/-- A traversal that succeeds on every element gives the list of its results. -/
theorem mapM_map_eq_some {α β γ : Type} {f : β → Option γ} {h : α → β} {g : α → γ} :
    ∀ {l : List α}, (∀ x ∈ l, f (h x) = some (g x)) → (l.map h).mapM f = some (l.map g)
  | [], _ => rfl
  | x :: xs, each => by
    rw [List.map_cons, List.mapM_cons, each x List.mem_cons_self,
      mapM_map_eq_some fun y mem => each y (List.mem_cons_of_mem x mem)]
    rfl

/-- Members keyed by the text of increasing positions are read as the array of
their values. -/
theorem normalize_indexed {ps : List (Nat × Json)} (full : ps ≠ []) (sorted : ps.Pairwise fun a b => a.1 < b.1)
    (small : ∀ q ∈ ps, q.1 < 2 ^ 64) :
    normalize (.obj (ps.map fun q => (natText q.1, q.2))) = .arr (ps.map fun q => normalize q.2) := by
  -- sorting by position leaves positions that already increase in place
  have ordered : (ps.map fun q => (q.1, normalize q.2)).mergeSort (fun a b => decide (a.1 ≤ b.1)) =
      ps.map fun q => (q.1, normalize q.2) := by
    refine List.mergeSort_of_pairwise ?_
    rw [List.pairwise_map]
    exact sorted.imp fun less => decide_eq_true (Nat.le_of_lt less)
  obtain ⟨q, qs, rfl⟩ := List.exists_cons_of_ne_nil full
  rw [normalize, normalizeMembers_eq_map, List.map_map, mapM_map_eq_some (g := fun q => (q.1, normalize q.2)) ?each]
  case each =>
    intro p mem
    dsimp only [Function.comp]
    rw [index?_natText (small p mem)]
    rfl
  rw [List.map_cons]
  dsimp only
  rw [List.map_cons] at ordered
  rw [ordered, List.map_cons, List.map_map, List.map_cons]
  rfl

theorem plantedItems_ne_nil {items : List Json} (full : items.filterMap planted ≠ []) : plantedItems 0 items ≠ [] := by
  intro empty
  rw [plantedItems_eq_indexed, List.map_eq_nil_iff] at empty
  rw [← map_snd_indexed 0 items, empty, List.map_nil] at full
  exact full rfl

/-- An array whose items plant something reads back as the array of what they
plant, normalized, in order. -/
theorem normalize_plantedItems {items : List Json} (small : items.length ≤ 2 ^ 64)
    (full : items.filterMap planted ≠ []) :
    normalize (.obj (plantedItems 0 items)) = .arr ((items.filterMap planted).map normalize) := by
  have present : indexed 0 items ≠ [] := fun empty =>
    plantedItems_ne_nil full (by rw [plantedItems_eq_indexed, empty]; rfl)
  rw [plantedItems_eq_indexed, normalize_indexed present (indexed_sorted 0 items) fun q mem => by
      have := (indexed_bounds q mem).2; omega,
    ← map_snd_indexed 0 items, List.map_map]
  rfl

/-- An array whose items plant nothing plants nothing. -/
theorem planted_arr_eq_none {items : List Json} (empty : items.filterMap planted = []) :
    planted (.arr items) = none := by
  have none : plantedItems 0 items = [] := by
    rw [plantedItems_eq_indexed, List.map_eq_nil_iff, ← List.map_eq_nil_iff, map_snd_indexed, empty]
  rw [planted, objectOf, if_pos none]

/-- An array whose items plant something plants one object. -/
theorem planted_arr {items : List Json} (full : items.filterMap planted ≠ []) :
    planted (.arr items) = some (.obj (plantedItems 0 items)) := by
  rw [planted, objectOf, if_neg (plantedItems_ne_nil full)]

/-- A scalar plants its text. -/
theorem planted_of_isScalar {x : Json} (scalar : x.isScalar = true) : planted x = (leafText? x).map .str := by
  cases x with
  | arr _ => cases scalar
  | obj _ => cases scalar
  | _ => rfl

/-- A scalar other than `null` has a text. -/
theorem leafText?_of_present {x : Json} (scalar : x.isScalar = true) (present : x.isNull = false) :
    ∃ t, leafText? x = some t := by
  cases x with
  | null => cases present
  | arr _ => cases scalar
  | obj _ => cases scalar
  | _ => exact ⟨_, rfl⟩

/-- The items of a list of scalars plant their texts. -/
theorem filterMap_planted {items : List Json} (scalars : ∀ x ∈ items, x.isScalar = true) :
    (items.filterMap planted).map normalize = items.filterMap fun x => (leafText? x).map .str := by
  rw [List.filterMap_congr fun x mem => planted_of_isScalar (scalars x mem), List.map_filterMap]
  exact List.filterMap_congr fun x _ => by cases leafText? x <;> rfl

end QueryString

namespace Json

open QueryString

/-- What a value without nested containers reads back as from a query string:
a scalar becomes its text, `null` stays `null`, and a list keeps the texts of
its items that are not `null`. -/
def viaQuery : Json → Json
  | .arr items => .arr (items.filterMap fun x => (leafText? x).map .str)
  | j => ((leafText? j).map .str).getD .null

/-- A string, or a list of strings: what a query string carries unchanged. -/
def IsText : Json → Prop
  | .str _ => True
  | .arr items => ∀ x ∈ items, ∃ t, x = .str t
  | _ => False

theorem viaQuery_of_leafText? {x : Json} {t : String} (text : leafText? x = some t) : x.viaQuery = .str t := by
  cases x with
  | arr _ => cases text
  | _ => simp only [viaQuery, text, Option.map_some, Option.getD_some]

theorem viaQuery_of_isText {v : Json} (text : v.IsText) : v.viaQuery = v := by
  cases v with
  | str _ => rfl
  | arr items =>
    rw [viaQuery, List.filterMap_congr (g := some) fun x mem => ?_, List.filterMap_some]
    obtain ⟨t, rfl⟩ := text x mem
    rfl
  | _ => cases text

end Json

namespace Filter

open QueryString

/-- What a filter reads back as from a query string: its operand through
`Json.viaQuery`. -/
def viaQuery (f : Filter) : Filter := { f with value := f.value.map Json.viaQuery }

@[simp] theorem viaQuery_column (f : Filter) : f.viaQuery.column = f.column := rfl

@[simp] theorem viaQuery_comparator (f : Filter) : f.viaQuery.comparator = f.comparator := rfl

@[simp] theorem viaQuery_value (f : Filter) : f.viaQuery.value = f.value.map Json.viaQuery := rfl

/-- A filter read back from a query string is still shaped: texts stand where
scalars stood. -/
theorem viaQuery_shaped {f : Filter} (shaped : f.Shaped) : f.viaQuery.Shaped := by
  obtain ⟨column_ne, takes⟩ := shaped
  refine ⟨column_ne, ?_⟩
  rw [viaQuery_comparator, viaQuery_value]
  cases c : f.comparator <;> rw [c] at takes <;> simp only [Comparator.Takes] at takes ⊢
  case isNull | isNotNull => rw [takes]; rfl
  case isIn | notIn =>
    obtain ⟨items, value, -⟩ := takes
    refine ⟨_, by rw [value]; rfl, fun x mem => ?_⟩
    obtain ⟨y, -, made⟩ := List.mem_filterMap.1 mem
    obtain ⟨t, -, rfl⟩ := Option.map_eq_some_iff.1 made
    rfl
  case between =>
    obtain ⟨lo, hi, value, loScalar, loPresent, hiScalar, hiPresent⟩ := takes
    obtain ⟨s, loText⟩ := leafText?_of_present loScalar loPresent
    obtain ⟨t, hiText⟩ := leafText?_of_present hiScalar hiPresent
    refine ⟨.str s, .str t, ?_, rfl, rfl, rfl, rfl⟩
    rw [value, Option.map_some, Json.viaQuery]
    simp [loText, hiText]
  all_goals
    obtain ⟨x, value, scalar, present⟩ := takes
    obtain ⟨t, text⟩ := leafText?_of_present scalar present
    exact ⟨.str t, by rw [value, Option.map_some, Json.viaQuery_of_leafText? text], rfl, rfl⟩

/-- A filter whose operand is a string or a list of strings reads back as itself. -/
theorem viaQuery_of_isText {f : Filter} (text : ∀ v, f.value = some v → v.IsText) : f.viaQuery = f := by
  obtain ⟨column, c, value⟩ := f
  cases value with
  | none => rfl
  | some v => exact congrArg (fun v => (⟨column, c, some v⟩ : Filter)) (Json.viaQuery_of_isText (text v rfl))

/-- A membership test reads a missing list as the empty one. -/
theorem ofParts_null_list {c : Comparator} (list : c.isList = true) (column : String) :
    ofParts column c.token .null = ofParts column c.token (.arr []) := by
  have token : comparatorOf c.token = .ok c := by rw [comparatorOf, Comparator.ofToken?_token]
  rw [ofParts, ofParts, token]
  cases c <;> first | rfl | cases list

/-- A scalar reads back as its `viaQuery`. -/
theorem read_of_isScalar {x : Json} (scalar : x.isScalar = true) :
    ((planted x).map normalize).getD .null = x.viaQuery := by
  cases x with
  | arr _ => cases scalar
  | obj _ => cases scalar
  | _ => rfl

/-- The operand of a shaped filter, written to a query string and read back,
makes the filter's `viaQuery`: scalars come back as texts, and a list with
nothing left comes back missing, which the membership tests read as empty. -/
theorem ofParts_read {f : Filter} (shaped : f.Shaped)
    (small : ∀ items, f.value = some (.arr items) → items.length ≤ 2 ^ 64) :
    ofParts f.column f.comparator.token (((planted (f.value.getD .null)).map normalize).getD .null) =
      .ok f.viaQuery := by
  have back := ofParts_of_shaped (viaQuery_shaped shaped)
  rw [viaQuery_column, viaQuery_comparator, viaQuery_value] at back
  rw [← back]
  obtain ⟨-, takes⟩ := shaped
  cases c : f.comparator <;> rw [c] at takes <;> simp only [Comparator.Takes] at takes
  case isNull | isNotNull => rw [takes]; rfl
  case isIn | notIn =>
    obtain ⟨items, value, scalars⟩ := takes
    rw [value, Option.getD_some]
    by_cases empty : items.filterMap planted = []
    · -- nothing of the list is written, and reading finds no operand
      have kept : items.filterMap (fun x => (leafText? x).map Json.str) = [] := by
        rw [← filterMap_planted scalars, empty, List.map_nil]
      rw [planted_arr_eq_none empty, Option.map_some, Json.viaQuery, kept]
      exact ofParts_null_list rfl f.column
    · rw [planted_arr empty, Option.map_some, Option.getD_some, normalize_plantedItems (small items value) empty,
        filterMap_planted scalars]
      rfl
  case between =>
    obtain ⟨lo, hi, value, loScalar, loPresent, hiScalar, -⟩ := takes
    have full : [lo, hi].filterMap planted ≠ [] := by
      obtain ⟨t, text⟩ := leafText?_of_present loScalar loPresent
      rw [List.filterMap_cons, planted_of_isScalar loScalar, text]
      exact List.cons_ne_nil _ _
    have scalars : ∀ x ∈ [lo, hi], x.isScalar = true := by simp [loScalar, hiScalar]
    rw [value, Option.getD_some, planted_arr full, Option.map_some, Option.getD_some, normalize_plantedItems (small _ value) full,
      filterMap_planted scalars]
    rfl
  all_goals
    obtain ⟨x, value, scalar, -⟩ := takes
    rw [value, Option.getD_some, read_of_isScalar scalar]
    rfl

end Filter

namespace QueryString

theorem bracketableItems_of_forall : ∀ {items : List Json}, (∀ x ∈ items, Bracketable x) → BracketableItems items
  | [], _ => trivial
  | x :: _, each => ⟨each x List.mem_cons_self, bracketableItems_of_forall fun y mem => each y (List.mem_cons_of_mem x mem)⟩

theorem bracketable_of_isScalar {x : Json} (scalar : x.isScalar = true) : Bracketable x := by
  cases x with
  | arr _ => cases scalar
  | obj _ => cases scalar
  | _ => trivial

/-- A value without nested containers has no keys at all. -/
theorem bracketable_of_shallow {v : Json} (shallow : v.Shallow) : Bracketable v := by
  rcases shallow with scalar | ⟨items, rfl, scalars⟩
  · exact bracketable_of_isScalar scalar
  · exact bracketableItems_of_forall fun x mem => bracketable_of_isScalar (scalars x mem)

/-- A shaped filter's wire object has three plain keys and a shallow operand. -/
theorem bracketable_toJson {f : Filter} (shaped : f.Shaped) : Bracketable f.toJson := by
  rw [Filter.toJson, Bracketable, BracketableMembers, BracketableMembers, BracketableMembers, BracketableMembers]
  exact ⟨by simp, by decide, by simp, trivial, by decide, by simp, trivial, by decide, by simp,
    bracketable_of_shallow (Filter.Shaped.shallow shaped), trivial⟩

theorem index?_column : index? "column" = none := by decide

/-- An object led by a key that is no index stays an object. -/
theorem normalize_obj_of_index? {k : String} (named : index? k = none) (v : Json) (rest : List (String × Json)) :
    normalize (.obj ((k, v) :: rest)) = .obj (normalizeMembers ((k, v) :: rest)) := by
  rw [normalize, normalizeMembers, List.mapM_cons]
  simp only [named, Option.map_none]
  rfl

/-- A wire object plants its column and operator, and its operand when the
operand plants something. -/
theorem planted_toJson (f : Filter) :
    planted f.toJson = some (.obj ([("column", .str f.column), ("operator", .str f.comparator.token)] ++
      ((planted (f.value.getD .null)).map ("value", ·)).toList)) := by
  have members : plantedMembers [("column", .str f.column), ("operator", .str f.comparator.token),
      ("value", f.value.getD .null)] = [("column", .str f.column), ("operator", .str f.comparator.token)] ++
        ((planted (f.value.getD .null)).map ("value", ·)).toList := by
    rw [plantedMembers, plantedMembers, plantedMembers, plantedMembers, List.append_nil]
    rfl
  rw [Filter.toJson, planted, members, objectOf, if_neg (List.append_ne_nil_of_left_ne_nil (List.cons_ne_nil _ _) _)]

/-- The empty query string has no members. -/
theorem parse_empty : parse "" = [] := by
  have nothing : Text.FormUrl.decodePairs "" = [] := Text.FormUrl.decodePairs_encodePairs []
  rw [parse, String.toList_empty]
  dsimp only
  rw [nothing]
  rfl

end QueryString

namespace FilterCollection

open QueryString

/-- An entry with a column and an operator, and perhaps a value, makes the
filter of its parts. -/
theorem entryFilter?_parts {column operator : String} (column_ne : column ≠ "") (operator_ne : operator ≠ "")
    (r : Option Json) :
    entryFilter? (.obj ([("column", .str column), ("operator", .str operator)] ++ (r.map ("value", ·)).toList)) =
      some (Filter.ofParts column operator (r.getD .null)) := by
  have value : Json.lookup "value" ([("column", .str column), ("operator", .str operator)] ++
      (r.map ("value", ·)).toList) = r := by
    cases r <;> rfl
  unfold entryFilter?
  dsimp only
  rw [show Json.lookup "column" ([("column", .str column), ("operator", .str operator)] ++
      (r.map ("value", ·)).toList) = some (.str column) from rfl,
    show Json.lookup "operator" ([("column", .str column), ("operator", .str operator)] ++
      (r.map ("value", ·)).toList) = some (.str operator) from rfl]
  dsimp only
  rw [String.isEmpty_eq_false_iff.mpr column_ne, String.isEmpty_eq_false_iff.mpr operator_ne, Bool.or_false,
    if_neg Bool.false_ne_true, value]

/-- A shaped filter's wire object, written to a query string and read back, is
an entry that makes the filter's `viaQuery`. -/
theorem entryFilter?_read {f : Filter} (shaped : f.Shaped)
    (small : ∀ items, f.value = some (.arr items) → items.length ≤ 2 ^ 64) :
    ((planted f.toJson).map normalize).bind entryFilter? = some (.ok f.viaQuery) := by
  have operator_ne : f.comparator.token ≠ "" := by cases f.comparator <;> decide
  have normalized : normalizeMembers ([("column", Json.str f.column), ("operator", Json.str f.comparator.token)] ++
      ((planted (f.value.getD .null)).map ("value", ·)).toList) =
        [("column", Json.str f.column), ("operator", Json.str f.comparator.token)] ++
          (((planted (f.value.getD .null)).map normalize).map ("value", ·)).toList := by
    rw [normalizeMembers_eq_map]
    cases planted (f.value.getD .null) <;> rfl
  rw [planted_toJson, Option.map_some, Option.bind_some, List.cons_append, normalize_obj_of_index? index?_column,
    ← List.cons_append, normalized, entryFilter?_parts shaped.column_ne operator_ne, Filter.ofParts_read shaped small]

/-- The wire objects of shaped filters, written to a query string and read
back, make the filters' `viaQuery`s, in order. -/
theorem ofArray_read {fs : List Filter} (group : Option String)
    (each : ∀ f ∈ fs, f.Shaped ∧ ∀ items, f.value = some (.arr items) → items.length ≤ 2 ^ 64) :
    ofArray (((fs.map Filter.toJson).filterMap planted).map normalize) group =
      .ok ⟨fs.map Filter.viaQuery, group⟩ := by
  have made : (((fs.map Filter.toJson).filterMap planted).map normalize).filterMap entryFilter? =
      fs.map fun f => .ok f.viaQuery := by
    rw [List.map_filterMap, List.filterMap_filterMap, List.filterMap_map, ← List.filterMap_eq_map']
    exact List.filterMap_congr fun f mem => entryFilter?_read (each f mem).1 (each f mem).2
  rw [ofArray, made, List.mapM_map,
    show (id ∘ fun f : Filter => (Except.ok f.viaQuery : Except FilterError Filter)) = fun f => pure f.viaQuery
      from rfl, List.mapM_pure]
  rfl

/-- The query string of a collection with filters reads back as one member
under the query parameter: the array of what the wire objects plant. -/
theorem parse_toQueryString {c : FilterCollection} {s : FilterSettings} (full : c.filters ≠ [])
    (shaped : ∀ f ∈ c.filters, f.Shaped) (named : c.queryParameter s ≠ "")
    (plain : '[' ∉ (c.queryParameter s).toList) (small : c.filters.length ≤ 2 ^ 64) :
    parse (c.toQueryString s) = [(c.queryParameter s, .arr ((c.toArray.filterMap planted).map normalize))] := by
  have present : c.toArray.filterMap planted ≠ [] := by
    obtain ⟨f, fs, first⟩ := List.exists_cons_of_ne_nil full
    rw [toArray, first, List.map_cons, List.filterMap_cons, planted_toJson]
    exact List.cons_ne_nil _ _
  have written : c.toQueryString s = build (c.queryParameter s) (.arr c.toArray) := by
    rw [toQueryString, if_neg (by rw [isEmpty, List.isEmpty_iff]; exact full)]
  have sized : c.toArray.length ≤ 2 ^ 64 := by rw [toArray, List.length_map]; exact small
  have bracketable : Bracketable (.arr c.toArray) :=
    bracketableItems_of_forall fun x mem => by
      obtain ⟨f, inside, rfl⟩ := List.mem_map.1 mem
      exact bracketable_toJson (shaped f inside)
  rw [written, parse_build named plain bracketable, planted_arr present, Option.map_some, Option.toList_some,
    normalizeMembers, normalizeMembers, normalize_plantedItems sized present]

/-- Reading a collection's query string gives, under the same group and in
order, each filter's `viaQuery`: its column and comparator, with every scalar
of the operand as text and the `null` items of a list left out. A collection
whose operands are strings or lists of strings comes back unchanged. -/
theorem query_string_reads_back (c : FilterCollection) (s : FilterSettings) (shaped : ∀ f ∈ c.filters, f.Shaped)
    (named : c.queryParameter s ≠ "") (plain : '[' ∉ (c.queryParameter s).toList)
    (small : c.filters.length ≤ 2 ^ 64)
    (smallLists : ∀ f ∈ c.filters, ∀ items, f.value = some (.arr items) → items.length ≤ 2 ^ 64) :
    ofQueryString (c.toQueryString s) c.group s = .ok ⟨c.filters.map Filter.viaQuery, c.group⟩ ∧
      ((∀ f ∈ c.filters, ∀ v, f.value = some v → v.IsText) → ofQueryString (c.toQueryString s) c.group s = .ok c) := by
  have reads : ofQueryString (c.toQueryString s) c.group s = .ok ⟨c.filters.map Filter.viaQuery, c.group⟩ := by
    by_cases empty : c.filters = []
    · -- an empty collection writes nothing, and nothing reads back as no filters
      have nothing : c.toQueryString s = "" := by
        rw [toQueryString, if_pos (by rw [isEmpty, List.isEmpty_iff]; exact empty)]
      rw [ofQueryString, nothing, parse_empty, empty]
      rfl
    · rw [ofQueryString, parse_toQueryString empty shaped named plain small, ofParams, ← queryParameter]
      rw [show Json.lookup (c.queryParameter s) [(c.queryParameter s, Json.arr ((c.toArray.filterMap planted).map
        normalize))] = some (.arr ((c.toArray.filterMap planted).map normalize)) by simp [Json.lookup]]
      exact ofArray_read c.group fun f mem => ⟨shaped f mem, smallLists f mem⟩
  refine ⟨reads, fun text => ?_⟩
  rw [reads, List.map_congr_left fun f mem => Filter.viaQuery_of_isText (text f mem), List.map_id']

/-- A text test, a membership test whose list holds a `null` and a boolean, and
a null test come back from their query string with the `null` item dropped and
the boolean as `1`. -/
theorem tagged_collection_reads_back :
    FilterCollection.ofQueryString
        (({ filters := [⟨"status", .equals, some (.str "open")⟩,
            ⟨"tags", .isIn, some (.arr [.str "a", .null, .bool true])⟩,
            ⟨"deleted_at", .isNull, none⟩] } : FilterCollection).toQueryString {}) none {} =
      .ok { filters := [⟨"status", .equals, some (.str "open")⟩,
            ⟨"tags", .isIn, some (.arr [.str "a", .str "1"])⟩,
            ⟨"deleted_at", .isNull, none⟩] } := by
  refine (query_string_reads_back _ {} ?_ (by decide) (by simp [queryParameter]) (by decide) ?_).1
  · intro f mem
    simp only [List.mem_cons, List.not_mem_nil, or_false] at mem
    rcases mem with rfl | rfl | rfl
    · exact ⟨by decide, ⟨.str "open", rfl, rfl, rfl⟩⟩
    · exact ⟨by decide, ⟨[.str "a", .null, .bool true], rfl, by decide⟩⟩
    · exact ⟨by decide, rfl⟩
  · intro f mem items value
    simp only [List.mem_cons, List.not_mem_nil, or_false] at mem
    rcases mem with rfl | rfl | rfl <;> cases value
    decide

end FilterCollection

end ReportExport
