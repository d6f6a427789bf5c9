import ReportExport.Filter.Collection
import ReportExport.Proofs.Json.RoundTrip

/-!
# Filters on the wire

`Filter.make` is the gate every filter passes: the typed constructors call it,
and so do `Filter.ofParts` and the decoder of the wire object. What it lets
through is said here without reference to its code, as `Filter.Shaped`: a
column that is not empty and an operand of the shape its comparator takes
(`Comparator.Takes`).

Main statements:

* everything `make`, `ofParts` and `decode` build is shaped, and `make` gives
  a shaped filter back from its own three fields;
* a shaped filter's wire object decodes to it, and so do its three wire parts;
* a collection of shaped filters is read back from its array of wire objects,
  and from its JSON text when the numbers in its operands reread.
-/

namespace ReportExport

open JsonText Text

/-- The operand a comparator takes: none for the null tests, a list of scalars
for the membership tests, two non-null scalars for `between`, and one
non-null scalar otherwise. -/
def Comparator.Takes (c : Comparator) (value : Option Json) : Prop :=
  match c with
  | .isNull | .isNotNull => value = none
  | .isIn | .notIn => ∃ items, value = some (.arr items) ∧ ∀ x ∈ items, x.isScalar = true
  | .between => ∃ lo hi, value = some (.arr [lo, hi]) ∧
      lo.isScalar = true ∧ lo.isNull = false ∧ hi.isScalar = true ∧ hi.isNull = false
  | _ => ∃ x, value = some x ∧ x.isScalar = true ∧ x.isNull = false

/-- A filter as its constructors leave it: a column and an operand of the
shape its comparator takes. -/
structure Filter.Shaped (f : Filter) : Prop where
  column_ne : f.column ≠ ""
  takes : f.comparator.Takes f.value

namespace Json

/-- A value with no container inside a container: a scalar, or an array of
scalars. Every operand of a filter is one. -/
def Shallow (v : Json) : Prop := v.isScalar = true ∨ ∃ items, v = .arr items ∧ ∀ x ∈ items, x.isScalar = true

theorem keysUnique_of_isScalar {x : Json} (scalar : x.isScalar = true) : x.KeysUnique := by
  cases x <;> simp_all [isScalar, KeysUnique]

theorem nesting_of_isScalar {x : Json} (scalar : x.isScalar = true) : x.nesting = 0 := by
  cases x <;> simp_all [isScalar, nesting]

theorem Shallow.keysUnique {v : Json} (shallow : v.Shallow) : v.KeysUnique := by
  rcases shallow with scalar | ⟨items, rfl, scalars⟩
  · exact keysUnique_of_isScalar scalar
  · simp only [KeysUnique]
    induction items with
    | nil => trivial
    | cons x xs ih =>
      exact ⟨keysUnique_of_isScalar (scalars x (by simp)),
        ih (fun y mem => scalars y (List.mem_cons_of_mem _ mem))⟩

theorem Shallow.nesting_le {v : Json} (shallow : v.Shallow) : v.nesting ≤ 1 := by
  rcases shallow with scalar | ⟨items, rfl, scalars⟩
  · rw [nesting_of_isScalar scalar]
    omega
  · suffices flat : nestingItems items = 0 by simp [nesting, flat]
    induction items with
    | nil => rfl
    | cons x xs ih =>
      rw [nestingItems, nesting_of_isScalar (scalars x (by simp)),
        ih (fun y mem => scalars y (List.mem_cons_of_mem _ mem))]
      rfl

theorem numbersItems_eq_flatMap (xs : List Json) : numbersItems xs = xs.flatMap numbers := by
  induction xs with
  | nil => rfl
  | cons x xs ih => rw [numbersItems, ih, List.flatMap_cons]

theorem nestingItems_le {xs : List Json} {k : Nat} (bound : ∀ x ∈ xs, x.nesting ≤ k) : nestingItems xs ≤ k := by
  induction xs with
  | nil => exact Nat.zero_le k
  | cons x xs ih =>
    rw [nestingItems]
    exact Nat.max_le.mpr ⟨bound x (by simp), ih (fun y mem => bound y (List.mem_cons_of_mem _ mem))⟩

theorem keysUniqueItems_of_forall {xs : List Json} (unique : ∀ x ∈ xs, x.KeysUnique) : KeysUniqueItems xs := by
  induction xs with
  | nil => trivial
  | cons x xs ih => exact ⟨unique x (by simp), ih (fun y mem => unique y (List.mem_cons_of_mem _ mem))⟩

end Json

namespace Filter

/-- The operand check passes exactly on the operands a comparator takes. -/
theorem operandFault?_eq_none_iff {c : Comparator} {v : Json} (requires : c.requiresValue = true)
    (present : v.isNull = false) : operandFault? c v = none ↔ c.Takes (some v) := by
  cases c
  case isNull | isNotNull => simp [Comparator.requiresValue] at requires
  case isIn | notIn =>
    cases v <;> simp [operandFault?, Comparator.Takes]
  case between =>
    rcases v with _ | _ | _ | _ | items | _ <;> simp [operandFault?, Comparator.Takes]
    rcases items with _ | ⟨lo, _ | ⟨hi, _ | ⟨x, rest⟩⟩⟩ <;> simp [and_assoc, exists_and_left]
  all_goals
    simp only [operandFault?, Comparator.Takes, Option.some.injEq, exists_eq_left', present, and_true]
    split <;> simp_all

variable {column : String} {c : Comparator} {value : Option Json} {f : Filter}

/-- The null tests take no operand. -/
theorem takes_none (h : c.requiresValue = false) : c.Takes none := by
  cases c <;> simp_all [Comparator.requiresValue, Comparator.Takes]

/-- What `make` builds is shaped. -/
theorem make_shaped (h : make column c value = .ok f) : f.Shaped := by
  unfold make at h
  split at h
  · cases h
  · next nonempty =>
    have column_ne : column ≠ "" := fun empty => nonempty (String.isEmpty_iff.mpr empty)
    split at h
    · next noOperand =>
      cases h
      exact ⟨column_ne, takes_none (by simpa using noOperand)⟩
    · next requires =>
      split at h
      · cases h
      · cases h
      · next _ v notNull =>
        split at h
        · cases h
        · next fits =>
          cases h
          have present : v.isNull = false := by
            cases v <;> simp_all [Json.isNull]
          exact ⟨column_ne, (operandFault?_eq_none_iff (by simpa using requires) present).mp fits⟩

/-- A comparator that needs an operand takes one, and never `null`. -/
theorem takes_some (requires : c.requiresValue = true) (takes : c.Takes value) :
    ∃ v, value = some v ∧ v.isNull = false := by
  cases c <;> simp only [Comparator.requiresValue, Bool.false_eq_true] at requires <;>
    simp only [Comparator.Takes] at takes
  case isIn | notIn =>
    obtain ⟨items, rfl, _⟩ := takes
    exact ⟨.arr items, rfl, rfl⟩
  case between =>
    obtain ⟨lo, hi, rfl, _⟩ := takes
    exact ⟨.arr [lo, hi], rfl, rfl⟩
  all_goals
    obtain ⟨x, rfl, _, present⟩ := takes
    exact ⟨x, rfl, present⟩

/-- `make` gives a shaped filter back from its own three fields. -/
theorem make_of_shaped (shaped : f.Shaped) : make f.column f.comparator f.value = .ok f := by
  obtain ⟨column, c, value⟩ := f
  obtain ⟨column_ne, takes⟩ := shaped
  unfold make
  rw [if_neg (by rw [String.isEmpty_eq_false_iff.mpr column_ne]; decide)]
  cases requires : c.requiresValue
  · -- the null tests keep no operand, and a shaped one has none
    have none : value = none := by
      cases c <;> simp_all [Comparator.requiresValue, Comparator.Takes]
    rw [none]
    rfl
  · obtain ⟨v, rfl, present⟩ := takes_some requires takes
    have fits := (operandFault?_eq_none_iff requires present).mpr takes
    have notNull : v ≠ .null := by
      rintro rfl
      simp [Json.isNull] at present
    rw [if_neg (by simp)]
    split
    · next same => cases same
    · next same => exact absurd (Option.some.inj same) notNull
    · next same =>
      cases Option.some.inj same
      rw [fits]

/-- The null tests drop whatever operand they are given. -/
theorem make_of_not_requiresValue (requires : c.requiresValue = false) (v : Option Json) :
    make column c v = make column c none := by
  unfold make
  rw [requires]
  rfl

/-- What `ofParts` builds is shaped. -/
theorem ofParts_shaped {operator : String} {v : Json} (h : ofParts column operator v = .ok f) : f.Shaped := by
  unfold ofParts at h
  cases token : comparatorOf operator with
  | error e => rw [token] at h; cases h
  | ok c => rw [token] at h; exact make_shaped h

/-- A shaped filter's three wire parts build it again. -/
theorem ofParts_of_shaped (shaped : f.Shaped) :
    ofParts f.column f.comparator.token (f.value.getD .null) = .ok f := by
  have token : comparatorOf f.comparator.token = .ok f.comparator := by
    rw [comparatorOf, Comparator.ofToken?_token]
  rw [ofParts, token]
  show make f.column f.comparator (some _) = .ok f
  rw [← make_of_shaped shaped]
  cases requires : f.comparator.requiresValue
  · rw [make_of_not_requiresValue requires, make_of_not_requiresValue requires f.value]
  · -- a shaped operand is never `null`, so no list stands in for it
    obtain ⟨v, value, present⟩ := takes_some requires shaped.takes
    rw [value, Option.getD_some]
    congr 1
    split
    · simp [Json.isNull] at present
    · simp [Json.isNull] at present
    · rfl

/-- The operand of a shaped filter, `null` when it has none, is shallow. -/
theorem Shaped.shallow (shaped : f.Shaped) : (f.value.getD .null).Shallow := by
  obtain ⟨_, takes⟩ := shaped
  cases c : f.comparator <;> rw [c] at takes <;> simp only [Comparator.Takes] at takes
  case isNull | isNotNull => rw [takes]; exact .inl rfl
  case isIn | notIn =>
    obtain ⟨items, value, scalars⟩ := takes
    exact .inr ⟨items, by rw [value]; rfl, scalars⟩
  case between =>
    obtain ⟨lo, hi, value, loScalar, -, hiScalar, -⟩ := takes
    refine .inr ⟨[lo, hi], by rw [value]; rfl, ?_⟩
    simp [loScalar, hiScalar]
  all_goals
    obtain ⟨x, value, scalar, -⟩ := takes
    exact .inl (by rw [value]; exact scalar)

/-- A decoding that succeeded succeeded at each of its steps. -/
theorem bind_eq_ok {α β : Type} {x : Decoded α} {k : α → Decoded β} {b : β} (h : (x >>= k) = .ok b) :
    ∃ a, x = .ok a ∧ k a = .ok b := by
  cases x with
  | error e => cases h
  | ok a => exact ⟨a, rfl, h⟩

/-- What the decoder of the wire form builds is shaped: its last step is `ofParts`. -/
theorem decode_shaped {j : Json} (h : decode j = .ok f) : f.Shaped := by
  unfold decode at h
  -- both wire forms end by building the filter from its three parts
  split at h
  · obtain ⟨_, -, checked⟩ := bind_eq_ok h
    obtain ⟨_, -, withColumn⟩ := bind_eq_ok checked
    obtain ⟨_, -, withOperator⟩ := bind_eq_ok withColumn
    obtain ⟨_, -, built⟩ := bind_eq_ok withOperator
    dsimp only at built
    split at built
    · next made => cases built; exact ofParts_shaped made
    · cases built
  · obtain ⟨_, -, withColumn⟩ := bind_eq_ok h
    obtain ⟨_, -, withOperator⟩ := bind_eq_ok withColumn
    obtain ⟨_, -, withValue⟩ := bind_eq_ok withOperator
    obtain ⟨_, -, built⟩ := bind_eq_ok withValue
    dsimp only at built
    split at built
    · next made => cases built; exact ofParts_shaped made
    · cases built
  · cases h

/-- A shaped filter's wire object decodes to it. -/
theorem decode_toJson (shaped : f.Shaped) : decode f.toJson = .ok f := by
  have operand : (f.value.getD .null).merged = f.value.getD .null :=
    Json.merged_of_keysUnique _ shaped.shallow.keysUnique
  let fs : Fields := ⟨[("column", .str f.column), ("operator", .str f.comparator.token),
    ("value", f.value.getD .null)]⟩
  have checked : fs.check [.of "column" Json.asString, .of "operator" Json.asString, .of "value" Json.asValue] =
      .ok () := rfl
  have column : fs.required "column" Json.asString = .ok f.column := rfl
  have operator : fs.required "operator" Json.asString = .ok f.comparator.token := rfl
  have value : fs.withDefault "value" .null Json.asValue = .ok (f.value.getD .null).merged := rfl
  unfold decode toJson
  dsimp only
  rw [checked, column, operator, value]
  dsimp only [bind, Except.bind]
  rw [operand, ofParts_of_shaped shaped]

/-- The numbers of a wire object are those of its operand. -/
theorem numbers_toJson (f : Filter) : f.toJson.numbers = (f.value.getD .null).numbers := by
  simp [toJson, Json.numbers, Json.numbersMembers]

theorem nesting_toJson (shaped : f.Shaped) : f.toJson.nesting ≤ 2 := by
  have operand := shaped.shallow.nesting_le
  simp only [toJson, Json.nesting, Json.nestingMembers]
  omega

theorem keysUnique_toJson (shaped : f.Shaped) : f.toJson.KeysUnique := by
  simp only [toJson, Json.KeysUnique, Json.KeysUniqueMembers]
  exact ⟨by simp only [List.map_cons, List.map_nil]; decide, trivial, trivial, shaped.shallow.keysUnique, trivial⟩

end Filter

namespace FilterCollection

/-- A shaped filter's wire object is an entry that makes the filter. -/
theorem entryFilter?_toJson {f : Filter} (shaped : f.Shaped) : entryFilter? f.toJson = some (.ok f) := by
  have column : f.column.isEmpty = false := String.isEmpty_eq_false_iff.mpr shaped.column_ne
  have operator : f.comparator.token.isEmpty = false := by
    cases f.comparator <;> rfl
  unfold entryFilter? Filter.toJson
  dsimp only
  rw [show Json.lookup "column" [("column", .str f.column), ("operator", .str f.comparator.token),
      ("value", f.value.getD .null)] = some (.str f.column) from rfl,
    show Json.lookup "operator" [("column", .str f.column), ("operator", .str f.comparator.token),
      ("value", f.value.getD .null)] = some (.str f.comparator.token) from rfl]
  dsimp only
  rw [column, operator, Bool.or_false, if_neg Bool.false_ne_true,
    show Json.lookup "value" [("column", .str f.column), ("operator", .str f.comparator.token),
      ("value", f.value.getD .null)] = some (f.value.getD .null) from rfl, Option.getD_some,
    Filter.ofParts_of_shaped shaped]

/-- A collection of shaped filters is read back from its wire objects, in
order, with its group. -/
theorem ofArray_toArray {c : FilterCollection} (shaped : ∀ f ∈ c.filters, f.Shaped) :
    ofArray c.toArray c.group = .ok c := by
  have entries : ∀ fs : List Filter, (∀ f ∈ fs, f.Shaped) →
      ((fs.map Filter.toJson).filterMap entryFilter?).mapM id = .ok fs := by
    intro fs
    induction fs with
    | nil => intro _; rfl
    | cons f fs ih =>
      intro shapedAll
      rw [List.map_cons, List.filterMap_cons, entryFilter?_toJson (shapedAll f (by simp)), List.mapM_cons,
        ih (fun g mem => shapedAll g (List.mem_cons_of_mem _ mem))]
      rfl
  unfold ofArray toArray
  rw [entries c.filters shaped]
  rfl

/-- A collection of shaped filters is read back from its JSON text, when the
numbers in its operands reread. -/
theorem ofJsonText_toJsonText {c : FilterCollection} (shaped : ∀ f ∈ c.filters, f.Shaped)
    (rereads : ∀ f ∈ c.filters, (f.value.getD .null).Rereads) :
    ofJsonText c.toJsonText c.group = .ok c := by
  have numbers : (Json.arr c.toArray).Rereads := by
    intro n mem
    simp only [Json.numbers, Json.numbersItems_eq_flatMap, toArray, List.flatMap_map, List.mem_flatMap,
      Filter.numbers_toJson] at mem
    obtain ⟨f, inFilters, inOperand⟩ := mem
    exact rereads f inFilters n inOperand
  have deep : (Json.arr c.toArray).nesting < depthLimit := by
    have items : Json.nestingItems c.toArray ≤ 2 := Json.nestingItems_le (fun x mem => by
      obtain ⟨f, inFilters, rfl⟩ := List.mem_map.mp mem
      exact Filter.nesting_toJson (shaped f inFilters))
    simp only [Json.nesting, depthLimit]
    omega
  have unique : (Json.arr c.toArray).KeysUnique := Json.keysUniqueItems_of_forall (fun x mem => by
    obtain ⟨f, inFilters, rfl⟩ := List.mem_map.mp mem
    exact Filter.keysUnique_toJson (shaped f inFilters))
  unfold ofJsonText toJsonText
  rw [read_compact _ numbers deep unique]
  exact ofArray_toArray shaped

end FilterCollection

/-- Filters and their collections survive their wire forms. Whatever `make`,
`ofParts` or the decoder builds is shaped; `make` builds a shaped filter again
from its own fields; its wire object and its three wire parts give it back;
and a collection of shaped filters is read back, in order and with its group,
from its wire objects, and from its JSON text when the numbers in its operands
reread. -/
theorem filters_survive_wire_forms :
    (∀ column c value (f : Filter), Filter.make column c value = .ok f → f.Shaped) ∧
    (∀ column operator value (f : Filter), Filter.ofParts column operator value = .ok f → f.Shaped) ∧
    (∀ j (f : Filter), Filter.decode j = .ok f → f.Shaped) ∧
    (∀ f : Filter, f.Shaped →
      Filter.make f.column f.comparator f.value = .ok f ∧ Filter.decode f.toJson = .ok f ∧
        Filter.ofParts f.column f.comparator.token (f.value.getD .null) = .ok f) ∧
    (∀ c : FilterCollection, (∀ f ∈ c.filters, f.Shaped) →
      FilterCollection.ofArray c.toArray c.group = .ok c ∧
        ((∀ f ∈ c.filters, (f.value.getD .null).Rereads) →
          FilterCollection.ofJsonText c.toJsonText c.group = .ok c)) :=
  ⟨fun _ _ _ _ made => Filter.make_shaped made,
   fun _ _ _ _ made => Filter.ofParts_shaped made,
   fun _ _ decoded => Filter.decode_shaped decoded,
   fun _ shaped => ⟨Filter.make_of_shaped shaped, Filter.decode_toJson shaped, Filter.ofParts_of_shaped shaped⟩,
   fun _ shaped => ⟨FilterCollection.ofArray_toArray shaped,
     fun rereads => FilterCollection.ofJsonText_toJsonText shaped rereads⟩⟩

/-- A grouped collection with a text test, a range of integers and a null
test comes back from its JSON text. -/
theorem grouped_collection_rereads :
    FilterCollection.ofJsonText
        ({ filters := [⟨"status", .equals, some (.str "active")⟩,
            ⟨"age", .between, some (.arr [.num (.int 18), .num (.int 65)])⟩,
            ⟨"deleted_at", .isNull, none⟩], group := some "search" } : FilterCollection).toJsonText
        (some "search") =
      .ok { filters := [⟨"status", .equals, some (.str "active")⟩,
            ⟨"age", .between, some (.arr [.num (.int 18), .num (.int 65)])⟩,
            ⟨"deleted_at", .isNull, none⟩], group := some "search" } := by
  refine (filters_survive_wire_forms.2.2.2.2 _ ?_).2 ?_
  · intro f mem
    simp only [List.mem_cons, List.not_mem_nil, or_false] at mem
    rcases mem with rfl | rfl | rfl
    · exact ⟨by decide, ⟨.str "active", rfl, rfl, rfl⟩⟩
    · exact ⟨by decide, ⟨.num (.int 18), .num (.int 65), rfl, rfl, rfl, rfl, rfl⟩⟩
    · exact ⟨by decide, rfl⟩
  · intro f mem n number
    simp only [List.mem_cons, List.not_mem_nil, or_false] at mem
    rcases mem with rfl | rfl | rfl <;>
      simp [Json.numbers, Json.numbersItems] at number
    rcases number with rfl | rfl <;> exact Number.rereads_int (by decide) (by decide)

end ReportExport
