import Mathlib
import ReportExport.Proofs.Filter.QueryString

/-!
# Query strings give back the value written, stringified

A value written as a query string under a key comes back from reading with
every leaf as text: a string as itself, a number as its JSON text, a boolean as
`1`/`0`. A leaf that writes nothing (a `null`, or a container with nothing
under it) leaves no trace, and an array closes the gaps such leaves leave.
`stringified` says what comes back and `emits` whether anything does; `emits`
holds exactly when the value writes a pair (`flatten_eq_nil_iff`).

Reading rebuilds the value's planted form (`parse_build`), and normalizing
it gives `stringified` (`normalize_planted`) as long as each container keeps its
kind (`KeepsShape`): an array's positions must be indexes, and an object with
members that write something must have one whose key is no index, or reading
takes it for an array. `parse_build_stringifies` is the main statement.
-/

namespace ReportExport.QueryString

/-! ## What writes something, and what comes back -/

mutual
/-- Whether a value writes a pair: a scalar other than `null` does, and a
container does when one of its items or members does. -/
def emits : Json → Bool
  | .null => false
  | .arr items => emitsItems items
  | .obj members => emitsMembers members
  | _ => true

/-- Whether some item writes a pair. -/
def emitsItems : List Json → Bool
  | [] => false
  | x :: xs => emits x || emitsItems xs

/-- Whether some member writes a pair. -/
def emitsMembers : List (String × Json) → Bool
  | [] => false
  | (_, v) :: rest => emits v || emitsMembers rest
end

mutual
/-- What a value reads back as from its query string: a string as itself, a
number as its text, a boolean as `1`/`0`, and a container as the same kind of
container of its items or members that write something, in order. -/
def stringified : Json → Json
  | .bool b => .str (if b then "1" else "0")
  | .num n => .str n.text
  | .arr items => .arr (stringifiedItems items)
  | .obj members => .obj (stringifiedMembers members)
  | j => j

/-- The items that write something, stringified. -/
def stringifiedItems : List Json → List Json
  | [] => []
  | x :: xs => if emits x then stringified x :: stringifiedItems xs else stringifiedItems xs

/-- The members that write something, stringified under their keys. -/
def stringifiedMembers : List (String × Json) → List (String × Json)
  | [] => []
  | (k, v) :: rest => if emits v then (k, stringified v) :: stringifiedMembers rest else stringifiedMembers rest
end

mutual
/-- Reading keeps the kind of every container: an array has at most `2 ^ 64`
items, so that every position is an index, and an object with members that
write something has one whose key is no index. -/
def KeepsShape : Json → Prop
  | .arr items => items.length ≤ 2 ^ 64 ∧ KeepsShapeItems items
  | .obj members =>
    (emitsMembers members = true → ∃ m ∈ members, emits m.2 = true ∧ index? m.1 = none) ∧
      KeepsShapeMembers members
  | _ => True

/-- Every item keeps its shape. -/
def KeepsShapeItems : List Json → Prop
  | [] => True
  | x :: xs => KeepsShape x ∧ KeepsShapeItems xs

/-- Every member's value keeps its shape. -/
def KeepsShapeMembers : List (String × Json) → Prop
  | [] => True
  | (_, v) :: rest => KeepsShape v ∧ KeepsShapeMembers rest
end

mutual
/-- A value has no leaves exactly when it writes nothing. -/
theorem leaves_eq_nil_iff : ∀ j : Json, leaves j = [] ↔ emits j = false
  | .null => by simp [leaves, leafText?, emits]
  | .bool _ => by simp [leaves, leafText?, emits]
  | .num _ => by simp [leaves, leafText?, emits]
  | .str _ => by simp [leaves, leafText?, emits]
  | .arr items => by rw [leaves, emits, leavesItems_eq_nil_iff 0 items]
  | .obj members => by rw [leaves, emits, leavesMembers_eq_nil_iff members]

theorem leavesItems_eq_nil_iff : ∀ (i : Nat) (items : List Json), leavesItems i items = [] ↔ emitsItems items = false
  | _, [] => by simp [leavesItems, emitsItems]
  | i, x :: xs => by
    rw [leavesItems, emitsItems, List.append_eq_nil_iff, List.map_eq_nil_iff, leaves_eq_nil_iff x,
      leavesItems_eq_nil_iff (i + 1) xs, Bool.or_eq_false_iff]

theorem leavesMembers_eq_nil_iff : ∀ members : List (String × Json),
    leavesMembers members = [] ↔ emitsMembers members = false
  | [] => by simp [leavesMembers, emitsMembers]
  | (k, v) :: rest => by
    rw [leavesMembers, emitsMembers, List.append_eq_nil_iff, List.map_eq_nil_iff, leaves_eq_nil_iff v,
      leavesMembers_eq_nil_iff rest, Bool.or_eq_false_iff]
end

/-- A value writes no pair exactly when it does not emit. -/
theorem flatten_eq_nil_iff (name : String) (j : Json) : flatten name j = [] ↔ emits j = false := by
  rw [flatten_eq_leaves, List.map_eq_nil_iff, leaves_eq_nil_iff]

theorem stringifiedItems_eq_nil_iff (items : List Json) : stringifiedItems items = [] ↔ emitsItems items = false := by
  induction items with
  | nil => simp [stringifiedItems, emitsItems]
  | cons x xs ih =>
    rw [stringifiedItems, emitsItems]
    cases emits x <;> simp [ih]

theorem stringifiedMembers_eq_nil_iff (members : List (String × Json)) :
    stringifiedMembers members = [] ↔ emitsMembers members = false := by
  induction members with
  | nil => simp [stringifiedMembers, emitsMembers]
  | cons m rest ih =>
    obtain ⟨k, v⟩ := m
    rw [stringifiedMembers, emitsMembers]
    cases emits v <;> simp [ih]

/-- A member that writes something comes back under its key. -/
theorem mem_stringifiedMembers {m : String × Json} {members : List (String × Json)} (mem : m ∈ members)
    (emitting : emits m.2 = true) : (m.1, stringified m.2) ∈ stringifiedMembers members := by
  induction members with
  | nil => cases mem
  | cons m' rest ih =>
    obtain ⟨k, v⟩ := m'
    rw [stringifiedMembers]
    rcases List.mem_cons.1 mem with rfl | later
    · rw [if_pos emitting]
      exact List.mem_cons_self
    · split
      · exact List.mem_cons_of_mem _ (ih later)
      · exact ih later

/-! ## Normalizing the planted form -/

/-- A traversal fails when it fails on some element. -/
theorem mapM_eq_none_of_mem {α β : Type} {f : α → Option β} {x : α} (refused : f x = none) :
    ∀ {l : List α}, x ∈ l → l.mapM f = none
  | y :: ys, mem => by
    rw [List.mapM_cons]
    rcases List.mem_cons.1 mem with rfl | later
    · rw [refused]
      rfl
    · cases f y with
      | none => rfl
      | some b => simp only [Option.bind_eq_bind, Option.bind_some, mapM_eq_none_of_mem refused later, Option.bind_none]

/-- An object with a key that is no index stays an object. -/
theorem normalize_obj_of_unindexed {members : List (String × Json)}
    (unindexed : ∃ m ∈ members, index? m.1 = none) :
    normalize (.obj members) = .obj (normalizeMembers members) := by
  obtain ⟨m, mem, notIndex⟩ := unindexed
  rw [normalize]
  -- the reader's traversal of the keys fails at that key
  rw [mapM_eq_none_of_mem (x := (m.1, normalize m.2)) ?refused ?present]
  case refused => simp only [notIndex, Option.map_none]
  case present =>
    rw [normalizeMembers_eq_map]
    exact List.mem_map_of_mem mem

/-- An array whose items' planted forms normalize to the stringified items:
it plants something exactly when some item emits, and that normalizes to the
array of stringified items. -/
theorem normalize_planted_arr {items : List Json} (small : items.length ≤ 2 ^ 64)
    (each : items.filterMap (fun x => (planted x).map normalize) = stringifiedItems items) :
    (planted (.arr items)).map normalize =
      if emitsItems items then some (.arr (stringifiedItems items)) else none := by
  have planted_nil : items.filterMap planted = [] ↔ emitsItems items = false := by
    rw [← List.map_eq_nil_iff (f := normalize), List.map_filterMap, each, stringifiedItems_eq_nil_iff]
  by_cases emitting : emitsItems items = true
  · -- some item plants something, and the positions read back in order
    have full : items.filterMap planted ≠ [] := fun empty => by
      rw [planted_nil.1 empty] at emitting
      cases emitting
    rw [if_pos emitting, planted_arr full, Option.map_some, normalize_plantedItems small full,
      List.map_filterMap, each]
  · rw [if_neg emitting, planted_arr_eq_none (planted_nil.2 (by simpa using emitting)), Option.map_none]

/-- An object whose members' planted forms normalize to the stringified
members, and that has an emitting member whose key is no index when it has
any: it plants something exactly when some member emits, and that normalizes
to the object of stringified members. -/
theorem normalize_planted_obj {members : List (String × Json)}
    (unindexed : emitsMembers members = true → ∃ m ∈ members, emits m.2 = true ∧ index? m.1 = none)
    (each : (plantedMembers members).map (fun p => (p.1, normalize p.2)) = stringifiedMembers members) :
    (planted (.obj members)).map normalize =
      if emitsMembers members then some (.obj (stringifiedMembers members)) else none := by
  have planted_nil : plantedMembers members = [] ↔ emitsMembers members = false := by
    rw [← List.map_eq_nil_iff (f := fun p => (p.1, normalize p.2)), each, stringifiedMembers_eq_nil_iff]
  rw [planted, objectOf]
  by_cases emitting : emitsMembers members = true
  · have full : plantedMembers members ≠ [] := fun empty => by
      rw [planted_nil.1 empty] at emitting
      cases emitting
    -- the emitting member whose key is no index keeps the object one
    have key : ∃ p ∈ plantedMembers members, index? p.1 = none := by
      obtain ⟨m, mem, emits_m, notIndex⟩ := unindexed emitting
      have back : (m.1, stringified m.2) ∈ (plantedMembers members).map fun p => (p.1, normalize p.2) :=
        each ▸ mem_stringifiedMembers mem emits_m
      obtain ⟨p, inside, same⟩ := List.mem_map.1 back
      exact ⟨p, inside, by rw [congrArg Prod.fst same]; exact notIndex⟩
    rw [if_neg full, if_pos emitting, Option.map_some, normalize_obj_of_unindexed key,
      normalizeMembers_eq_map, each]
  · rw [if_pos (planted_nil.2 (by simpa using emitting)), if_neg emitting, Option.map_none]

/-- Where planted forms normalize as `normalize_planted` says, a value that
emits has a planted form normalizing to its stringified form, and one that
does not has none. -/
theorem planted_cases {v : Json}
    (normalized : (planted v).map normalize = if emits v then some (stringified v) else none) :
    (emits v = true ∧ ∃ w, planted v = some w ∧ normalize w = stringified v) ∨
      (emits v = false ∧ planted v = none) := by
  by_cases emitting : emits v = true
  · rw [if_pos emitting] at normalized
    exact .inl ⟨emitting, Option.map_eq_some_iff.1 normalized⟩
  · rw [if_neg emitting, Option.map_eq_none_iff] at normalized
    exact .inr ⟨by simpa using emitting, normalized⟩

mutual
/-- The planted form of a value that keeps its shape normalizes to its
stringified form, and there is one exactly when the value emits. -/
theorem normalize_planted : ∀ j : Json, KeepsShape j →
    (planted j).map normalize = if emits j then some (stringified j) else none
  | .null, _ => rfl
  | .bool _, _ => rfl
  | .num _, _ => rfl
  | .str _, _ => rfl
  | .arr items, shape => normalize_planted_arr shape.1 (filterMap_normalize_planted items shape.2)
  | .obj members, shape => normalize_planted_obj shape.1 (normalize_plantedMembers members shape.2)

/-- The items' planted forms, normalized, are the stringified items. -/
theorem filterMap_normalize_planted : ∀ items : List Json, KeepsShapeItems items →
    items.filterMap (fun x => (planted x).map normalize) = stringifiedItems items
  | [], _ => rfl
  | x :: xs, shape => by
    rw [List.filterMap_cons, normalize_planted x shape.1, stringifiedItems, filterMap_normalize_planted xs shape.2]
    by_cases emitting : emits x = true <;> simp [emitting]

/-- The members' planted forms, normalized, are the stringified members. -/
theorem normalize_plantedMembers : ∀ members : List (String × Json), KeepsShapeMembers members →
    (plantedMembers members).map (fun p => (p.1, normalize p.2)) = stringifiedMembers members
  | [], _ => rfl
  | (k, v) :: rest, shape => by
    rw [plantedMembers, List.map_append, normalize_plantedMembers rest shape.2, stringifiedMembers]
    rcases planted_cases (normalize_planted v shape.1) with ⟨emitting, w, planted_v, normal⟩ | ⟨silent, planted_v⟩
    · rw [if_pos emitting, planted_v]
      simp [normal]
    · rw [silent, planted_v]
      rfl
end

/-! ## Reading a query string back -/

/-- The query string of a value under a key with no opening bracket, whose
object keys are non-empty, free of closing brackets and not repeated, and
whose containers keep their kind, reads back as nothing when the value writes
no pair, and otherwise as the value stringified under the key. -/
theorem parse_build_stringifies {key : String} {v : Json} (named : key ≠ "") (plain : '[' ∉ key.toList)
    (keys : Bracketable v) (shape : KeepsShape v) :
    (flatten key v ≠ [] ↔ emits v = true) ∧
      parse (build key v) = if emits v then [(key, stringified v)] else [] := by
  refine ⟨by rw [ne_eq, flatten_eq_nil_iff, Bool.not_eq_false], ?_⟩
  rw [parse_build named plain keys]
  rcases planted_cases (normalize_planted v shape) with ⟨emitting, w, planted_v, normal⟩ | ⟨silent, planted_v⟩
  · rw [if_pos emitting, planted_v]
    simp [normalizeMembers, normal]
  · rw [silent, planted_v]
    rfl

/-- A filter object whose list holds a `null` and a boolean, followed by a
`null`, reads back with the `null`s gone, the gap closed and the boolean and
the number as text. -/
theorem nested_filter_reads_back :
    let v : Json := .arr [.obj [("column", .str "age"), ("value", .arr [Json.nat 18, .null, .bool true])], .null]
    Bracketable v ∧ KeepsShape v ∧
      parse (build "filters" v) = [("filters", .arr [.obj [("column", .str "age"), ("value", .arr [.str "18", .str "1"])]])] := by
  intro v
  have keys : Bracketable v := by simp [v, Json.nat, Bracketable, BracketableItems, BracketableMembers]
  have shape : KeepsShape v := by
    simp only [v, KeepsShape, KeepsShapeItems, KeepsShapeMembers]
    refine ⟨by simp, ⟨fun _ => ⟨("column", .str "age"), List.mem_cons_self, rfl, index?_column⟩, trivial,
      ⟨by simp, trivial, trivial, trivial, trivial⟩, trivial⟩, trivial, trivial⟩
  refine ⟨keys, shape, ?_⟩
  rw [(parse_build_stringifies (by decide) (by simp) keys shape).2]
  rfl

end ReportExport.QueryString
