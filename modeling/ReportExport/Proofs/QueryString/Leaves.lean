import Mathlib
import ReportExport.QueryString
import ReportExport.Proofs.Json.RoundTrip
import ReportExport.Proofs.Text.FormUrl

/-!
# Reading a query string rebuilds the value written

`QueryString.build key j` writes each leaf of `j` under a name that spells its
path, `key[s₁][s₂]…`; `QueryString.parse` splits each name back into its path
(`splitKey_bracketed`) and inserts the leaf there. With the leaves listed as
paths (`flatten_eq_leaves`), inserting them one after another rebuilds
`planted j` (`insertAll_leaves`): the value with every scalar turned into its
text, nulls and containers with nothing under them left out, and arrays keyed
by position.
-/

namespace ReportExport.QueryString

/-! ## Names and paths -/

/-- A name followed by bracketed segments, `name[s₁][s₂]…`. -/
def bracketed (name : String) (segs : List String) : String :=
  segs.foldl (fun n s => n ++ "[" ++ s ++ "]") name

/-- The characters of the segments' brackets. -/
def bracketChars (segs : List String) : List Char := segs.flatMap fun s => '[' :: (s.toList ++ [']'])

theorem toList_bracketed (segs : List String) : ∀ name : String,
    (bracketed name segs).toList = name.toList ++ bracketChars segs := by
  induction segs with
  | nil => simp [bracketed, bracketChars]
  | cons s segs ih =>
    intro name
    rw [bracketed, List.foldl_cons, ← bracketed, ih]
    simp [bracketChars]

/-- Segments without a closing bracket in them are read back one by one. -/
theorem segments_bracketChars (segs : List String) (closed : ∀ s ∈ segs, ']' ∉ s.toList) :
    ∀ fuel, segs.length < fuel → segments (bracketChars segs) fuel = segs := by
  induction segs with
  | nil =>
    intro fuel _
    cases fuel <;> rfl
  | cons s segs ih =>
    intro fuel enough
    obtain ⟨fuel, rfl⟩ : ∃ f, fuel = f + 1 := ⟨fuel - 1, by omega⟩
    have plain : ∀ c ∈ s.toList, (c != ']') = true := fun c mem => by
      have := closed s List.mem_cons_self
      simp only [bne_iff_ne, ne_eq]
      rintro rfl
      exact this mem
    have rest : bracketChars (s :: segs) = '[' :: (s.toList ++ ']' :: bracketChars segs) := by
      simp [bracketChars]
    rw [rest, segments, if_pos (by simp), List.takeWhile_append_of_pos plain, List.dropWhile_append_of_pos plain]
    simp only [bne_self_eq_false, List.takeWhile_cons_of_neg, Bool.false_eq_true, not_false_eq_true,
      List.append_nil, String.ofList_toList, List.dropWhile_cons_of_neg, List.drop_one, List.tail_cons]
    rw [ih (fun t mem => closed t (List.mem_cons_of_mem _ mem)) fuel (by simp at enough; omega)]

/-- A name with no opening bracket, followed by segments with no closing bracket,
splits back into the name and the segments. -/
theorem splitKey_bracketed {name : String} {segs : List String} (named : name ≠ "") (plain : '[' ∉ name.toList)
    (closed : ∀ s ∈ segs, ']' ∉ s.toList) : splitKey (bracketed name segs) = name :: segs := by
  have unopened : name.toList.idxOf? '[' = none := List.idxOf?_eq_none_iff.2 plain
  cases segs with
  | nil => rw [splitKey, bracketed, List.foldl_nil, unopened]
  | cons s segs =>
    have first : (name.toList ++ bracketChars (s :: segs)).idxOf? '[' = some name.length := by
      have opens : (bracketChars (s :: segs)).idxOf? '[' = some 0 := by
        rw [List.idxOf?, bracketChars, List.flatMap_cons, List.cons_append, List.findIdx?_cons, beq_self_eq_true,
          if_pos rfl]
      rw [List.idxOf?, List.findIdx?_append, ← List.idxOf?, unopened, Option.none_or, String.length_toList, opens,
        Option.map_some, Nat.zero_add]
    have long : 0 < name.length := by
      rw [← String.length_toList]
      refine List.length_pos_of_ne_nil fun empty => named ?_
      rw [← String.ofList_toList (s := name), empty, String.ofList_nil]
    rw [splitKey, toList_bracketed, first]
    split
    · next absent => cases absent
    · next zero => exact absurd (Option.some.inj zero) (Nat.ne_of_gt long)
    · next i same =>
      cases Option.some.inj same
      rw [← String.length_toList, List.take_left' rfl, List.drop_left' rfl, String.ofList_toList,
        segments_bracketChars _ closed _ (by simp [bracketChars]; omega)]

/-! ## Leaves -/

/-- The text a scalar is written as: booleans as `1`/`0`, numbers as their JSON
text; null and containers have none. -/
def leafText? : Json → Option String
  | .bool b => some (if b then "1" else "0")
  | .num n => some n.text
  | .str s => some s
  | _ => none

mutual
/-- The leaves of a value: the path to each below the value, and its text. -/
def leaves : Json → List (List String × String)
  | .arr items => leavesItems 0 items
  | .obj members => leavesMembers members
  | j => ((leafText? j).map fun t => ([], t)).toList

/-- The leaves of array items, each under its position, counted from `i`. -/
def leavesItems (i : Nat) : List Json → List (List String × String)
  | [] => []
  | x :: xs => (leaves x).map (fun l => (natText i :: l.1, l.2)) ++ leavesItems (i + 1) xs

/-- The leaves of object members, each under its key. -/
def leavesMembers : List (String × Json) → List (List String × String)
  | [] => []
  | (k, v) :: rest => (leaves v).map (fun l => (k :: l.1, l.2)) ++ leavesMembers rest
end

/-- The name of a leaf under a base name. -/
def leafPair (name : String) (l : List String × String) : String × String := (bracketed name l.1, l.2)

mutual
/-- The pairs written for a value are its leaves, each named by its path. -/
theorem flatten_eq_leaves (name : String) : ∀ j : Json, flatten name j = (leaves j).map (leafPair name)
  | .null => rfl
  | .bool _ => rfl
  | .num _ => rfl
  | .str _ => rfl
  | .arr items => by rw [flatten, leaves, flattenItems_eq_leavesItems name 0 items]
  | .obj members => by rw [flatten, leaves, flattenMembers_eq_leavesMembers name members]

theorem flattenItems_eq_leavesItems (name : String) :
    ∀ (i : Nat) (items : List Json), flattenItems name i items = (leavesItems i items).map (leafPair name)
  | _, [] => rfl
  | i, x :: xs => by
    rw [flattenItems, leavesItems, flatten_eq_leaves _ x, flattenItems_eq_leavesItems name (i + 1) xs,
      List.map_append, List.map_map]
    rfl

theorem flattenMembers_eq_leavesMembers (name : String) :
    ∀ members : List (String × Json), flattenMembers name members = (leavesMembers members).map (leafPair name)
  | [] => rfl
  | (k, v) :: rest => by
    rw [flattenMembers, leavesMembers, flatten_eq_leaves _ v, flattenMembers_eq_leavesMembers name rest,
      List.map_append, List.map_map]
    rfl
end

/-! ## Inserting leaves -/

/-- Inserting leaves one after another, as reading does with the pairs it finds. -/
def insertAll (ls : List (List String × String)) (node : List (String × Json)) : List (String × Json) :=
  ls.foldl (fun n l => QueryString.insert l.1 n (.str l.2)) node

/-- Puts a key in front of every leaf's path. -/
def under (a : String) (ls : List (List String × String)) : List (List String × String) :=
  ls.map fun l => (a :: l.1, l.2)

/-- An object of the members, or nothing when there are none. -/
def objectOf (ms : List (String × Json)) : Option Json := if ms = [] then none else some (.obj ms)

mutual
/-- What reading rebuilds of a value from its leaves: the text of every scalar,
an object keyed by position for an array, and nothing for null or for a
container with nothing under it. -/
def planted : Json → Option Json
  | .arr items => objectOf (plantedItems 0 items)
  | .obj members => objectOf (plantedMembers members)
  | j => (leafText? j).map .str

/-- The planted items that are there, keyed by position from `i`. -/
def plantedItems (i : Nat) : List Json → List (String × Json)
  | [] => []
  | x :: xs => ((planted x).map (natText i, ·)).toList ++ plantedItems (i + 1) xs

/-- The planted members that are there, under their keys. -/
def plantedMembers : List (String × Json) → List (String × Json)
  | [] => []
  | (k, v) :: rest => ((planted v).map (k, ·)).toList ++ plantedMembers rest
end

mutual
/-- Every object key is non-empty, holds no closing bracket, and is not repeated:
the names a query string spells for such a value split back into its paths. -/
def Bracketable : Json → Prop
  | .arr items => BracketableItems items
  | .obj members => (members.map Prod.fst).Nodup ∧ BracketableMembers members
  | _ => True

/-- Every item is bracketable. -/
def BracketableItems : List Json → Prop
  | [] => True
  | x :: xs => Bracketable x ∧ BracketableItems xs

/-- Every key is non-empty with no closing bracket, and every value bracketable. -/
def BracketableMembers : List (String × Json) → Prop
  | [] => True
  | (k, v) :: rest => k ≠ "" ∧ ']' ∉ k.toList ∧ Bracketable v ∧ BracketableMembers rest
end

section Insert

variable {a : String} {node : List (String × Json)}

theorem lookup_of_not_mem : ∀ {ms : List (String × Json)}, a ∉ ms.map Prod.fst → Json.lookup a ms = none
  | [], _ => rfl
  | (k, _) :: rest, fresh => by
    have other : k ≠ a := fun same => fresh (by simp [same])
    rw [Json.lookup, if_neg other, lookup_of_not_mem (fun mem => fresh (List.mem_cons_of_mem _ mem))]

theorem lookup_last {x : Json} : ∀ {ms : List (String × Json)}, a ∉ ms.map Prod.fst →
    Json.lookup a (ms ++ [(a, x)]) = some x
  | [], _ => by simp [Json.lookup]
  | (k, _) :: rest, fresh => by
    have other : k ≠ a := fun same => fresh (by simp [same])
    rw [List.cons_append, Json.lookup, if_neg other, lookup_last (fun mem => fresh (List.mem_cons_of_mem _ mem))]

theorem upsert_last {x y : Json} : ∀ {ms : List (String × Json)}, a ∉ ms.map Prod.fst →
    Json.upsert a y (ms ++ [(a, x)]) = ms ++ [(a, y)]
  | [], _ => by simp [Json.upsert]
  | (k, v) :: rest, fresh => by
    have other : k ≠ a := fun same => fresh (by simp [same])
    rw [List.cons_append, Json.upsert, if_neg other, upsert_last (fun mem => fresh (List.mem_cons_of_mem _ mem))]
    rfl

theorem insert_single (named : a ≠ "") (v : Json) : QueryString.insert [a] node v = Json.upsert a v node := by
  simp [QueryString.insert, named]

theorem insert_into {cur : List (String × Json)} {b : String} {p : List String} (named : a ≠ "")
    (found : Json.lookup a node = some (.obj cur)) (v : Json) :
    QueryString.insert (a :: b :: p) node v = Json.upsert a (.obj (QueryString.insert (b :: p) cur v)) node := by
  simp [QueryString.insert, named, found]

theorem insert_fresh {b : String} {p : List String} (named : a ≠ "") (absent : Json.lookup a node = none) (v : Json) :
    QueryString.insert (a :: b :: p) node v = Json.upsert a (.obj (QueryString.insert (b :: p) [] v)) node := by
  simp [QueryString.insert, named, absent]

/-- Leaves below a key that is already the last member go into that member. -/
theorem insertAll_under_last (named : a ≠ "") (fresh : a ∉ node.map Prod.fst) :
    ∀ (ls : List (List String × String)) (cur : List (String × Json)), (∀ l ∈ ls, l.1 ≠ []) →
      insertAll (under a ls) (node ++ [(a, .obj cur)]) = node ++ [(a, .obj (insertAll ls cur))]
  | [], _, _ => rfl
  | ((b :: p), t) :: ls, cur, deep => by
    rw [under, List.map_cons, insertAll, List.foldl_cons, ← insertAll, ← under]
    dsimp only
    rw [insert_into named (lookup_last fresh), upsert_last fresh,
      insertAll_under_last named fresh ls _ (fun l mem => deep l (List.mem_cons_of_mem _ mem))]
    rfl
  | ([], _) :: _, _, deep => absurd rfl (deep _ List.mem_cons_self)

/-- Leaves below a key the node does not have make one new member at the end. -/
theorem insertAll_under_fresh (named : a ≠ "") (fresh : a ∉ node.map Prod.fst)
    {ls : List (List String × String)} (deep : ∀ l ∈ ls, l.1 ≠ []) :
    insertAll (under a ls) node = if ls = [] then node else node ++ [(a, .obj (insertAll ls []))] := by
  match ls, deep with
  | [], _ => rfl
  | ((b :: p), t) :: ls, deep =>
    rw [under, List.map_cons, insertAll, List.foldl_cons, ← insertAll, ← under, if_neg (List.cons_ne_nil _ _)]
    dsimp only
    rw [insert_fresh named (lookup_of_not_mem fresh), Json.upsert_of_not_mem fresh,
      insertAll_under_last named fresh ls _ (fun l mem => deep l (List.mem_cons_of_mem _ mem))]
    rfl
  | ([], _) :: _, deep => exact absurd rfl (deep _ List.mem_cons_self)

end Insert

/-! ## Reading the leaves rebuilds the planted value -/

theorem natText_ne_empty (n : Nat) : natText n ≠ "" := by
  obtain ⟨c, cs, chars, -⟩ := natText_cons n
  intro empty
  rw [empty, String.toList_empty] at chars
  cases chars

theorem natText_injective {m n : Nat} (same : natText m = natText n) : m = n := by
  rw [← JsonText.digitsValue_natText m, ← JsonText.digitsValue_natText n, same]

theorem upsert_ne_nil (k : String) (v : Json) : ∀ ms : List (String × Json), Json.upsert k v ms ≠ []
  | [] => List.cons_ne_nil _ _
  | (k', v') :: rest => by
    rw [Json.upsert]
    split <;> exact List.cons_ne_nil _ _

/-- Inserting never empties a node. -/
theorem insertAll_ne_nil : ∀ (ls : List (List String × String)) {node : List (String × Json)}, node ≠ [] →
    insertAll ls node ≠ []
  | [], _, full => full
  | l :: ls, node, full => by
    rw [insertAll, List.foldl_cons, ← insertAll]
    refine insertAll_ne_nil ls ?_
    match l with
    | ([], _) => exact full
    | ([_], _) => rw [QueryString.insert]; exact upsert_ne_nil _ _ _
    | (_ :: _ :: _, _) => rw [QueryString.insert]; exact upsert_ne_nil _ _ _

/-- A first leaf with a path makes the node non-empty. -/
theorem insertAll_cons_ne_nil {l : List String × String} (deep : l.1 ≠ []) (ls : List (List String × String)) :
    insertAll (l :: ls) [] ≠ [] := by
  rw [insertAll, List.foldl_cons, ← insertAll]
  refine insertAll_ne_nil ls ?_
  match l, deep with
  | ([_], _), _ => rw [QueryString.insert]; exact upsert_ne_nil _ _ _
  | (_ :: _ :: _, _), _ => rw [QueryString.insert]; exact upsert_ne_nil _ _ _

theorem leavesItems_deep : ∀ (i : Nat) (items : List Json), ∀ l ∈ leavesItems i items, l.1 ≠ []
  | _, [] => fun _ mem => by cases mem
  | i, x :: xs => fun l mem => by
    rw [leavesItems, List.mem_append, List.mem_map] at mem
    rcases mem with ⟨_, -, rfl⟩ | later
    · exact List.cons_ne_nil _ _
    · exact leavesItems_deep (i + 1) xs l later

theorem leavesMembers_deep : ∀ (members : List (String × Json)), ∀ l ∈ leavesMembers members, l.1 ≠ []
  | [] => fun _ mem => by cases mem
  | (k, v) :: rest => fun l mem => by
    rw [leavesMembers, List.mem_append, List.mem_map] at mem
    rcases mem with ⟨_, -, rfl⟩ | later
    · exact List.cons_ne_nil _ _
    · exact leavesMembers_deep rest l later

/-- A scalar's one leaf, if it has one, becomes a member under the key. -/
theorem insertAll_leaf {a : String} {node : List (String × Json)} (named : a ≠ "") (fresh : a ∉ node.map Prod.fst)
    (t : Option String) :
    insertAll (under a ((t.map fun s => ([], s)).toList)) node = node ++ ((t.map Json.str).map (a, ·)).toList := by
  cases t with
  | none => simp [under, insertAll]
  | some s => simp [under, insertAll, insert_single named, Json.upsert_of_not_mem fresh]

/-- A container's members, rebuilt below a fresh key: one object, or nothing. -/
theorem under_objectOf {a : String} {node : List (String × Json)} {ls : List (List String × String)}
    {ms : List (String × Json)} (named : a ≠ "") (fresh : a ∉ node.map Prod.fst) (deep : ∀ l ∈ ls, l.1 ≠ [])
    (rebuilt : insertAll ls [] = ms) :
    insertAll (under a ls) node = node ++ ((objectOf ms).map (a, ·)).toList := by
  rw [insertAll_under_fresh named fresh deep]
  by_cases empty : ls = []
  · have none : ms = [] := by rw [← rebuilt, empty]; rfl
    simp [empty, none, objectOf]
  · obtain ⟨l, ls', rfl⟩ := List.exists_cons_of_ne_nil empty
    have some : ms ≠ [] := rebuilt ▸ insertAll_cons_ne_nil (deep l List.mem_cons_self) ls'
    simp [some, objectOf, rebuilt]

mutual
/-- Reading the leaves of a value below a fresh key adds the planted value
under that key, or nothing when nothing is planted. -/
theorem insertAll_leaves : ∀ (j : Json) {a : String} {node : List (String × Json)}, a ≠ "" →
    a ∉ node.map Prod.fst → Bracketable j → insertAll (under a (leaves j)) node = node ++ ((planted j).map (a, ·)).toList
  | .null, _, _, named, fresh, _ => insertAll_leaf named fresh none
  | .bool b, _, _, named, fresh, _ => insertAll_leaf named fresh (leafText? (.bool b))
  | .num n, _, _, named, fresh, _ => insertAll_leaf named fresh (leafText? (.num n))
  | .str t, _, _, named, fresh, _ => insertAll_leaf named fresh (leafText? (.str t))
  | .arr items, _, _, named, fresh, ok =>
    under_objectOf named fresh (leavesItems_deep 0 items)
      (insertAll_leavesItems items 0 [] (fun _ _ mem => by cases mem) ok)
  | .obj members, _, _, named, fresh, ok =>
    under_objectOf named fresh (leavesMembers_deep members)
      (insertAll_leavesMembers members [] (fun _ _ mem => by cases mem) ok.1 ok.2)

/-- Items are read back one after another, each under its position. -/
theorem insertAll_leavesItems : ∀ (items : List Json) (i : Nat) (cur : List (String × Json)),
    (∀ m, i ≤ m → natText m ∉ cur.map Prod.fst) → BracketableItems items →
      insertAll (leavesItems i items) cur = cur ++ plantedItems i items
  | [], _, cur, _, _ => (List.append_nil cur).symm
  | x :: xs, i, cur, fresh, ok => by
    rw [leavesItems, insertAll, List.foldl_append, ← insertAll, ← insertAll, ← under,
      insertAll_leaves x (natText_ne_empty i) (fresh i (Nat.le_refl i)) ok.1]
    -- the later positions are fresh in the grown node too
    have later : ∀ m, i + 1 ≤ m → natText m ∉ (cur ++ ((planted x).map (natText i, ·)).toList).map Prod.fst := by
      intro m above mem
      rw [List.map_append, List.mem_append] at mem
      rcases mem with old | new
      · exact fresh m (by omega) old
      · cases h : planted x <;> simp [h] at new
        exact absurd (natText_injective new) (by omega)
    rw [insertAll_leavesItems xs (i + 1) _ later ok.2, plantedItems, List.append_assoc]

/-- Members are read back one after another, each under its key. -/
theorem insertAll_leavesMembers : ∀ (members : List (String × Json)) (cur : List (String × Json)),
    (∀ k ∈ members.map Prod.fst, k ∉ cur.map Prod.fst) → (members.map Prod.fst).Nodup →
      BracketableMembers members → insertAll (leavesMembers members) cur = cur ++ plantedMembers members
  | [], cur, _, _, _ => (List.append_nil cur).symm
  | (k, v) :: rest, cur, fresh, distinct, ok => by
    rw [leavesMembers, insertAll, List.foldl_append, ← insertAll, ← insertAll, ← under,
      insertAll_leaves v ok.1 (fresh k List.mem_cons_self) ok.2.2.1]
    rw [List.map_cons, List.nodup_cons] at distinct
    -- the later keys are fresh in the grown node too, being distinct from this one
    have later : ∀ k' ∈ rest.map Prod.fst, k' ∉ (cur ++ ((planted v).map (k, ·)).toList).map Prod.fst := by
      intro k' mem inside
      rw [List.map_append, List.mem_append] at inside
      rcases inside with old | new
      · exact fresh k' (List.mem_cons_of_mem _ mem) old
      · cases h : planted v <;> simp [h] at new
        exact distinct.1 (new ▸ mem)
    rw [insertAll_leavesMembers rest _ later distinct.2 ok.2.2.2, plantedMembers, List.append_assoc]
end

/-! ## Reading a query string -/

theorem natText_closed (n : Nat) : ']' ∉ (natText n).toList := by
  rw [natText, String.toList_ofList]
  intro mem
  have := Nat.isDigit_of_mem_toDigits (by decide) (by decide) mem
  exact absurd this (by decide)

mutual
/-- Every segment of a leaf's path is free of closing brackets. -/
theorem leaves_closed : ∀ (j : Json), Bracketable j → ∀ l ∈ leaves j, ∀ s ∈ l.1, ']' ∉ s.toList
  | .null, _ => fun _ mem => by cases mem
  | .bool _, _ => fun _ mem s inside => by simp [leaves, leafText?] at mem; subst mem; cases inside
  | .num _, _ => fun _ mem s inside => by simp [leaves, leafText?] at mem; subst mem; cases inside
  | .str _, _ => fun _ mem s inside => by simp [leaves, leafText?] at mem; subst mem; cases inside
  | .arr items, ok => leavesItems_closed items 0 ok
  | .obj members, ok => leavesMembers_closed members ok.2

theorem leavesItems_closed : ∀ (items : List Json) (i : Nat), BracketableItems items →
    ∀ l ∈ leavesItems i items, ∀ s ∈ l.1, ']' ∉ s.toList
  | [], _, _ => fun _ mem => by cases mem
  | x :: xs, i, ok => fun l mem => by
    rw [leavesItems, List.mem_append, List.mem_map] at mem
    rcases mem with ⟨l', inside, rfl⟩ | later
    · intro s onPath
      rcases List.mem_cons.1 onPath with rfl | deeper
      · exact natText_closed i
      · exact leaves_closed x ok.1 l' inside s deeper
    · exact leavesItems_closed xs (i + 1) ok.2 l later

theorem leavesMembers_closed : ∀ (members : List (String × Json)), BracketableMembers members →
    ∀ l ∈ leavesMembers members, ∀ s ∈ l.1, ']' ∉ s.toList
  | [], _ => fun _ mem => by cases mem
  | (k, v) :: rest, ok => fun l mem => by
    rw [leavesMembers, List.mem_append, List.mem_map] at mem
    rcases mem with ⟨l', inside, rfl⟩ | later
    · intro s onPath
      rcases List.mem_cons.1 onPath with rfl | deeper
      · exact ok.2.1
      · exact leaves_closed v ok.2.2.1 l' inside s deeper
    · exact leavesMembers_closed rest ok.2.2.2 l later
end

/-- The query string of a value under a key reads back as the value's planted
form under the key, normalized. -/
theorem parse_build {key : String} {j : Json} (named : key ≠ "") (plain : '[' ∉ key.toList) (ok : Bracketable j) :
    parse (build key j) = normalizeMembers (((planted j).map (key, ·)).toList) := by
  have unmarked : ∀ rest, (build key j).toList ≠ '?' :: rest := fun rest same =>
    Text.FormUrl.question_not_mem_encodePairs _ (by rw [← build, same]; exact List.mem_cons_self)
  have split : ∀ l ∈ leaves j, splitKey (bracketed key l.1) = key :: l.1 := fun l mem =>
    splitKey_bracketed named plain (leaves_closed j ok l mem)
  rw [parse]
  split
  · next rest same => exact absurd same (unmarked rest)
  · rw [build, Text.FormUrl.decodePairs_encodePairs, flatten_eq_leaves, List.foldl_map]
    have reading : (leaves j).foldl (fun root l => QueryString.insert (splitKey (leafPair key l).1) root
        (.str (leafPair key l).2)) [] = insertAll (under key (leaves j)) [] := by
      rw [insertAll, under, List.foldl_map]
      exact List.foldl_ext _ _ _ fun root l mem => by rw [leafPair, split l mem]
    rw [reading, insertAll_leaves j named (by simp) ok, List.nil_append]

end ReportExport.QueryString
