import Mathlib
import ReportExport.Json.Decode

/-!
# Reading a record by field names

`Fields` reads a record from an object's members: `check` runs each member's
rule in the members' own order and refuses a field named twice, and
`required`, `optional` and `withDefault` read a field from the member of its
name. On members whose keys are distinct this is the plain reading of a
record: a field that is there gives its decoded value, a field that is not
gives its default, and `check` passes when every member passes its field's
rule.

The lists and maps of a value read the same way: `asListOf` decodes item by
item, and `asMap` keeps the members of an object with distinct keys as they
stand.
-/

namespace ReportExport

namespace Json

section Members

variable {ms : List (String × Json)} {key : String} {v : Json}

/-- The search behind `memberAt?` finds the member of a key that occurs once,
at whatever index the members are counted from. -/
theorem find?_zipIdx_of_mem (distinct : (ms.map Prod.fst).Nodup) (mem : (key, v) ∈ ms) (n : Nat) :
    ∃ i, (ms.zipIdx n).find? (fun ((k, _), _) => k = key) = some ((key, v), i) := by
  induction ms generalizing n with
  | nil => cases mem
  | cons m ms ih =>
    obtain ⟨k, w⟩ := m
    rw [List.map_cons, List.nodup_cons] at distinct
    rw [List.zipIdx_cons, List.find?_cons]
    by_cases same : k = key
    · subst same
      -- the key is not repeated, so the first member of that key is the one
      have first : w = v := by
        rcases List.mem_cons.mp mem with here | later
        · exact (Prod.mk.inj here).2.symm
        · exact absurd (List.mem_map_of_mem (f := Prod.fst) later) distinct.1
      subst first
      exact ⟨n, by simp⟩
    · have later : (key, v) ∈ ms := by
        rcases List.mem_cons.mp mem with here | later
        · exact absurd (Prod.mk.inj here).1.symm same
        · exact later
      obtain ⟨i, found⟩ := ih distinct.2 later (n + 1)
      exact ⟨i, by simpa [same] using found⟩

/-- The search behind `memberAt?` finds nothing for a key no member has. -/
theorem find?_zipIdx_of_not_mem (absent : key ∉ ms.map Prod.fst) (n : Nat) :
    (ms.zipIdx n).find? (fun ((k, _), _) => k = key) = none := by
  induction ms generalizing n with
  | nil => rfl
  | cons m ms ih =>
    obtain ⟨k, w⟩ := m
    rw [List.map_cons, List.mem_cons, not_or] at absent
    rw [List.zipIdx_cons, List.find?_cons]
    simpa [Ne.symm absent.1] using ih absent.2 (n + 1)

theorem memberAt?_of_mem (distinct : (ms.map Prod.fst).Nodup) (mem : (key, v) ∈ ms) :
    ∃ i, memberAt? ms key = some (i, v) := by
  obtain ⟨i, found⟩ := find?_zipIdx_of_mem distinct mem 0
  exact ⟨i, by rw [memberAt?, found]; rfl⟩

theorem memberAt?_of_not_mem (absent : key ∉ ms.map Prod.fst) : memberAt? ms key = none := by
  rw [memberAt?, find?_zipIdx_of_not_mem absent 0]
  rfl

end Members

section Containers

variable {α : Type} {f : Json → Decoded α} {g : Json → α}

/-- An array of encoded values decodes to the values, when each decodes back. -/
theorem asListOf_map {β : Type} {f : Json → Decoded β} (encode : β → Json) {xs : List β}
    (each : ∀ x ∈ xs, f (encode x) = .ok x) : asListOf f (.arr (xs.map encode)) = .ok xs := by
  -- the items are decoded with their indices, counted from any start
  have items : ∀ (ys : List β) (n : Nat), (∀ y ∈ ys, f (encode y) = .ok y) →
      ((ys.map encode).zipIdx n).mapM (fun p => Decoded.inChild p.2 (f p.1)) = .ok ys := by
    intro ys
    induction ys with
    | nil => intro _ _; rfl
    | cons y ys ih =>
      intro n each
      rw [List.forall_mem_cons] at each
      rw [List.map_cons, List.zipIdx_cons, List.mapM_cons, ih (n + 1) each.2]
      simp only [each.1]
      rfl
  exact items xs 0 each

theorem setEntry_of_not_mem {key : String} {a : α} :
    ∀ {entries : List (String × α)}, key ∉ entries.map Prod.fst →
      setEntry key a entries = entries ++ [(key, a)]
  | [], _ => rfl
  | (k, b) :: rest, absent => by
    rw [List.map_cons, List.mem_cons, not_or] at absent
    rw [setEntry, if_neg (Ne.symm absent.1), setEntry_of_not_mem absent.2]
    rfl

/-- Setting entries of distinct keys, none of them there yet, appends them. -/
theorem foldl_setEntry_of_nodup :
    ∀ {entries : List (String × α)} (acc : List (String × α)),
      (entries.map Prod.fst).Nodup → (∀ k ∈ entries.map Prod.fst, k ∉ acc.map Prod.fst) →
      entries.foldl (fun acc (k, a) => setEntry k a acc) acc = acc ++ entries
  | [], acc, _, _ => by simp
  | (k, a) :: rest, acc, distinct, fresh => by
    simp only [List.map_cons, List.nodup_cons] at distinct
    simp only [List.map_cons, List.forall_mem_cons] at fresh
    have later : ∀ k' ∈ rest.map Prod.fst, k' ∉ (acc ++ [(k, a)]).map Prod.fst := by
      intro k' mem
      simp only [List.map_append, List.map_cons, List.map_nil, List.mem_append, List.mem_singleton,
        not_or]
      exact ⟨fresh.2 k' mem, fun same => distinct.1 (same ▸ mem)⟩
    simp only [List.foldl_cons]
    rw [setEntry_of_not_mem fresh.1, foldl_setEntry_of_nodup _ distinct.2 later]
    simp

/-- An object whose every value decodes gives its members with their values
decoded and merged: a repeated key keeps its first place and its last value. -/
theorem asMap_obj_merged {ms : List (String × Json)} (each : ∀ m ∈ ms, f m.2 = .ok (g m.2)) :
    asMap f (.obj ms) =
      .ok ((ms.map fun m => (m.1, g m.2)).foldl (fun acc (k, a) => setEntry k a acc) []) := by
  have entries : ∀ (ns : List (String × Json)) (n : Nat), (∀ m ∈ ns, f m.2 = .ok (g m.2)) →
      (ns.zipIdx n).mapM (fun ((k, v), i) => (Decoded.inChild i (f v)).map (fun a => (k, a))) =
        .ok (ns.map fun m => (m.1, g m.2)) := by
    intro ns
    induction ns with
    | nil => intro _ _; rfl
    | cons m ns ih =>
      intro n each
      rw [List.forall_mem_cons] at each
      rw [List.zipIdx_cons, List.mapM_cons, ih (n + 1) each.2]
      simp only [each.1]
      rfl
  rw [asMap, entries ms 0 each]
  rfl

/-- An object of distinct keys whose every value decodes keeps its members,
with their values decoded. -/
theorem asMap_obj {ms : List (String × Json)} (distinct : (ms.map Prod.fst).Nodup)
    (each : ∀ m ∈ ms, f m.2 = .ok (g m.2)) :
    asMap f (.obj ms) = .ok (ms.map fun m => (m.1, g m.2)) := by
  have keys : ((ms.map fun m => (m.1, g m.2)).map Prod.fst) = ms.map Prod.fst := by simp
  rw [asMap_obj_merged each, foldl_setEntry_of_nodup [] (keys ▸ distinct) (by simp)]
  rfl

end Containers

/-- The member of a key when there is a value, and nothing otherwise: how a
record writes a field it leaves out when absent. -/
def optionalMember (key : String) : Option Json → List (String × Json)
  | some v => [(key, v)]
  | none => []

@[simp] theorem mem_optionalMember {key k : String} {v : Json} {o : Option Json} :
    (k, v) ∈ optionalMember key o ↔ k = key ∧ o = some v := by
  cases o <;> simp [optionalMember, eq_comm]

theorem keys_optionalMember_sublist (key : String) (o : Option Json) :
    List.Sublist ((optionalMember key o).map Prod.fst) [key] := by
  cases o <;> simp [optionalMember]

end Json

namespace Fields

/-- One step of `check`: the rule of the member's field, if it has one, run
on a field not seen before. -/
def checkStep (rules : List FieldRule) (seen : List String) : (String × Json) × Nat → Decoded (List String)
  | ((k, v), i) =>
    match rules.find? (fun r => r.name = k) with
    | some r =>
      if seen.contains k then
        .error { message := "duplicate field `" ++ k ++ "`", path := [i], anchor := .afterKey }
      else (Decoded.inChild i (r.check v)).map fun _ => k :: seen
    | none => .ok seen

theorem check_eq (fs : Fields) (rules : List FieldRule) :
    fs.check rules = (List.foldlM (checkStep rules) [] fs.members.zipIdx >>= fun _ => pure ()) :=
  rfl

/-- The fold of `check` goes through members of distinct keys, none seen
before, whose values pass their fields' rules. -/
theorem foldlM_checkStep_ok {rules : List FieldRule} :
    ∀ (ms : List (String × Json)) (seen : List String) (n : Nat),
      (ms.map Prod.fst).Nodup → (∀ k ∈ ms.map Prod.fst, k ∉ seen) →
      (∀ m ∈ ms, ∀ r ∈ rules, r.name = m.1 → r.check m.2 = .ok ()) →
      ∃ seen', List.foldlM (checkStep rules) seen (ms.zipIdx n) = .ok seen'
  | [], seen, _, _, _, _ => ⟨seen, rfl⟩
  | (k, v) :: ms, seen, n, distinct, fresh, passes => by
    simp only [List.map_cons, List.nodup_cons] at distinct
    simp only [List.map_cons, List.forall_mem_cons] at fresh
    simp only [List.forall_mem_cons] at passes
    rw [List.zipIdx_cons, List.foldlM_cons]
    -- a member with a rule adds its key to those seen; one without leaves them
    cases found : rules.find? (fun r => r.name = k) with
    | some r =>
      have named : r.name = k := by simpa using List.find?_some found
      have passed := passes.1 r (List.mem_of_find?_eq_some found) named
      have first : checkStep rules seen ((k, v), n) = .ok (k :: seen) := by
        simp [checkStep, found, fresh.1, passed, Decoded.inChild]
        rfl
      have later : ∀ k' ∈ ms.map Prod.fst, k' ∉ k :: seen := by
        intro k' mem
        rw [List.mem_cons, not_or]
        exact ⟨fun same => distinct.1 (same ▸ mem), fresh.2 k' mem⟩
      obtain ⟨seen', rest⟩ := foldlM_checkStep_ok ms (k :: seen) (n + 1) distinct.2 later passes.2
      exact ⟨seen', by rw [first]; exact rest⟩
    | none =>
      have first : checkStep rules seen ((k, v), n) = .ok seen := by simp [checkStep, found]
      obtain ⟨seen', rest⟩ := foldlM_checkStep_ok ms seen (n + 1) distinct.2 fresh.2 passes.2
      exact ⟨seen', by rw [first]; exact rest⟩

end Fields

/-- A rule passes on members when the member of its field, if there is one,
passes it. -/
def FieldRule.PassesOn (r : FieldRule) (ms : List (String × Json)) : Prop :=
  ∀ i v, Json.memberAt? ms r.name = some (i, v) → r.check v = .ok ()

namespace FieldRule

variable {ms : List (String × Json)} {key : String} {i : Nat} {v : Json} {α : Type}
  {f : Json → Decoded α} {a : α}

theorem passesOn_of_some (at_i : Json.memberAt? ms key = some (i, v)) (decoded : f v = .ok a) :
    (FieldRule.of key f).PassesOn ms := by
  intro j w at_j
  rw [show (FieldRule.of key f).name = key from rfl, at_i] at at_j
  obtain ⟨-, rfl⟩ := Prod.mk.inj (Option.some.inj at_j)
  simp [FieldRule.of, decoded]
  rfl

theorem passesOn_of_none (absent : Json.memberAt? ms key = none) : (FieldRule.of key f).PassesOn ms := by
  intro j w at_j
  rw [show (FieldRule.of key f).name = key from rfl, absent] at at_j
  cases at_j

end FieldRule

namespace Fields

variable {ms : List (String × Json)} {key : String} {i : Nat} {v : Json} {α : Type}
  {f : Json → Decoded α} {a : α}

/-- The check of members with distinct keys passes when each rule passes on
them. -/
theorem check_eq_ok {rules : List FieldRule} (distinct : (ms.map Prod.fst).Nodup)
    (passes : ∀ r ∈ rules, r.PassesOn ms) : (Fields.mk ms).check rules = .ok () := by
  have each : ∀ m ∈ ms, ∀ r ∈ rules, r.name = m.1 → r.check m.2 = .ok () := by
    intro m mem r rule named
    obtain ⟨i, at_i⟩ := Json.memberAt?_of_mem distinct mem
    exact passes r rule i m.2 (named ▸ at_i)
  obtain ⟨seen, run⟩ := foldlM_checkStep_ok ms [] 0 distinct (fun _ _ => List.not_mem_nil) each
  rw [check_eq]
  simp only [run]
  rfl

theorem required_of_some (at_i : Json.memberAt? ms key = some (i, v)) (decoded : f v = .ok a) :
    (Fields.mk ms).required key f = .ok a := by
  simp [required, at_i, decoded, Decoded.inChild]

theorem withDefault_of_some (at_i : Json.memberAt? ms key = some (i, v)) (decoded : f v = .ok a)
    (d : α) : (Fields.mk ms).withDefault key d f = .ok a := by
  simp [withDefault, at_i, decoded, Decoded.inChild]

theorem withDefault_of_none (absent : Json.memberAt? ms key = none) (d : α) :
    (Fields.mk ms).withDefault key d f = .ok d := by
  simp [withDefault, absent]

theorem optional_of_some {o : Option α} (at_i : Json.memberAt? ms key = some (i, v))
    (decoded : Json.asOption f v = .ok o) : (Fields.mk ms).optional key f = .ok o := by
  simp [optional, at_i, decoded, Decoded.inChild]

theorem optional_of_none (absent : Json.memberAt? ms key = none) :
    (Fields.mk ms).optional key f = .ok none := by
  simp [optional, absent]

/-- A field that a record writes only when it has a value reads back as that
value, written or not, and passes its rule. -/
theorem optional_of_written (distinct : (ms.map Prod.fst).Nodup) (key : String) (o : Option α)
    (encode : α → Json)
    (written : ∀ x, o = some x → (key, encode x) ∈ ms) (unwritten : o = none → key ∉ ms.map Prod.fst)
    (decodes : ∀ x, o = some x → Json.asOption f (encode x) = .ok (some x)) :
    (Fields.mk ms).optional key f = .ok o ∧ (FieldRule.of key (Json.asOption f)).PassesOn ms := by
  cases o with
  | some x =>
    obtain ⟨_, at_i⟩ := Json.memberAt?_of_mem distinct (written x rfl)
    exact ⟨optional_of_some at_i (decodes x rfl), FieldRule.passesOn_of_some at_i (decodes x rfl)⟩
  | none =>
    have absent := Json.memberAt?_of_not_mem (unwritten rfl)
    exact ⟨optional_of_none absent, FieldRule.passesOn_of_none absent⟩

/-- A field that a record leaves out when it holds its default reads back as
its value, written or not, and passes its rule. -/
theorem withDefault_of_written (distinct : (ms.map Prod.fst).Nodup) (key : String) (x d : α)
    (encode : α → Json)
    (written : x ≠ d → (key, encode x) ∈ ms) (unwritten : x = d → key ∉ ms.map Prod.fst)
    (decodes : x ≠ d → f (encode x) = .ok x) :
    (Fields.mk ms).withDefault key d f = .ok x ∧ (FieldRule.of key f).PassesOn ms := by
  by_cases same : x = d
  · have absent := Json.memberAt?_of_not_mem (unwritten same)
    rw [same]
    exact ⟨withDefault_of_none absent d, FieldRule.passesOn_of_none absent⟩
  · obtain ⟨_, at_i⟩ := Json.memberAt?_of_mem distinct (written same)
    exact ⟨withDefault_of_some at_i (decodes same) d, FieldRule.passesOn_of_some at_i (decodes same)⟩

end Fields

end ReportExport
