import ReportExport.Proofs.Json.Reading

/-!
# Compact JSON text reads back as its value

`Json.compact` prints a value without blanks. Read back, the text gives the
same value, by one induction over the value that follows the printer's own
recursion: the reader meets a keyword, a number, a quoted string, or a bracket
whose items (a brace whose members) each come after a comma.

Two things about a value decide whether it comes back. Its containers must
nest less deeply than the reader's depth limit (`Json.nesting`), and each of
its numbers must be read back as itself (`Number.Rereads`): integers of the
data model are (`Number.rereads_int`), and for doubles it is what the shortest
decimal printer promises. Main statements:

* `JsonText.readSpanned_compact`: a compact text is read as the value it was
  printed from;
* `JsonText.read_compact`: `read` gives the value back when, besides, no object
  repeats a key (`Json.KeysUnique`).
-/

namespace ReportExport

open JsonText Text

namespace Json

mutual
/-- How deeply a value's containers nest; a scalar is at level 0. -/
def nesting : Json → Nat
  | .arr xs => nestingItems xs + 1
  | .obj ms => nestingMembers ms + 1
  | _ => 0

/-- The deepest nesting among array items. -/
def nestingItems : List Json → Nat
  | [] => 0
  | x :: xs => max x.nesting (nestingItems xs)

/-- The deepest nesting among member values. -/
def nestingMembers : List (String × Json) → Nat
  | [] => 0
  | (_, v) :: rest => max v.nesting (nestingMembers rest)
end

mutual
/-- The numbers of a value, in the order they are printed. -/
def numbers : Json → List Number
  | .num n => [n]
  | .arr xs => numbersItems xs
  | .obj ms => numbersMembers ms
  | _ => []

/-- The numbers of array items. -/
def numbersItems : List Json → List Number
  | [] => []
  | x :: xs => x.numbers ++ numbersItems xs

/-- The numbers of member values. -/
def numbersMembers : List (String × Json) → List Number
  | [] => []
  | (_, v) :: rest => v.numbers ++ numbersMembers rest
end

/-- A value rereads when each of its numbers does. -/
def Rereads (j : Json) : Prop := ∀ n ∈ j.numbers, n.Rereads

mutual
/-- No object in the value repeats a key. -/
def KeysUnique : Json → Prop
  | .arr xs => KeysUniqueItems xs
  | .obj ms => (ms.map Prod.fst).Nodup ∧ KeysUniqueMembers ms
  | _ => True

/-- No object in any item repeats a key. -/
def KeysUniqueItems : List Json → Prop
  | [] => True
  | x :: xs => x.KeysUnique ∧ KeysUniqueItems xs

/-- No object in any member value repeats a key. -/
def KeysUniqueMembers : List (String × Json) → Prop
  | [] => True
  | (_, v) :: rest => v.KeysUnique ∧ KeysUniqueMembers rest
end

/-! ## Merging keys changes nothing when they are distinct -/

theorem upsert_of_not_mem {key : String} {value : Json} :
    ∀ {ms : List (String × Json)}, key ∉ ms.map Prod.fst → upsert key value ms = ms ++ [(key, value)]
  | [], _ => rfl
  | (k, v) :: rest, fresh => by
    have other : k ≠ key := fun same => fresh (by simp [same])
    rw [upsert, if_neg other, upsert_of_not_mem (fun mem => fresh (List.mem_cons_of_mem _ mem))]
    rfl

theorem foldl_upsert_of_nodup :
    ∀ {ms acc : List (String × Json)}, (acc.map Prod.fst ++ ms.map Prod.fst).Nodup →
      ms.foldl (fun acc (k, v) => upsert k v acc) acc = acc ++ ms
  | [], acc, _ => by simp
  | (k, v) :: rest, acc, distinct => by
    have fresh : k ∉ acc.map Prod.fst := by
      intro mem
      exact (List.nodup_append.mp distinct).2.2 k mem k (by simp) rfl
    have distinct' : ((acc ++ [(k, v)]).map Prod.fst ++ rest.map Prod.fst).Nodup := by
      simpa [List.map_append, List.append_assoc] using distinct
    rw [List.foldl_cons]
    dsimp only
    rw [upsert_of_not_mem fresh, foldl_upsert_of_nodup distinct', List.append_assoc]
    rfl

/-- Building an object from pairs with distinct keys keeps them as they are. -/
theorem ofPairs_of_nodup {ms : List (String × Json)} (distinct : (ms.map Prod.fst).Nodup) :
    ofPairs ms = .obj ms := by
  rw [ofPairs, foldl_upsert_of_nodup (by simpa using distinct), List.nil_append]

mutual
/-- A value whose objects have distinct keys is its own merge. -/
theorem merged_of_keysUnique : ∀ (j : Json), j.KeysUnique → j.merged = j
  | .null, _ => rfl
  | .bool _, _ => rfl
  | .num _, _ => rfl
  | .str _, _ => rfl
  | .arr xs, unique => by
    rw [merged, mergedItems_of_keysUnique xs unique]
  | .obj ms, unique => by
    rw [merged, mergedMembers_of_keysUnique ms unique.2, ofPairs_of_nodup unique.1]

theorem mergedItems_of_keysUnique : ∀ (xs : List Json), KeysUniqueItems xs → mergedItems xs = xs
  | [], _ => rfl
  | x :: xs, unique => by
    rw [mergedItems, merged_of_keysUnique x unique.1, mergedItems_of_keysUnique xs unique.2]

theorem mergedMembers_of_keysUnique :
    ∀ (ms : List (String × Json)), KeysUniqueMembers ms → mergedMembers ms = ms
  | [], _ => rfl
  | (k, v) :: rest, unique => by
    rw [mergedMembers, merged_of_keysUnique v unique.1, mergedMembers_of_keysUnique rest unique.2]
end

/-! ## The bytes of compact text -/

/-- The bytes of array items after the first, each behind a comma. -/
def commaItems (xs : List Json) : List UInt8 := xs.flatMap fun x => 44 :: bytesOf x.compact

/-- The bytes of a member: its quoted key, a colon, and its value. -/
def memberBytes (k : String) (v : Json) : List UInt8 := bytesOf (jsonQuote k) ++ 58 :: bytesOf v.compact

/-- The bytes of object members after the first, each behind a comma. -/
def commaMembers (ms : List (String × Json)) : List UInt8 := ms.flatMap fun m => 44 :: memberBytes m.1 m.2

@[simp] theorem commaItems_nil : commaItems [] = [] := rfl

@[simp] theorem commaItems_cons (x : Json) (xs : List Json) :
    commaItems (x :: xs) = 44 :: (bytesOf x.compact ++ commaItems xs) := rfl

@[simp] theorem commaMembers_nil : commaMembers [] = [] := rfl

@[simp] theorem commaMembers_cons (k : String) (v : Json) (ms : List (String × Json)) :
    commaMembers ((k, v) :: ms) = 44 :: (memberBytes k v ++ commaMembers ms) := rfl

theorem bytesOf_compactItems_cons (x : Json) (xs : List Json) :
    bytesOf (compactItems (x :: xs)) = bytesOf x.compact ++ commaItems xs := by
  have comma : bytesOf "," = [44] := by decide
  induction xs generalizing x with
  | nil => simp [compactItems]
  | cons y ys ih =>
    have split : compactItems (x :: y :: ys) = compact x ++ "," ++ compactItems (y :: ys) := by
      simp only [compactItems]
    rw [split, bytesOf_append, bytesOf_append, ih y, commaItems_cons, comma, List.append_assoc,
      List.singleton_append]

theorem bytesOf_compactMembers_cons (k : String) (v : Json) (ms : List (String × Json)) :
    bytesOf (compactMembers ((k, v) :: ms)) = memberBytes k v ++ commaMembers ms := by
  have comma : bytesOf "," = [44] := by decide
  have colon : bytesOf ":" = [58] := by decide
  induction ms generalizing k v with
  | nil =>
    simp only [compactMembers, memberBytes, bytesOf_append, commaMembers_nil, List.append_nil, colon,
      List.append_assoc, List.singleton_append]
  | cons m ms ih =>
    obtain ⟨k', v'⟩ := m
    have split : compactMembers ((k, v) :: (k', v') :: ms) =
        jsonQuote k ++ ":" ++ compact v ++ "," ++ compactMembers ((k', v') :: ms) := by
      simp only [compactMembers]
    rw [split, bytesOf_append, bytesOf_append, bytesOf_append, bytesOf_append, ih k' v', commaMembers_cons,
      comma, colon]
    simp only [memberBytes, List.append_assoc, List.cons_append, List.nil_append]

/-- A non-empty array prints its first item, then each other behind a comma. -/
theorem bytesOf_compact_arr_cons (x : Json) (xs : List Json) :
    bytesOf (Json.arr (x :: xs)).compact = 91 :: (bytesOf x.compact ++ (commaItems xs ++ [93])) := by
  rw [compact, bytesOf_append, bytesOf_append, bytesOf_compactItems_cons]
  simp only [List.append_assoc]
  rfl

/-- A non-empty object prints its first member, then each other behind a comma. -/
theorem bytesOf_compact_obj_cons (k : String) (v : Json) (ms : List (String × Json)) :
    bytesOf (Json.obj ((k, v) :: ms)).compact =
      123 :: (bytesOf (jsonQuote k) ++ 58 :: (bytesOf v.compact ++ (commaMembers ms ++ [125]))) := by
  rw [compact, bytesOf_append, bytesOf_append, bytesOf_compactMembers_cons, memberBytes]
  simp only [List.append_assoc, List.cons_append]
  rfl

/-- Compact text is never empty, and it starts with neither a blank nor a
closing bracket. -/
theorem compact_cons (j : Json) :
    ∃ b bs, bytesOf j.compact = b :: bs ∧ ¬ (b = 32 ∨ b = 10 ∨ b = 9 ∨ b = 13) ∧ b ≠ 93 := by
  cases j with
  | null => exact ⟨110, [117, 108, 108], by decide, by decide, by decide⟩
  | bool b =>
    cases b
    · exact ⟨102, [97, 108, 115, 101], by decide, by decide, by decide⟩
    · exact ⟨116, [114, 117, 101], by decide, by decide, by decide⟩
  | num n =>
    obtain ⟨b, bs, bytes, lead⟩ := n.bytesOf_text_cons
    refine ⟨b, bs, bytes, ?_, ?_⟩ <;> rcases lead with rfl | rfl | digit
    all_goals first | decide | skip
    all_goals
      have bounds : 48 ≤ b.toNat ∧ b.toNat ≤ 57 := by
        simpa [Source.isDigit, UInt8.le_iff_toNat_le] using digit
    · rintro (rfl | rfl | rfl | rfl) <;> simp at bounds
    · rintro rfl
      simp at bounds
  | str s => exact ⟨34, _, by rw [compact, bytesOf_jsonQuote], by decide, by decide⟩
  | arr xs => exact ⟨91, _, by rw [compact, bytesOf_append, bytesOf_append]; rfl, by decide, by decide⟩
  | obj ms => exact ⟨123, _, by rw [compact, bytesOf_append, bytesOf_append]; rfl, by decide, by decide⟩

theorem length_compact_pos (j : Json) : 0 < (bytesOf j.compact).length := by
  obtain ⟨b, bs, bytes, _⟩ := compact_cons j
  rw [bytes, List.length_cons]
  omega

end Json


/-! ## The reader's steps on compact text -/

namespace JsonText

variable {src : Source} {depth i fuel : Nat} {more : List UInt8}

theorem readValue_null (h : src.suffix i = bytesOf "null" ++ more) :
    readValue src depth i (fuel + 1) = .ok (.null, .mk i (i + 4) [] [], i + 4) := by
  have bytes : bytesOf "null" = 110 :: [117, 108, 108] := by decide
  rw [bytes, List.cons_append] at h
  rw [readValue, Source.skipBlanks_of_suffix h (by decide), Source.at?_of_suffix h,
    Source.expectWord_of_suffix _ (Source.suffix_succ h)]
  rfl

theorem readValue_true (h : src.suffix i = bytesOf "true" ++ more) :
    readValue src depth i (fuel + 1) = .ok (.bool true, .mk i (i + 4) [] [], i + 4) := by
  have bytes : bytesOf "true" = 116 :: [114, 117, 101] := by decide
  rw [bytes, List.cons_append] at h
  rw [readValue, Source.skipBlanks_of_suffix h (by decide), Source.at?_of_suffix h,
    Source.expectWord_of_suffix _ (Source.suffix_succ h)]
  rfl

theorem readValue_false (h : src.suffix i = bytesOf "false" ++ more) :
    readValue src depth i (fuel + 1) = .ok (.bool false, .mk i (i + 5) [] [], i + 5) := by
  have bytes : bytesOf "false" = 102 :: [97, 108, 115, 101] := by decide
  rw [bytes, List.cons_append] at h
  rw [readValue, Source.skipBlanks_of_suffix h (by decide), Source.at?_of_suffix h,
    Source.expectWord_of_suffix _ (Source.suffix_succ h)]
  rfl

theorem readValue_jsonQuote {s : String} (h : src.suffix i = bytesOf (jsonQuote s) ++ more) :
    readValue src depth i (fuel + 1) =
      .ok (.str s, .mk i (i + (bytesOf (jsonQuote s)).length) [] [], i + (bytesOf (jsonQuote s)).length) := by
  have quoted := readString_jsonQuote h
  rw [bytesOf_jsonQuote, List.cons_append] at h
  rw [readValue, Source.skipBlanks_of_suffix h (by decide), Source.at?_of_suffix h, quoted]
  rfl

theorem readValue_bracket (h : src.suffix i = 91 :: more) (deep : 1 < depth) :
    readValue src depth i (fuel + 1) =
      (readItems src (depth - 1) true [] [] (i + 1) fuel).bind
        fun (items, spans, j) => .ok (.arr items, .mk i j spans [], j) := by
  rw [readValue, Source.skipBlanks_of_suffix h (by decide), Source.at?_of_suffix h]
  exact if_neg (by omega)

theorem readValue_brace (h : src.suffix i = 123 :: more) (deep : 1 < depth) :
    readValue src depth i (fuel + 1) =
      (readMembers src (depth - 1) true [] (i + 1) fuel).bind
        fun (members, j) => .ok (.obj (members.map (fun (k, v, _) => (k, v))),
          .mk i j (members.map (fun (_, _, s, _) => s)) (members.map (fun (_, _, _, e) => e)), j) := by
  rw [readValue, Source.skipBlanks_of_suffix h (by decide), Source.at?_of_suffix h]
  exact if_neg (by omega)

section Items

variable {first : Bool} {items : List Json} {spans : List Span}

theorem readItems_close (h : src.suffix i = 93 :: more) :
    readItems src depth first items spans i (fuel + 1) = .ok (items.reverse, spans.reverse, i + 1) := by
  rw [readItems, Source.skipBlanks_of_suffix h (by decide), Source.at?_of_suffix h]
  rfl

/-- The first item needs no comma before it. -/
theorem readItems_first {b : UInt8} {v : Json} {s : Span} {j : Nat} (h : src.suffix i = b :: more)
    (blank : ¬ (b = 32 ∨ b = 10 ∨ b = 9 ∨ b = 13)) (close : b ≠ 93)
    (value : readValue src depth i fuel = .ok (v, s, j)) :
    readItems src depth true items spans i (fuel + 1) = readItems src depth false (v :: items) (s :: spans) j fuel := by
  rw [readItems, Source.skipBlanks_of_suffix h blank, Source.at?_of_suffix h]
  split
  · next same => exact absurd (Option.some.inj same) close
  · next missing => simp at missing
  · next c _ _ same =>
    cases Option.some.inj same
    simp only [Bool.not_true, Bool.and_false, Bool.false_eq_true, if_false, if_true, Source.at?_of_suffix h,
      value]

/-- Every later item comes after a comma. -/
theorem readItems_comma {b : UInt8} {v : Json} {s : Span} {j : Nat} (h : src.suffix i = 44 :: b :: more)
    (blank : ¬ (b = 32 ∨ b = 10 ∨ b = 9 ∨ b = 13)) (close : b ≠ 93)
    (value : readValue src depth (i + 1) fuel = .ok (v, s, j)) :
    readItems src depth false items spans i (fuel + 1) = readItems src depth false (v :: items) (s :: spans) j fuel := by
  have next := Source.suffix_succ h
  rw [readItems, Source.skipBlanks_of_suffix h (by decide), Source.at?_of_suffix h]
  split
  · next same => exact absurd (Option.some.inj same) (by decide)
  · next missing => simp at missing
  · next c _ _ same =>
    cases Option.some.inj same
    simp only [Bool.not_false, Bool.and_true, decide_true, if_true, Source.skipBlanks_of_suffix next blank,
      Source.at?_of_suffix next, value]

end Items

section Members

variable {first : Bool} {members : List (String × Json × Span × Nat)}

theorem readMembers_close (h : src.suffix i = 125 :: more) :
    readMembers src depth first members i (fuel + 1) = .ok (members.reverse, i + 1) := by
  rw [readMembers, Source.skipBlanks_of_suffix h (by decide), Source.at?_of_suffix h]
  rfl

/-- The first member needs no comma before it: its key, a colon, and its value. -/
theorem readMembers_first {key : String} {v : Json} {s : Span} {e : Nat}
    (h : src.suffix i = bytesOf (jsonQuote key) ++ 58 :: more)
    (value : readValue src depth (i + (bytesOf (jsonQuote key)).length + 1) fuel = .ok (v, s, e)) :
    readMembers src depth true members i (fuel + 1) =
      readMembers src depth false ((key, v, s, i + (bytesOf (jsonQuote key)).length) :: members) e fuel := by
  have quoted := readString_jsonQuote h
  have colon := Source.suffix_add h
  have opening : src.suffix i = 34 :: ((key.toList.flatMap escapedBytes ++ [34]) ++ 58 :: more) := by
    rw [h, bytesOf_jsonQuote, List.cons_append]
  rw [readMembers, Source.skipBlanks_of_suffix opening (by decide), Source.at?_of_suffix opening]
  split
  · next same => exact absurd (Option.some.inj same) (by decide)
  · next missing => simp at missing
  · next c _ _ same =>
    cases Option.some.inj same
    simp only [Bool.not_true, Bool.and_false, Bool.false_eq_true, if_false, if_true, Source.at?_of_suffix opening,
      quoted, Source.skipBlanks_of_suffix colon (by decide), Source.at?_of_suffix colon, value]

/-- Every later member comes after a comma. -/
theorem readMembers_comma {key : String} {v : Json} {s : Span} {e : Nat}
    (h : src.suffix i = 44 :: (bytesOf (jsonQuote key) ++ 58 :: more))
    (value : readValue src depth (i + 1 + (bytesOf (jsonQuote key)).length + 1) fuel = .ok (v, s, e)) :
    readMembers src depth false members i (fuel + 1) =
      readMembers src depth false ((key, v, s, i + 1 + (bytesOf (jsonQuote key)).length) :: members) e fuel := by
  have after := Source.suffix_succ h
  have quoted := readString_jsonQuote after
  have colon := Source.suffix_add after
  have opening : src.suffix (i + 1) = 34 :: ((key.toList.flatMap escapedBytes ++ [34]) ++ 58 :: more) := by
    rw [after, bytesOf_jsonQuote, List.cons_append]
  rw [readMembers, Source.skipBlanks_of_suffix h (by decide), Source.at?_of_suffix h]
  split
  · next same => exact absurd (Option.some.inj same) (by decide)
  · next missing => simp at missing
  · next c _ _ same =>
    cases Option.some.inj same
    simp only [Bool.not_false, Bool.and_true, decide_true, if_true, Source.skipBlanks_of_suffix opening (by decide),
      Source.at?_of_suffix opening, quoted, Source.skipBlanks_of_suffix colon (by decide), Source.at?_of_suffix colon,
      value]

end Members

/-! ## Compact text is read back -/

theorem delimited_commaItems (xs : List Json) (rest : List UInt8) :
    Delimited (Json.commaItems xs ++ 93 :: rest) := by
  cases xs <;> simp [Delimited]

theorem delimited_commaMembers (ms : List (String × Json)) (rest : List UInt8) :
    Delimited (Json.commaMembers ms ++ 125 :: rest) := by
  rcases ms with _ | ⟨⟨k, v⟩, ms⟩ <;> simp [Delimited]

mutual
/-- Compact text followed by a delimiter is read as its value, up to its last byte. -/
theorem readValue_compact : ∀ (j : Json) {src : Source} {depth i fuel : Nat} {rest : List UInt8},
    src.suffix i = bytesOf j.compact ++ rest → Delimited rest → j.Rereads → j.nesting < depth →
      (bytesOf j.compact).length ≤ fuel →
      ∃ span, readValue src depth i fuel = .ok (j, span, i + (bytesOf j.compact).length)
  | .null, _, _, _, fuel, _, h, _, _, _, enough => by
    have length : (bytesOf Json.null.compact).length = 4 := by decide
    obtain ⟨f, rfl⟩ : ∃ f, fuel = f + 1 := ⟨fuel - 1, by omega⟩
    exact ⟨_, by rw [length, readValue_null h]⟩
  | .bool true, _, _, _, fuel, _, h, _, _, _, enough => by
    have length : (bytesOf (Json.bool true).compact).length = 4 := by decide
    obtain ⟨f, rfl⟩ : ∃ f, fuel = f + 1 := ⟨fuel - 1, by omega⟩
    exact ⟨_, by rw [length, readValue_true h]⟩
  | .bool false, _, _, _, fuel, _, h, _, _, _, enough => by
    have length : (bytesOf (Json.bool false).compact).length = 5 := by decide
    obtain ⟨f, rfl⟩ : ∃ f, fuel = f + 1 := ⟨fuel - 1, by omega⟩
    exact ⟨_, by rw [length, readValue_false h]⟩
  | .num n, src, depth, i, fuel, rest, h, delimited, numbers, _, enough => by
    have := Json.length_compact_pos (.num n)
    obtain ⟨f, rfl⟩ : ∃ f, fuel = f + 1 := ⟨fuel - 1, by omega⟩
    exact ⟨_, numbers n (by simp [Json.numbers]) src depth i f rest h delimited⟩
  | .str s, _, _, _, fuel, _, h, _, _, _, enough => by
    have := Json.length_compact_pos (.str s)
    obtain ⟨f, rfl⟩ : ∃ f, fuel = f + 1 := ⟨fuel - 1, by omega⟩
    exact ⟨_, readValue_jsonQuote h⟩
  | .arr [], _, _, i, fuel, _, h, _, _, deep, enough => by
    have bytes : bytesOf (Json.arr []).compact = [91, 93] := by decide
    rw [bytes] at h enough ⊢
    simp only [List.length_cons, List.length_nil] at enough
    obtain ⟨f, rfl⟩ : ∃ f, fuel = f + 1 + 1 := ⟨fuel - 2, by omega⟩
    simp only [Json.nesting, Json.nestingItems] at deep
    rw [List.cons_append] at h
    rw [readValue_bracket h (by omega), readItems_close (Source.suffix_succ h)]
    exact ⟨_, rfl⟩
  | .arr (x :: xs), src, depth, i, fuel, rest, h, _, numbers, deep, enough => by
    have bytes := Json.bytesOf_compact_arr_cons x xs
    rw [bytes] at h enough ⊢
    obtain ⟨b, bs, head, blank, close⟩ := Json.compact_cons x
    have positive := Json.length_compact_pos x
    have stop : i + 1 + (bytesOf x.compact).length + (Json.commaItems xs).length + 1 =
        i + (91 :: (bytesOf x.compact ++ (Json.commaItems xs ++ [93]))).length := by
      simp only [List.length_cons, List.length_append, List.length_nil]
      omega
    simp only [List.length_cons, List.length_append, List.length_nil] at enough
    obtain ⟨g, rfl⟩ : ∃ g, fuel = g + 1 + 1 := ⟨fuel - 2, by omega⟩
    simp only [Json.nesting, Json.nestingItems] at deep
    have inner : src.suffix (i + 1) = bytesOf x.compact ++ (Json.commaItems xs ++ 93 :: rest) :=
      Source.suffix_succ (b := 91) (by
        rw [h]
        simp only [List.cons_append, List.append_assoc, List.nil_append])
    obtain ⟨sx, readX⟩ := @readValue_compact x src (depth - 1) (i + 1) g _ inner (delimited_commaItems xs rest)
      (fun n mem => numbers n (by simp [Json.numbers, Json.numbersItems, mem])) (by omega) (by omega)
    obtain ⟨spans, readRest⟩ := @readItems_compact xs src (depth - 1) _ g [x] [sx] _ (Source.suffix_add inner)
      (fun n mem => numbers n (by simp [Json.numbers, Json.numbersItems, mem])) (by omega) (by omega)
    rw [readValue_bracket (by rw [h, List.cons_append]) (by omega),
      readItems_first (by rw [inner, head, List.cons_append]) blank close readX, readRest, stop]
    exact ⟨_, rfl⟩
  | .obj [], _, _, i, fuel, _, h, _, _, deep, enough => by
    have bytes : bytesOf (Json.obj []).compact = [123, 125] := by decide
    rw [bytes] at h enough ⊢
    simp only [List.length_cons, List.length_nil] at enough
    obtain ⟨f, rfl⟩ : ∃ f, fuel = f + 1 + 1 := ⟨fuel - 2, by omega⟩
    simp only [Json.nesting, Json.nestingMembers] at deep
    rw [List.cons_append] at h
    rw [readValue_brace h (by omega), readMembers_close (Source.suffix_succ h)]
    exact ⟨_, rfl⟩
  | .obj ((k, v) :: ms), src, depth, i, fuel, rest, h, _, numbers, deep, enough => by
    have bytes := Json.bytesOf_compact_obj_cons k v ms
    rw [bytes] at h enough ⊢
    have quoted := Json.length_compact_pos (.str k)
    have stop : i + 1 + (bytesOf (jsonQuote k)).length + 1 + (bytesOf v.compact).length +
        (Json.commaMembers ms).length + 1 =
        i + (123 :: (bytesOf (jsonQuote k) ++ 58 :: (bytesOf v.compact ++ (Json.commaMembers ms ++ [125])))).length := by
      simp only [List.length_cons, List.length_append, List.length_nil]
      omega
    simp only [List.length_cons, List.length_append, List.length_nil] at enough
    obtain ⟨g, rfl⟩ : ∃ g, fuel = g + 1 + 1 := ⟨fuel - 2, by omega⟩
    simp only [Json.nesting, Json.nestingMembers] at deep
    have inner : src.suffix (i + 1) = bytesOf (jsonQuote k) ++ 58 :: (bytesOf v.compact ++ (Json.commaMembers ms ++ 125 :: rest)) :=
      Source.suffix_succ (b := 123) (by
        rw [h]
        simp only [List.cons_append, List.append_assoc, List.nil_append])
    have atValue : src.suffix (i + 1 + (bytesOf (jsonQuote k)).length + 1) = bytesOf v.compact ++ (Json.commaMembers ms ++ 125 :: rest) :=
      Source.suffix_succ (Source.suffix_add inner)
    obtain ⟨sv, readV⟩ := @readValue_compact v src (depth - 1) _ g _ atValue (delimited_commaMembers ms rest)
      (fun n mem => numbers n (by simp [Json.numbers, Json.numbersMembers, mem])) (by omega) (by omega)
    obtain ⟨read, readRest, pairs⟩ := @readMembers_compact ms src (depth - 1) _ g
      [(k, v, sv, i + 1 + (bytesOf (jsonQuote k)).length)] _ (Source.suffix_add atValue)
      (fun n mem => numbers n (by simp [Json.numbers, Json.numbersMembers, mem])) (by omega) (by omega)
    rw [readValue_brace (by rw [h, List.cons_append]) (by omega), readMembers_first inner readV, readRest, stop]
    simp only [Except.bind, List.reverse_singleton, List.singleton_append, List.map_cons, pairs]
    exact ⟨_, rfl⟩

/-- The items after the first, each behind a comma, are read up to the closing bracket. -/
theorem readItems_compact : ∀ (xs : List Json) {src : Source} {depth i fuel : Nat} {items : List Json}
    {spans : List Span} {rest : List UInt8},
    src.suffix i = Json.commaItems xs ++ 93 :: rest → (∀ n ∈ Json.numbersItems xs, n.Rereads) →
      Json.nestingItems xs < depth → (Json.commaItems xs).length + 1 ≤ fuel →
      ∃ spans', readItems src depth false items spans i fuel =
        .ok (items.reverse ++ xs, spans', i + (Json.commaItems xs).length + 1)
  | [], _, _, _, fuel, items, spans, _, h, _, _, enough => by
    obtain ⟨f, rfl⟩ : ∃ f, fuel = f + 1 := ⟨fuel - 1, by omega⟩
    rw [readItems_close h, List.append_nil]
    exact ⟨_, rfl⟩
  | x :: xs, src, depth, i, fuel, items, spans, rest, h, numbers, deep, enough => by
    obtain ⟨b, bs, head, blank, close⟩ := Json.compact_cons x
    have stop : i + 1 + (bytesOf x.compact).length + (Json.commaItems xs).length + 1 =
        i + (Json.commaItems (x :: xs)).length + 1 := by
      simp only [Json.commaItems_cons, List.length_cons, List.length_append]
      omega
    simp only [Json.commaItems_cons, List.length_cons, List.length_append] at h enough
    obtain ⟨g, rfl⟩ : ∃ g, fuel = g + 1 := ⟨fuel - 1, by omega⟩
    simp only [Json.nestingItems] at deep
    have inner : src.suffix (i + 1) = bytesOf x.compact ++ (Json.commaItems xs ++ 93 :: rest) :=
      Source.suffix_succ (b := 44) (by rw [h, List.cons_append, List.append_assoc])
    obtain ⟨sx, readX⟩ := @readValue_compact x src depth (i + 1) g _ inner (delimited_commaItems xs rest)
      (fun n mem => numbers n (by simp [Json.numbersItems, mem])) (by omega) (by omega)
    obtain ⟨spans', readRest⟩ := @readItems_compact xs src depth _ g (x :: items) (sx :: spans) _
      (Source.suffix_add inner) (fun n mem => numbers n (by simp [Json.numbersItems, mem])) (by omega) (by omega)
    rw [readItems_comma (by rw [h, head]; rfl) blank close readX, readRest, stop, List.reverse_cons,
      List.append_assoc, List.singleton_append]
    exact ⟨_, rfl⟩

/-- The members after the first, each behind a comma, are read up to the closing brace. -/
theorem readMembers_compact : ∀ (ms : List (String × Json)) {src : Source} {depth i fuel : Nat}
    {members : List (String × Json × Span × Nat)} {rest : List UInt8},
    src.suffix i = Json.commaMembers ms ++ 125 :: rest → (∀ n ∈ Json.numbersMembers ms, n.Rereads) →
      Json.nestingMembers ms < depth → (Json.commaMembers ms).length + 1 ≤ fuel →
      ∃ read, readMembers src depth false members i fuel =
          .ok (members.reverse ++ read, i + (Json.commaMembers ms).length + 1) ∧
        read.map (fun m => (m.1, m.2.1)) = ms
  | [], _, _, _, fuel, members, _, h, _, _, enough => by
    obtain ⟨f, rfl⟩ : ∃ f, fuel = f + 1 := ⟨fuel - 1, by omega⟩
    rw [readMembers_close h]
    exact ⟨[], by rw [List.append_nil]; rfl, rfl⟩
  | (k, v) :: ms, src, depth, i, fuel, members, rest, h, numbers, deep, enough => by
    have stop : i + 1 + (bytesOf (jsonQuote k)).length + 1 + (bytesOf v.compact).length +
        (Json.commaMembers ms).length + 1 = i + (Json.commaMembers ((k, v) :: ms)).length + 1 := by
      simp only [Json.commaMembers_cons, Json.memberBytes, List.length_cons, List.length_append]
      omega
    simp only [Json.commaMembers_cons, Json.memberBytes, List.length_cons, List.length_append] at h enough
    obtain ⟨g, rfl⟩ : ∃ g, fuel = g + 1 := ⟨fuel - 1, by omega⟩
    simp only [Json.nestingMembers] at deep
    have atComma : src.suffix i =
        44 :: (bytesOf (jsonQuote k) ++ 58 :: (bytesOf v.compact ++ (Json.commaMembers ms ++ 125 :: rest))) := by
      rw [h]
      simp only [List.cons_append, List.append_assoc]
    have atKey := Source.suffix_succ atComma
    have atValue : src.suffix (i + 1 + (bytesOf (jsonQuote k)).length + 1) = bytesOf v.compact ++ (Json.commaMembers ms ++ 125 :: rest) :=
      Source.suffix_succ (Source.suffix_add atKey)
    obtain ⟨sv, readV⟩ := @readValue_compact v src depth _ g _ atValue (delimited_commaMembers ms rest)
      (fun n mem => numbers n (by simp [Json.numbersMembers, mem])) (by omega) (by omega)
    obtain ⟨read, readRest, pairs⟩ := @readMembers_compact ms src depth _ g
      ((k, v, sv, i + 1 + (bytesOf (jsonQuote k)).length) :: members) _ (Source.suffix_add atValue)
      (fun n mem => numbers n (by simp [Json.numbersMembers, mem])) (by omega) (by omega)
    rw [readMembers_comma atComma readV, readRest, stop, List.reverse_cons, List.append_assoc,
      List.singleton_append]
    exact ⟨_, rfl, by rw [List.map_cons, pairs]⟩
end


/-- A whole text, at offset 0, is its bytes. -/
theorem suffix_zero (text : String) : (Source.mk text.toUTF8).suffix 0 = bytesOf text := by
  rw [Source.suffix, List.drop_zero]
  rfl

/-- A compact text is read as the value it was printed from. -/
theorem readSpanned_compact (j : Json) (numbers : j.Rereads) (deep : j.nesting < depthLimit) :
    ∃ span, readSpanned j.compact = .ok (j, span) := by
  have whole := suffix_zero j.compact
  have size := Source.length_suffix (Source.mk j.compact.toUTF8) 0
  rw [whole, Nat.sub_zero] at size
  obtain ⟨span, value⟩ := @readValue_compact j (Source.mk j.compact.toUTF8) depthLimit 0
    ((Source.mk j.compact.toUTF8).size + 2) [] (by rw [whole, List.append_nil])
    (fun b mem => by simp at mem) numbers deep (by omega)
  have finished : (Source.mk j.compact.toUTF8).skipBlanks (0 + (bytesOf j.compact).length) =
      (bytesOf j.compact).length := by
    rw [Source.skipBlanks_of_suffix_nil (Source.suffix_add (by rw [whole, List.append_nil])), Nat.zero_add]
  refine ⟨span, ?_⟩
  rw [readSpanned]
  simp only [bind, Except.bind, value]
  rw [finished, if_neg (by omega)]

/-- `read` gives a compact text's value back, when its numbers reread, its
containers nest below the depth limit and no object repeats a key. -/
theorem read_compact (j : Json) (numbers : j.Rereads) (deep : j.nesting < depthLimit)
    (unique : j.KeysUnique) : read j.compact = .ok j := by
  obtain ⟨span, spanned⟩ := readSpanned_compact j numbers deep
  rw [read, spanned]
  dsimp only
  rw [Json.merged_of_keysUnique j unique]

end JsonText

end ReportExport
