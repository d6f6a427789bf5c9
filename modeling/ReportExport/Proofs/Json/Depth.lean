import ReportExport.Proofs.Json.RoundTrip
import ReportExport.Json.Decode

/-!
# Text nested past the limit is refused

The reader counts the containers it may still open, from `depthLimit` down,
and refuses a bracket or a brace when none is left. So the compact text of a
value whose containers nest at least `depthLimit` deep is refused, even when
every number in it reads back: the items before the deepest one are read as
`readValue_compact` says, and the deepest one runs out of levels.

* `JsonText.readValue_deep`: the induction, over the printer's recursion as
  in `readValue_compact`;
* `JsonText.readSpanned_deep`, `decodeText_deep`: a whole text is refused.

With `readSpanned_compact`, this says which compact texts the reader takes:
exactly those nesting below the limit.
-/

namespace ReportExport

open Text

namespace JsonText

variable {src : Source} {depth i fuel : Nat} {more : List UInt8}

/-! ## A container with no level left -/

theorem readValue_bracket_shallow (h : src.suffix i = 91 :: more) (shallow : depth ≤ 1) :
    ∃ e, readValue src depth i (fuel + 1) = .error e := by
  rw [readValue, Source.skipBlanks_of_suffix h (by decide), Source.at?_of_suffix h]
  exact ⟨_, if_pos shallow⟩

theorem readValue_brace_shallow (h : src.suffix i = 123 :: more) (shallow : depth ≤ 1) :
    ∃ e, readValue src depth i (fuel + 1) = .error e := by
  rw [readValue, Source.skipBlanks_of_suffix h (by decide), Source.at?_of_suffix h]
  exact ⟨_, if_pos shallow⟩

/-! ## An item or a member that is refused -/

section Refused

variable {first : Bool} {items : List Json} {spans : List Span} {members : List (String × Json × Span × Nat)}
  {e : SyntaxError}

theorem readItems_first_error {b : UInt8} (h : src.suffix i = b :: more)
    (blank : ¬ (b = 32 ∨ b = 10 ∨ b = 9 ∨ b = 13)) (close : b ≠ 93) (value : readValue src depth i fuel = .error e) :
    readItems src depth true items spans i (fuel + 1) = .error e := by
  rw [readItems, Source.skipBlanks_of_suffix h blank, Source.at?_of_suffix h]
  split
  · next same => exact absurd (Option.some.inj same) close
  · next missing => simp at missing
  · next c _ _ same =>
    cases Option.some.inj same
    simp only [Bool.not_true, Bool.and_false, Bool.false_eq_true, if_false, if_true, Source.at?_of_suffix h,
      value]

theorem readItems_comma_error {b : UInt8} (h : src.suffix i = 44 :: b :: more)
    (blank : ¬ (b = 32 ∨ b = 10 ∨ b = 9 ∨ b = 13)) (close : b ≠ 93)
    (value : readValue src depth (i + 1) fuel = .error e) :
    readItems src depth false items spans i (fuel + 1) = .error e := by
  have next := Source.suffix_succ h
  rw [readItems, Source.skipBlanks_of_suffix h (by decide), Source.at?_of_suffix h]
  split
  · next same => exact absurd (Option.some.inj same) (by decide)
  · next missing => simp at missing
  · next c _ _ same =>
    cases Option.some.inj same
    simp only [Bool.not_false, Bool.and_true, decide_true, if_true, Source.skipBlanks_of_suffix next blank,
      Source.at?_of_suffix next, value]

theorem readMembers_first_error {key : String} (h : src.suffix i = bytesOf (jsonQuote key) ++ 58 :: more)
    (value : readValue src depth (i + (bytesOf (jsonQuote key)).length + 1) fuel = .error e) :
    readMembers src depth true members i (fuel + 1) = .error e := by
  have quoted := readString_jsonQuote h
  have colon := Source.suffix_add h
  have opening : src.suffix i = 34 :: ((key.toList.flatMap escapedBytes ++ [34]) ++ 58 :: more) := by
    rw [h, bytesOf_jsonQuote, List.cons_append]
  rw [readMembers, Source.skipBlanks_of_suffix opening (by decide), Source.at?_of_suffix opening]
  split
  · next same => exact absurd (Option.some.inj same) (by decide)
  · next missing => simp at missing
  · next c _ _ same =>
    cases Option.some.inj same
    simp only [Bool.not_true, Bool.and_false, Bool.false_eq_true, if_false, if_true, Source.at?_of_suffix opening,
      quoted, Source.skipBlanks_of_suffix colon (by decide), Source.at?_of_suffix colon, value]

theorem readMembers_comma_error {key : String} (h : src.suffix i = 44 :: (bytesOf (jsonQuote key) ++ 58 :: more))
    (value : readValue src depth (i + 1 + (bytesOf (jsonQuote key)).length + 1) fuel = .error e) :
    readMembers src depth false members i (fuel + 1) = .error e := by
  have after := Source.suffix_succ h
  have quoted := readString_jsonQuote after
  have colon := Source.suffix_add after
  have opening : src.suffix (i + 1) = 34 :: ((key.toList.flatMap escapedBytes ++ [34]) ++ 58 :: more) := by
    rw [after, bytesOf_jsonQuote, List.cons_append]
  rw [readMembers, Source.skipBlanks_of_suffix h (by decide), Source.at?_of_suffix h]
  split
  · next same => exact absurd (Option.some.inj same) (by decide)
  · next missing => simp at missing
  · next c _ _ same =>
    cases Option.some.inj same
    simp only [Bool.not_false, Bool.and_true, decide_true, if_true, Source.skipBlanks_of_suffix opening (by decide),
      Source.at?_of_suffix opening, quoted, Source.skipBlanks_of_suffix colon (by decide), Source.at?_of_suffix colon,
      value]

end Refused

/-! ## Compact text nested too deep is refused -/

mutual
/-- Compact text of a container nesting at least as deep as the levels left is
refused. -/
theorem readValue_deep : ∀ (j : Json) {src : Source} {depth i fuel : Nat} {rest : List UInt8},
    src.suffix i = bytesOf j.compact ++ rest → j.Rereads → 0 < j.nesting → depth ≤ j.nesting →
      (bytesOf j.compact).length ≤ fuel → ∃ e, readValue src depth i fuel = .error e
  | .null, _, _, _, _, _, _, _, nested, _, _ => absurd nested (by decide)
  | .bool _, _, _, _, _, _, _, _, nested, _, _ => absurd nested (by simp [Json.nesting])
  | .num _, _, _, _, _, _, _, _, nested, _, _ => absurd nested (by simp [Json.nesting])
  | .str _, _, _, _, _, _, _, _, nested, _, _ => absurd nested (by simp [Json.nesting])
  | .arr [], _, _, i, fuel, _, h, _, _, deep, enough => by
    have bytes : bytesOf (Json.arr []).compact = [91, 93] := by decide
    rw [bytes] at h enough
    simp only [List.length_cons, List.length_nil] at enough
    obtain ⟨f, rfl⟩ : ∃ f, fuel = f + 1 := ⟨fuel - 1, by omega⟩
    simp only [Json.nesting, Json.nestingItems] at deep
    exact readValue_bracket_shallow (by rw [h, List.cons_append]) (by omega)
  | .arr (x :: xs), src, depth, i, fuel, rest, h, numbers, _, deep, enough => by
    have bytes := Json.bytesOf_compact_arr_cons x xs
    rw [bytes] at h enough
    simp only [List.length_cons, List.length_append, List.length_nil] at enough
    obtain ⟨g, rfl⟩ : ∃ g, fuel = g + 1 + 1 := ⟨fuel - 2, by omega⟩
    by_cases shallow : depth ≤ 1
    · exact readValue_bracket_shallow (by rw [h, List.cons_append]) shallow
    simp only [Json.nesting, Json.nestingItems] at deep
    obtain ⟨b, bs, head, blank, close⟩ := Json.compact_cons x
    have positive := Json.length_compact_pos x
    have inner : src.suffix (i + 1) = bytesOf x.compact ++ (Json.commaItems xs ++ 93 :: rest) :=
      Source.suffix_succ (b := 91) (by
        rw [h]
        simp only [List.cons_append, List.append_assoc, List.nil_append])
    have xNumbers : x.Rereads := fun n mem => numbers n (by simp [Json.numbers, Json.numbersItems, mem])
    rw [readValue_bracket (by rw [h, List.cons_append]) (by omega)]
    -- the first item is the deepest, or it is read and a later one is
    by_cases first : depth - 1 ≤ x.nesting
    · obtain ⟨e, refused⟩ := @readValue_deep x src (depth - 1) (i + 1) g _ inner xNumbers (by omega) first
        (by omega)
      rw [readItems_first_error (by rw [inner, head, List.cons_append]) blank close refused]
      exact ⟨e, rfl⟩
    · obtain ⟨sx, readX⟩ := @readValue_compact x src (depth - 1) (i + 1) g _ inner (delimited_commaItems xs rest)
        xNumbers (by omega) (by omega)
      obtain ⟨e, refused⟩ := @readItems_deep xs src (depth - 1) _ g [x] [sx] _ (Source.suffix_add inner)
        (fun n mem => numbers n (by simp [Json.numbers, Json.numbersItems, mem])) (by omega) (by omega) (by omega)
      rw [readItems_first (by rw [inner, head, List.cons_append]) blank close readX, refused]
      exact ⟨e, rfl⟩
  | .obj [], _, _, i, fuel, _, h, _, _, deep, enough => by
    have bytes : bytesOf (Json.obj []).compact = [123, 125] := by decide
    rw [bytes] at h enough
    simp only [List.length_cons, List.length_nil] at enough
    obtain ⟨f, rfl⟩ : ∃ f, fuel = f + 1 := ⟨fuel - 1, by omega⟩
    simp only [Json.nesting, Json.nestingMembers] at deep
    exact readValue_brace_shallow (by rw [h, List.cons_append]) (by omega)
  | .obj ((k, v) :: ms), src, depth, i, fuel, rest, h, numbers, _, deep, enough => by
    have bytes := Json.bytesOf_compact_obj_cons k v ms
    rw [bytes] at h enough
    simp only [List.length_cons, List.length_append, List.length_nil] at enough
    obtain ⟨g, rfl⟩ : ∃ g, fuel = g + 1 + 1 := ⟨fuel - 2, by omega⟩
    by_cases shallow : depth ≤ 1
    · exact readValue_brace_shallow (by rw [h, List.cons_append]) shallow
    simp only [Json.nesting, Json.nestingMembers] at deep
    have quoted := Json.length_compact_pos (.str k)
    have inner : src.suffix (i + 1) =
        bytesOf (jsonQuote k) ++ 58 :: (bytesOf v.compact ++ (Json.commaMembers ms ++ 125 :: rest)) :=
      Source.suffix_succ (b := 123) (by
        rw [h]
        simp only [List.cons_append, List.append_assoc, List.nil_append])
    have atValue : src.suffix (i + 1 + (bytesOf (jsonQuote k)).length + 1) =
        bytesOf v.compact ++ (Json.commaMembers ms ++ 125 :: rest) :=
      Source.suffix_succ (Source.suffix_add inner)
    have vNumbers : v.Rereads := fun n mem => numbers n (by simp [Json.numbers, Json.numbersMembers, mem])
    rw [readValue_brace (by rw [h, List.cons_append]) (by omega)]
    -- the first member's value is the deepest, or it is read and a later one is
    by_cases first : depth - 1 ≤ v.nesting
    · obtain ⟨e, refused⟩ := @readValue_deep v src (depth - 1) _ g _ atValue vNumbers (by omega) first (by omega)
      rw [readMembers_first_error inner refused]
      exact ⟨e, rfl⟩
    · obtain ⟨sv, readV⟩ := @readValue_compact v src (depth - 1) _ g _ atValue (delimited_commaMembers ms rest)
        vNumbers (by omega) (by omega)
      obtain ⟨e, refused⟩ := @readMembers_deep ms src (depth - 1) _ g
        [(k, v, sv, i + 1 + (bytesOf (jsonQuote k)).length)] _ (Source.suffix_add atValue)
        (fun n mem => numbers n (by simp [Json.numbers, Json.numbersMembers, mem])) (by omega) (by omega) (by omega)
      rw [readMembers_first inner readV, refused]
      exact ⟨e, rfl⟩

/-- Items behind commas, one of which nests at least as deep as the levels
left, are refused. -/
theorem readItems_deep : ∀ (xs : List Json) {src : Source} {depth i fuel : Nat} {items : List Json}
    {spans : List Span} {rest : List UInt8},
    src.suffix i = Json.commaItems xs ++ 93 :: rest → (∀ n ∈ Json.numbersItems xs, n.Rereads) → 0 < depth →
      depth ≤ Json.nestingItems xs → (Json.commaItems xs).length + 1 ≤ fuel →
      ∃ e, readItems src depth false items spans i fuel = .error e
  | [], _, _, _, _, _, _, _, _, _, positive, deep, _ => by
    simp only [Json.nestingItems] at deep
    omega
  | x :: xs, src, depth, i, fuel, items, spans, rest, h, numbers, positive, deep, enough => by
    obtain ⟨b, bs, head, blank, close⟩ := Json.compact_cons x
    have nonempty := Json.length_compact_pos x
    simp only [Json.commaItems_cons, List.length_cons, List.length_append] at h enough
    obtain ⟨g, rfl⟩ : ∃ g, fuel = g + 1 := ⟨fuel - 1, by omega⟩
    simp only [Json.nestingItems] at deep
    have inner : src.suffix (i + 1) = bytesOf x.compact ++ (Json.commaItems xs ++ 93 :: rest) :=
      Source.suffix_succ (b := 44) (by rw [h, List.cons_append, List.append_assoc])
    have xNumbers : x.Rereads := fun n mem => numbers n (by simp [Json.numbersItems, mem])
    by_cases here : depth ≤ x.nesting
    · obtain ⟨e, refused⟩ := @readValue_deep x src depth (i + 1) g _ inner xNumbers (by omega) here (by omega)
      exact ⟨e, readItems_comma_error (by rw [h, head]; rfl) blank close refused⟩
    · obtain ⟨sx, readX⟩ := @readValue_compact x src depth (i + 1) g _ inner (delimited_commaItems xs rest)
        xNumbers (by omega) (by omega)
      rw [readItems_comma (by rw [h, head]; rfl) blank close readX]
      exact readItems_deep xs (Source.suffix_add inner)
        (fun n mem => numbers n (by simp [Json.numbersItems, mem])) positive (by omega) (by omega)

/-- Members behind commas, one of whose values nests at least as deep as the
levels left, are refused. -/
theorem readMembers_deep : ∀ (ms : List (String × Json)) {src : Source} {depth i fuel : Nat}
    {members : List (String × Json × Span × Nat)} {rest : List UInt8},
    src.suffix i = Json.commaMembers ms ++ 125 :: rest → (∀ n ∈ Json.numbersMembers ms, n.Rereads) → 0 < depth →
      depth ≤ Json.nestingMembers ms → (Json.commaMembers ms).length + 1 ≤ fuel →
      ∃ e, readMembers src depth false members i fuel = .error e
  | [], _, _, _, _, _, _, _, _, positive, deep, _ => by
    simp only [Json.nestingMembers] at deep
    omega
  | (k, v) :: ms, src, depth, i, fuel, members, rest, h, numbers, positive, deep, enough => by
    have quoted := Json.length_compact_pos (.str k)
    simp only [Json.commaMembers_cons, Json.memberBytes, List.length_cons, List.length_append] at h enough
    obtain ⟨g, rfl⟩ : ∃ g, fuel = g + 1 := ⟨fuel - 1, by omega⟩
    simp only [Json.nestingMembers] at deep
    have atComma : src.suffix i =
        44 :: (bytesOf (jsonQuote k) ++ 58 :: (bytesOf v.compact ++ (Json.commaMembers ms ++ 125 :: rest))) := by
      rw [h]
      simp only [List.cons_append, List.append_assoc]
    have atValue : src.suffix (i + 1 + (bytesOf (jsonQuote k)).length + 1) =
        bytesOf v.compact ++ (Json.commaMembers ms ++ 125 :: rest) :=
      Source.suffix_succ (Source.suffix_add (Source.suffix_succ atComma))
    have vNumbers : v.Rereads := fun n mem => numbers n (by simp [Json.numbersMembers, mem])
    by_cases here : depth ≤ v.nesting
    · obtain ⟨e, refused⟩ := @readValue_deep v src depth _ g _ atValue vNumbers (by omega) here (by omega)
      exact ⟨e, readMembers_comma_error atComma refused⟩
    · obtain ⟨sv, readV⟩ := @readValue_compact v src depth _ g _ atValue (delimited_commaMembers ms rest)
        vNumbers (by omega) (by omega)
      rw [readMembers_comma atComma readV]
      exact readMembers_deep ms (Source.suffix_add atValue)
        (fun n mem => numbers n (by simp [Json.numbersMembers, mem])) positive (by omega) (by omega)
end

/-- A compact text nesting `depthLimit` deep or deeper is refused as a whole. -/
theorem readSpanned_deep (j : Json) (numbers : j.Rereads) (deep : depthLimit ≤ j.nesting) :
    ∃ e, readSpanned j.compact = .error e := by
  have whole := suffix_zero j.compact
  have size := Source.length_suffix (Source.mk j.compact.toUTF8) 0
  rw [whole, Nat.sub_zero] at size
  obtain ⟨e, refused⟩ := @readValue_deep j (Source.mk j.compact.toUTF8) depthLimit 0
    ((Source.mk j.compact.toUTF8).size + 2) [] (by rw [whole, List.append_nil]) numbers
    (Nat.lt_of_lt_of_le (by decide) deep) deep (by omega)
  refine ⟨e, ?_⟩
  rw [readSpanned]
  simp only [bind, Except.bind, refused]

end JsonText

/-- Decoding the compact text of a value nested past the limit fails, whatever
the decoder. -/
theorem decodeText_deep {α : Type} (j : Json) (numbers : j.Rereads) (deep : JsonText.depthLimit ≤ j.nesting)
    (f : Json → Decoded α) : ∃ message, decodeText j.compact f = .error message := by
  obtain ⟨e, refused⟩ := JsonText.readSpanned_deep j numbers deep
  rw [decodeText, refused]
  exact ⟨_, rfl⟩

end ReportExport
