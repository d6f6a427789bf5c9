import ReportExport.Query.Predicate
import ReportExport.Sql.Arith
import Mathlib

/-!
# LIKE patterns find exactly the needle

A text test is rendered as `column LIKE ? ESCAPE '\'` with the pattern
`%needle%`, `needle%` or `%needle`, the needle's `\`, `%` and `_` each written
after a `\`. The engine's matcher (`Sql.patternMatch`) reads `%` as any run of
characters, `_` as any one, a character after `\` as itself, and folds ASCII
case. The rows held in memory are tested by looking for the lowercased needle
in the lowercased text instead.

`likeEscaped_likePattern` states that the two agree on every needle, text and
anchor, and `like_pattern_finds_needle` what they both compute: the pattern
matches exactly when the needle, ASCII case aside, is a factor, a prefix or a
suffix of the text. So the SQL rendering of a text test and the row test agree
on every text cell.

The matcher is followed step by step: a needle character costs one step of
fuel and is compared case-folded (`match_escapedPoint_cons`), and a leading
`%` searches the text for the first needle character and goes on from each
place it finds one (`search_matched_iff`).
-/

namespace ReportExport

open Query

namespace Sql

/-- The rules `LIKE … ESCAPE '\'` matches by: `%` any run, `_` any one
character, `\` the character after it as itself, ASCII letters in either
case. -/
def escapedLikeRules : PatternRules :=
  { matchAll := 37, matchOne := 95, matchOther := 92, sets := false, noCase := true }

/-- Whether `text LIKE pattern ESCAPE '\'` holds: the matcher on the code points
of the two texts, with the fuel the LIKE function gives it. -/
def likeEscaped (pattern text : String) : Bool :=
  patternMatch escapedLikeRules (pattern.length + text.length + 2)
    (pattern.toList.map Char.toNat) (text.toList.map Char.toNat) == .matched

/-! ## Folding ASCII case -/

theorem lowerPoint_eq (n : Nat) : lowerPoint n = if 65 ≤ n ∧ n ≤ 90 then n + 32 else n := by
  simp [lowerPoint]

theorem toNat_toLower (c : Char) : c.toLower.toNat = lowerPoint c.toNat := by
  unfold Char.toLower
  rw [lowerPoint_eq]
  split
  · next upper =>
    have lo : 65 ≤ c.val.toNat := UInt32.le_iff_toNat_le.mp upper.1
    have hi : c.val.toNat ≤ 90 := UInt32.le_iff_toNat_le.mp upper.2
    change (c.val + ('a'.val - 'A'.val)).toNat = _
    rw [if_pos ⟨lo, hi⟩, UInt32.toNat_add]
    change (c.val.toNat + 32) % 2 ^ 32 = c.val.toNat + 32
    omega
  · next lower =>
    rw [if_neg fun ⟨lo, hi⟩ => lower ⟨UInt32.le_iff_toNat_le.mpr lo, UInt32.le_iff_toNat_le.mpr hi⟩]

/-- Two characters fold to the same lower case exactly when their code points
do. -/
theorem toLower_eq_iff {x c : Char} : x.toLower = c.toLower ↔ lowerPoint x.toNat = lowerPoint c.toNat := by
  rw [← toNat_toLower, ← toNat_toLower, Char.toNat_inj]

/-- The matcher's test for a pattern character, equal or equal once both are
ASCII and folded, is equality after folding. -/
theorem lowerPoint_eq_iff {x c : Nat} :
    lowerPoint x = lowerPoint c ↔ x = c ∨ ((lowerPoint x = lowerPoint c ∧ x < 128) ∧ c < 128) := by
  rw [lowerPoint_eq, lowerPoint_eq]
  by_cases hx : 65 ≤ x ∧ x ≤ 90 <;> by_cases hc : 65 ≤ c ∧ c ≤ 90 <;>
    simp only [hx, hc, and_self, ite_true, ite_false] <;> omega

/-- The matcher's test of a text character against a pattern character, equal
or equal once both are ASCII and folded, is equality after folding. -/
theorem ite_folds {α : Type} (x c : Nat) (a b : α) :
    (if x = c then a else if (lowerPoint x = lowerPoint c ∧ x < 128) ∧ c < 128 then a else b) =
      if lowerPoint x = lowerPoint c then a else b := by
  by_cases same : lowerPoint x = lowerPoint c
  · rcases lowerPoint_eq_iff.mp same with equal | folds
    · simp [equal]
    · by_cases equal : x = c <;> simp [equal, folds]
  · have differ : x ≠ c := fun equal => same (equal ▸ rfl)
    simp [differ, same]

/-- The test a `%` search makes, folding only when the pattern character is
ASCII, is equality after folding too. -/
theorem searchTest_eq (d : Nat) :
    (fun x => if d < 128 then lowerPoint x == lowerPoint d else x == d) = (fun x => lowerPoint x == lowerPoint d) := by
  funext x
  by_cases small : d < 128
  · simp [small]
  · simp only [small, ite_false]
    rw [Bool.eq_iff_iff, beq_iff_eq, beq_iff_eq, lowerPoint_eq, lowerPoint_eq]
    split <;> split <;> omega

/-! ## One pattern character -/

section Steps

variable (Q : List Nat) (k : Nat) (x : Nat) (more : List Nat)

/-- A pattern character that is neither `%`, `\` nor `_` matches a text
character that folds alike, spending one step of fuel. -/
theorem match_plain_cons {c : Nat} (all : c ≠ 37) (escape : c ≠ 92) (one : c ≠ 95) :
    patternMatch escapedLikeRules (k + 1) (c :: Q) (x :: more) =
      if lowerPoint x = lowerPoint c then patternMatch escapedLikeRules k Q more else .noMatch := by
  cases Q with
  | nil =>
    rw [patternMatch.eq_6]
    simp [escapedLikeRules, all, escape, one]
    exact ite_folds x c _ _
  | cons h m =>
    rw [patternMatch.eq_5]
    simp [escapedLikeRules, all, escape, one]
    exact ite_folds x c _ _

theorem match_plain_nil {c : Nat} (all : c ≠ 37) :
    patternMatch escapedLikeRules (k + 1) (c :: Q) [] = .noMatch := by
  cases Q with
  | nil => rw [patternMatch.eq_4]; simp [escapedLikeRules, all]
  | cons h m => rw [patternMatch.eq_3]; simp [escapedLikeRules, all]

/-- A character after the escape `\` matches a text character that folds alike,
spending one step of fuel. -/
theorem match_escape_cons {e : Nat} (present : e ≠ 0) :
    patternMatch escapedLikeRules (k + 1) (92 :: e :: Q) (x :: more) =
      if lowerPoint x = lowerPoint e then patternMatch escapedLikeRules k Q more else .noMatch := by
  rw [patternMatch.eq_5]
  simp [escapedLikeRules, present]
  exact ite_folds x e _ _

theorem match_escape_nil (e : Nat) :
    patternMatch escapedLikeRules (k + 1) (92 :: e :: Q) [] = .noMatch := by
  rw [patternMatch.eq_3]
  simp [escapedLikeRules]

end Steps

/-! ## One needle character -/

/-- The pattern code points of one needle character. -/
def escapedPoint (c : Char) : List Nat := (escapeLikeChar c).map Char.toNat

/-- The LIKE wildcards and the escape character are written after an escape;
every other character stands for itself. -/
theorem escapedPoint_eq (c : Char) :
    escapedPoint c = if c = '\\' ∨ c = '%' ∨ c = '_' then [92, c.toNat] else [c.toNat] := by
  unfold escapedPoint escapeLikeChar
  by_cases backslash : c = '\\'
  · subst backslash; rfl
  by_cases percent : c = '%'
  · subst percent; rfl
  by_cases underscore : c = '_'
  · subst underscore; rfl
  simp [backslash, percent, underscore]

theorem length_escapedPoint_pos (c : Char) : 1 ≤ (escapedPoint c).length := by
  rw [escapedPoint_eq]
  split <;> simp

section Needle

variable (Q : List Nat) (k : Nat)

/-- A needle character against the next character of the text: one step of
fuel, and a match exactly when the two fold alike. -/
theorem match_escapedPoint_cons (c x : Char) (more : List Nat) :
    patternMatch escapedLikeRules (k + 1) (escapedPoint c ++ Q) (x.toNat :: more) =
      if x.toLower = c.toLower then patternMatch escapedLikeRules k Q more else .noMatch := by
  simp only [toLower_eq_iff]
  rw [escapedPoint_eq]
  split
  · next special =>
    have present : c.toNat ≠ 0 := by
      rcases special with rfl | rfl | rfl <;> decide
    exact match_escape_cons Q k x.toNat more present
  · next plain =>
    have differs : ∀ d : Char, c ≠ d → c.toNat ≠ d.toNat := fun d ne same => ne (Char.toNat_inj.mp same)
    exact match_plain_cons Q k x.toNat more (differs '%' fun h => plain (.inr (.inl h)))
      (differs '\\' fun h => plain (.inl h)) (differs '_' fun h => plain (.inr (.inr h)))

/-- A needle character against the end of the text fails. -/
theorem match_escapedPoint_nil (c : Char) :
    patternMatch escapedLikeRules (k + 1) (escapedPoint c ++ Q) [] = .noMatch := by
  rw [escapedPoint_eq]
  split
  · exact match_escape_nil Q k c.toNat
  · next plain =>
    exact match_plain_nil Q k fun same => plain (.inr (.inl (Char.toNat_inj.mp same)))

end Needle

/-! ## The needle as a literal run -/

/-- A needle's characters, lowercased. -/
def folded (cs : List Char) : List Char := cs.map Char.toLower

@[simp] theorem folded_nil : folded [] = [] := rfl

@[simp] theorem folded_cons (c : Char) (cs : List Char) : folded (c :: cs) = c.toLower :: folded cs := rfl

@[simp] theorem length_folded (cs : List Char) : (folded cs).length = cs.length := List.length_map _

/-- The needle written into a pattern matches a text's front exactly when the
needle, folded, is a prefix of the text, folded; the rest of the pattern goes
on from there with one step of fuel spent per needle character. -/
theorem match_literal (T : List Nat) (needle cs : List Char) (fuel : Nat) :
    patternMatch escapedLikeRules (fuel + needle.length) (needle.flatMap escapedPoint ++ T) (cs.map Char.toNat) =
      if (folded needle).isPrefixOf (folded cs) then
        patternMatch escapedLikeRules fuel T ((cs.drop needle.length).map Char.toNat)
      else .noMatch := by
  induction needle generalizing cs with
  | nil => simp
  | cons c needle ih =>
    rw [List.flatMap_cons, List.append_assoc, List.length_cons, ← Nat.add_assoc]
    cases cs with
    | nil =>
      rw [List.map_nil, match_escapedPoint_nil]
      simp
    | cons x cs =>
      rw [List.map_cons, match_escapedPoint_cons, ih cs]
      by_cases same : x.toLower = c.toLower
      · simp [same]
      · have differ : ¬ c.toLower = x.toLower := fun h => same h.symm
        simp [same, differ]

theorem length_le_flatMap_escapedPoint (needle : List Char) :
    needle.length ≤ (needle.flatMap escapedPoint).length := by
  induction needle with
  | nil => simp
  | cons c needle ih =>
    have := length_escapedPoint_pos c
    simp only [List.flatMap_cons, List.length_append, List.length_cons]
    omega

/-! ## A leading `%` -/

section Percent

variable (k : Nat) (S : List Nat)

/-- A `%` that ends the pattern matches whatever is left. -/
theorem match_percent_end : patternMatch escapedLikeRules (k + 1) [37] S = .matched := by
  cases S <;> simp [patternMatch, patternMatch.skip, escapedLikeRules]

/-- Two `%` that end the pattern match whatever is left. -/
theorem match_percent_percent : patternMatch escapedLikeRules (k + 1) [37, 37] S = .matched := by
  cases S <;> simp [patternMatch, patternMatch.skip, escapedLikeRules]

/-- A `%` before a needle character searches the text for that character and
goes on after each place it is found. -/
theorem match_percent_escapedPoint (c : Char) (Q : List Nat) :
    patternMatch escapedLikeRules (k + 1) (37 :: (escapedPoint c ++ Q)) S =
      patternMatch.search escapedLikeRules k Q (fun x => lowerPoint x == lowerPoint c.toNat) S (S.length + 1) := by
  rw [← searchTest_eq, escapedPoint_eq]
  split
  · -- the escape hands the search the character after it
    next special =>
    rw [List.cons_append, List.cons_append]
    cases S with
    | nil => rw [patternMatch.eq_3]; simp [escapedLikeRules, patternMatch.skip]
    | cons x more => rw [patternMatch.eq_5]; simp [escapedLikeRules, patternMatch.skip]
  · next plain =>
    have differs : ∀ d : Char, c ≠ d → c.toNat ≠ d.toNat := fun d ne same => ne (Char.toNat_inj.mp same)
    have all : c.toNat ≠ 37 := differs '%' fun h => plain (.inr (.inl h))
    have escape : c.toNat ≠ 92 := differs '\\' fun h => plain (.inl h)
    have one : c.toNat ≠ 95 := differs '_' fun h => plain (.inr (.inr h))
    rw [List.cons_append, List.nil_append]
    cases S with
    | nil =>
      rw [patternMatch.eq_3]
      simp [escapedLikeRules, patternMatch.skip, all, escape, one]
    | cons x more =>
      rw [patternMatch.eq_5]
      simp [escapedLikeRules, patternMatch.skip, all, escape, one]

/-- The search a leading `%` makes finds a place where the needle's first
character stands and the rest of the pattern matches what follows it. -/
theorem search_matched_iff (c : Char) (Q : List Nat)
    (decided : ∀ more : List Char, patternMatch escapedLikeRules k Q (more.map Char.toNat) ≠ .noWildcardMatch)
    (cs : List Char) :
    patternMatch.search escapedLikeRules k Q (fun x => lowerPoint x == lowerPoint c.toNat)
        (cs.map Char.toNat) (cs.length + 1) = .matched ↔
      ∃ pre y post, cs = pre ++ y :: post ∧ y.toLower = c.toLower ∧
        patternMatch escapedLikeRules k Q (post.map Char.toNat) = .matched := by
  induction cs with
  | nil =>
    rw [List.map_nil, patternMatch.search.eq_2]
    simp
  | cons x cs ih =>
    rw [List.map_cons, List.length_cons, patternMatch.search.eq_3]
    -- a place is the first character, or one further on
    have split : (∃ pre y post, x :: cs = pre ++ y :: post ∧ y.toLower = c.toLower ∧
          patternMatch escapedLikeRules k Q (post.map Char.toNat) = .matched) ↔
        (x.toLower = c.toLower ∧ patternMatch escapedLikeRules k Q (cs.map Char.toNat) = .matched) ∨
          ∃ pre y post, cs = pre ++ y :: post ∧ y.toLower = c.toLower ∧
            patternMatch escapedLikeRules k Q (post.map Char.toNat) = .matched := by
      constructor
      · rintro ⟨pre, y, post, whole, same, rest⟩
        cases pre with
        | nil =>
          obtain ⟨rfl, rfl⟩ := List.cons.inj whole
          exact .inl ⟨same, rest⟩
        | cons p pre =>
          obtain ⟨rfl, later⟩ := List.cons.inj whole
          exact .inr ⟨pre, y, post, later, same, rest⟩
      · rintro (⟨same, rest⟩ | ⟨pre, y, post, later, same, rest⟩)
        · exact ⟨[], x, cs, rfl, same, rest⟩
        · exact ⟨x :: pre, y, post, by rw [later]; rfl, same, rest⟩
    rw [split, ← ih]
    by_cases same : x.toLower = c.toLower
    · have test : (lowerPoint x.toNat == lowerPoint c.toNat) = true := by
        simpa using toLower_eq_iff.mp same
      rw [if_pos test]
      cases found : patternMatch escapedLikeRules k Q (cs.map Char.toNat) with
      | matched => simp [same]
      | noMatch => simp [same]
      | noWildcardMatch => exact absurd found (decided _)
    · have test : (lowerPoint x.toNat == lowerPoint c.toNat) = false := by
        simpa using fun h => same (toLower_eq_iff.mpr h)
      rw [if_neg (by simp [test])]
      simp [same]

end Percent

/-! ## The three anchors -/

section Anchors

variable (needle text : List Char)

/-- Folded text that ends the pattern: the rest must be used up. -/
theorem folded_eq_iff_isPrefixOf {a b : List Char} :
    ((folded a).isPrefixOf (folded b) = true ∧ b.drop a.length = []) ↔ folded a = folded b := by
  rw [List.isPrefixOf_iff_prefix, List.drop_eq_nil_iff]
  constructor
  · rintro ⟨front, short⟩
    have long := front.length_le
    exact front.eq_of_length (by simp only [length_folded] at long ⊢; omega)
  · intro same
    refine ⟨same ▸ List.prefix_refl _, ?_⟩
    have := congrArg List.length same
    simp only [length_folded] at this
    omega

/-- `needle%` matches a text that starts with the needle. -/
theorem match_startsWith {fuel : Nat} (enough : needle.length + 1 ≤ fuel) :
    patternMatch escapedLikeRules fuel (needle.flatMap escapedPoint ++ [37]) (text.map Char.toNat) = .matched ↔
      (folded needle).isPrefixOf (folded text) = true := by
  obtain ⟨k, rfl⟩ : ∃ k, fuel = (k + 1) + needle.length := ⟨fuel - needle.length - 1, by omega⟩
  rw [match_literal]
  split
  · next starts => simp [starts, match_percent_end]
  · next differs => simp [differs]

/-- `%needle%` matches a text that holds the needle somewhere. -/
theorem match_contains {fuel : Nat} (enough : needle.length + 2 ≤ fuel) :
    patternMatch escapedLikeRules fuel (37 :: (needle.flatMap escapedPoint ++ [37])) (text.map Char.toNat) =
        .matched ↔
      ∃ pre post, text = pre ++ post ∧ (folded needle).isPrefixOf (folded post) = true := by
  obtain ⟨k, rfl⟩ : ∃ k, fuel = k + 1 := ⟨fuel - 1, by omega⟩
  cases needle with
  | nil =>
    simp only [List.flatMap_nil, List.nil_append, match_percent_percent, true_iff]
    exact ⟨[], text, rfl, by simp⟩
  | cons c needle =>
    have rest : ∀ more : List Char, patternMatch escapedLikeRules k (needle.flatMap escapedPoint ++ [37])
        (more.map Char.toNat) = if (folded needle).isPrefixOf (folded more) then .matched else .noMatch := by
      intro more
      obtain ⟨m, split⟩ : ∃ m, k = (m + 1) + needle.length := ⟨k - needle.length - 1, by simp only [List.length_cons] at enough; omega⟩
      rw [split, match_literal]
      split <;> simp [match_percent_end]
    have decided : ∀ more : List Char, patternMatch escapedLikeRules k (needle.flatMap escapedPoint ++ [37])
        (more.map Char.toNat) ≠ .noWildcardMatch := by
      intro more
      rw [rest]
      split <;> simp
    rw [List.flatMap_cons, List.append_assoc, match_percent_escapedPoint, List.length_map,
      search_matched_iff k c _ decided]
    constructor
    · rintro ⟨pre, y, post, whole, same, found⟩
      rw [rest] at found
      refine ⟨pre, y :: post, whole, ?_⟩
      split at found
      · next starts => simp [same, starts]
      · cases found
    · rintro ⟨pre, post, whole, starts⟩
      cases post with
      | nil => simp at starts
      | cons y post =>
        simp only [folded_cons, List.isPrefixOf_cons_cons, Bool.and_eq_true, beq_iff_eq] at starts
        refine ⟨pre, y, post, whole, starts.1.symm, ?_⟩
        rw [rest, if_pos starts.2]

/-- `%needle` matches a text that ends with the needle. -/
theorem match_endsWith {fuel : Nat} (enough : needle.length + 2 ≤ fuel) :
    patternMatch escapedLikeRules fuel (37 :: needle.flatMap escapedPoint) (text.map Char.toNat) = .matched ↔
      ∃ pre post, text = pre ++ post ∧ folded post = folded needle := by
  obtain ⟨k, rfl⟩ : ∃ k, fuel = k + 1 := ⟨fuel - 1, by omega⟩
  cases needle with
  | nil =>
    simp only [List.flatMap_nil, match_percent_end, true_iff]
    exact ⟨text, [], by simp, rfl⟩
  | cons c needle =>
    -- the needle ends the pattern, so it must use up what follows its first character
    have rest : ∀ more : List Char, patternMatch escapedLikeRules k (needle.flatMap escapedPoint)
        (more.map Char.toNat) = if folded needle = folded more then .matched else .noMatch := by
      intro more
      obtain ⟨m, split⟩ : ∃ m, k = (m + 1) + needle.length := ⟨k - needle.length - 1, by simp only [List.length_cons] at enough; omega⟩
      rw [split, ← List.append_nil (needle.flatMap escapedPoint), match_literal,
        patternMatch.eq_2 _ _ _ (Nat.succ_ne_zero m)]
      by_cases same : folded needle = folded more
      · obtain ⟨starts, used⟩ := folded_eq_iff_isPrefixOf.mpr same
        simp [used, same]
      · rw [if_neg same]
        split
        · next starts =>
          have left : more.drop needle.length ≠ [] := fun used => same (folded_eq_iff_isPrefixOf.mp ⟨starts, used⟩)
          simp only [List.isEmpty_iff, List.map_eq_nil_iff, left, ite_false]
        · rfl
    have decided : ∀ more : List Char, patternMatch escapedLikeRules k (needle.flatMap escapedPoint)
        (more.map Char.toNat) ≠ .noWildcardMatch := by
      intro more
      rw [rest]
      split <;> simp
    rw [List.flatMap_cons, match_percent_escapedPoint, List.length_map, search_matched_iff k c _ decided]
    constructor
    · rintro ⟨pre, y, post, whole, same, found⟩
      rw [rest] at found
      refine ⟨pre, y :: post, whole, ?_⟩
      split at found
      · next ends => simp [same, ends]
      · cases found
    · rintro ⟨pre, post, whole, ends⟩
      cases post with
      | nil => simp at ends
      | cons y post =>
        simp only [folded_cons, List.cons.injEq] at ends
        refine ⟨pre, y, post, whole, ends.1, ?_⟩
        rw [rest, if_pos ends.2.symm]

end Anchors

/-! ## Occurrences after folding -/

@[simp] theorem folded_append (a b : List Char) : folded (a ++ b) = folded a ++ folded b := List.map_append

/-- The folded needle starts somewhere in the folded text exactly when it is
a factor of it. -/
theorem exists_start_iff_infix {needle text : List Char} :
    (∃ pre post, text = pre ++ post ∧ (folded needle).isPrefixOf (folded post) = true) ↔
      folded needle <:+: folded text := by
  constructor
  · rintro ⟨pre, post, rfl, starts⟩
    obtain ⟨u, rest⟩ := List.isPrefixOf_iff_prefix.mp starts
    exact ⟨folded pre, u, by rw [List.append_assoc, rest, folded_append]⟩
  · rintro ⟨s, u, whole⟩
    obtain ⟨a, b, rfl, front, -⟩ := List.map_eq_append_iff.mp whole.symm
    obtain ⟨pre, mid, rfl, -, middle⟩ := List.map_eq_append_iff.mp front
    change folded mid = folded needle at middle
    refine ⟨pre, mid ++ b, List.append_assoc _ _ _, ?_⟩
    rw [List.isPrefixOf_iff_prefix, folded_append, middle]
    exact List.prefix_append _ _

/-- The folded text ends with the folded needle exactly when some end of the
text folds to it. -/
theorem exists_end_iff_suffix {needle text : List Char} :
    (∃ pre post, text = pre ++ post ∧ folded post = folded needle) ↔ folded needle <:+ folded text := by
  constructor
  · rintro ⟨pre, post, rfl, ends⟩
    exact ⟨folded pre, by rw [folded_append, ends]⟩
  · rintro ⟨front, whole⟩
    obtain ⟨pre, post, rfl, -, ends⟩ := List.map_eq_append_iff.mp whole.symm
    exact ⟨pre, post, rfl, ends⟩

/-! ## The row test -/

/-- The row test's `contains` finds the needle as a factor of the text. -/
theorem found_contains_iff (hay needle : List Char) :
    Predicate.found hay needle .contains = true ↔ needle <:+: hay := by
  simp only [Predicate.found, List.any_eq_true, List.mem_range]
  constructor
  · rintro ⟨i, -, starts⟩
    exact (List.isPrefixOf_iff_prefix.mp starts).isInfix.trans (List.drop_suffix i hay).isInfix
  · rintro ⟨s, u, rfl⟩
    refine ⟨s.length, by simp only [List.length_append]; omega, ?_⟩
    rw [List.append_assoc, List.drop_left, List.isPrefixOf_iff_prefix]
    exact List.prefix_append _ _

theorem found_startsWith_iff (hay needle : List Char) :
    Predicate.found hay needle .startsWith = true ↔ needle <+: hay :=
  List.isPrefixOf_iff_prefix

theorem found_endsWith_iff (hay needle : List Char) :
    Predicate.found hay needle .endsWith = true ↔ needle <:+ hay := by
  rw [Predicate.found, List.isPrefixOf_iff_prefix, List.reverse_prefix]

/-! ## The pattern of a text test -/

/-- An escaped needle's code points are its characters' escapes. -/
theorem points_escapeLike (needle : String) :
    (escapeLike needle).toList.map Char.toNat = needle.toList.flatMap escapedPoint := by
  simp [escapeLike, List.map_flatMap]
  rfl

theorem points_percent : "%".toList.map Char.toNat = [37] := by simp

/-- A text test's LIKE pattern matches a text exactly when the row test finds
the needle there, on every needle, text and anchor. -/
theorem likeEscaped_likePattern (needle text : String) (anchor : LikeAnchor) :
    likeEscaped (Predicate.likePattern needle anchor) text =
      Predicate.found (Predicate.lowerChars text) (Predicate.lowerChars needle) anchor := by
  have long := length_le_flatMap_escapedPoint needle.toList
  have fuel : (Predicate.likePattern needle anchor).length =
      ((Predicate.likePattern needle anchor).toList.map Char.toNat).length := by
    rw [List.length_map, String.length_toList]
  unfold likeEscaped
  rw [fuel, Bool.eq_iff_iff, beq_iff_eq]
  change _ ↔ Predicate.found (folded text.toList) (folded needle.toList) anchor = true
  cases anchor with
  | contains =>
    have points : (Predicate.likePattern needle .contains).toList.map Char.toNat =
        37 :: (needle.toList.flatMap escapedPoint ++ [37]) := by
      simp only [Predicate.likePattern, String.toList_append, List.map_append, points_escapeLike, points_percent]
      rfl
    rw [points, match_contains, exists_start_iff_infix, found_contains_iff]
    simp only [List.length_cons, List.length_append, List.length_nil]
    omega
  | startsWith =>
    have points : (Predicate.likePattern needle .startsWith).toList.map Char.toNat =
        needle.toList.flatMap escapedPoint ++ [37] := by
      simp only [Predicate.likePattern, String.toList_append, List.map_append, points_escapeLike, points_percent]
    rw [points, match_startsWith]
    · rfl
    · simp only [List.length_append, List.length_cons, List.length_nil]
      omega
  | endsWith =>
    have points : (Predicate.likePattern needle .endsWith).toList.map Char.toNat =
        37 :: needle.toList.flatMap escapedPoint := by
      simp only [Predicate.likePattern, String.toList_append, List.map_append, points_escapeLike, points_percent]
      rfl
    rw [points, match_endsWith, exists_end_iff_suffix, found_endsWith_iff]
    simp only [List.length_cons]
    omega

end Sql

open Sql in
/-- The pattern a text test binds matches a text exactly when the needle,
ASCII case aside, is in the text where the anchor says; so on every text cell
the SQL fragment, `LIKE` or `NOT LIKE`, gives the row test's answer. -/
theorem like_pattern_finds_needle (needle text : String) :
    (likeEscaped (Predicate.likePattern needle .contains) text = true ↔
      Predicate.lowerChars needle <:+: Predicate.lowerChars text) ∧
    (likeEscaped (Predicate.likePattern needle .startsWith) text = true ↔
      Predicate.lowerChars needle <+: Predicate.lowerChars text) ∧
    (likeEscaped (Predicate.likePattern needle .endsWith) text = true ↔
      Predicate.lowerChars needle <:+ Predicate.lowerChars text) ∧
    ∀ (column : String) (anchor : LikeAnchor) (negated : Bool) (row : Row),
      Predicate.cell row column = .str text →
        ∃ pattern, (Predicate.like column needle anchor negated).bindings = [.str pattern] ∧
          (Predicate.like column needle anchor negated).holds row = (likeEscaped pattern text != negated) := by
  refine ⟨?_, ?_, ?_, ?_⟩
  · rw [likeEscaped_likePattern, found_contains_iff]
  · rw [likeEscaped_likePattern, found_startsWith_iff]
  · rw [likeEscaped_likePattern, found_endsWith_iff]
  · intro column anchor negated row cell
    refine ⟨Predicate.likePattern needle anchor, rfl, ?_⟩
    simp [Predicate.holds, Predicate.column, cell, Json.isNull, textOf?, likeEscaped_likePattern]

end ReportExport
