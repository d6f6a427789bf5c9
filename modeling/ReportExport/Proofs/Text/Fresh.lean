import Mathlib.Combinatorics.Enumerative.DoubleCounting
import ReportExport.Text.Fresh

/-!
# Fresh names are free

`firstFree` finds a free candidate whenever each name in use rules out one
candidate at most (`free_firstFree`): among `n + 1` candidates and `n` names
in use, a candidate that clashes with none is left. Numbered names rule out
one candidate each because they are distinct: the decimal digits of a
number tell the number, padded with zeros or not (`padded_digits_inj`).
-/

namespace ReportExport

section FirstFree

variable {α : Type} {taken : List α}

/-- Some candidate among the first `taken.length + 1` is free, when each name
in use clashes with one candidate at most. -/
theorem exists_free {free : Nat → Bool} {clash : Nat → α → Prop} (start : Nat) (free_iff : ∀ k, free k = true ↔ ∀ a ∈ taken, ¬ clash k a)
    (once : ∀ a ∈ taken, ∀ k j, clash k a → clash j a → k = j) :
    ∃ k ∈ List.range' start (taken.length + 1), free k = true := by
  classical
  by_contra none
  -- every candidate clashes with a name in use, so there are as many names as candidates
  have clashing : ∀ k ∈ (List.range' start (taken.length + 1)).toFinset, ∃ a, a ∈ taken.toFinset ∧ clash k a := by
    intro k mem
    have hit : ¬ ∀ a ∈ taken, ¬ clash k a := fun missed =>
      none ⟨k, List.mem_toFinset.mp mem, (free_iff k).mpr missed⟩
    push Not at hit
    obtain ⟨a, held, clashes⟩ := hit
    exact ⟨a, List.mem_toFinset.mpr held, clashes⟩
  have counted := Finset.card_le_card_of_forall_subsingleton clash clashing
    fun a held k hk j hj => once a (List.mem_toFinset.mp held) k j hk.2 hj.2
  rw [List.toFinset_card_of_nodup List.nodup_range', List.length_range'] at counted
  have := List.toFinset_card_le taken
  omega

/-- The candidate `firstFree` picks is free, when each name in use clashes
with one candidate at most. -/
theorem free_firstFree (free : Nat → Bool) (clash : Nat → α → Prop) (taken : List α) (start : Nat) (free_iff : ∀ k, free k = true ↔ ∀ a ∈ taken, ¬ clash k a)
    (once : ∀ a ∈ taken, ∀ k j, clash k a → clash j a → k = j) :
    free (firstFree free start taken.length) = true := by
  obtain ⟨k, mem, accepted⟩ := exists_free start free_iff once
  unfold firstFree
  cases found : (List.range' start (taken.length + 1)).find? free with
  | none => exact absurd accepted (by simpa using List.find?_eq_none.mp found k mem)
  | some j => exact List.find?_some found

end FirstFree

/-! ## Numbered names -/

/-- Decimal digits tell the number, padded with zeros or not. -/
theorem padded_digits_inj {p q m n : Nat}
    (same : List.replicate p '0' ++ Nat.toDigits 10 m = List.replicate q '0' ++ Nat.toDigits 10 n) : m = n := by
  -- read both back as numbers: leading zeros add nothing
  have read := congrArg (Nat.ofDigitChars 10 · 0) same
  simpa [Nat.ofDigitChars_append, Nat.ofDigitChars_replicate_zero, Nat.ofDigitChars_ten_toDigits] using read

/-- The decimal text of a number tells the number. -/
theorem toString_injective {m n : Nat} (same : toString m = toString n) : m = n :=
  padded_digits_inj (p := 0) (q := 0) (by simpa [Nat.toString_eq_ofList_toDigits] using congrArg String.toList same)

end ReportExport
