/-!
# Similar names

The Jaro similarity of two words, used to suggest a known name for a
mistyped one. Two characters match when they are equal and no further apart
than half the longer word's length less one; each character matches at most
once, the first free one in order. With `m` matches, of which `t` pairs come in
a different order, the similarity is the mean of `m / |a|`, `m / |b|` and
`(m - t) / m`; words without matches have similarity 0, two empty words 1.

The similarity is kept as an exact fraction, so comparing it with a
threshold or with another similarity is exact.
-/

namespace ReportExport.Cli

/-- A similarity as the fraction `num / den`. -/
structure Similarity where
  num : Nat
  den : Nat
  deriving Repr, DecidableEq, Inhabited

namespace Similarity

/-- Whether one similarity is below another. -/
def lt (x y : Similarity) : Bool := x.num * y.den < y.num * x.den

/-- Whether a similarity is above the fraction `p / q`. -/
def above (x : Similarity) (p q : Nat) : Bool := p * x.den < x.num * q

end Similarity

/-- Marks the first free position of `b` within `[lo, hi)` holding `c`;
the new flags, or `none` when there is no such position. -/
def claim (c : Char) (b : List Char) (flags : List Bool) (lo hi : Nat) : Option (List Bool) :=
  let candidates := (List.range (min hi b.length)).filter fun j =>
    lo ≤ j && b.getD j ' ' == c && !flags.getD j true
  match candidates.head? with
  | some j => some (flags.set j true)
  | none => none

/-- The matched characters of `a` in order, and the flags of the matched
positions of `b`. -/
def matchAll (a b : List Char) (range : Nat) : List Char × List Bool :=
  let step := fun (acc : List Char × List Bool) (ic : Nat × Char) =>
    let (i, c) := ic
    match claim c b acc.2 (i - range) (i + range + 1) with
    | some flags => (acc.1 ++ [c], flags)
    | none => acc
  (a.zipIdx.map fun (c, i) => (i, c)).foldl step ([], List.replicate b.length false)

/-- The Jaro similarity of two words. -/
def jaro (a b : String) : Similarity :=
  let a := a.toList
  let b := b.toList
  if a.isEmpty && b.isEmpty then ⟨1, 1⟩
  else if a.isEmpty || b.isEmpty then ⟨0, 1⟩
  else
    let range := max a.length b.length / 2 - 1
    let (fromA, flags) := matchAll a b range
    let fromB := (b.zip flags).filterMap fun (c, f) => if f then some c else none
    let m := fromA.length
    if m = 0 then ⟨0, 1⟩
    else
      let t := ((fromA.zip fromB).filter fun (x, y) => x != y).length / 2
      -- m/|a| + m/|b| + (m-t)/m, over 3
      ⟨m * b.length * m + m * a.length * m + (m - t) * a.length * b.length,
       3 * a.length * b.length * m⟩

/-- The names more than 70% similar to a word, least similar first. -/
def similarNames (word : String) (names : List String) : List String :=
  let scored := (names.map fun n => (jaro word n, n)).filter fun (s, _) => s.above 7 10
  (scored.mergeSort fun x y => !(Similarity.lt y.1 x.1)).map Prod.snd

end ReportExport.Cli
