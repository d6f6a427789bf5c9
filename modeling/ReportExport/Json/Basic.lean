import ReportExport.Json.Number

/-!
# JSON values

Objects keep their members in insertion order, and a member written again
keeps its place and takes the new value. Equality of objects ignores that
order: two objects are equal when they have the same keys with equal values.
-/

namespace ReportExport

/-- A JSON value; object members are in insertion order with distinct keys. -/
inductive Json where
  | null
  | bool (b : Bool)
  | num (n : Number)
  | str (s : String)
  | arr (items : List Json)
  | obj (members : List (String × Json))
  deriving Inhabited

namespace Json

/-- The value stored under `key` in a member list. -/
def lookup (key : String) : List (String × Json) → Option Json
  | [] => none
  | (k, v) :: rest => if k = key then some v else lookup key rest

/-- Writes `key := value` into a member list: in place when the key is there,
at the end otherwise. -/
def upsert (key : String) (value : Json) : List (String × Json) → List (String × Json)
  | [] => [(key, value)]
  | (k, v) :: rest => if k = key then (k, value) :: rest else (k, v) :: upsert key value rest

/-- Builds an object from pairs, a repeated key keeping its first place and its
last value. -/
def ofPairs (pairs : List (String × Json)) : Json :=
  .obj (pairs.foldl (fun acc (k, v) => upsert k v acc) [])

mutual
/-- The value with every object's repeated keys merged, each keeping its first
place and its last value. -/
def merged : Json → Json
  | .arr xs => .arr (mergedItems xs)
  | .obj ms => ofPairs (mergedMembers ms)
  | j => j

/-- Merges inside every item. -/
def mergedItems : List Json → List Json
  | [] => []
  | x :: xs => merged x :: mergedItems xs

/-- Merges inside every member value. -/
def mergedMembers : List (String × Json) → List (String × Json)
  | [] => []
  | (k, v) :: rest => (k, merged v) :: mergedMembers rest
end

mutual
/-- Structural equality, objects compared as maps. -/
def beq : Json → Json → Bool
  | .null, .null => true
  | .bool a, .bool b => a == b
  | .num a, .num b => a == b
  | .str a, .str b => a == b
  | .arr xs, .arr ys => beqItems xs ys
  | .obj xs, .obj ys => xs.length == ys.length && beqMembers xs ys
  | _, _ => false

/-- Pointwise equality of two arrays. -/
def beqItems : List Json → List Json → Bool
  | [], [] => true
  | x :: xs, y :: ys => beq x y && beqItems xs ys
  | _, _ => false

/-- Every member of the first list is in the second with an equal value. -/
def beqMembers : List (String × Json) → List (String × Json) → Bool
  | [], _ => true
  | (k, v) :: rest, ys =>
    (match lookup k ys with
     | some w => beq v w
     | none => false) && beqMembers rest ys
end

instance : BEq Json := ⟨beq⟩

/-- The member `key` of an object; other values have no members. -/
def get? (j : Json) (key : String) : Option Json :=
  match j with
  | .obj ms => lookup key ms
  | _ => none

/-- The string, when the value is one. -/
def str? : Json → Option String
  | .str s => some s
  | _ => none

/-- The items, when the value is an array. -/
def arr? : Json → Option (List Json)
  | .arr xs => some xs
  | _ => none

/-- Whether the value is `null`. -/
def isNull : Json → Bool
  | .null => true
  | _ => false

/-- A scalar is anything but an array or an object. -/
def isScalar : Json → Bool
  | .arr _ => false
  | .obj _ => false
  | _ => true

/-- An integer as a JSON number. -/
def int (i : Int) : Json := .num (.int i)

/-- A natural number as a JSON number. -/
def nat (n : Nat) : Json := .num (.int n)

/-- A double as a JSON number; infinities and NaN become `null`. -/
def float (f : Float) : Json :=
  match Number.ofFloat? f with
  | some n => .num n
  | none => .null

/-- An optional value, `none` as `null`. -/
def opt {α : Type} (f : α → Json) : Option α → Json
  | some a => f a
  | none => .null

end Json

/-- A row of data: column names to values, in column order. -/
abbrev Row := List (String × Json)

end ReportExport
