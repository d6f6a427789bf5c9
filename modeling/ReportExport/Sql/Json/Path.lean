import ReportExport.Sql.Json.Node

/-!
# JSON paths

A path is `$` followed by steps: `.label`, `."label"`, `[N]`, `[#]` (one
past the last item) or `[#-N]` (the N-th item from the end). A path is read
one step at a time while it is followed: a step is checked only when the
value it applies to is reached, so a malformed step under a value that is
missing makes the path find nothing rather than fail. A `.label` step is
checked before the value's kind, a `[...]` step after it.

Following a path for reading gives the value and where it sits in the binary
form of the whole. Following it to change the value can remove it, replace
it, or, when only the last container on the way exists, insert it, building
the objects and arrays the rest of the path asks for.

The merge patch of RFC 7396 combines two values: a patch that is not an
object replaces the target; otherwise each of its members is removed from
the target (a `null`), merged into the target's member of the same label,
or added.
-/

namespace ReportExport.Sql

open Text

/-! ## Steps -/

/-- The label of a `.label` step, whether it holds no escapes, and the rest
of the path; `none` when the step is malformed. -/
def labelStep (path : Bytes) : Option (Bytes × Bool × Bytes) :=
  match path with
  | 0x22 :: rest =>
    let key := rest.takeWhile (· != 0x22)
    match rest.drop key.length with
    | 0x22 :: more => some (key, !key.contains 0x5c, more)
    | _ => none
  | _ =>
    let key := path.takeWhile fun c => c != 0x2e && c != 0x5b
    if key.isEmpty then none else some (key, true, path.drop key.length)

/-- Which item an index step selects in an array of `count` items: its
position (`count` for one past the end) and the rest of the path; `none`
when the step is malformed, `some (none, _)` when it is before the start. -/
def indexStep (path : Bytes) (count : Nat) : Option (Option Nat × Bytes) :=
  let digits := path.takeWhile isDigitByte
  match path.drop digits.length with
  | 0x5d :: rest =>
    if digits.isEmpty then none
    else some (some (digits.foldl (fun n d => n * 10 + digitOf d) 0), rest)
  | _ =>
    match path with
    | 0x23 :: 0x2d :: d :: more =>
      if isDigitByte d then
        let ds := (d :: more).takeWhile isDigitByte
        let back := ds.foldl (fun n x => n * 10 + digitOf x) 0
        if back > count then some (none, [])
        else
          match (d :: more).drop ds.length with
          | 0x5d :: rest => some (some (count - back), rest)
          | _ => none
      else none
    | 0x23 :: 0x5d :: rest => some (some count, rest)
    | _ => none

/-- Whether two labels name the same member: equal once their escapes are
read. -/
def labelsMatch (key : Bytes) (keyPlain : Bool) (l : JsonLabel) : Bool :=
  let keyText := if keyPlain then key else unescapeJson key
  keyText == l.value

/-- Whether two member labels are the same. -/
def JsonLabel.same (a b : JsonLabel) : Bool := a.value == b.value

/-! ## Reading -/

/-- What following a path found. -/
inductive Located where
  /-- the value, its offset in the binary form, and the offset of its label
  when it is an object member -/
  | found (node : JsonNode) (offset : Nat) (labelOffset : Option Nat)
  | missing
  | malformed

/-- The offsets of the labels and values of an object's members, the first
label at `start`. -/
def memberOffsets (start : Nat) (members : List (JsonLabel × JsonNode)) : List (Nat × Nat) :=
  let (_, acc) := members.foldl (fun (cur, acc) (l, v) =>
    let valueAt := cur + headerSize l.text.length + l.text.length
    (valueAt + v.size, acc.push (cur, valueAt))) (start, (#[] : Array (Nat × Nat)))
  acc.toList

/-- The offsets of an array's items, the first at `start`. -/
def itemOffsets (start : Nat) (items : List JsonNode) : List Nat :=
  let (_, acc) := items.foldl (fun (cur, acc) v => (cur + v.size, acc.push cur)) (start, (#[] : Array Nat))
  acc.toList

/-- Follows the path (without its `$`) from a value at `offset`. -/
def locateFrom : Nat → JsonNode → Nat → Option Nat → Bytes → Located
  | 0, _, _, _, _ => .missing
  | fuel + 1, n, offset, label, path =>
    match path with
    | [] => .found n offset label
    | 0x2e :: rest =>
      match labelStep rest with
      | none => .malformed
      | some (key, plain, more) =>
        match n with
        | .object members =>
          let placed := members.zip (memberOffsets (offset + n.headerLength) members)
          match placed.find? (fun ((l, _), _) => labelsMatch key plain l) with
          | some ((_, v), (labelAt, valueAt)) => locateFrom fuel v valueAt (some labelAt) more
          | none => .missing
        | _ => .missing
    | 0x5b :: rest =>
      match n with
      | .array items =>
        match indexStep rest items.length with
        | none => .malformed
        | some (none, _) => .missing
        | some (some k, more) =>
          if k < items.length then
            let before := (items.take k).foldl (fun acc v => acc + v.size) 0
            locateFrom fuel (items.getD k .null) (offset + n.headerLength + before) none more
          else .missing
      | _ => .missing
    | _ => .malformed

/-- Follows a path (without its `$`) from the root. -/
def JsonNode.locate (n : JsonNode) (path : Bytes) : Located :=
  locateFrom (path.length + 2) n 0 none path

/-! ## Changing -/

/-- What a change does where the path leads. -/
inductive EditMode where
  | remove
  | replace
  | insert
  | set
  deriving DecidableEq

/-- Whether a change adds values that are missing. -/
def EditMode.adds (m : EditMode) : Bool := m == .insert || m == .set

/-- How following a path to change a value ended. -/
inductive EditOutcome where
  | done
  | missing
  | malformed
  deriving DecidableEq

/-- Follows the path (without its `$`) from a value and changes what it
leads to: the outcome and the value after the change (`none` when the value
itself was removed). -/
def editFrom (mode : EditMode) (value : JsonNode) : Nat → JsonNode → Bytes → EditOutcome × Option JsonNode
  | 0, n, _ => (.missing, some n)
  | fuel + 1, n, path =>
    -- the value the rest of a path builds from nothing
    let build (rest : Bytes) : EditOutcome × Option JsonNode :=
      match rest with
      | [] => (.done, some value)
      | 0x2e :: _ => editFrom mode value fuel (.object []) rest
      | _ => editFrom mode value fuel (.array []) rest
    match path with
    | [] =>
      match mode with
      | .remove => (.done, none)
      | .insert => (.done, some n)
      | .replace | .set => (.done, some value)
    | 0x2e :: rest =>
      match labelStep rest with
      | none => (.malformed, some n)
      | some (key, plain, more) =>
        match n with
        | .object members =>
          match members.findIdx? (fun (l, _) => labelsMatch key plain l) with
          | some k =>
            let (l, v) := members.getD k default
            let (outcome, v') := editFrom mode value fuel v more
            let members' := match v' with
              | some v' => members.set k (l, v')
              | none => members.eraseIdx k
            (outcome, some (.object members'))
          | none =>
            if mode.adds then
              match build more with
              | (.done, some v) =>
                let label : JsonLabel := { form := if plain then .raw else .loose, text := key }
                (.done, some (.object (members ++ [(label, v)])))
              | (outcome, _) => (outcome, some n)
            else (.missing, some n)
        | _ => (.missing, some n)
    | 0x5b :: rest =>
      match n with
      | .array items =>
        match indexStep rest items.length with
        | none => (.malformed, some n)
        | some (none, _) => (.missing, some n)
        | some (some k, more) =>
          if k < items.length then
            let (outcome, v') := editFrom mode value fuel (items.getD k .null) more
            let items' := match v' with
              | some v' => items.set k v'
              | none => items.eraseIdx k
            (outcome, some (.array items'))
          else if k == items.length && mode.adds then
            match build more with
            | (.done, some v) => (.done, some (.array (items ++ [v])))
            | (outcome, _) => (outcome, some n)
          else (.missing, some n)
      | _ => (.missing, some n)
    | _ => (.malformed, some n)

/-- Changes what a path (without its `$`) leads to. -/
def JsonNode.edit (n : JsonNode) (mode : EditMode) (value : JsonNode) (path : Bytes) :
    EditOutcome × Option JsonNode :=
  editFrom mode value (path.length + 2) n path

/-! ## Merge patch -/

/-- Applies a merge patch to a target, nested at most `fuel` deep. -/
def mergePatchUpTo : Nat → JsonNode → JsonNode → JsonNode
  | 0, target, _ => target
  | fuel + 1, target, patch =>
    match patch with
    | .object patchMembers =>
      let start := match target with
        | .object ms => ms
        | _ => []
      let merged := patchMembers.foldl (fun (ms : List (JsonLabel × JsonNode)) (pl, pv) =>
        match ms.findIdx? (fun (tl, _) => tl.same pl) with
        | some k =>
          match pv with
          | .null => ms.eraseIdx k
          | _ =>
            let (tl, tv) := ms.getD k default
            ms.set k (tl, mergePatchUpTo fuel tv pv)
        | none =>
          match pv with
          | .null => ms
          | .object _ => ms ++ [(pl, mergePatchUpTo fuel .null pv)]
          | _ => ms ++ [(pl, pv)]) start
      .object merged
    | _ => patch

/-- Applies a merge patch to a target. -/
def JsonNode.mergePatch (target patch : JsonNode) : JsonNode :=
  mergePatchUpTo (maxJsonDepth + 2) target patch

end ReportExport.Sql
