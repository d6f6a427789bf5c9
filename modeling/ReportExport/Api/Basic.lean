import ReportExport.Json.Print
import ReportExport.Filter.Basic
import ReportExport.Query.Compile
import ReportExport.Filter.Collection

/-!
# The JSON command interface: answers and request fields

Every request is a JSON object naming an operation; every answer is either
`{"ok": result}` or `{"error": kind, "message": text}`. A request that cannot
be read (a missing or mistyped field, an unknown operation) is answered with
the kind `bad_input`. This module holds the answer shapes, the readers of
request fields, and the names of the error kinds.
-/

namespace ReportExport.Api

/-- A successful answer. -/
def ok (result : Json) : Json := .obj [("ok", result)]

/-- An error answer of a kind with its message. -/
def failure (kind message : String) : Json := .obj [("error", .str kind), ("message", .str message)]

/-- The answer for a value that does not decode into the requested type. -/
def decodeFailure (message : String) : Json := failure "serde" message

/-- A handler: the answer, or the message of a request that cannot be read. -/
abbrev Handler := Except String Json

/-- Turns a handler's result into the answer. -/
def Handler.answer (h : Handler) : Json :=
  match h with
  | .ok j => j
  | .error m => failure "bad_input" m

/-- A field that must be a string. -/
def str (req : Json) (key : String) : Except String String :=
  match req.get? key with
  | some (.str s) => .ok s
  | _ => .error ("missing string field '" ++ key ++ "'")

/-- A field that may be absent or null, and otherwise must be a string. -/
def strOpt (req : Json) (key : String) : Except String (Option String) :=
  match req.get? key with
  | none | some .null => .ok none
  | some (.str s) => .ok (some s)
  | _ => .error ("missing string field '" ++ key ++ "'")

/-- A field that must be an array. -/
def arr (req : Json) (key : String) : Except String (List Json) :=
  match req.get? key with
  | some (.arr xs) => .ok xs
  | _ => .error ("missing array field '" ++ key ++ "'")

/-- A field that may be absent, and otherwise must be an array. -/
def arrOpt (req : Json) (key : String) : Except String (Option (List Json)) :=
  match req.get? key with
  | none | some .null => .ok none
  | some (.arr xs) => .ok (some xs)
  | _ => .error ("missing array field '" ++ key ++ "'")

/-- A field that must be an object. -/
def objField (req : Json) (key : String) : Except String (List (String × Json)) :=
  match req.get? key with
  | some (.obj ms) => .ok ms
  | _ => .error ("missing object field '" ++ key ++ "'")

/-- A field that must be a non-negative integer. -/
def nat (req : Json) (key : String) : Except String Nat :=
  match req.get? key with
  | some (.num (.int i)) => if i ≥ 0 then .ok i.toNat else .error ("missing integer field '" ++ key ++ "'")
  | _ => .error ("missing integer field '" ++ key ++ "'")

/-- A field that may be absent, and otherwise must be a non-negative integer. -/
def natOpt (req : Json) (key : String) : Except String (Option Nat) :=
  match req.get? key with
  | none | some .null => .ok none
  | some _ => (nat req key).map some

/-- A field that must be an integer. -/
def int (req : Json) (key : String) : Except String Int :=
  match req.get? key with
  | some (.num (.int i)) => .ok i
  | _ => .error ("missing integer field '" ++ key ++ "'")

/-- A field that may be absent, and otherwise must be an integer. -/
def intOpt (req : Json) (key : String) : Except String (Option Int) :=
  match req.get? key with
  | none | some .null => .ok none
  | some _ => (int req key).map some

/-- A boolean field, false when absent. -/
def flag (req : Json) (key : String) : Bool :=
  match req.get? key with
  | some (.bool b) => b
  | _ => false

/-- The error kind of a filter error. -/
def FilterError.kind : FilterError → String
  | .unknownOperator _ => "DecodeError.UnknownOperator"
  | .missingValue _ _ => "DecodeError.MissingValue"
  | .invalidOperand _ _ _ => "DecodeError.InvalidOperand"
  | .emptyColumn => "DecodeError.EmptyColumn"

/-- The answer for a filter error. -/
def FilterError.answer (e : FilterError) : Json := failure (FilterError.kind e) e.message

/-- The error kind of a compile error. -/
def CompileError.kind : Query.CompileError → String
  | .invalidOperand _ _ _ => "CompileError.InvalidOperand"
  | .unknownColumn _ _ => "CompileError.UnknownColumn"

/-- The answer for a compile error. -/
def CompileError.answer (e : Query.CompileError) : Json := failure (CompileError.kind e) e.message

end ReportExport.Api

namespace ReportExport.Api

/-- A step's entry: its answer with the snapshot fields added. -/
def withSnapshot (answer : Json) (snapshot : List (String × Json)) : Json :=
  match answer with
  | .obj ms => .obj (ms ++ snapshot)
  | j => .obj (("ok", j) :: snapshot)

/-- The name of a step. -/
def stepName (step : Json) : Except String String := str step "do"

/-- The error for a step that is not known. -/
def unknownStep {α : Type} (name : String) : Except String α :=
  .error ("unknown step '" ++ name ++ "'")

/-- The filter settings of a request: its `default_group`, if any. -/
def settingsOf (req : Json) : FilterSettings :=
  match req.get? "default_group" with
  | some (.str g) => { defaultGroup := g }
  | _ => {}

end ReportExport.Api
