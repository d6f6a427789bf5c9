import ReportExport.Cli.Help
import ReportExport.Config.File

/-!
# Reading a command line

The arguments after the program name are read left to right:

* after `--` every argument is a plain value;
* `--name`, `--name=value`, `-c value`, `-cvalue` and `-c=value` give
  options; an option's value may be the next argument unless that looks
  like a flag;
* `-h`/`--help` prints the help of the current level at once, and
  `-V`/`--version` the version at the top level;
* at the top level a plain argument names the command, and the options
  that follow belong to it; `status` and `retry` take one id.

Values are checked as they are read, so the first bad argument is the one
reported: an id must be a 64-bit integer and a chunk size a natural number
of 64 bits, with the standard library's reasons when they are not. An option
may be given once per level; a command's value wins over the top level's,
and a variable of the environment stands in for an option given nowhere. A
missing id is reported last.

An unknown name is answered with the known names that are most like it.
-/

namespace ReportExport.Cli

open Config

/-- A command of the program. -/
inductive Command where
  | work (watch : Bool)
  | status (id : Int)
  | retry (id : Int)
  deriving Repr, DecidableEq, Inhabited

/-- What a command line asks for. -/
inductive Invocation where
  /-- Runs a command, the default one when none is named. -/
  | run (overrides : Overrides) (command : Option Command)
  /-- Prints a text and succeeds: a help or the version. -/
  | display (text : String)
  /-- Refuses the command line with a usage error. -/
  | refuse (text : String)
  deriving Repr, DecidableEq, Inhabited

/-- An environment: variables and their values. -/
abbrev Environment := List (String × String)

/-- Reads a decimal integer within `[lo, hi]` the way the standard library
does, or gives the reason it is not one. A sign is allowed, a minus only
when `lo` is negative. -/
def readInteger (s : String) (lo hi : Int) : Except String Int :=
  let cs := s.toList
  let (negative, digits) : Bool × List Char := match cs with
    | '+' :: rest => (false, rest)
    | '-' :: rest => if lo < 0 then (true, rest) else (false, cs)
    | _ => (false, cs)
  if cs.isEmpty then .error "cannot parse integer from empty string"
  else if digits.isEmpty then .error "invalid digit found in string"
  else digits.foldlM (fun (acc : Int) c =>
    if c.isDigit then
      let d : Int := (c.toNat - '0'.toNat : Nat)
      let v := if negative then acc * 10 - d else acc * 10 + d
      if hi < v then .error "number too large to fit in target type"
      else if v < lo then .error "number too small to fit in target type"
      else .ok v
    else .error "invalid digit found in string") 0

/-- The bounds of a 64-bit signed integer. -/
def int64Bounds : Int × Int := (-Int.pow 2 63, Int.pow 2 63 - 1)

/-- Reads a record id. -/
def readId (s : String) : Except String Int := readInteger s int64Bounds.1 int64Bounds.2

/-- Reads a chunk size. -/
def readSize (s : String) : Except String Nat := (readInteger s 0 (Int.pow 2 64 - 1)).map Int.toNat

/-- How far reading has come. -/
structure Scan where
  level : Level := .top
  /-- Option values given at the top level, once the command is named. -/
  topValues : List (String × String) := []
  /-- Option values given at the current level. -/
  values : List (String × String) := []
  watch : Bool := false
  id : Option Int := none
  /-- What was given at the current level, as usage texts name it. -/
  used : List String := []
  /-- The command names given to `help`. -/
  helpNames : List String := []
  /-- Whether `--` was given. -/
  trailing : Bool := false
  deriving Repr, Inhabited

/-- Whether an argument would be read as a flag rather than a value. -/
def flagLike (a : String) : Bool := a.startsWith "-" && a != "-"

/-- The value option of a long name. -/
def optionOfLong? (name : String) : Option ValueOption := valueOptions.find? (·.long == name)

/-- The usage shown with an error: the level's full usage when nothing was
given, else what was given with the id the level needs. -/
def smartUsage (l : Level) (used : List String) : String :=
  if used.isEmpty then l.usage
  else
    let opts := used.filter (· != "<ID>")
    " ".intercalate ([l.invocation] ++ opts ++ (if l.takesId then ["<ID>"] else []))

/-- The error for an option given twice at one level. -/
def givenTwice (l : Level) (display : String) : Invocation :=
  .refuse (usageError ("the argument '" ++ display ++ "' cannot be used multiple times") [] (some l.usage))

/-- The error for an option without its value. -/
def missingValue (o : ValueOption) : Invocation :=
  .refuse (usageError ("a value is required for '" ++ o.display ++ "' but none was supplied") [] none)

/-- The error for a value that does not read. -/
def invalidValue (what value reason : String) : Invocation :=
  .refuse (usageError ("invalid value '" ++ value ++ "' for '" ++ what ++ "': " ++ reason) [] none)

/-- The tip offered for an argument that could be meant as a value. -/
def valueTip (arg : String) : String := "to pass '" ++ arg ++ "' as a value, use '-- " ++ arg ++ "'"

/-- The error for an unknown short flag. -/
def unknownShort (st : Scan) (arg : String) : Invocation :=
  .refuse (usageError ("unexpected argument '" ++ arg ++ "' found")
    (if st.level.takesId && !st.trailing then [valueTip arg] else []) (some st.level.usage))

/-- The error for an unknown long flag, with the most similar known flag of
the level, or else of a command named later on the line. -/
def unknownLong (st : Scan) (name : String) (remaining : List String) : Invocation :=
  let arg := "--" ++ name
  let own := (similarNames name st.level.longs).getLast?
  let viaCommand : Option (String × String) :=
    if st.level != .top || own.isSome then none
    else
      let found := [Level.work, .status, .retry].filterMap fun c =>
        match (similarNames name c.longs).getLast?, remaining.idxOf? c.name with
        | some flag, some pos => some (pos, (c.name, flag))
        | _, _ => none
      ((found.mergeSort fun x y => x.1 ≤ y.1).head?).map Prod.snd
  let used := match own with
    | some flag => st.used ++ [match optionOfLong? flag with
        | some o => o.display
        | none => "--" ++ flag]
    | none => st.used
  let tips := (match own with
      | some flag => ["a similar argument exists: '--" ++ flag ++ "'"]
      | none => []) ++
    (match viaCommand with
      | some (c, flag) => ["'" ++ c ++ " --" ++ flag ++ "' exists"]
      | none => []) ++
    (if own.isNone && st.level.takesId && !st.trailing then [valueTip arg] else [])
  .refuse (usageError ("unexpected argument '" ++ arg ++ "' found") tips
    (some (smartUsage st.level used)))

/-- The error for a plain argument at the top level that names no command. -/
def unknownCommand (name : String) : Invocation :=
  let similar := similarNames name (Level.commands.map Level.name)
  let tips := match similar with
    | [] => []
    | [one] => ["a similar subcommand exists: '" ++ one ++ "'"]
    | many => ["some similar subcommands exist: " ++ quoted many]
  .refuse (usageError ("unrecognized subcommand '" ++ name ++ "'") tips (some Level.top.usage))

/-- The error for a command's name given after `--`, where only values stand. -/
def commandAfterDashes (name : String) : Invocation :=
  .refuse (usageError ("unexpected argument '" ++ name ++ "' found")
    ["subcommand '" ++ name ++ "' exists; to use it, remove the '--' before it"] (some Level.top.usage))

/-- The error for a value attached to a flag that takes none. -/
def valueNotTaken (st : Scan) (display value : String) : Invocation :=
  .refuse (usageError ("unexpected value '" ++ value ++ "' for '" ++ display ++ "' found; no more were expected") []
    (some (smartUsage st.level (st.used ++ [display]))))

/-- The error for a plain argument the level has no place for. -/
def unexpectedValue (l : Level) (arg : String) : Invocation :=
  .refuse (usageError ("unexpected argument '" ++ arg ++ "' found") [] (some l.usage))

/-- Records an option's value at the current level, checking it. -/
def setValue (st : Scan) (o : ValueOption) (v : String) : Except Invocation Scan :=
  if st.values.any (·.1 == o.long) then .error (givenTwice st.level o.display)
  else if o.long == "chunk-size" then
    match readSize v with
    | .ok _ => .ok { st with values := st.values ++ [(o.long, v)], used := st.used ++ [o.display] }
    | .error reason => .error (invalidValue o.display v reason)
  else if (o.long == "config" || o.long == "db") && v.isEmpty then .error (missingValue o)
  else .ok { st with values := st.values ++ [(o.long, v)], used := st.used ++ [o.display] }

/-- Takes a plain argument at the current level. -/
def takeValue (st : Scan) (a : String) : Except Invocation Scan :=
  match st.level with
  | .top =>
    match Level.ofName? a with
    | some l =>
      if st.trailing then .error (commandAfterDashes a)
      else .ok { st with level := l, topValues := st.values, values := [], used := [] }
    | none => .error (unknownCommand a)
  | .work => .error (unexpectedValue .work a)
  | .help => .ok { st with helpNames := st.helpNames ++ [a] }
  | l =>
    if st.id.isSome then .error (unexpectedValue l a)
    else match readId a with
      | .ok id => .ok { st with id := some id, used := st.used ++ ["<ID>"] }
      | .error reason => .error (invalidValue "<ID>" a reason)

/-- The value of an option: the command's, the top level's, or the
environment's. -/
def valueOf (st : Scan) (env : Environment) (o : ValueOption) : Option String :=
  st.values.lookup o.long <|> st.topValues.lookup o.long <|> env.lookup o.envVar

/-- Ends reading: checks the environment's values, then the id, and builds
the invocation. -/
def finish (env : Environment) (st : Scan) : Invocation :=
  let fromEnv := valueOptions.filter fun o => !(st.values.any (·.1 == o.long)) && (env.lookup o.envVar).isSome
  let badEnv := fromEnv.findSome? fun o =>
    match env.lookup o.envVar with
    | some v =>
      if o.long == "chunk-size" then
        match readSize v with
        | .ok _ => none
        | .error reason => some (invalidValue o.display v reason)
      else if (o.long == "config" || o.long == "db") && v.isEmpty then some (missingValue o)
      else none
    | none => none
  match badEnv with
  | some refusal => refusal
  | none =>
    let used := st.used ++ fromEnv.map ValueOption.display
    let named (long : String) : Option String := (optionOfLong? long).bind (valueOf st env)
    let overrides : Overrides :=
      { configPath := named "config", db := named "db", queue := named "queue",
        connection := named "connection",
        chunkSize := (named "chunk-size").bind fun v => (readSize v).toOption }
    match st.level with
    | .top => .run overrides none
    | .work => .run overrides (some (.work st.watch))
    | .help =>
      match st.helpNames with
      | [] => .display (helpText env .top)
      | n :: _ =>
        match Level.ofName? n with
        | some l => .display (helpText env l)
        | none =>
          .refuse (usageError ("unrecognized subcommand '" ++ n ++ "'") [] (some Level.top.usage))
    | l =>
      match st.id with
      | none =>
        .refuse (usageError "the following required arguments were not provided:\n  <ID>" []
          (some (smartUsage l (used ++ ["<ID>"]))))
      | some id => .run overrides (some (if l == .status then .status id else .retry id))

/-- Takes the value of an option from the next argument. -/
def pendingValue (st : Scan) (o : ValueOption) (rest : List String) :
    Except Invocation (Scan × List String) :=
  match rest with
  | [] => .error (missingValue o)
  | v :: rest =>
    if flagLike v then
      -- a known flag leaves the option without value; an unknown one is
      -- reported as unknown
      let known := v == "--" ||
        (v.startsWith "--" && (st.level.longs.contains ((v.drop 2).takeWhile (· != '=')).toString)) ||
        (!v.startsWith "--" && ['c', 'h'].contains (v.toList.getD 1 ' ')) ||
        (!v.startsWith "--" && st.level == .top && v.toList.getD 1 ' ' == 'V')
      if known then .error (missingValue o)
      else if v.startsWith "--" then
        .error (unknownLong st ((v.drop 2).takeWhile (· != '=')).toString rest)
      else .error (unknownShort st ("-" ++ String.singleton (v.toList.getD 1 ' ')))
    else (setValue st o v).map (·, rest)

/-- Reads the arguments. -/
def scan (env : Environment) : List String → Scan → Invocation
  | [], st => finish env st
  | a :: rest, st =>
    if st.trailing || a == "-" || !a.startsWith "-" then
      match takeValue st a with
      | .ok st => scan env rest st
      | .error refusal => refusal
    else if a == "--" then scan env rest { st with trailing := true }
    else if st.level == .help then unexpectedValue .help a
    else if a.startsWith "--" then
      let body := (a.drop 2).toString
      let name := (body.takeWhile (· != '=')).toString
      let attached : Option String :=
        if body.contains '=' then some (body.dropWhile (· != '=') |>.drop 1).toString else none
      if name == "help" then .display (helpText env st.level)
      else if name == "version" && st.level == .top then .display versionText
      else if name == "watch" && st.level == .work then
        match attached with
        | some v => valueNotTaken st "--watch" v
        | none =>
          if st.watch then givenTwice .work "--watch"
          else scan env rest { st with watch := true, used := st.used ++ ["--watch"] }
      else match optionOfLong? name with
        | some o =>
          match attached with
          | some v =>
            match setValue st o v with
            | .ok st => scan env rest st
            | .error refusal => refusal
          | none =>
            match rest with
            | [] => missingValue o
            | v :: rest' =>
              match pendingValue st o (v :: rest') with
              | .ok (st, _) => scan env rest' st
              | .error refusal => refusal
        | none => unknownLong st name rest
    else
      let c := a.toList.getD 1 ' '
      let after := String.ofList (a.toList.drop 2)
      if c == 'h' then .display (helpText env st.level)
      else if c == 'V' && st.level == .top then .display versionText
      else if c == 'c' then
        match valueOptions.head? with
        | none => unknownShort st "-c"
        | some o =>
          if after.isEmpty then
            match rest with
            | [] => missingValue o
            | v :: rest' =>
              match pendingValue st o (v :: rest') with
              | .ok (st, _) => scan env rest' st
              | .error refusal => refusal
          else
            let v := if after.startsWith "=" then String.ofList (after.toList.drop 1) else after
            match setValue st o v with
            | .ok st => scan env rest st
            | .error refusal => refusal
      else unknownShort st ("-" ++ String.singleton c)

/-- Reads a command line, the program name left out, in an environment. -/
def parse (env : Environment) (args : List String) : Invocation := scan env args {}

end ReportExport.Cli
