import ReportExport.Cli.Similarity

/-!
# The command line's grammar and texts

The program `reportable` takes options at every level, an optional command,
and the command's own arguments:

* the value options `-c`/`--config`, `--db`, `--queue`, `--connection` and
  `--chunk-size`, each of which falls back to an environment variable;
* `-h`/`--help` everywhere, `-V`/`--version` at the top only;
* the commands `work` (with the flag `--watch`), `status <ID>`,
  `retry <ID>`, and `help [COMMAND]`.

This module holds the grammar's parts and everything the command line prints
by itself: the help of each level, the version, and the usage errors. A help
text lists the commands, the arguments and the options of its level in
aligned columns; each option shows its variable and the variable's current
value. A usage error names the problem, may add tips, may show a usage line,
and always ends by pointing at `--help`.
-/

namespace ReportExport.Cli

/-- The name of the program. -/
def programName : String := "reportable"

/-- The program's version. -/
def programVersion : String := "0.1.0"

/-- A value option, known at every level. -/
structure ValueOption where
  long : String
  short : Option Char := none
  /-- The name of the value in usage texts. -/
  valueName : String
  /-- The environment variable the value falls back to. -/
  envVar : String
  help : String
  deriving Repr, DecidableEq, Inhabited

/-- The value options, in the order the help lists them. -/
def valueOptions : List ValueOption :=
  [{ long := "config", short := some 'c', valueName := "CONFIG", envVar := "REPORTABLE_CONFIG",
     help := "Path to config file" },
   { long := "db", valueName := "DB", envVar := "REPORTABLE_DB",
     help := "Export record database path" },
   { long := "queue", valueName := "QUEUE", envVar := "REPORTABLE_QUEUE",
     help := "Queue export jobs are pushed onto" },
   { long := "connection", valueName := "CONNECTION", envVar := "REPORTABLE_CONNECTION",
     help := "Queue connection name" },
   { long := "chunk-size", valueName := "CHUNK_SIZE", envVar := "REPORTABLE_CHUNK_SIZE",
     help := "Rows per batch in chunked mode" }]

/-- How an option is named in messages: `--long <VALUE>`. -/
def ValueOption.display (o : ValueOption) : String := "--" ++ o.long ++ " <" ++ o.valueName ++ ">"

/-- A level of the command line. -/
inductive Level where
  | top
  | work
  | status
  | retry
  | help
  deriving Repr, DecidableEq, Inhabited

namespace Level

/-- The commands, in the order the help lists them. -/
def commands : List Level := [.work, .status, .retry, .help]

/-- A command's name. -/
def name : Level → String
  | .top => programName
  | .work => "work"
  | .status => "status"
  | .retry => "retry"
  | .help => "help"

/-- The command of a name. -/
def ofName? (n : String) : Option Level := commands.find? (·.name == n)

/-- What a level does. -/
def about : Level → String
  | .top => "Filterable CSV report export worker"
  | .work => "Re-queue dispatched exports and process the queue (default command)"
  | .status => "Print an export record as JSON"
  | .retry => "Retry a failed export as a new record and process it"
  | .help => "Print this message or the help of the given subcommand(s)"

/-- Whether a level takes the record id. -/
def takesId : Level → Bool
  | .status | .retry => true
  | _ => false

/-- The help of the record id at a level. -/
def idHelp : Level → String
  | .retry => "Id of the failed export record"
  | _ => "Export record id"

/-- How a level is invoked. -/
def invocation : Level → String
  | .top => programName
  | l => programName ++ " " ++ l.name

/-- The full usage of a level. -/
def usage : Level → String
  | .top => programName ++ " [OPTIONS] [COMMAND]"
  | .work => Level.work.invocation ++ " [OPTIONS]"
  | .help => Level.help.invocation ++ " [COMMAND]..."
  | l => l.invocation ++ " [OPTIONS] <ID>"

/-- The long flags a level knows, without their dashes. -/
def longs : Level → List String
  | .help => []
  | l =>
    valueOptions.map (·.long) ++ (if l == .work then ["watch"] else []) ++ ["help"] ++
      (if l == .top then ["version"] else [])

end Level

/-- Left-aligned columns: each row is indented by two spaces, and the second
column starts two spaces after the widest first column. -/
def columns (rows : List (String × String)) : String :=
  let width := (rows.map (·.1.length)).foldl max 0
  String.join (rows.map fun (a, b) =>
    "  " ++ a ++ String.ofList (List.replicate (width - a.length + 2) ' ') ++ b ++ "\n")

/-- The help row of a value option, showing its variable's current value. -/
def optionRow (env : List (String × String)) (o : ValueOption) : String × String :=
  let shortSlot := match o.short with
    | some c => "-" ++ String.singleton c ++ ", "
    | none => "    "
  (shortSlot ++ o.display,
   o.help ++ " [env: " ++ o.envVar ++ "=" ++ ((env.lookup o.envVar).getD "") ++ "]")

/-- The option rows of a level. -/
def optionRows (env : List (String × String)) (l : Level) : List (String × String) :=
  let rows := valueOptions.map (optionRow env)
  let rows := if l == .work then
      ("    --watch", "Keep waiting for new jobs instead of exiting once the queue is empty") :: rows
    else rows
  rows ++ [("-h, --help", "Print help")] ++ (if l == .top then [("-V, --version", "Print version")] else [])

/-- The help text of a level. -/
def helpText (env : List (String × String)) (l : Level) : String :=
  let commandRows := Level.commands.map fun c => (c.name, c.about)
  let sections : List String := match l with
    | .top => ["Commands:\n" ++ columns commandRows, "Options:\n" ++ columns (optionRows env l)]
    | .help => ["Arguments:\n" ++ columns [("[COMMAND]...", "Print help for the subcommand(s)")]]
    | .work => ["Options:\n" ++ columns (optionRows env l)]
    | _ => ["Arguments:\n" ++ columns [("<ID>", l.idHelp)], "Options:\n" ++ columns (optionRows env l)]
  l.about ++ "\n\nUsage: " ++ l.usage ++ "\n\n" ++ "\n".intercalate sections

/-- The version text. -/
def versionText : String := programName ++ " " ++ programVersion ++ "\n"

/-- A usage error: the message, the tips, and the usage line when there is
one. -/
def usageError (message : String) (tips : List String) (usage : Option String) : String :=
  "error: " ++ message ++ "\n" ++
    (if tips.isEmpty then "" else "\n" ++ String.join (tips.map fun t => "  tip: " ++ t ++ "\n")) ++
    (match usage with
     | some u => "\nUsage: " ++ u ++ "\n"
     | none => "") ++
    "\nFor more information, try '--help'.\n"

/-- Quotes names for a message: `'a', 'b'`. -/
def quoted (names : List String) : String := ", ".intercalate (names.map fun n => "'" ++ n ++ "'")

end ReportExport.Cli
