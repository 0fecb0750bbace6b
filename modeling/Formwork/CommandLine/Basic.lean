import Formwork.CommandLine.Arguments
import Formwork.Compilation.Basic
import Formwork.Component
import Formwork.Pattern.Meaning
import Formwork.Schema.Json
import Formwork.Wizard.Report

/-!
# The command line

Two commands work on files: one compiles a definition and prints the flat form, the
other compiles it and holds a snapshot of values against it.  Each ends with a code:
0 for success, 1 for files that cannot be used, 2 for values that are not valid and
for arguments that make no sense.
-/

namespace Formwork

variable [PatternEngine]

/-- The files there are: the text of each, or the system's words why it cannot be had. -/
abbrev Files := String → Except String String

/-- What the system says about a file that is not there. -/
def missingFileText : String := "No such file or directory (os error 2)"

/-- A path without the steps that stay in the directory. -/
def withoutHere (path : List Char) : List Char :=
  match path with
  | '.' :: '/' :: rest => withoutHere rest
  | path => path

/-- The files of a directory by their names. -/
def Files.ofEntries (entries : Entries String) : Files := fun path =>
  match entries.get? (String.ofList (withoutHere path.toList)) with
  | some text => .ok text
  | none => .error missingFileText

/-- How a command ended: its code, all that it printed, and what it says about an error. -/
structure Ending where
  code : Nat
  output : String := ""
  error : Option String := none
deriving DecidableEq, Repr

namespace Command

/-- Lines of output, each with its end. -/
def lines (ls : List String) : String := String.join (ls.map fun l => l ++ "\n")

/-- Reads a file that is needed for something. -/
def readFile (files : Files) (path what : String) : Except String String :=
  match files path with
  | .ok text => .ok text
  | .error why => .error s!"Failed to read {what} file '{path}': {why}"

/-- Compiles the definition in a file. -/
def loadSchema (files : Files) (path : String) (naming : Naming) : Except String Schema := do
  let text ← readFile files path "form definition"
  match Form.ofText? text with
  | none => .error ("Compilation failed: " ++ unreadableMessage)
  | some form => match form.compile { naming } with
    | .ok schema => .ok schema
    | .error e => .error ("Compilation failed: " ++ e.message)

/-- Adds the information in a file, if one is named. -/
def addInfo (files : Files) (path : Option String) (schema : Schema) : Except String Schema :=
  match path with
  | none => .ok schema
  | some path => do
    let text ← readFile files path "form metadata"
    match FormInfo.ofText? text with
    | some info => .ok { schema with info }
    | none => .error ("Invalid form metadata: " ++ unreadableMessage)

/-- Reads the snapshot in a file. -/
def loadValues (files : Files) (path : String) : Except String Snapshot := do
  let text ← readFile files path "form values"
  match Snapshot.ofText text with
  | .ok values => .ok values
  | .error e => .error ("Invalid form values: " ++ e.message)

/-- The line about one field of a schema. -/
def fieldLine (name : String) (f : FormField) : String :=
  let need := if f.isRequired then "required" else "optional"
  let condition := if f.showWhen.isSome then " (conditional)" else ""
  "  [step " ++ toString f.effectiveStep ++ "] " ++ name ++ " : " ++ f.kind.tag ++ " -> " ++
    (ComponentRegistry.resolveField {} f).id ++ " [" ++ need ++ "]" ++ condition

/-- Numbers in brackets. -/
def numberList (ns : List Nat) : String :=
  "[" ++ ", ".intercalate (ns.map fun n => toString n) ++ "]"

/-- The overview of a schema. -/
def summary (schema : Schema) : String :=
  lines <|
    (match schema.info.title with
      | some title => ["", title]
      | none => []) ++
    ["", "--- Fields (" ++ toString schema.fields.length ++ ") ---"] ++
    schema.fields.map (fun (name, f) => fieldLine name f) ++
    ["", "Steps: " ++ numberList schema.steps, ""]

/-- The line about the visibility of one field. -/
def visibilityLine (name : String) (v : Visibility) : String :=
  let state := if v.isShown then "shown " else "hidden"
  match v.reason with
  | some reason => "  " ++ state ++ " " ++ name ++ " (" ++ reason ++ ")"
  | none => "  " ++ state ++ " " ++ name

/-- The lines about the report on one step. -/
def reportLines (step : Nat) (r : Report) : List String :=
  if r.isValid then ["  Step " ++ toString step ++ ": ok"]
  else
    ("  Step " ++ toString step ++ ": " ++ toString r.errors.length ++ " error(s)") ::
      r.errors.map fun e => "    -> " ++ e.text

/-- The names of the fields that a check is about. -/
def checkedNames (schema : Schema) : Option Nat → List String
  | some step => (schema.fieldsOfStep step).map FormField.nameText
  | none => schema.fields.keys

/-- The steps that a check is about. -/
def checkedSteps (schema : Schema) : Option Nat → List Nat
  | some step => [step]
  | none => (List.range schema.totalSteps).map (· + 1)

/-- The result of holding a snapshot against a schema. -/
def checkEnding (schema : Schema) (values : Snapshot) (step : Option Nat) : Ending :=
  let names := checkedNames schema step
  let shown := (schema.visibility values).filter fun (name, _) => names.contains name
  let reports := (checkedSteps schema step).map fun n => (n, schema.validateStep n values)
  { code := if reports.all fun (_, r) => r.isValid then 0 else 2
    output := lines <|
      ["", "--- Visibility ---"] ++ shown.map (fun (name, v) => visibilityLine name v) ++
      ["", "--- Validation ---"] ++ reports.flatMap (fun (n, r) => reportLines n r) ++ [""] }

/-- Carries out a command. -/
def run (files : Files) : Command → Ending
  | .compile definitionPath infoPath naming json =>
    match loadSchema files definitionPath naming >>= addInfo files infoPath with
    | .ok schema => ⟨0, if json then lines [schema.toValue.pretty] else summary schema, none⟩
    | .error e => ⟨1, "", some e⟩
  | .check definitionPath valuesPath step naming =>
    let loaded : Except String (Schema × Snapshot) := do
      let schema ← loadSchema files definitionPath naming
      return (schema, ← loadValues files valuesPath)
    match loaded with
    | .ok (schema, values) => checkEnding schema values step
    | .error e => ⟨1, "", some e⟩

end Command

namespace CommandLine

/-- How the program is used. -/
def usage : String := Command.lines [
  "Compiles declarative forms and checks values against them",
  "",
  "Usage:",
  "  compile <DEFINITION> [-m|--meta <FILE>] [-n|--naming flat|dotted] [--json]",
  "  check <DEFINITION> <VALUES> [-s|--step <STEP>] [-n|--naming flat|dotted]",
  "  help",
  "",
  "Options:",
  "  -h, --help     Print help",
  "  -V, --version  Print version"]

/-- The version of the program. -/
def versionText : String := "0.1.0"

/-- Answers what the arguments ask for. -/
def run (files : Files) (arguments : List String) : Ending :=
  match Request.ofArguments? arguments with
  | some (.run command) => command.run files
  | some .help => ⟨0, usage, none⟩
  | some .version => ⟨0, Command.lines [versionText], none⟩
  | none => ⟨2, "", none⟩

end CommandLine

end Formwork
