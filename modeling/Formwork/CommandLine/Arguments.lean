import Formwork.Compilation.Leaf

/-!
# The arguments of the command line

A command is followed by paths and options, in any order.  An option is written
with its long name, `--meta FILE` or `--meta=FILE`, or with its short one, `-m
FILE`, `-mFILE` or `-m=FILE`; no option may be given twice, and after `--` nothing
is an option.

* `Words.read?` tells the options of a command from its paths;
* `Request.ofArguments?` is what the arguments ask for, if they make sense.
-/

namespace Formwork

/-- An option of a command. -/
structure OptionSpec where
  long : String
  short : Option Char
  takesValue : Bool
deriving DecidableEq, Repr

/-- What stands on a command line after the name of the command: the options that
were given, with their values, and the paths.  Reading ends where help is asked for. -/
structure Words where
  options : Entries String := []
  paths : List String := []
  wantsHelp : Bool := false
deriving DecidableEq, Repr

namespace Words

/-- The option that asks for help. -/
def help : OptionSpec := ⟨"help", some 'h', false⟩

/-- A word that begins like an option. -/
def looksLikeOption (word : List Char) : Bool :=
  match word with
  | '-' :: _ :: _ => true
  | _ => false

/-- Splits at the first equals sign. -/
def splitValue (word : List Char) : List Char × Option (List Char) :=
  match word.dropWhile (· ≠ '=') with
  | [] => (word, none)
  | _ :: value => (word.takeWhile (· ≠ '='), some value)

/-- One option as it is written in one word: its specification, the value that stands
in the same word, and the short options that follow in that word. -/
structure Written where
  spec : OptionSpec
  value : Option String
  more : List Char

/-- The option with a long name. -/
def longOption? (specs : List OptionSpec) (word : List Char) : Option Written := do
  let (name, value) := splitValue word
  let spec ← specs.find? fun s => s.long = String.ofList name
  if !spec.takesValue && value.isSome then none
  else return ⟨spec, value.map String.ofList, []⟩

/-- The option with a short name at the head of a word. -/
def shortOption? (specs : List OptionSpec) : List Char → Option Written
  | [] => none
  | c :: rest => do
    let spec ← specs.find? fun s => s.short = some c
    if !spec.takesValue then return ⟨spec, none, rest⟩
    else match rest with
      | [] => return ⟨spec, none, []⟩
      | '=' :: value => return ⟨spec, some (String.ofList value), []⟩
      | value => return ⟨spec, some (String.ofList value), []⟩

/-- Enters an option with its value, unless it was given before. -/
def enter? (words : Words) (spec : OptionSpec) (value : String) : Option Words :=
  if words.options.contains spec.long then none
  else some { words with options := words.options.put spec.long value }

/-- Enters the short options that share a word, and tells which one still needs a value,
which then is the next word. -/
def enterShort? (specs : List OptionSpec) : Nat → Words → List Char →
    Option (Words × Option OptionSpec)
  | 0, words, _ => some (words, none)
  | fuel + 1, words, letters => match letters with
    | [] => some (words, none)
    | letters => do
      let w ← shortOption? specs letters
      if w.spec = help then return ({ words with wantsHelp := true }, none)
      else if !w.spec.takesValue then enterShort? specs fuel (← words.enter? w.spec "") w.more
      else match w.value with
        | some v => return (← words.enter? w.spec v, none)
        | none => return (words, some w.spec)

/-- Enters the options of one word, and tells which one still needs a value. -/
def enterWord? (specs : List OptionSpec) (words : Words) (word : List Char) :
    Option (Words × Option OptionSpec) :=
  match word with
  | '-' :: '-' :: name => do
    let w ← longOption? specs name
    if w.spec = help then return ({ words with wantsHelp := true }, none)
    else if !w.spec.takesValue then return (← words.enter? w.spec "", none)
    else match w.value with
      | some v => return (← words.enter? w.spec v, none)
      | none => return (words, some w.spec)
  | _ :: letters => enterShort? specs letters.length words letters
  | [] => none

/-- Reads the words of a command; `awaited` is the option whose value comes next. -/
def readFrom? (specs : List OptionSpec) : Words → Option OptionSpec → List String → Option Words
  | words, none, [] => some words
  | _, some _, [] => none
  | words, awaited, word :: rest =>
    let chars := word.toList
    if chars = ['-', '-'] then match awaited with
      | none => some { words with paths := words.paths ++ rest }
      | some _ => none
    else if looksLikeOption chars then match awaited with
      | some _ => none
      | none => match enterWord? specs words chars with
        | none => none
        | some (words, awaited) =>
          if words.wantsHelp then some words else readFrom? specs words awaited rest
    else match awaited with
      | some spec => match words.enter? spec word with
        | some words => readFrom? specs words none rest
        | none => none
      | none => readFrom? specs { words with paths := words.paths ++ [word] } none rest

/-- Reads the words of a command with these options. -/
def read? (specs : List OptionSpec) (arguments : List String) : Option Words :=
  readFrom? (help :: specs) {} none arguments

end Words

/-- A command with its paths and options. -/
inductive Command where
  | compile (definitionPath : String) (infoPath : Option String) (naming : Naming) (json : Bool)
  | check (definitionPath valuesPath : String) (step : Option Nat) (naming : Naming)
deriving DecidableEq, Repr

/-- What the arguments ask for. -/
inductive Request where
  | run (command : Command)
  | help
  | version
deriving DecidableEq, Repr

namespace Command

def metaOption : OptionSpec := ⟨"meta", some 'm', true⟩
def namingOption : OptionSpec := ⟨"naming", some 'n', true⟩
def stepOption : OptionSpec := ⟨"step", some 's', true⟩
def jsonOption : OptionSpec := ⟨"json", none, false⟩

/-- The way of naming that an option gives; flat names if it is not given. -/
def naming? : Option String → Option Naming
  | none => some .flat
  | some "flat" => some .flat
  | some "dotted" => some .dotted
  | some _ => none

/-- The digits of a number after its sign. -/
def digits? (s : List Char) : Option Nat :=
  if s.isEmpty || !s.all Char.isDigit then none else some (digitsValue s)

/-- The number of a step: an integer of 32 bits, perhaps with a sign. -/
def stepNumber? (s : String) : Option Nat := do
  let n ← match s.toList with
    | '-' :: ds => (digits? ds).bind fun n => if n = 0 then some 0 else none
    | '+' :: ds => digits? ds
    | ds => digits? ds
  if n < Nat.pow 2 32 then return n else none

/-- The compile command. -/
def compile? (words : Words) : Option Command := do
  let naming ← naming? (words.options.get? "naming")
  match words.paths with
  | [definitionPath] =>
    return .compile definitionPath (words.options.get? "meta") naming
      (words.options.contains "json")
  | _ => none

/-- The check command. -/
def check? (words : Words) : Option Command := do
  let naming ← naming? (words.options.get? "naming")
  let step ← match words.options.get? "step" with
    | none => some none
    | some s => (stepNumber? s).map some
  match words.paths with
  | [definitionPath, valuesPath] => return .check definitionPath valuesPath step naming
  | _ => none

end Command

namespace Request

/-- A command, or help about it. -/
def ofWords? (command? : Words → Option Command) (words : Words) : Option Request :=
  if words.wantsHelp then some .help else (command? words).map .run

/-- What the arguments ask for. -/
def ofArguments? : List String → Option Request
  | "compile" :: rest =>
    (Words.read? [Command.metaOption, Command.namingOption, Command.jsonOption] rest).bind
      (ofWords? Command.compile?)
  | "check" :: rest =>
    (Words.read? [Command.stepOption, Command.namingOption] rest).bind (ofWords? Command.check?)
  | "help" :: rest => match rest with
    | [] | ["compile"] | ["check"] | ["help"] => some .help
    | _ => none
  | "-h" :: _ => some .help
  | "--help" :: _ => some .help
  | "-V" :: _ => some .version
  | "--version" :: _ => some .version
  | _ => none

end Request

end Formwork
