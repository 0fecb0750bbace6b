import Formwork.Pattern.Node
import Formwork.Text.Blank
import Formwork.Text.Property

/-!
# Reading patterns

`Pattern.Node.ofText?` reads a pattern or refuses it.  A repetition needs
something to repeat, a brace always opens a count, groups and classes must be
closed, escapes must be known, there is no look-around and no reference back to a
group, and nesting is limited.

Every step of the reader consumes a character, so the length of the pattern
bounds the number of steps.
-/

namespace Formwork

namespace Pattern

/-- What is left of a pattern, whether blanks and comments are skipped, and the
group names that were given. -/
structure Cursor where
  rest : List Char
  skipsBlanks : Bool := false
  names : List (List Char) := []

/-- A step of reading: may refuse the pattern. -/
abbrev Reading := StateT Cursor Option

/-- What follows blanks and comments; a comment runs from a hash to the end of its line. -/
def afterBlanks (inComment : Bool) : List Char → List Char
  | [] => []
  | c :: rest =>
    if inComment then afterBlanks (c ≠ '\n') rest
    else if isBlank c then afterBlanks false rest
    else if c = '#' then afterBlanks true rest
    else c :: rest

def refuse {α : Type} : Reading α := fun _ => none

/-- The next character, if there is one. -/
def peek? : Reading (Option Char) := do return (← get).rest.head?

/-- The next character; the pattern must not end here. -/
def peek : Reading Char := do
  match ← peek? with
  | some c => return c
  | none => refuse

def skipBlanks : Reading Unit :=
  modify fun s => if s.skipsBlanks then { s with rest := afterBlanks false s.rest } else s

/-- Passes over one character. -/
def advance : Reading Unit := modify fun s => { s with rest := s.rest.tail }

/-- Passes over one character and the blanks after it. -/
def advanceSkipping : Reading Unit := do
  advance
  skipBlanks

/-- Passes over the given characters if they come next. -/
def tryTake (text : String) : Reading Bool := do
  let s ← get
  let chars := text.toList
  if chars.isPrefixOf s.rest then
    set { s with rest := s.rest.drop chars.length }
    return true
  else return false

def isHexDigit (c : Char) : Bool :=
  c.isDigit || ('a' ≤ c && c ≤ 'f') || ('A' ≤ c && c ≤ 'F')

/-- The character with this code, if there is one. -/
def charOfCode? (n : Nat) : Option Char :=
  if n.isValidChar then some (Char.ofNat n) else none

/-- Characters that have a meaning of their own and may be escaped. -/
def isMeta (c : Char) : Bool := "\\.+*?()|[]\x7b\x7d^$#&-~".toList.contains c

/-- Characters that a backslash leaves as they are. -/
def isEscapable (c : Char) : Bool :=
  isMeta c || (c.toNat < 128 && !c.isAlphanum && c ≠ '<' && c ≠ '>')

/-- Hexadecimal digits of a fixed number, blanks skipped between them. -/
def readHexDigits : Nat → List Char → Reading (List Char)
  | 0, taken => return taken.reverse
  | n + 1, taken => do
    let c ← peek
    if isHexDigit c then
      advanceSkipping
      readHexDigits n (c :: taken)
    else refuse

/-- Characters up to a closing brace, which is passed over. -/
def readToBrace : Nat → List Char → Reading (List Char)
  | 0, _ => refuse
  | fuel + 1, taken => do
    let c ← peek
    if c = '\x7d' then
      advance
      return taken.reverse
    else
      advanceSkipping
      readToBrace fuel (c :: taken)

/-- The number of characters left. -/
def remaining : Reading Nat := do return (← get).rest.length

/-- A character by its number: digits of a fixed count, or digits in braces. -/
def readHex (kind : Char) : Reading Literal := do
  advanceSkipping
  if (← peek) = '\x7b' then
    advanceSkipping
    let ds ← readToBrace ((← remaining) + 1) []
    skipBlanks
    if ds.isEmpty || !ds.all isHexDigit then refuse
    match charOfCode? (hexValue ds) with
    | some c => return ⟨c, false⟩
    | none => refuse
  else
    let count := if kind = 'x' then 2 else if kind = 'u' then 4 else 8
    let ds ← readHexDigits count []
    match charOfCode? (hexValue ds) with
    | some c => return ⟨c, kind = 'x'⟩
    | none => refuse

/-- The text before and after the first occurrence of a mark. -/
def splitAtFirst (mark : List Char) : List Char → Option (List Char × List Char)
  | [] => none
  | c :: rest =>
    if mark.isPrefixOf (c :: rest) then some ([], (c :: rest).drop mark.length)
    else (splitAtFirst mark rest).map fun (a, b) => (c :: a, b)

/-- The query that the text between braces stands for. -/
def queryOf (text : List Char) : PropertyQuery :=
  match splitAtFirst ['!', '='] text, splitAtFirst [':'] text, splitAtFirst ['='] text with
  | some (p, v), _, _ => .value p v false
  | none, some (p, v), _ => .value p v true
  | none, none, some (p, v) => .value p v true
  | none, none, none => .name text

/-- A class by property, after its letter. -/
def readProperty : Reading PropertyQuery := do
  advanceSkipping
  let c ← peek
  if c = '\x7b' then
    advanceSkipping
    return queryOf (← readToBrace ((← remaining) + 1) [])
  else if c = '\\' then refuse
  else
    advanceSkipping
    return .name [c]

/-- What an escape stands for. -/
inductive Escape where
  | literal (c : Literal)
  | assertion (a : Assertion)
  | letter (k : LetterClass) (negated : Bool)
  | property (q : PropertyQuery) (negated : Bool)

/-- The escape as a part of a pattern. -/
def Escape.node : Escape → Node
  | .literal c => .literal c
  | .assertion a => .assertion a
  | .letter k negated => .letter k negated
  | .property q negated => .property q negated

/-- The escape as an item between brackets; an assertion is none. -/
def Escape.item? : Escape → Option ClassSet
  | .literal c => some (.literal c)
  | .assertion _ => none
  | .letter k negated => some (.letter k negated)
  | .property q negated => some (.property q negated)

/-- Letters and hyphens at the place of the reader, blanks skipped between them. -/
def readBoundaryName : Nat → List Char → Reading (List Char)
  | 0, _ => refuse
  | fuel + 1, taken => do
    match ← peek? with
    | some c =>
      if c.isAlpha || c = '-' then
        advanceSkipping
        readBoundaryName fuel (c :: taken)
      else return taken.reverse
    | none => return taken.reverse

/-- The boundary that may be named in braces after the letter for a word boundary;
braces that do not start with a letter are left alone. -/
def readBoundary : Reading Assertion := do
  let before ← get
  if (← peek?) = some '\x7b' then
    advanceSkipping
    let c ← peek
    if c.isAlpha || c = '-' then
      let name ← readBoundaryName ((← remaining) + 1) []
      if (← peek) ≠ '\x7d' then refuse
      advance
      match String.ofList name with
      | "start" => return .wordStart
      | "end" => return .wordEnd
      | "start-half" => return .wordStartHalf
      | "end-half" => return .wordEndHalf
      | _ => refuse
    else
      set before
      return .wordBoundary
  else return .wordBoundary

/-- An escape, from its backslash on. -/
def readEscape : Reading Escape := do
  advance
  let c ← peek
  if c.isDigit then refuse
  else if c = 'x' || c = 'u' || c = 'U' then return .literal (← readHex c)
  else if c = 'p' || c = 'P' then return .property (← readProperty) (c = 'P')
  else
    advance
    if isEscapable c then return .literal ⟨c, false⟩
    match c with
    | 'd' => return .letter .digit false
    | 'D' => return .letter .digit true
    | 's' => return .letter .blank false
    | 'S' => return .letter .blank true
    | 'w' => return .letter .word false
    | 'W' => return .letter .word true
    | 'a' => return .literal ⟨'\x07', false⟩
    | 'f' => return .literal ⟨'\x0c', false⟩
    | 't' => return .literal ⟨'\t', false⟩
    | 'n' => return .literal ⟨'\n', false⟩
    | 'r' => return .literal ⟨'\r', false⟩
    | 'v' => return .literal ⟨'\x0b', false⟩
    | 'A' => return .assertion .textStart
    | 'z' => return .assertion .textEnd
    | 'b' => return .assertion (← readBoundary)
    | 'B' => return .assertion .noWordBoundary
    | '<' => return .assertion .wordStart
    | '>' => return .assertion .wordEnd
    | _ => refuse

/-- The names of the classes of ASCII characters. -/
def asciiClassNames : List String :=
  ["alnum", "alpha", "ascii", "blank", "cntrl", "digit", "graph", "lower", "print", "punct",
    "space", "upper", "word", "xdigit"]

/-- A class of ASCII characters, from its bracket on, if one is there. -/
def asciiClass? : List Char → Option (ClassSet × List Char)
  | '[' :: ':' :: rest =>
    let (negated, rest) := match rest with
      | '^' :: r => (true, r)
      | r => (false, r)
    let name := String.ofList (rest.takeWhile (· ≠ ':'))
    match rest.dropWhile (· ≠ ':') with
    | ':' :: ']' :: after =>
      if asciiClassNames.contains name then some (.ascii name negated, after) else none
    | _ => none
  | _ => none

/-- One item between brackets, before it is known whether a range follows. -/
def readClassItem : Reading Escape := do
  let c ← peek
  if c = '\\' then readEscape
  else
    advance
    return .literal ⟨c, false⟩

/-- The character after the next one, blanks skipped where they are. -/
def peekAfterNext? : Reading (Option Char) := do
  let s ← get
  return (if s.skipsBlanks then afterBlanks false s.rest.tail else s.rest.tail).head?

/-- An item between brackets or a range of two. -/
def readClassRange : Reading ClassSet := do
  let first ← readClassItem
  skipBlanks
  let c ← peek
  let next ← peekAfterNext?
  if c ≠ '-' || next = some ']' || next = some '-' then
    match first.item? with
    | some item => return item
    | none => refuse
  else
    advanceSkipping
    let _ ← peek
    let second ← readClassItem
    match first, second with
    | .literal lo, .literal hi => if lo.char ≤ hi.char then return .range lo hi else refuse
    | _, _ => refuse

/-- Items of a union as one class. -/
def unionOf : List ClassSet → ClassSet
  | [item] => item
  | items => .union items

/-- The class that a left operand with its operator makes with what follows. -/
def applyOperator (pending : Option (ClassOperator × ClassSet)) (right : ClassSet) : ClassSet :=
  match pending with
  | some (op, left) => .binary op left right
  | none => right

/-- The hyphens at the start of a class, and a bracket that comes first, as literals. -/
def readClassStart : Nat → List ClassSet → Reading (List ClassSet)
  | 0, _ => refuse
  | fuel + 1, items => do
    let c ← peek
    if c = '-' then
      advanceSkipping
      readClassStart fuel (.literal ⟨'-', false⟩ :: items)
    else if c = ']' && items.isEmpty then
      advanceSkipping
      let _ ← peek
      return [.literal ⟨']', false⟩]
    else return items

mutual

/-- A class in brackets, from its opening bracket on. -/
def readClass : Nat → Reading (Bool × ClassSet)
  | 0 => refuse
  | fuel + 1 => do
    advanceSkipping
    let negated := (← peek) = '^'
    if negated then advanceSkipping
    let items ← readClassStart ((← remaining) + 1) []
    let body ← readClassBody fuel none items
    return (negated, body)

/-- The rest of a class up to its closing bracket; `items` come last first. -/
def readClassBody : Nat → Option (ClassOperator × ClassSet) → List ClassSet → Reading ClassSet
  | 0, _, _ => refuse
  | fuel + 1, pending, items => do
    skipBlanks
    let c ← peek
    let closed := applyOperator pending (unionOf items.reverse)
    if c = ']' then
      advance
      return closed
    else if c = '[' then
      let s ← get
      match asciiClass? s.rest with
      | some (item, rest) =>
        set { s with rest := rest }
        readClassBody fuel pending (item :: items)
      | none =>
        let (negated, body) ← readClass fuel
        readClassBody fuel pending (.bracketed negated body :: items)
    else if ← tryTake "&&" then readClassBody fuel (some (.intersection, closed)) []
    else if ← tryTake "--" then readClassBody fuel (some (.difference, closed)) []
    else if ← tryTake "~~" then readClassBody fuel (some (.symmetricDifference, closed)) []
    else
      let item ← readClassRange
      readClassBody fuel pending (item :: items)

end

/-- The switch that a letter stands for. -/
def flag? : Char → Option Flag
  | 'i' => some .ignoreCase
  | 'm' => some .multiLine
  | 's' => some .dotMatchesNewLine
  | 'U' => some .swapGreed
  | 'u' => some .unicode
  | 'R' => some .carriageReturn
  | 'x' => some .ignoreBlanks
  | _ => none

/-- The switches after a group's question mark, up to a colon or a parenthesis: no
letter twice, one hyphen at most and not at the end. -/
def readFlags : Nat → Option Bool → FlagSettings → Reading FlagSettings
  | 0, _, _ => refuse
  | fuel + 1, lastWasHyphen, settings => do
    let c ← peek
    if c = ':' || c = ')' then
      if lastWasHyphen = some true then refuse else return settings.reverse
    else if c = '-' then
      if lastWasHyphen.isSome then refuse
      advance
      readFlags fuel (some true) settings
    else
      match flag? c with
      | none => refuse
      | some f =>
        if settings.any (·.1 = f) then refuse
        advance
        readFlags fuel (lastWasHyphen.map fun _ => false) ((f, lastWasHyphen.isNone) :: settings)

/-- Whether a group's switches turn the skipping of blanks on or off, if they mention it. -/
def blanksSetting (settings : FlagSettings) : Option Bool :=
  (settings.find? (·.1 = .ignoreBlanks)).map (·.2)

def isNameChar (first : Bool) (c : Char) : Bool :=
  if first then c = '_' || CharClass.alphabetic.contains c
  else c = '_' || c = '.' || c = '[' || c = ']' || CharClass.alphanumeric.contains c

/-- The name of a group up to its closing angle bracket; no name comes twice. -/
def readGroupName : Nat → List Char → Reading Unit
  | 0, _ => refuse
  | fuel + 1, taken => do
    let c ← peek
    if c = '>' then
      advance
      let s ← get
      if taken.isEmpty || s.names.contains taken then refuse
      set { s with names := taken :: s.names }
    else if isNameChar taken.isEmpty c then
      advance
      readGroupName fuel (c :: taken)
    else refuse

/-- How a group opens. -/
inductive GroupStart where
  | switches (settings : FlagSettings)
  | group (settings : FlagSettings)

/-- The opening of a group, from its parenthesis on. -/
def readGroupStart : Reading GroupStart := do
  advanceSkipping
  if (← tryTake "?=") || (← tryTake "?!") || (← tryTake "?<=") || (← tryTake "?<!") then refuse
  else if (← tryTake "?P<") || (← tryTake "?<") then
    readGroupName ((← remaining) + 1) []
    return .group []
  else if ← tryTake "?" then
    let settings ← readFlags ((← remaining) + 1) none []
    let c ← peek
    advance
    if c = ':' then return .group settings
    else if settings.isEmpty then refuse
    else return .switches settings
  else return .group []

/-- Skips blanks of any kind, whatever the switches say. -/
def skipAnyBlanks : Reading Unit := modify fun s => { s with rest := s.rest.dropWhile isBlank }

/-- The digits of a count, blanks allowed around them. -/
def readDigits : Nat → List Char → Reading (List Char)
  | 0, _ => refuse
  | fuel + 1, taken => do
    match ← peek? with
    | some c =>
      if c.isDigit then
        advanceSkipping
        readDigits fuel (c :: taken)
      else return taken.reverse
    | none => return taken.reverse

/-- A count, if digits are there; refused when it needs more than 32 bits. -/
def readCount : Reading (Option Nat) := do
  skipAnyBlanks
  let ds ← readDigits ((← remaining) + 1) []
  skipAnyBlanks
  if ds.isEmpty then return none
  let n := Nat.ofDigitChars 10 ds 0
  if n < Nat.pow 2 32 then return some n else refuse

/-- The least and the greatest count of a repetition, from the brace on. -/
def readCounts : Reading (Nat × Option Nat) := do
  advanceSkipping
  let _ ← peek
  let least ← readCount
  let c ← peek
  let bounds ← (do
    if c = ',' then
      advanceSkipping
      let c ← peek
      match least with
      | none => refuse
      | some n =>
        if c = '\x7d' then return (n, none)
        else match ← readCount with
          | some m => return (n, some m)
          | none => refuse
    else match least with
      | some n => return (n, some n)
      | none => refuse : Reading (Nat × Option Nat))
  if (← peek) ≠ '\x7d' then refuse
  advanceSkipping
  match bounds with
  | (n, some m) => if n ≤ m then return bounds else refuse
  | _ => return bounds

/-- Parts in a row as one pattern. -/
def concatOf : List Node → Node
  | [] => .empty
  | [part] => part
  | parts => .concat parts

/-- Branches as one pattern. -/
def alternationOf : List Node → Node
  | [branch] => branch
  | branches => .alternation branches

/-- The parts before a repetition mark: what it repeats, and the parts before that. -/
def repeatable : List Node → Reading (Node × List Node)
  | [] => refuse
  | .empty :: _ => refuse
  | .flags _ :: _ => refuse
  | part :: parts => return (part, parts)

/-- Passes over the mark of a reluctant repetition. -/
def skipReluctance : Reading Unit := do
  let _ ← tryTake "?"

mutual

/-- Branches up to the end of a group or of the pattern; `branches` come last first. -/
def readBranches : Nat → List Node → Reading Node
  | 0, _ => refuse
  | fuel + 1, branches => do
    let branch ← readParts fuel []
    if (← peek?) = some '|' then
      advance
      readBranches fuel (branch :: branches)
    else return alternationOf (branch :: branches).reverse

/-- Parts up to the end of a branch; `parts` come last first. -/
def readParts : Nat → List Node → Reading Node
  | 0, _ => refuse
  | fuel + 1, parts => do
    skipBlanks
    match ← peek? with
    | none => return concatOf parts.reverse
    | some c => match c with
      | '|' | ')' => return concatOf parts.reverse
      | '(' => match ← readGroupStart with
        | .switches settings =>
          modify fun s => { s with skipsBlanks := (blanksSetting settings).getD s.skipsBlanks }
          readParts fuel (.flags settings :: parts)
        | .group settings =>
          let outer := (← get).skipsBlanks
          modify fun s => { s with skipsBlanks := (blanksSetting settings).getD outer }
          let body ← readBranches fuel []
          if (← peek) ≠ ')' then refuse
          modify fun s => { s with skipsBlanks := outer }
          advance
          readParts fuel (.group settings body :: parts)
      | '[' =>
        let (negated, body) ← readClass fuel
        readParts fuel (.bracketed negated body :: parts)
      | '?' =>
        let (part, parts) ← repeatable parts
        advance
        skipReluctance
        readParts fuel (.repetition part 0 (some 1) :: parts)
      | '*' =>
        let (part, parts) ← repeatable parts
        advance
        skipReluctance
        readParts fuel (.repetition part 0 none :: parts)
      | '+' =>
        let (part, parts) ← repeatable parts
        advance
        skipReluctance
        readParts fuel (.repetition part 1 none :: parts)
      | '\x7b' =>
        let (part, parts) ← repeatable parts
        let (least, most) ← readCounts
        skipReluctance
        readParts fuel (.repetition part least most :: parts)
      | '\\' =>
        let e ← readEscape
        readParts fuel (e.node :: parts)
      | '.' =>
        advance
        readParts fuel (.dot :: parts)
      | '^' =>
        advance
        readParts fuel (.assertion .lineStart :: parts)
      | '$' =>
        advance
        readParts fuel (.assertion .lineEnd :: parts)
      | c =>
        advance
        readParts fuel (.literal ⟨c, false⟩ :: parts)

end

/-- How deep a pattern may nest. -/
def nestingLimit : Nat := 250

/-- The pattern that a text spells, if it is well formed. -/
def Node.ofText? (source : String) : Option Node := do
  let chars := source.toList
  let (node, s) ← (readBranches (2 * chars.length + 2) []).run ⟨chars, false, []⟩
  if s.rest.isEmpty && decide (node.depth ≤ nestingLimit) then some node else none

end Pattern

end Formwork
