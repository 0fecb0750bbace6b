import Formwork.Pattern.Engine
import Formwork.Pattern.Matcher
import Formwork.Pattern.Parser
import Formwork.Text.CaseFolding
import Formwork.Text.PropertyValue

/-!
# The meaning of patterns

`Pattern.ofText?` reads a pattern and gives it a matcher, and `Pattern.engine` is the
engine that searches texts with it.  Switches hold from where they are set to the
end of the group.  Names of properties must be known, a pattern that leaves Unicode
must stay within ASCII, and no pattern may be too large.
-/

namespace Formwork

namespace Pattern

/-- The switches that are on at a place of a pattern. -/
structure Switches where
  ignoreCase : Bool := false
  multiLine : Bool := false
  dotMatchesNewLine : Bool := false
  unicode : Bool := true
  carriageReturn : Bool := false
deriving DecidableEq, Repr

/-- The switches after one setting; the ones that do not change what matches are passed over. -/
def Switches.set (s : Switches) : Flag × Bool → Switches
  | (.ignoreCase, b) => { s with ignoreCase := b }
  | (.multiLine, b) => { s with multiLine := b }
  | (.dotMatchesNewLine, b) => { s with dotMatchesNewLine := b }
  | (.unicode, b) => { s with unicode := b }
  | (.carriageReturn, b) => { s with carriageReturn := b }
  | (.swapGreed, _) => s
  | (.ignoreBlanks, _) => s

def Switches.setAll (s : Switches) (settings : FlagSettings) : Switches := settings.foldl set s

def asciiWord : CharClass := [(0x30, 0x39), (0x41, 0x5A), (0x5F, 0x5F), (0x61, 0x7A)]

/-- The class of ASCII characters with a name. -/
def asciiClass : String → CharClass
  | "alnum" => [(0x30, 0x39), (0x41, 0x5A), (0x61, 0x7A)]
  | "alpha" => [(0x41, 0x5A), (0x61, 0x7A)]
  | "ascii" => [(0, 0x7F)]
  | "blank" => [(0x09, 0x09), (0x20, 0x20)]
  | "cntrl" => [(0, 0x1F), (0x7F, 0x7F)]
  | "digit" => [(0x30, 0x39)]
  | "graph" => [(0x21, 0x7E)]
  | "lower" => [(0x61, 0x7A)]
  | "print" => [(0x20, 0x7E)]
  | "punct" => [(0x21, 0x2F), (0x3A, 0x40), (0x5B, 0x60), (0x7B, 0x7E)]
  | "space" => [(0x09, 0x0D), (0x20, 0x20)]
  | "upper" => [(0x41, 0x5A)]
  | "word" => asciiWord
  | "xdigit" => [(0x30, 0x39), (0x41, 0x46), (0x61, 0x66)]
  | _ => []

def letterClass (unicode : Bool) : LetterClass → CharClass
  | .digit => if unicode then CharClass.anyDigit else [(0x30, 0x39)]
  | .blank => if unicode then CharClass.blank else [(0x09, 0x0D), (0x20, 0x20)]
  | .word => if unicode then CharClass.word else asciiWord

namespace Switches

variable (s : Switches)

/-- The class with the other cases of its characters, if case does not count. -/
def folded (ranges : CharClass) : CharClass :=
  if s.ignoreCase then
    if s.unicode then ranges.foldCase else ranges.foldAsciiCase
  else ranges

/-- The class or its complement; case is folded first, or what is left out would come back. -/
def foldedWith (negated : Bool) (ranges : CharClass) : CharClass :=
  if negated then (s.folded ranges).complement else s.folded ranges

/-- Outside Unicode a class must not leave ASCII. -/
def admitted? (ranges : CharClass) : Option CharClass :=
  if s.unicode || ranges.all (fun r => decide (r.2 < 128)) then some ranges else none

/-- Outside Unicode a byte beyond ASCII is no character. -/
def literal? (c : Literal) : Option Char :=
  if !s.unicode && c.isByte && decide (127 < c.char.toNat) then none else some c.char

/-- A literal between brackets; outside Unicode it must be one of ASCII. -/
def classLiteral? (c : Literal) : Option Char :=
  if !s.unicode && decide (127 < c.char.toNat) then none else some c.char

/-- A class with a name of its own, or its complement. -/
def named? (negated : Bool) (ranges : CharClass) : Option CharClass :=
  s.admitted? (if negated then ranges.complement else ranges)

/-- A class that is folded and perhaps negated; what comes of it must be admitted. -/
def bracketed? (negated : Bool) (ranges : CharClass) : Option CharClass :=
  s.admitted? (s.foldedWith negated ranges)

/-- The characters with a property; outside Unicode there are none to ask for. -/
def property? (q : PropertyQuery) (negated : Bool) : Option CharClass := do
  if !s.unicode then none
  let (found, negated) ← match q with
    | .name name => (CharClass.ofName? name).map fun ranges => (ranges, negated)
    | .value property value equal =>
      (CharClass.ofPropertyValue? property value).map fun ranges => (ranges, negated == equal)
  return s.foldedWith negated found

mutual

/-- The characters of a class between brackets, before the brackets negate it. -/
def classOf? : ClassSet → Option CharClass
  | .literal c => (s.classLiteral? c).map CharClass.single
  | .range lo hi => do
    let lo ← s.classLiteral? lo
    let hi ← s.classLiteral? hi
    return [(lo.toNat, hi.toNat)]
  | .ascii name negated => s.bracketed? negated (asciiClass name)
  | .letter k negated => s.named? negated (letterClass s.unicode k)
  | .property q negated => s.property? q negated
  | .union items => (classesOf? items).map CharClass.normalize
  | .bracketed negated body => do s.bracketed? negated (← classOf? body)
  | .binary op left right => do
    let left := s.folded (← classOf? left)
    let right := s.folded (← classOf? right)
    return match op with
      | .intersection => left.intersection right
      | .difference => left.difference right
      | .symmetricDifference => left.symmetricDifference right

/-- The characters of several classes together. -/
def classesOf? : List ClassSet → Option CharClass
  | [] => some []
  | item :: rest => do
    let first ← classOf? item
    let others ← classesOf? rest
    return first ++ others

end

end Switches

/-- At a line end the two characters of a line break stay together when both count. -/
def isLineStart (carriageReturn : Bool) (p : Place) : Bool :=
  match p.before with
  | none => true
  | some '\n' => true
  | some '\r' => carriageReturn && p.after ≠ some '\n'
  | some _ => false

def isLineEnd (carriageReturn : Bool) (p : Place) : Bool :=
  match p.after with
  | none => true
  | some '\r' => carriageReturn
  | some '\n' => !carriageReturn || p.before ≠ some '\r'
  | some _ => false

/-- Where an assertion holds. -/
def Switches.holds (s : Switches) (a : Assertion) : Place → Bool :=
  let isWord := letterClass s.unicode .word
  let inWord (c : Option Char) : Bool := c.any isWord.contains
  match a with
  | .lineStart => if s.multiLine then isLineStart s.carriageReturn else fun p => p.before.isNone
  | .lineEnd => if s.multiLine then isLineEnd s.carriageReturn else fun p => p.after.isNone
  | .textStart => fun p => p.before.isNone
  | .textEnd => fun p => p.after.isNone
  | .wordBoundary => fun p => inWord p.before != inWord p.after
  | .noWordBoundary => fun p => inWord p.before == inWord p.after
  | .wordStart => fun p => !inWord p.before && inWord p.after
  | .wordEnd => fun p => inWord p.before && !inWord p.after
  | .wordStartHalf => fun p => !inWord p.before
  | .wordEndHalf => fun p => !inWord p.after

/-- The characters that a dot stands for. -/
def Switches.dot (s : Switches) : CharClass :=
  if s.dotMatchesNewLine then [(0, maxCodePoint)]
  else if s.carriageReturn then CharClass.complement [(0x0A, 0x0A), (0x0D, 0x0D)]
  else CharClass.complement [(0x0A, 0x0A)]

mutual

/-- The matcher of a pattern and the switches that hold after it. -/
def Node.matcher? (s : Switches) : Node → Option (Matcher × Switches)
  | .empty => some (.empty, s)
  | .flags settings => some (.empty, s.setAll settings)
  | .literal c => do
    let c ← s.literal? c
    return (.one (s.folded (CharClass.single c)), s)
  | .dot => (s.admitted? s.dot).map fun ranges => (.one ranges, s)
  | .assertion a => some (.place (s.holds a), s)
  | .letter k negated =>
    (s.named? negated (letterClass s.unicode k)).map fun ranges => (.one ranges, s)
  | .property q negated => (s.property? q negated).map fun ranges => (.one ranges, s)
  | .bracketed negated body => do
    let ranges ← s.bracketed? negated (← s.classOf? body)
    return (.one ranges, s)
  | .repetition body least most => do
    let (m, after) ← body.matcher? s
    return (.repeated m least most, after)
  | .group settings body => do
    let (m, _) ← body.matcher? (s.setAll settings)
    return (m, s)
  | .alternation branches => Node.anyOf? s branches
  | .concat parts => Node.inRow? s parts

/-- The matcher of parts in a row. -/
def Node.inRow? (s : Switches) : List Node → Option (Matcher × Switches)
  | [] => some (.empty, s)
  | part :: rest => do
    let (first, s) ← part.matcher? s
    let (others, s) ← Node.inRow? s rest
    return (.seq first others, s)

/-- The matcher of branches, one of which is to match. -/
def Node.anyOf? (s : Switches) : List Node → Option (Matcher × Switches)
  | [] => some (.one [], s)
  | branch :: rest => do
    let (first, s) ← branch.matcher? s
    let (others, s) ← Node.anyOf? s rest
    return (.alt first others, s)

end

/-- The matcher of a pattern given by its text, if the text is a pattern. -/
def ofText? (source : String) : Option Matcher := do
  let node ← Node.ofText? source
  let (m, _) ← node.matcher? {}
  if m.room ≤ roomLimit then return m else none

/-- The engine that is built in. -/
instance engine : PatternEngine where
  compile? source := (ofText? source).map fun m text => m.occursIn text.toList

end Pattern

end Formwork
