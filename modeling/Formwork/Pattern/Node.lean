/-!
# The syntax of patterns

A pattern as it is written: literals, classes, assertions, repetitions, groups
and flags.  What a class or a flag means is decided later, when the pattern is
given its meaning.
-/

namespace Formwork

namespace Pattern

/-- A switch that a pattern can turn on or off from within. -/
inductive Flag where
  | ignoreCase
  | multiLine
  | dotMatchesNewLine
  | swapGreed
  | unicode
  | carriageReturn
  | ignoreBlanks
deriving DecidableEq, Repr

/-- The switches that a group turns on (`true`) and off. -/
abbrev FlagSettings := List (Flag × Bool)

/-- The three classes with a letter of their own. -/
inductive LetterClass where
  | digit
  | blank
  | word
deriving DecidableEq, Repr

/-- A class of characters by name, or by the value of a property. -/
inductive PropertyQuery where
  | name (name : List Char)
  | value (property value : List Char) (equal : Bool)
deriving DecidableEq, Repr

/-- How two classes in brackets combine. -/
inductive ClassOperator where
  | intersection
  | difference
  | symmetricDifference
deriving DecidableEq, Repr

/-- A literal, and whether it was given by its number in two digits. -/
structure Literal where
  char : Char
  isByte : Bool := false
deriving DecidableEq, Repr

/-- What may stand between brackets. -/
inductive ClassSet where
  | literal (c : Literal)
  | range (lo hi : Literal)
  | ascii (name : String) (negated : Bool)
  | letter (k : LetterClass) (negated : Bool)
  | property (q : PropertyQuery) (negated : Bool)
  | union (items : List ClassSet)
  | bracketed (negated : Bool) (body : ClassSet)
  | binary (op : ClassOperator) (left right : ClassSet)
deriving Repr, Inhabited

/-- A condition on a place in the text. -/
inductive Assertion where
  | lineStart
  | lineEnd
  | textStart
  | textEnd
  | wordBoundary
  | noWordBoundary
  | wordStart
  | wordEnd
  | wordStartHalf
  | wordEndHalf
deriving DecidableEq, Repr

/-- A pattern as it is written. -/
inductive Node where
  | empty
  | flags (settings : FlagSettings)
  | literal (c : Literal)
  | dot
  | assertion (a : Assertion)
  | letter (k : LetterClass) (negated : Bool)
  | property (q : PropertyQuery) (negated : Bool)
  | bracketed (negated : Bool) (body : ClassSet)
  | repetition (body : Node) (least : Nat) (most : Option Nat)
  | group (settings : FlagSettings) (body : Node)
  | alternation (branches : List Node)
  | concat (parts : List Node)
deriving Repr, Inhabited

/-! ## Equality -/

mutual

/-- The two classes are written the same. -/
def ClassSet.same : ClassSet → ClassSet → Bool
  | .literal c, .literal d => c = d
  | .range lo hi, .range lo' hi' => lo = lo' && hi = hi'
  | .ascii name negated, .ascii name' negated' => name = name' && negated = negated'
  | .letter k negated, .letter k' negated' => k = k' && negated = negated'
  | .property q negated, .property q' negated' => q = q' && negated = negated'
  | .union items, .union items' => ClassSet.sameAll items items'
  | .bracketed negated body, .bracketed negated' body' => negated = negated' && body.same body'
  | .binary op left right, .binary op' left' right' =>
    op = op' && left.same left' && right.same right'
  | _, _ => false

/-- The classes are written the same, one by one. -/
def ClassSet.sameAll : List ClassSet → List ClassSet → Bool
  | [], [] => true
  | s :: rest, t :: rest' => s.same t && ClassSet.sameAll rest rest'
  | _, _ => false

end

mutual

/-- The two patterns are written the same. -/
def Node.same : Node → Node → Bool
  | .empty, .empty => true
  | .flags settings, .flags settings' => settings = settings'
  | .literal c, .literal d => c = d
  | .dot, .dot => true
  | .assertion a, .assertion b => a = b
  | .letter k negated, .letter k' negated' => k = k' && negated = negated'
  | .property q negated, .property q' negated' => q = q' && negated = negated'
  | .bracketed negated body, .bracketed negated' body' => negated = negated' && body.same body'
  | .repetition body least most, .repetition body' least' most' =>
    body.same body' && least = least' && most = most'
  | .group settings body, .group settings' body' => settings = settings' && body.same body'
  | .alternation branches, .alternation branches' => Node.sameAll branches branches'
  | .concat parts, .concat parts' => Node.sameAll parts parts'
  | _, _ => false

/-- The patterns are written the same, one by one. -/
def Node.sameAll : List Node → List Node → Bool
  | [], [] => true
  | s :: rest, t :: rest' => s.same t && Node.sameAll rest rest'
  | _, _ => false

end

mutual

/-- Classes that are written the same are equal. -/
theorem ClassSet.same_iff : (s t : ClassSet) → (s.same t = true ↔ s = t)
  | .literal _, t => by cases t <;> simp [same]
  | .range _ _, t => by cases t <;> simp [same]
  | .ascii _ _, t => by cases t <;> simp [same]
  | .letter _ _, t => by cases t <;> simp [same]
  | .property _ _, t => by cases t <;> simp [same]
  | .union items, t => by cases t <;> simp [same, sameAll_iff items]
  | .bracketed _ body, t => by cases t <;> simp [same, same_iff body]
  | .binary _ left right, t => by
      cases t <;> simp [same, same_iff left, same_iff right, and_assoc]

/-- Lists of classes are found the same exactly if they are equal. -/
theorem ClassSet.sameAll_iff : (s t : List ClassSet) → (ClassSet.sameAll s t = true ↔ s = t)
  | [], t => by cases t <;> simp [sameAll]
  | s :: rest, t => by cases t <;> simp [sameAll, same_iff s, sameAll_iff rest]

end

mutual

/-- Patterns that are written the same are equal. -/
theorem Node.same_iff : (s t : Node) → (s.same t = true ↔ s = t)
  | .empty, t => by cases t <;> simp [same]
  | .flags _, t => by cases t <;> simp [same]
  | .literal _, t => by cases t <;> simp [same]
  | .dot, t => by cases t <;> simp [same]
  | .assertion _, t => by cases t <;> simp [same]
  | .letter _ _, t => by cases t <;> simp [same]
  | .property _ _, t => by cases t <;> simp [same]
  | .bracketed _ body, t => by cases t <;> simp [same, body.same_iff]
  | .repetition body _ _, t => by cases t <;> simp [same, same_iff body, and_assoc]
  | .group _ body, t => by cases t <;> simp [same, same_iff body]
  | .alternation branches, t => by cases t <;> simp [same, sameAll_iff branches]
  | .concat parts, t => by cases t <;> simp [same, sameAll_iff parts]

/-- Lists of nodes are found the same exactly if they are equal. -/
theorem Node.sameAll_iff : (s t : List Node) → (Node.sameAll s t = true ↔ s = t)
  | [], t => by cases t <;> simp [sameAll]
  | s :: rest, t => by cases t <;> simp [sameAll, same_iff s, sameAll_iff rest]

end

instance : DecidableEq Node := fun s t => decidable_of_iff (s.same t = true) (s.same_iff t)

/-! ## Depth -/

mutual

/-- How deep a class nests; an operand that is left out adds nothing. -/
def ClassSet.depth : ClassSet → Nat
  | .union [] => 0
  | .union items => 1 + ClassSet.depths items
  | .bracketed _ body => 1 + body.depth
  | .binary _ left right => 1 + max left.depth right.depth
  | _ => 0

/-- The greatest depth among several classes. -/
def ClassSet.depths : List ClassSet → Nat
  | [] => 0
  | s :: rest => max s.depth (ClassSet.depths rest)

end

mutual

/-- How deep a pattern nests. -/
def Node.depth : Node → Nat
  | .bracketed _ body => 1 + body.depth
  | .repetition body _ _ => 1 + body.depth
  | .group _ body => 1 + body.depth
  | .alternation branches => 1 + Node.depths branches
  | .concat parts => 1 + Node.depths parts
  | _ => 0

/-- The greatest depth among several patterns. -/
def Node.depths : List Node → Nat
  | [] => 0
  | s :: rest => max s.depth (Node.depths rest)

end

end Pattern

end Formwork
