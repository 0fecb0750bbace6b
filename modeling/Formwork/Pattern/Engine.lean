/-!
# Pattern engines

Conditions and constraints hand their patterns to an engine for regular expressions.
They only ask it whether a text is a pattern at all and which texts have a match of
it, so the engine is a parameter of everything that is said about them, and what is
proved holds for any engine.

* `PatternEngine` is what is asked of an engine;
* `Pattern.isValid` and `matchPattern?` are the two questions.
-/

namespace Formwork

/-- An engine for regular expressions: it compiles a pattern to the test whether a
text has a match of it, or refuses. -/
class PatternEngine where
  compile? (pattern : String) : Option (String → Bool)

variable [PatternEngine]

/-- The engine accepts the pattern. -/
def Pattern.isValid (pattern : String) : Bool := (PatternEngine.compile? pattern).isSome

/-- Whether a text has a match of a pattern; `none` if the pattern is none. -/
def matchPattern? (pattern text : String) : Option Bool :=
  (PatternEngine.compile? pattern).map fun isMatch => isMatch text

/-- A text is matched against a pattern exactly if the pattern is valid. -/
theorem matchPattern?_eq_none_iff {pattern text : String} :
    matchPattern? pattern text = none ↔ Pattern.isValid pattern = false := by
  simp [matchPattern?, Pattern.isValid]

/-- The words for what is wrong with a pattern, which are not told in detail. -/
def patternFaultText : String := "<regex error>"

end Formwork
