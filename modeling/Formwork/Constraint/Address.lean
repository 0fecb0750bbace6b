import Formwork.Text.Blank

/-!
# Addresses in text

The shapes that a text constraint can ask for by name: an electronic mail address
and a web address.
-/

namespace Formwork

/-- A character that may stand on either side of the sign of a mail address. -/
def isMailChar (c : Char) : Bool := !isBlank c && c ≠ '@'

/-- A dot stands among the characters, with a character on either side. -/
def hasInnerDot : List Char → Bool
  | _ :: '.' :: _ :: _ => true
  | _ :: c :: rest => hasInnerDot (c :: rest)
  | _ => false

/-- A name, the sign, and a host with a dot inside. -/
def isEmailText (s : List Char) : Bool :=
  let name := s.takeWhile isMailChar
  match s.dropWhile isMailChar with
  | '@' :: host => !name.isEmpty && host.all isMailChar && hasInnerDot host
  | _ => false

/-- What follows the scheme of a web address. -/
def afterScheme? : List Char → Option (List Char)
  | 'h' :: 't' :: 't' :: 'p' :: ':' :: '/' :: '/' :: rest => some rest
  | 'h' :: 't' :: 't' :: 'p' :: 's' :: ':' :: '/' :: '/' :: rest => some rest
  | _ => none

/-- A scheme and an address without blanks that starts with a character of a host. -/
def isUrlText (s : List Char) : Bool :=
  match afterScheme? s with
  | some (c :: rest) =>
    !isBlank c && !(['/', '$', '.', '?', '#'].contains c) && rest.all fun c => !isBlank c
  | _ => false

end Formwork
