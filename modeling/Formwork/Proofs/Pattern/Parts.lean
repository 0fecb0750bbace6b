import Formwork.Proofs.Pattern.Forward

/-!
# Parts of patterns

The classes and the parts that patterns for the shapes of text are put together from: what each
of them takes off a text, and how much room it takes itself.

* `contains_blankOr`, `contains_oneOf`, `contains_upTo` — classes;
* `takes_char`, `takes_one_cons`, `takes_many` — what parts take;
* `room_inRow_le`, `room_anyOf_le`, `room_repeated_le` — the room of parts put together;
* `matchPattern?_eq_some_iff` — what a pattern that starts at the start of a text is found in.
-/

namespace Formwork

open Pattern Pattern.Matcher

variable {ranges : CharClass} {a b c d : Char} {s t : List Char} {rest : List Matcher}

/-! ## Classes -/

namespace CharClass

/-- A blank or one of the characters. -/
def blankOr (chars : List Char) : CharClass := blank ++ chars.flatMap single

/-- One of two characters. -/
def oneOf (c d : Char) : CharClass := (single c ++ single d).normalize

/-- The characters from one to another. -/
def upTo (c d : Char) : CharClass := [(c.toNat, d.toNat)]

theorem contains_blankOr {chars : List Char} :
    (blankOr chars).contains c = (isBlank c || chars.contains c) := by
  rw [blankOr, contains_append, isBlank]
  congr 1
  induction chars with
  | nil => rfl
  | cons d rest ih => simp [ih]

/-- Characters are ordered by their codes. -/
theorem le_iff_code : c ≤ d ↔ c.toNat ≤ d.toNat := UInt32.le_iff_toNat_le

theorem contains_oneOf : (oneOf c d).contains a = true ↔ a = c ∨ a = d := by
  simp [oneOf]

theorem contains_upTo : (upTo c d).contains a = true ↔ c ≤ a ∧ a ≤ d := by
  simp [upTo, contains, containsCode, le_iff_code]

theorem contains_anyDigit : anyDigit.contains c = isAnyDigit c := rfl

theorem proper_blank : Proper blank := by decide

/-- Blanks and some characters more are proper ranges. -/
theorem proper_blankOr (chars : List Char) : (blankOr chars).Proper := by
  refine List.forall_mem_append.mpr ⟨proper_blank, fun r hr => ?_⟩
  obtain ⟨c, _, hr⟩ := List.mem_flatMap.mp hr
  obtain rfl := List.mem_singleton.mp hr
  exact Nat.le_refl _

end CharClass

namespace Pattern

/-! ## Parts -/

namespace Node

/-- A character that stands for itself. -/
def char (c : Char) : Node := .literal ⟨c, false⟩

/-- A digit by its letter. -/
def digit : Node := .letter .digit false

/-- Two characters between brackets. -/
def oneOf (c d : Char) : Node :=
  .bracketed false (.union [.literal ⟨c, false⟩, .literal ⟨d, false⟩])

/-- A range between brackets. -/
def upTo (c d : Char) : Node := .bracketed false (.range ⟨c, false⟩ ⟨d, false⟩)

end Node

namespace Matcher

/-- One character. -/
def char (c : Char) : Matcher := .one (.single c)

/-- A digit of any script. -/
def digit : Matcher := .one .anyDigit

/-- The start of a text. -/
def textStart : Matcher := .place fun p => p.before.isNone

/-- The end of a text. -/
def textEnd : Matcher := .place fun p => p.after.isNone

@[simp] theorem takes_char : (char c).Takes s t ↔ s = c :: t := by
  simp [char]

@[simp] theorem takes_textEnd : textEnd.Takes s t ↔ s = [] ∧ t = s := by
  cases s <;> simp [textEnd]

/-- At least one character of a class. -/
theorem takes_many : (repeated (one ranges) 1 none).Takes s t ↔
    ∃ run, s = run ++ t ∧ run ≠ [] ∧ ∀ c ∈ run, ranges.contains c = true := by
  rw [takes_repeated_one]
  refine exists_congr fun run => ?_
  cases run <;> simp

/-- One character of a class and what comes after it. -/
theorem takes_one_cons : (inRow (.one ranges :: rest)).Takes s t ↔
    ∃ c u, s = c :: u ∧ ranges.contains c = true ∧ (inRow rest).Takes u t := by
  rw [takes_inRow_cons]
  constructor
  · intro h
    obtain ⟨u, ⟨c, hs, hc⟩, hrest⟩ := h
    exact ⟨c, u, hs, hc, hrest⟩
  · intro h
    obtain ⟨c, u, hs, hc, hrest⟩ := h
    exact ⟨u, ⟨c, hs, hc⟩, hrest⟩

/-- One character and what comes after it. -/
theorem takes_char_cons : (inRow (char c :: rest)).Takes s t ↔
    ∃ u, s = c :: u ∧ (inRow rest).Takes u t := by
  simp

/-! ## Room -/

/-- A class does not take much room. -/
theorem classRoom_le (ranges : CharClass) : classRoom ranges ≤ 64 * (ranges.length + 1) := by
  unfold classRoom
  split
  · split <;> omega
  · omega

/-- Nor does what a class leaves out. -/
theorem classRoom_complement_le {count : Nat} (h : ranges.length ≤ count) :
    classRoom ranges.complement ≤ 64 * (count + 2) := by
  have hclass := classRoom_le ranges.complement
  have hgaps := CharClass.length_complement_le ranges
  omega

/-- One character needs no more room than this. -/
theorem room_char_le {room : Nat} (h : 128 ≤ room) : (char c).room ≤ room :=
  Nat.le_trans (classRoom_le (CharClass.single c)) h

theorem room_upTo_le {room : Nat} (h : 128 ≤ room) : (one (CharClass.upTo c d)).room ≤ room :=
  Nat.le_trans (classRoom_le (CharClass.upTo c d)) h

/-- Two characters need no more room than this. -/
theorem room_oneOf_le {room : Nat} (h : 192 ≤ room) : (one (CharClass.oneOf c d)).room ≤ room := by
  have hlength : (CharClass.oneOf c d).length ≤ 2 := CharClass.length_normalize_le _
  have hclass := classRoom_le (CharClass.oneOf c d)
  rw [Matcher.room]
  omega

theorem room_digit_le {room : Nat} (h : 6000 ≤ room) : digit.room ≤ room :=
  Nat.le_trans (by decide : digit.room ≤ 6000) h

theorem room_textEnd_le {room : Nat} (h : 32 ≤ room) : textEnd.room ≤ room := h

/-- Parts in a row take the room of the parts. -/
theorem room_inRow_le {row : List Matcher} {room : Nat} (h : ∀ m ∈ row, m.room ≤ room) :
    (inRow row).room ≤ row.length * room + 32 := by
  induction row with
  | nil => exact Nat.le_add_left 32 _
  | cons m rest ih =>
      obtain ⟨hm, hrest⟩ := List.forall_mem_cons.mp h
      have hrow := ih hrest
      rw [inRow, Matcher.room, List.length_cons, Nat.succ_mul]
      omega

/-- Branches take the room of the branches and a little more for each. -/
theorem room_anyOf_le {branches : List Matcher} {room : Nat} (h : ∀ m ∈ branches, m.room ≤ room) :
    (anyOf branches).room ≤ branches.length * (room + 32) + 32 := by
  induction branches with
  | nil => exact Nat.le_add_left 32 _
  | cons m rest ih =>
      obtain ⟨hm, hrest⟩ := List.forall_mem_cons.mp h
      have hbranches := ih hrest
      rw [anyOf, Matcher.room, List.length_cons, Nat.succ_mul]
      omega

/-- What may be left out takes a little more room. -/
theorem room_optional_le {body : Matcher} {room : Nat} (h : body.room ≤ room) :
    (repeated body 0 (some 1)).room ≤ room + 64 := by
  simp only [Matcher.room]
  omega

/-- So does what comes any number of times, perhaps at least once. -/
theorem room_repeated_le {body : Matcher} {least room : Nat} (hleast : least ≤ 1)
    (h : body.room ≤ room) : (repeated body least none).room ≤ room + 64 := by
  have hmax : max 1 least = 1 := Nat.max_eq_left hleast
  simp only [Matcher.room, hmax]
  omega

end Matcher

end Pattern

/-! ## Finding a pattern -/

/-- A pattern that starts at the start of a text is found in the texts that it can be taken
off. -/
theorem matchPattern?_eq_some_iff {pattern : String} {node : Node} {m : Matcher} {found : Bool}
    (hnode : Node.ofText? pattern = some node)
    (hm : node.matcher? {} = some (.seq textStart m, {})) (hroom : m.room + 32 ≤ roomLimit)
    (hforward : m.IsForward) (text : String) : matchPattern? pattern text = some found ↔
      (found = true ↔ ∃ t, m.Takes text.toList t) := by
  have hroom : (Matcher.seq textStart m).room ≤ roomLimit := by
    rw [Matcher.room, textStart, Matcher.room]
    omega
  rw [matchPattern?_engine (ofText?_eq_some hnode hm hroom), Option.some_inj,
    ← occursIn_fromStart hforward, Bool.eq_iff_iff]
  exact iff_comm

end Formwork
