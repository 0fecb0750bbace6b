import Formwork.Pattern.Meaning
import Formwork.Proofs.Pattern.Matching
import Formwork.Proofs.Text.CharClass

/-!
# Patterns that are read from the start

Most patterns look back nowhere but at their very start.  What such a pattern describes can be
said of a text alone: how much of it is taken and what is left.

* `Matcher.Takes` — a run of characters that the matcher describes is taken off a text;
* `takes_iff_leads` — it is what the matcher leads over, if it never looks back;
* `occursIn_fromStart` — to search for a pattern that holds at the start only is to take it
  from there;
* `ofText?_eq_some` — what a text means as a pattern, from its syntax on.
-/

namespace Formwork

namespace Pattern

variable {before : Option Char} {s t text : List Char}

/-! ## Matchers that never look back -/

namespace Matcher

/-- No assertion of the matcher depends on the character before a place. -/
def IsForward : Matcher → Prop
  | .empty => True
  | .one _ => True
  | .place holds => ∀ before after, holds ⟨before, after⟩ = holds ⟨none, after⟩
  | .seq first second => first.IsForward ∧ second.IsForward
  | .alt left right => left.IsForward ∧ right.IsForward
  | .repeated body _ _ => body.IsForward

/-- A run of characters that the matcher describes is taken off the first text, and the second
is left. -/
def Takes : Matcher → List Char → List Char → Prop
  | .empty => fun s t => t = s
  | .one ranges => fun s t => ∃ c, s = c :: t ∧ ranges.contains c = true
  | .place holds => fun s t => holds ⟨none, s.head?⟩ = true ∧ t = s
  | .seq first second => fun s u => ∃ t, first.Takes s t ∧ second.Takes t u
  | .alt left right => fun s t => left.Takes s t ∨ right.Takes s t
  | .repeated body least most => fun s t =>
    ∃ n, least ≤ n ∧ (∀ m, most = some m → n ≤ max least m) ∧ InSteps body.Takes n s t

/-- Where a step from text to text is one from spot to spot, whatever comes before, so are any
number of steps. -/
theorem inSteps_iff_of_step {takes : List Char → List Char → Prop} {leads : Spot → Spot → Prop}
    (hstep : ∀ s t before, takes s t ↔ ∃ after, leads ⟨before, s⟩ ⟨after, t⟩) (n : Nat)
    (before : Option Char) :
    InSteps takes n s t ↔ ∃ after, InSteps leads n ⟨before, s⟩ ⟨after, t⟩ := by
  induction n generalizing before s with
  | zero =>
      constructor
      · intro h
        obtain rfl : t = s := h
        exact ⟨before, rfl⟩
      · intro h
        obtain ⟨after, h⟩ := h
        exact congrArg Spot.rest h
  | succ n ih =>
      constructor
      · intro h
        obtain ⟨u, hone, hothers⟩ := h
        obtain ⟨between, hone⟩ := (hstep s u before).mp hone
        obtain ⟨after, hothers⟩ := (ih between).mp hothers
        exact ⟨after, ⟨between, u⟩, hone, hothers⟩
      · intro h
        obtain ⟨after, ⟨between, u⟩, hone, hothers⟩ := h
        exact ⟨u, (hstep s u before).mpr ⟨between, hone⟩, (ih between).mpr ⟨after, hothers⟩⟩

/-- A matcher that never looks back takes what it leads over, whatever comes before. -/
theorem takes_iff_leads {m : Matcher} (h : m.IsForward) (before : Option Char) :
    m.Takes s t ↔ ∃ after, m.Leads ⟨before, s⟩ ⟨after, t⟩ := by
  induction m generalizing before s t with
  | empty =>
      constructor
      · intro ht
        obtain rfl : t = s := ht
        exact ⟨before, rfl⟩
      · intro ht
        obtain ⟨after, ht⟩ := ht
        exact congrArg Spot.rest ht
  | one ranges =>
      constructor
      · intro ht
        obtain ⟨c, hs, hc⟩ := ht
        exact ⟨some c, c, hs, rfl, hc⟩
      · intro ht
        obtain ⟨_, c, hs, _, hc⟩ := ht
        exact ⟨c, hs, hc⟩
  | place holds =>
      have hsame : holds ⟨before, s.head?⟩ = holds ⟨none, s.head?⟩ := h before s.head?
      constructor
      · intro ht
        obtain ⟨hholds, rfl⟩ := ht
        exact ⟨before, hsame.trans hholds, rfl⟩
      · intro ht
        obtain ⟨after, hholds, hspot⟩ := ht
        exact ⟨hsame.symm.trans hholds, congrArg Spot.rest hspot⟩
  | seq first second ihfirst ihsecond =>
      constructor
      · intro ht
        obtain ⟨u, hfirst, hsecond⟩ := ht
        obtain ⟨between, hfirst⟩ := (ihfirst h.1 before).mp hfirst
        obtain ⟨after, hsecond⟩ := (ihsecond h.2 between).mp hsecond
        exact ⟨after, ⟨between, u⟩, hfirst, hsecond⟩
      · intro ht
        obtain ⟨after, ⟨between, u⟩, hfirst, hsecond⟩ := ht
        exact ⟨u, (ihfirst h.1 before).mpr ⟨between, hfirst⟩,
          (ihsecond h.2 between).mpr ⟨after, hsecond⟩⟩
  | alt left right ihleft ihright =>
      exact (or_congr (ihleft h.1 before) (ihright h.2 before)).trans exists_or.symm
  | repeated body least most ih =>
      have hsteps (n : Nat) : InSteps body.Takes n s t ↔
          ∃ after, InSteps body.Leads n ⟨before, s⟩ ⟨after, t⟩ :=
        inSteps_iff_of_step (fun s t before => ih h before) n before
      constructor
      · intro ht
        obtain ⟨n, hleast, hmost, ht⟩ := ht
        obtain ⟨after, ht⟩ := (hsteps n).mp ht
        exact ⟨after, n, hleast, hmost, ht⟩
      · intro ht
        obtain ⟨after, n, hleast, hmost, ht⟩ := ht
        exact ⟨n, hleast, hmost, (hsteps n).mpr ⟨after, ht⟩⟩

/-! ## Common forms -/

/-- The matchers one after the other, as the parts of a pattern are put together. -/
def inRow : List Matcher → Matcher
  | [] => .empty
  | m :: rest => .seq m (inRow rest)

/-- Any of the matchers, as the branches of a pattern are put together. -/
def anyOf : List Matcher → Matcher
  | [] => .one []
  | m :: rest => .alt m (anyOf rest)

@[simp] theorem takes_inRow_nil : (inRow []).Takes s t ↔ t = s := Iff.rfl

@[simp] theorem takes_inRow_cons {m : Matcher} {rest : List Matcher} :
    (inRow (m :: rest)).Takes s t ↔ ∃ u, m.Takes s u ∧ (inRow rest).Takes u t := Iff.rfl

@[simp] theorem takes_anyOf {branches : List Matcher} :
    (anyOf branches).Takes s t ↔ ∃ m ∈ branches, m.Takes s t := by
  induction branches with
  | nil => simp [anyOf, Takes, CharClass.contains]
  | cons m rest ih =>
      rw [List.exists_mem_cons_iff, ← ih]
      rfl

/-- Parts in a row are taken in two pieces wherever the row is cut. -/
theorem takes_inRow_append {first second : List Matcher} : (inRow (first ++ second)).Takes s t ↔
    ∃ u, (inRow first).Takes s u ∧ (inRow second).Takes u t := by
  induction first generalizing s with
  | nil => simp
  | cons m rest ih =>
      simp only [List.cons_append, takes_inRow_cons, ih]
      constructor
      · intro h
        obtain ⟨v, hm, u, hrest, hsecond⟩ := h
        exact ⟨u, ⟨v, hm, hrest⟩, hsecond⟩
      · intro h
        obtain ⟨u, ⟨v, hm, hrest⟩, hsecond⟩ := h
        exact ⟨v, hm, u, hrest, hsecond⟩

@[simp] theorem takes_one {ranges : CharClass} :
    (one ranges).Takes s t ↔ ∃ c, s = c :: t ∧ ranges.contains c = true := Iff.rfl

@[simp] theorem takes_place {holds : Place → Bool} :
    (place holds).Takes s t ↔ holds ⟨none, s.head?⟩ = true ∧ t = s := Iff.rfl

/-- To take one character of a class so many times is to take a run of this length. -/
theorem inSteps_one_iff {ranges : CharClass} {n : Nat} :
    InSteps (one ranges).Takes n s t ↔ ∃ run : List Char,
      run.length = n ∧ s = run ++ t ∧ ∀ c ∈ run, ranges.contains c = true := by
  induction n generalizing s with
  | zero =>
      constructor
      · intro h
        exact ⟨[], rfl, Eq.symm h, List.forall_mem_nil _⟩
      · intro h
        obtain ⟨run, hlength, rfl, _⟩ := h
        obtain rfl := List.eq_nil_of_length_eq_zero hlength
        rfl
  | succ n ih =>
      constructor
      · intro h
        obtain ⟨_, ⟨c, rfl, hc⟩, hothers⟩ := h
        obtain ⟨run, hlength, rfl, hrun⟩ := ih.mp hothers
        exact ⟨c :: run, congrArg Nat.succ hlength, rfl, List.forall_mem_cons.mpr ⟨hc, hrun⟩⟩
      · intro h
        obtain ⟨run, hlength, rfl, hrun⟩ := h
        cases run with
        | nil => cases hlength
        | cons c run =>
            obtain ⟨hc, hrun⟩ := List.forall_mem_cons.mp hrun
            exact ⟨run ++ t, ⟨c, rfl, hc⟩, ih.mpr ⟨run, Nat.succ.inj hlength, rfl, hrun⟩⟩

/-- Characters of a class, so many of them as the repetition asks for and allows. -/
theorem takes_repeated_one {ranges : CharClass} {least : Nat} {most : Option Nat} :
    (repeated (one ranges) least most).Takes s t ↔ ∃ run, s = run ++ t ∧
      (∀ c ∈ run, ranges.contains c = true) ∧ least ≤ run.length ∧
      ∀ m, most = some m → run.length ≤ max least m := by
  constructor
  · intro h
    obtain ⟨n, hleast, hmost, h⟩ := h
    obtain ⟨run, rfl, hs, hrun⟩ := inSteps_one_iff.mp h
    exact ⟨run, hs, hrun, hleast, hmost⟩
  · intro h
    obtain ⟨run, hs, hrun, hleast, hmost⟩ := h
    exact ⟨run.length, hleast, hmost, inSteps_one_iff.mpr ⟨run, rfl, hs, hrun⟩⟩

/-- What may be left out is taken or not. -/
theorem takes_optional {body : Matcher} :
    (repeated body 0 (some 1)).Takes s t ↔ t = s ∨ body.Takes s t := by
  constructor
  · intro h
    obtain ⟨n, _, hmost, h⟩ := h
    obtain rfl | rfl := Nat.le_one_iff_eq_zero_or_eq_one.mp (hmost 1 rfl)
    · exact Or.inl h
    · obtain ⟨u, hbody, rfl⟩ := h
      exact Or.inr hbody
  · intro h
    rcases h with rfl | h
    · exact ⟨0, Nat.le_refl 0, fun _ _ => Nat.zero_le _, rfl⟩
    · exact ⟨1, Nat.zero_le 1, fun m hm => by simp [← Option.some.inj hm], t, h, rfl⟩

end Matcher

/-! ## Searching from the start -/

/-- Only at its start does a text have nothing before a place. -/
theorem Spot.Onward.eq_of_before_eq_none {a b : Spot} (h : a.Onward b) (hb : b.before = none) :
    b = a := by
  have hafter {c d : Spot} (h : c.Onward d) (hc : c.before ≠ none) : d.before ≠ none := by
    induction h with
    | here => exact hc
    | past _ ih => exact ih (Option.some_ne_none _)
  cases h with
  | here => rfl
  | past h => exact absurd hb (hafter h (Option.some_ne_none _))

/-- **From the start.**  A pattern that holds at the start only, and looks back nowhere else,
occurs in the texts that it can be taken off. -/
theorem occursIn_fromStart {m : Matcher} (hm : m.IsForward) (text : List Char) :
    (Matcher.seq (.place fun p => p.before.isNone) m).occursIn text = true ↔
      ∃ t, m.Takes text t := by
  rw [occursIn_iff]
  constructor
  · intro h
    obtain ⟨a, ⟨after, t⟩, ha, _, ⟨hstart, rfl⟩, hm'⟩ := h
    obtain rfl := ha.eq_of_before_eq_none (Option.isNone_iff_eq_none.mp hstart)
    exact ⟨t, (Matcher.takes_iff_leads hm none).mpr ⟨after, hm'⟩⟩
  · intro h
    obtain ⟨t, ht⟩ := h
    obtain ⟨after, hleads⟩ := (Matcher.takes_iff_leads hm none).mp ht
    exact ⟨⟨none, text⟩, ⟨after, t⟩, .here _, ⟨none, text⟩, ⟨rfl, rfl⟩, hleads⟩

/-! ## What a text means -/

/-- A text whose syntax is known, and what it means, is a pattern if there is room for it. -/
theorem ofText?_eq_some {source : String} {node : Node} {m : Matcher} {after : Switches}
    (hnode : Node.ofText? source = some node) (hm : node.matcher? {} = some (m, after))
    (hroom : m.room ≤ roomLimit) : ofText? source = some m := by
  simp [ofText?, hnode, hm, hroom]

end Pattern

/-- The built-in engine searches with the matcher of a pattern. -/
theorem matchPattern?_engine {pattern : String} {m : Pattern.Matcher}
    (h : Pattern.ofText? pattern = some m) (text : String) :
    matchPattern? pattern text = some (m.occursIn text.toList) := by
  simp [matchPattern?, PatternEngine.compile?, h]

end Formwork
