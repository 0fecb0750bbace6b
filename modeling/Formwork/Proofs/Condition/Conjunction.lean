import Formwork.Pattern.Meaning
import Formwork.Proofs.Condition.Meaning
import Formwork.Proofs.Condition.Parts

/-!
# Conjunctions

A condition that takes another one in becomes a group of which all members are to hold.  If it
was such a group, the other is its last member from then on; any other condition, one that
cannot be evaluated included, becomes a member itself.  So a chain of conditions is one group,
in which only the first of them may be opened, and how deep it is nested depends on the shape of
that one.  What comes of it does not: the conditions of a chain are read in order, up to the
first that is false or faults.

* `conjuncts_chain` — the members that a chain has as a group;
* `readUpTo_append` — reading goes on after members that leave the group open;
* `evaluate_chain` — a chain comes to what its conditions come to as members of one group;
* `chain_is_conjunction` — what that is, and which paths a chain mentions.
-/

namespace Formwork

namespace Condition

/-! ## The members of a chain -/

/-- The members that a condition has in a conjunction: those of a group of which all are to
hold, and the condition itself if it is anything else. -/
def conjuncts : Condition → List Condition
  | .all items => items
  | c => [c]

/-- The condition takes the others in, one after the other. -/
def chain (c : Condition) (others : List Condition) : Condition := others.foldl conj c

theorem conjuncts_conj (c d : Condition) : (c.conj d).conjuncts = c.conjuncts ++ [d] := by
  cases c <;> rfl

/-- The others stand behind the members of the first, and none of them is opened. -/
theorem conjuncts_chain (c : Condition) (others : List Condition) :
    (chain c others).conjuncts = c.conjuncts ++ others := by
  induction others generalizing c with
  | nil => simp [chain]
  | cons d rest ih =>
      calc (chain c (d :: rest)).conjuncts
          = (c.conj d).conjuncts ++ rest := ih (c.conj d)
        _ = c.conjuncts ++ d :: rest := by rw [conjuncts_conj, List.append_assoc]; rfl

/-! ## What comes of a chain -/

/-- The first members settle the group, or they leave it open and the others are read. -/
theorem readUpTo_append {read : Condition → Except EvaluationFault Bool → Prop} {settling : Bool}
    {result : Except EvaluationFault Bool} {xs ys : List Condition} :
    ReadUpTo read settling (xs ++ ys) result ↔
      result ≠ .ok (!settling) ∧ ReadUpTo read settling xs result ∨
        ReadUpTo read settling xs (.ok (!settling)) ∧ ReadUpTo read settling ys result := by
  induction xs with
  | nil => simp [readUpTo_nil]
  | cons c rest ih =>
      simp only [List.cons_append, readUpTo_cons, ih]
      tauto

section Chain

variable [PatternEngine] {values : Snapshot}

/-- A group of one condition comes to what the condition comes to. -/
theorem evaluate_all_singleton (c : Condition) :
    (all [c]).evaluate values = c.evaluate values := by
  rw [evaluate_all_iff, readUpTo_cons, readUpTo_nil]
  by_cases hopen : c.evaluate values = .ok true
  · exact Or.inr ⟨hopen, hopen⟩
  · exact Or.inl ⟨hopen, rfl⟩

/-- As a group, the members of a condition come to what the condition comes to. -/
theorem evaluate_all_conjuncts (c : Condition) :
    (all c.conjuncts).evaluate values = c.evaluate values := by
  cases c with
  | all items => rfl
  | rule r => exact evaluate_all_singleton _
  | any items => exact evaluate_all_singleton _
  | unset => exact evaluate_all_singleton _
  | conflicting xs ys => exact evaluate_all_singleton _

/-- Of the first members of a group only counts what they come to. -/
theorem evaluate_all_append_congr {xs ys : List Condition}
    (h : (all xs).evaluate values = (all ys).evaluate values) (others : List Condition) :
    (all (xs ++ others)).evaluate values = (all (ys ++ others)).evaluate values := by
  have hread : ∀ result, ReadUpTo (fun c r => c.evaluate values = r) false xs result ↔
      ReadUpTo (fun c r => c.evaluate values = r) false ys result := by
    intro result
    rw [← evaluate_all_iff, ← evaluate_all_iff, h]
  rw [evaluate_all_iff, readUpTo_append, hread, hread, ← readUpTo_append, ← evaluate_all_iff]

/-- A chain comes to what its conditions come to as members of one group. -/
theorem evaluate_chain (c : Condition) (others : List Condition) :
    (chain c others).evaluate values = (all (c :: others)).evaluate values := by
  have hfirst : (all c.conjuncts).evaluate values = (all [c]).evaluate values := by
    rw [evaluate_all_conjuncts, evaluate_all_singleton]
  calc (chain c others).evaluate values
      = (all (chain c others).conjuncts).evaluate values := (evaluate_all_conjuncts _).symm
    _ = (all (c.conjuncts ++ others)).evaluate values := by rw [conjuncts_chain]
    _ = (all (c :: others)).evaluate values := evaluate_all_append_congr hfirst others

end Chain

/-! ## What a chain mentions -/

/-- Conditions one after the other mention their paths one after the other. -/
theorem pathsOf_append (xs ys : List Condition) :
    pathsOf (xs ++ ys) = pathsOf xs ++ pathsOf ys := by
  induction xs with
  | nil => rfl
  | cons c rest ih => simp [pathsOf, ih]

/-- A chain mentions the paths of its members in their order. -/
theorem pathsOf_conjuncts (c : Condition) : pathsOf c.conjuncts = c.paths := by
  cases c <;> simp [conjuncts, pathsOf, paths]

/-- A chain mentions what its conditions mention, in their order. -/
theorem paths_chain (c : Condition) (others : List Condition) :
    (chain c others).paths = pathsOf (c :: others) := by
  calc (chain c others).paths
      = pathsOf (c.conjuncts ++ others) := by rw [← pathsOf_conjuncts, conjuncts_chain]
    _ = pathsOf (c :: others) := by rw [pathsOf_append, pathsOf_conjuncts]; rfl

/-- **A chain of conditions is their conjunction.**  Whatever its conditions are, it is true if
each of them is; otherwise it comes to what the first of them comes to that is not, be that
false or a fault.  It mentions the paths that its conditions mention and no others. -/
theorem chain_is_conjunction [PatternEngine] (c : Condition) (others : List Condition) :
    (∀ values result, (chain c others).evaluate values = result ↔
      (result = .ok true ∧ ∀ d ∈ c :: others, d.evaluate values = .ok true) ∨
        (result ≠ .ok true ∧ ∃ before d after, c :: others = before ++ d :: after ∧
          (∀ b ∈ before, b.evaluate values = .ok true) ∧ d.evaluate values = result)) ∧
    ∀ path, path ∈ (chain c others).paths ↔ ∃ d ∈ c :: others, path ∈ d.paths := by
  constructor
  · intro values result
    rw [evaluate_chain]
    exact evaluate_all_iff
  · intro path
    rw [paths_chain]
    exact mem_pathsOf_iff

/-- A fault behind a condition that does not hold is not met. -/
example : (chain (.any []) [.conflicting [] []]).evaluate [] = .ok false := by decide +kernel

/-- The same fault before it is. -/
example : (chain (.conflicting [] []) [.any []]).evaluate [] = .error .conflictingGroup := by
  decide +kernel

end Condition

end Formwork
