import Formwork.Definition.Catalog
import Formwork.Json.Numeral
import Formwork.Pattern.Meaning
import Formwork.Proofs.Constraint.Bounds

/-!
# Loose equality

Two values of different controls may be equal although their types are not, and callers give
the two sides in the order that suits them.  The order does not matter, whatever the types, and
values that are equal as data are equal loosely too.  Only the undefined number, which JSON has
no numeral for, is not equal to itself, and neither is a list that holds it.

* `Value.looseEq_comm` — the order of the two sides does not matter;
* `Value.Definite` — the values that do not hold the undefined number;
* `Value.looseEq_self_iff` and `Value.looseEq_of_same` — these are equal to themselves, and to
  all that is the same as data;
* `loose_equality_extends_equality` — so a choice accepts each of its own options.
-/

namespace Formwork

/-! ## Numbers -/

namespace Binary64

/-- Numbers are equal to each other or neither to the other. -/
theorem eq_symm (a b : Binary64) : a.eq b = b.eq a := by
  unfold eq compareBy
  cases a.rank with
  | none => cases b.rank <;> rfl
  | some x =>
      cases b.rank with
      | none => rfl
      | some y => exact decide_eq_decide.mpr eq_comm

/-- Only the undefined number is not equal to itself. -/
theorem eq_self_iff {a : Binary64} : a.eq a = true ↔ a ≠ .undefined := by
  unfold eq compareBy
  rw [ne_eq, ← rank_eq_none_iff]
  cases a.rank <;> simp

/-- No quotient is rounded to the undefined number. -/
theorem ofRatio_ne_undefined (negative : Bool) (num den : Nat) :
    ofRatio negative num den ≠ .undefined := by
  -- opened as a function and not at its arguments, so that nothing tries to round them
  have hopened : ∀ f, f = ofRatio → f negative num den ≠ .undefined := by
    intro f hf
    delta ofRatio at hf
    subst hf
    dsimp only
    cases FloatFormat.binary64.nearest num den with
    | none => nofun
    | some units => nofun
  exact hopened ofRatio rfl

end Binary64

/-- Only the undefined number becomes undefined in binary64. -/
theorem Numeric.toBinary64_eq_undefined_iff {n : Numeric} :
    n.toBinary64 = .undefined ↔ n = .real .undefined := by
  cases n with
  | integer i =>
      refine iff_of_false ?_ nofun
      exact Binary64.ofRatio_ne_undefined (i < 0) i.natAbs 1
  | real x => simp [toBinary64]

/-- The two zeros are equal. -/
theorem Numeric.rank_canon (n : Numeric) : n.canon.toBinary64.rank = n.toBinary64.rank := by
  unfold canon
  split
  · simp [toBinary64, Binary64.rank]
  · rfl

/-- A numeral never comes to the undefined number. -/
theorem JsonNumeral.exists_of_real? {n : JsonNumeral} {x : Binary64} (h : n.real? = some x) :
    ∃ units, x = .finite n.negative units := by
  -- the rounding has to be a variable too, or the digits that are left open are scaled
  have hopened : ∀ nearest f, nearest = FloatFormat.nearest → f = real? → f n = some x →
      ∃ units, x = .finite n.negative units := by
    intro nearest f hnearest hf h
    delta real? at hf
    rw [← hnearest] at hf
    subst hf
    dsimp only at h
    split at h
    · cases h
    · obtain ⟨units, _, rfl⟩ := Option.map_eq_some_iff.mp h
      exact ⟨units, rfl⟩
  exact hopened _ _ rfl rfl h

/-- No numeral stands for the undefined number. -/
theorem JsonNumeral.ne_undefined_of_value? {n : JsonNumeral} {x : Numeric}
    (h : n.value? = some x) : x ≠ .real .undefined := by
  have hreal (h : n.real?.map Numeric.real = some x) : x ≠ .real .undefined := by
    obtain ⟨y, hy, rfl⟩ := Option.map_eq_some_iff.mp h
    obtain ⟨units, rfl⟩ := exists_of_real? hy
    simp
  unfold value? at h
  split at h
  · split at h
    · obtain rfl := Option.some.inj h
      simp
    · exact hreal h
  · exact hreal h

namespace Value

/-- Induction over the lists in a value: a list may use the claim for each of its items. -/
@[elab_as_elim]
theorem itemsInductionOn {motive : Value → Prop} (v : Value) (null : motive .null)
    (bool : ∀ b, motive (.bool b)) (number : ∀ n, motive (.number n))
    (text : ∀ s, motive (.text s))
    (list : ∀ items, (∀ v ∈ items, motive v) → motive (.list items))
    (record : ∀ members, motive (.record members)) : motive v :=
  match v with
  | .null => null
  | .bool b => bool b
  | .number n => number n
  | .text s => text s
  | .list items => list items fun v _ => itemsInductionOn v null bool number text list record
  | .record members => record members

/-! ## The order of the two sides -/

/-- Two values are the same number in whatever order. -/
theorem sameNumber_comm (a b : Value) : sameNumber a b = sameNumber b a := by
  unfold sameNumber
  cases a.number? with
  | none => cases b.number? <;> rfl
  | some x =>
      cases b.number? with
      | none => rfl
      | some y => exact Binary64.eq_symm x y

/-- Two lists are equal in whatever order if their items are. -/
theorem looseEqItems_comm {items : List Value} (others : List Value)
    (h : ∀ a ∈ items, ∀ b : Value, a.looseEq b = b.looseEq a) :
    looseEqItems items others = looseEqItems others items := by
  induction items generalizing others with
  | nil => cases others <;> rfl
  | cons a rest ih =>
      cases others with
      | nil => rfl
      | cons b others =>
          obtain ⟨ha, hrest⟩ := List.forall_mem_cons.mp h
          rw [looseEqItems, looseEqItems, ha b, ih others hrest]

/-- The order of the two sides does not matter.  The induction is on the lists in the one side;
between values of different types both orders ask for the same view of the two. -/
theorem looseEq_comm (a b : Value) : a.looseEq b = b.looseEq a := by
  induction a using itemsInductionOn generalizing b with
  | null => cases b <;> rfl
  | bool x =>
      cases b with
      | bool y => exact Bool.beq_comm
      | number n => exact sameNumber_comm (.bool x) (.number n)
      | _ => rfl
  | number n =>
      cases b with
      | bool x => exact sameNumber_comm (.number n) (.bool x)
      | number m => exact sameNumber_comm (.number n) (.number m)
      | text s => exact sameNumber_comm (.number n) (.text s)
      | _ => rfl
  | text s =>
      cases b with
      | number n => exact sameNumber_comm (.text s) (.number n)
      | text t => simp [looseEq, Bool.beq_comm (a := s)]
      | record members => simp [looseEq, sameNumber, number?]
      | _ => rfl
  | list items ih =>
      cases b with
      | list others => exact looseEqItems_comm others ih
      | record members => simp [looseEq, sameDisplay, isRecord]
      | _ => rfl
  | record members =>
      cases b with
      | text s => simp [looseEq, sameNumber, number?]
      | list items => simp [looseEq, sameDisplay, isRecord]
      | record others => exact same_comm (.record members) (.record others)
      | _ => rfl

/-! ## Values that are equal to themselves -/

/-- The value is not the undefined number, and where it is a list, neither is an item of it.
Records are compared as data, in which the undefined number is the same as itself. -/
inductive Definite : Value → Prop
  | null : Definite .null
  | bool (b : Bool) : Definite (.bool b)
  | number {n : Numeric} (h : n ≠ .real .undefined) : Definite (.number n)
  | text (s : String) : Definite (.text s)
  | list {items : List Value} (h : ∀ v ∈ items, Definite v) : Definite (.list items)
  | record (members : List (String × Value)) : Definite (.record members)

/-- A number is definite unless it is the undefined one. -/
theorem definite_number_iff {n : Numeric} : (number n).Definite ↔ n ≠ .real .undefined := by
  constructor
  · intro h
    cases h with
    | number h => exact h
  · exact .number

/-- A list is definite if its items are. -/
theorem definite_list_iff {items : List Value} :
    (list items).Definite ↔ ∀ v ∈ items, v.Definite := by
  constructor
  · intro h
    cases h with
    | list h => exact h
  · exact .list

/-- A list is equal to itself exactly if its items are. -/
theorem looseEqItems_self_iff {items : List Value} :
    looseEqItems items items = true ↔ ∀ v ∈ items, v.looseEq v = true := by
  induction items with
  | nil => simp [looseEqItems]
  | cons v rest ih => simp [looseEqItems, ih]

/-- A value is equal to itself exactly if it is definite. -/
theorem looseEq_self_iff {a : Value} : a.looseEq a = true ↔ a.Definite := by
  induction a using itemsInductionOn with
  | null => exact iff_of_true rfl .null
  | bool b => exact iff_of_true (beq_self_eq_true b) (.bool b)
  | number n =>
      have hself : (number n).looseEq (.number n) = n.toBinary64.eq n.toBinary64 := rfl
      rw [hself, Binary64.eq_self_iff, definite_number_iff, ne_eq,
        Numeric.toBinary64_eq_undefined_iff]
  | text s => exact iff_of_true (by simp [looseEq]) (.text s)
  | list items ih =>
      have hself : (list items).looseEq (.list items) = looseEqItems items items := rfl
      rw [hself, looseEqItems_self_iff, definite_list_iff]
      exact forall₂_congr ih
  | record members => exact iff_of_true (same_refl (.record members)) (.record members)

/-- Lists that are the same are equal if items that are the same are. -/
theorem looseEqItems_of_same {items others : List Value}
    (h : ∀ a ∈ items, ∀ b : Value, a.same b = true → a.looseEq b = true)
    (hsame : canonItems items = canonItems others) : looseEqItems items others = true := by
  induction items generalizing others with
  | nil =>
      cases others with
      | nil => rfl
      | cons b others => cases hsame
  | cons a rest ih =>
      cases others with
      | nil => cases hsame
      | cons b others =>
          obtain ⟨ha, hrest⟩ := List.forall_mem_cons.mp h
          simp only [canonItems, List.cons.injEq] at hsame
          rw [looseEqItems, ha b (by simp [same, hsame.1]), ih hrest hsame.2]
          rfl

/-- What is the same as data is equal loosely. -/
theorem looseEq_of_same {a b : Value} (ha : a.Definite) (h : a.same b = true) :
    a.looseEq b = true := by
  induction a using itemsInductionOn generalizing b with
  | null =>
      cases b with
      | null => rfl
      | _ => simp [same, canon] at h
  | bool x =>
      cases b with
      | bool y =>
          obtain rfl : x = y := by simpa [same, canon] using h
          exact looseEq_self_iff.mpr ha
      | _ => simp [same, canon] at h
  | text s =>
      cases b with
      | text t =>
          obtain rfl : s = t := by simpa [same, canon] using h
          exact looseEq_self_iff.mpr ha
      | _ => simp [same, canon] at h
  | record members =>
      cases b with
      | record others => exact h
      | _ => simp [same, canon] at h
  | list items ih =>
      cases b with
      | list others =>
          refine looseEqItems_of_same
            (fun a hmem b => ih a hmem (definite_list_iff.mp ha a hmem)) ?_
          simpa [same, canon] using h
      | _ => simp [same, canon] at h
  | number m =>
      cases b with
      | number n =>
          have hcanon : m.canon = n.canon := by simpa [same, canon] using h
          -- numbers with one canonical form have one place in the order
          have hself : m.toBinary64.eq m.toBinary64 = true := looseEq_self_iff.mpr ha
          have hrank : m.toBinary64.rank = n.toBinary64.rank := by
            rw [← m.rank_canon, hcanon, n.rank_canon]
          show m.toBinary64.eq n.toBinary64 = true
          simpa only [Binary64.eq, Binary64.compareBy, hrank] using hself
      | _ => simp [same, canon] at h

end Value

/-! ## Choices -/

/-- Every definite value of a list is an option of it. -/
theorem isOption_of_mem {options : List Value} {v : Value} (hv : v ∈ options)
    (hdefinite : v.Definite) : isOption options v = true :=
  List.any_eq_true.mpr ⟨v, hv, Value.looseEq_self_iff.mpr hdefinite⟩

namespace Constraint

/-- A choice of one value passes exactly if it is an option. -/
theorem oneOf_check_eq_none_iff [PatternEngine] {values : List Value} {message : Option String}
    {v : Value} :
    (oneOf values message).check v = none ↔ isOption values v = true := by
  rw [check_eq_none_iff, fault?]
  split <;> simp_all

/-- A choice of many passes exactly if there are as many as asked for and each is an option. -/
theorem many_check_eq_none_iff [PatternEngine] {lo hi : Option Nat} {allowed : Option (List Value)}
    {message : Option String} {items : List Value} :
    (many lo hi allowed message).check (.list items) = none ↔
      (∀ n, lo = some n → n ≤ items.length) ∧ (∀ n, hi = some n → items.length ≤ n) ∧
        ∀ options, allowed = some options → ∀ v ∈ items, isOption options v = true := by
  rw [check_eq_none_iff]
  simp only [fault?, firstFault_eq_none_iff, List.forall_mem_cons, faultIf_eq_none_iff]
  simp

end Constraint

section Choices

variable {s : ChoiceSettings} {values : List Value}

/-- The allowed values are the values of the options. -/
theorem FormField.eq_of_allowedValues (h : allowedValues s.options = some values) :
    values = s.options.map Choice.value := by
  unfold allowedValues at h
  split at h
  · cases h
  · exact (Option.some.inj h).symm

/-- So every option with a definite value may be chosen. -/
theorem isOption_allowedValues (hdefinite : ∀ o ∈ s.options, o.value.Definite)
    (h : FormField.allowedValues s.options = some values) :
    ∀ o ∈ s.options, isOption values o.value = true := by
  intro o ho
  rw [FormField.eq_of_allowedValues h]
  exact isOption_of_mem (List.mem_map_of_mem ho) (hdefinite o ho)

/-- A field for one of the options accepts each of them. -/
theorem accepts_option [PatternEngine] (hdefinite : ∀ o ∈ s.options, o.value.Definite)
    {f : FormField} (hf : f ∈ [FormField.select s, FormField.radio s]) :
    (f.validation = none ↔ s.options = []) ∧
      ∀ c, f.validation = some c → ∀ o ∈ s.options, c.check o.value = none := by
  have hvalidation : f.validation =
      (FormField.allowedValues s.options).map fun values => .oneOf values none := by
    simp only [List.mem_cons, List.not_mem_nil, or_false] at hf
    rcases hf with rfl | rfl <;> rfl
  rw [hvalidation]
  constructor
  · simp [FormField.allowedValues]
  · intro c hc o ho
    obtain ⟨values, hvalues, rfl⟩ := Option.map_eq_some_iff.mp hc
    exact Constraint.oneOf_check_eq_none_iff.mpr (isOption_allowedValues hdefinite hvalues o ho)

/-- A field for several of the options accepts every list of them within its bounds. -/
theorem accepts_options [PatternEngine] (hdefinite : ∀ o ∈ s.options, o.value.Definite)
    {items : List Value} (hitems : ∀ v ∈ items, ∃ o ∈ s.options, o.value = v)
    (hmin : ∀ n, s.minItems = some n → n ≤ items.length)
    (hmax : ∀ n, s.maxItems = some n → items.length ≤ n) :
    (Constraint.many s.minItems s.maxItems (FormField.allowedValues s.options) none).check
      (.list items) = none := by
  refine Constraint.many_check_eq_none_iff.mpr ⟨hmin, hmax, fun values hvalues v hv => ?_⟩
  obtain ⟨o, ho, rfl⟩ := hitems v hv
  exact isOption_allowedValues hdefinite hvalues o ho

end Choices

/-- **Loose equality extends equality.**  The order of the two sides does not matter.  A value is
equal to itself exactly if it is definite, as every number is that a numeral stands for, and a
definite value is equal to all that is the same as data.  So a field that offers choices accepts
what it offers: where one option is chosen, each of them passes, and where several are, so does
every list of options whose length is within the bounds. -/
theorem loose_equality_extends_equality [PatternEngine] :
    (∀ a b : Value, a.looseEq b = b.looseEq a) ∧
    (∀ a : Value, a.looseEq a = true ↔ a.Definite) ∧
    (∀ (n : JsonNumeral) (x : Numeric), n.value? = some x → (Value.number x).Definite) ∧
    (∀ a b : Value, a.Definite → a.same b = true → a.looseEq b = true) ∧
    ∀ s : ChoiceSettings, (∀ o ∈ s.options, o.value.Definite) →
      (∀ f ∈ [FormField.select s, FormField.radio s],
        (f.validation = none ↔ s.options = []) ∧
        ∀ c, f.validation = some c → ∀ o ∈ s.options, c.check o.value = none) ∧
      ∃ c, (FormField.multiSelect s).validation = some c ∧
        ∀ items, (∀ v ∈ items, ∃ o ∈ s.options, o.value = v) →
          (∀ n, s.minItems = some n → n ≤ items.length) →
          (∀ n, s.maxItems = some n → items.length ≤ n) → c.check (.list items) = none := by
  refine ⟨Value.looseEq_comm, fun _ => Value.looseEq_self_iff, ?_,
    fun _ _ => Value.looseEq_of_same, ?_⟩
  · intro n x h
    exact .number (JsonNumeral.ne_undefined_of_value? h)
  · intro s hdefinite
    exact ⟨fun _ => accepts_option hdefinite, _, rfl, fun _ => accepts_options hdefinite⟩

/-- A field that offers eighteen and a list that holds one of the zeros. -/
def ageOrZeros : ChoiceSettings :=
  { options := [⟨"Eighteen", .number (.integer 18), false⟩,
      ⟨"Zeros", .list [.number (.real (.finite true 0))], false⟩]
    minItems := some 2 }

/-- Both options pass as the one choice, and so does the list of the two.  The number eighteen is
also equal to a text that reads so, in both orders, and the one zero is equal to the other. -/
theorem age_or_zeros_accepted :
    (∀ o ∈ ageOrZeros.options, o.value.Definite) ∧
    (∃ c, (FormField.select ageOrZeros).validation = some c ∧
      ∀ o ∈ ageOrZeros.options, c.check o.value = none) ∧
    (∃ c, (FormField.multiSelect ageOrZeros).validation = some c ∧
      c.check (.list (ageOrZeros.options.map Choice.value)) = none) ∧
    (Value.text " 18 ").looseEq (.number (.integer 18)) =
      (Value.number (.integer 18)).looseEq (.text " 18 ") ∧
    (Value.number (.real (.finite true 0))).looseEq (.number (.real .zero)) = true := by
  obtain ⟨hcomm, -, -, hsame, hchoices⟩ := loose_equality_extends_equality
  have hdefinite : ∀ o ∈ ageOrZeros.options, o.value.Definite := by
    have hzero : (Value.number (.real (.finite true 0))).Definite := .number nofun
    intro o ho
    simp only [ageOrZeros, List.mem_cons, List.not_mem_nil, or_false] at ho
    rcases ho with rfl | rfl
    · exact .number nofun
    · exact .list (List.forall_mem_singleton.mpr hzero)
  obtain ⟨hsingle, c, hc, hmany⟩ := hchoices ageOrZeros hdefinite
  refine ⟨hdefinite, ⟨_, rfl, ?_⟩, ⟨c, hc, ?_⟩, hcomm _ _, ?_⟩
  · exact (hsingle _ List.mem_cons_self).2 _ rfl
  · refine hmany _ (fun v hv => List.mem_map.mp hv) ?_ nofun
    intro n hn
    obtain rfl := Option.some.inj hn
    decide
  · exact hsame _ _ (.number nofun) (by decide +kernel)

end Formwork
