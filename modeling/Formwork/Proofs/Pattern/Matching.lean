import Formwork.Pattern.Matcher
import Mathlib.Data.List.Basic

/-!
# What a matcher matches

`Matcher.run` moves marks over a whole text at once.  What it is to find is said here for one
run of characters: a **spot** is a place of a text with all that follows it, and
`Matcher.Leads` relates the spots that a described run of characters lies between.

* `run_marksOf` — a matcher moves marks from any set of spots to where it leads from there;
* `occursIn_iff` — a text has a match exactly if the matcher leads on from one of its spots.

A step of a matcher stays where it is or gets on.  Of more steps than a text has characters
some stay, and these can be left out or made again, which is why the search may stop counting
repetitions at the length of the text (`inSteps_min_iff`).
-/

namespace Formwork

namespace Pattern

/-! ## Spots -/

/-- A place of a text with all that follows it. -/
structure Spot where
  before : Option Char
  rest : List Char

/-- What an assertion sees of a spot. -/
def Spot.place (a : Spot) : Place := ⟨a.before, a.rest.head?⟩

/-- The second spot is the first or comes after it. -/
inductive Spot.Onward : Spot → Spot → Prop
  | here (a : Spot) : Onward a a
  | past {before : Option Char} {c : Char} {rest : List Char} {b : Spot}
      (h : Onward ⟨some c, rest⟩ b) : Onward ⟨before, c :: rest⟩ b

/-- The spots of a text, `before` being the character before the first. -/
def spotsFrom (before : Option Char) : List Char → List Spot
  | [] => [⟨before, []⟩]
  | c :: rest => ⟨before, c :: rest⟩ :: spotsFrom (some c) rest

variable {before : Option Char} {text : List Char} {a b c : Spot}

namespace Spot.Onward

/-- A spot further on than one further on is further on. -/
theorem trans (h : Onward a b) (h' : Onward b c) : Onward a c := by
  induction h with
  | here => exact h'
  | past _ ih => exact .past (ih h')

/-- Who gets on has less of the text ahead. -/
theorem eq_or_length_lt (h : Onward a b) : b = a ∨ b.rest.length < a.rest.length := by
  induction h with
  | here a => exact Or.inl rfl
  | past _ ih =>
      refine Or.inr ?_
      rcases ih with rfl | hlt
      · exact Nat.lt_succ_self _
      · exact Nat.lt_succ_of_lt hlt

/-- Further on there is no more left of the text. -/
theorem length_le (h : Onward a b) : b.rest.length ≤ a.rest.length := by
  rcases h.eq_or_length_lt with rfl | hlt
  · exact Nat.le_refl _
  · exact Nat.le_of_lt hlt

end Spot.Onward

/-- The spots of a text are its start and what comes after it. -/
theorem mem_spotsFrom_iff : a ∈ spotsFrom before text ↔ Spot.Onward ⟨before, text⟩ a := by
  induction text generalizing before with
  | nil =>
      rw [spotsFrom, List.mem_singleton]
      constructor
      · intro h
        rw [h]
        exact .here _
      · intro h
        cases h
        rfl
  | cons d rest ih =>
      rw [spotsFrom, List.mem_cons, ih]
      constructor
      · intro h
        rcases h with rfl | h
        · exact .here _
        · exact .past h
      · intro h
        cases h with
        | here => exact Or.inl rfl
        | past h => exact Or.inr h

/-- A text has a first spot, and the other spots are nearer to its end. -/
theorem spotsFrom_eq_cons (before : Option Char) (text : List Char) :
    spotsFrom before text = ⟨before, text⟩ :: (spotsFrom before text).tail := by
  cases text <;> rfl

/-- After the first spot there is less left of the text. -/
theorem length_lt_of_mem_tail (h : a ∈ (spotsFrom before text).tail) :
    a.rest.length < text.length := by
  cases text with
  | nil => cases h
  | cons d rest => exact Nat.lt_succ_of_le (mem_spotsFrom_iff.mp h).length_le

/-- The places of a text are what assertions see of its spots. -/
theorem placesFrom_eq_map (before : Option Char) (text : List Char) :
    placesFrom before text = (spotsFrom before text).map Spot.place := by
  induction text generalizing before with
  | nil => rfl
  | cons d rest ih => exact congrArg (_ :: ·) (ih (some d))

/-! ## Steps -/

/-- So many steps of a relation, one after the other. -/
def InSteps {α : Type} (r : α → α → Prop) : Nat → α → α → Prop
  | 0, a, b => b = a
  | n + 1, a, c => ∃ b, r a b ∧ InSteps r n b c

section Steps

variable {α : Type} {r : α → α → Prop} {n k : Nat} {x z : α}

/-- Steps can be counted in two parts. -/
theorem inSteps_add_iff : InSteps r (n + k) x z ↔ ∃ y, InSteps r n x y ∧ InSteps r k y z := by
  induction n generalizing x with
  | zero => simp [InSteps]
  | succ n ih =>
      rw [Nat.add_right_comm]
      simp only [InSteps, ih]
      constructor
      · intro h
        obtain ⟨y, hy, w, hw, hz⟩ := h
        exact ⟨w, ⟨y, hy, hw⟩, hz⟩
      · intro h
        obtain ⟨w, ⟨y, hy, hw⟩, hz⟩ := h
        exact ⟨y, hy, w, hw, hz⟩

/-- What every step preserves, all steps do. -/
theorem InSteps.preserve {p : α → Prop} (hr : ∀ x y, r x y → p x → p y) (h : InSteps r n x z)
    (hx : p x) : p z := by
  induction n generalizing x with
  | zero =>
      obtain rfl : z = x := h
      exact hx
  | succ n ih =>
      obtain ⟨y, hy, hz⟩ := h
      exact ih hz (hr x y hy hx)

variable {size : α → Nat} (hr : ∀ x y, r x y → y = x ∨ size y < size x)

include hr in
/-- When there are more steps than the size allows, one of them stays and may be left out or
made again. -/
theorem inSteps_succ_iff (hn : size x < n) : InSteps r (n + 1) x z ↔ InSteps r n x z := by
  induction n generalizing x with
  | zero => cases hn
  | succ n ih =>
      constructor
      · intro h
        obtain ⟨y, hy, hz⟩ := h
        rcases hr x y hy with rfl | hlt
        · exact hz
        · exact ⟨y, hy, (ih (by omega)).mp hz⟩
      · intro h
        obtain ⟨y, hy, hz⟩ := h
        rcases hr x y hy with rfl | hlt
        · exact ⟨y, hy, y, hy, hz⟩
        · exact ⟨y, hy, (ih (by omega)).mpr hz⟩

include hr in
/-- Beyond a bound that the size stays under it does not matter how many steps there are. -/
theorem inSteps_min_iff (hk : size x < k) : InSteps r (min n k) x z ↔ InSteps r n x z := by
  rcases Nat.le_total n k with hle | hge
  · rw [Nat.min_eq_left hle]
  · rw [Nat.min_eq_right hge]
    obtain ⟨more, rfl⟩ := Nat.exists_eq_add_of_le hge
    induction more with
    | zero => exact Iff.rfl
    | succ more ih =>
        rw [ih (Nat.le_add_right k more), ← Nat.add_assoc, inSteps_succ_iff hr (by omega)]

include hr in
/-- What can be reached is reached in no more steps than the size allows. -/
theorem exists_inSteps_iff (hk : size x < k) :
    (∃ n ≤ k, InSteps r n x z) ↔ ∃ n, InSteps r n x z := by
  constructor
  · intro h
    obtain ⟨n, _, h⟩ := h
    exact ⟨n, h⟩
  · intro h
    obtain ⟨n, h⟩ := h
    exact ⟨min n k, Nat.min_le_right n k, (inSteps_min_iff hr hk).mpr h⟩

include hr in
/-- Of steps that make something smaller, no more count than there is to make smaller. -/
theorem exists_inSteps_min_iff {m : Nat} (hk : size x < k) :
    (∃ n ≤ min m k, InSteps r n x z) ↔ ∃ n ≤ m, InSteps r n x z := by
  constructor
  · intro h
    obtain ⟨n, hn, h⟩ := h
    exact ⟨n, Nat.le_trans hn (Nat.min_le_left m k), h⟩
  · intro h
    obtain ⟨n, hn, h⟩ := h
    exact ⟨min n k, by omega, (inSteps_min_iff hr hk).mpr h⟩

end Steps

/-! ## What a matcher describes -/

/-- The matcher describes a run of characters from the one spot to the other.  A repetition
has at least so many parts as it asks for, and no more than it allows unless it asks for
more. -/
def Matcher.Leads : Matcher → Spot → Spot → Prop
  | .empty => fun a b => b = a
  | .one ranges => fun a b =>
    ∃ c, a.rest = c :: b.rest ∧ b.before = some c ∧ ranges.contains c = true
  | .place holds => fun a b => holds a.place = true ∧ b = a
  | .seq first second => fun a c => ∃ b, first.Leads a b ∧ second.Leads b c
  | .alt left right => fun a b => left.Leads a b ∨ right.Leads a b
  | .repeated body least most => fun a b =>
    ∃ n, least ≤ n ∧ (∀ m, most = some m → n ≤ max least m) ∧ InSteps body.Leads n a b

/-- A matcher leads onward. -/
theorem Matcher.Leads.onward {m : Matcher} (h : m.Leads a b) : a.Onward b := by
  induction m generalizing a b with
  | empty =>
      obtain rfl : b = a := h
      exact .here b
  | one ranges =>
      obtain ⟨d, hrest, hbefore, _⟩ := h
      obtain ⟨_, _⟩ := a
      obtain ⟨_, rest⟩ := b
      cases hrest
      cases hbefore
      exact .past (.here ⟨some d, rest⟩)
  | place holds =>
      obtain ⟨_, rfl⟩ := h
      exact .here b
  | seq first second ihfirst ihsecond =>
      obtain ⟨_, hfirst, hsecond⟩ := h
      exact (ihfirst hfirst).trans (ihsecond hsecond)
  | alt left right ihleft ihright => exact h.elim ihleft ihright
  | repeated body least most ih =>
      obtain ⟨n, _, _, hsteps⟩ := h
      exact hsteps.preserve (p := a.Onward) (fun _ _ hxy hx => hx.trans (ih hxy)) (.here a)

/-- A repetition is the parts that it asks for and then as many more as it allows. -/
theorem Matcher.leads_repeated_iff {body : Matcher} {least : Nat} {most : Option Nat} :
    (repeated body least most).Leads a b ↔ ∃ c, InSteps body.Leads least a c ∧
      ∃ n, (∀ m, most = some m → n ≤ m - least) ∧ InSteps body.Leads n c b := by
  constructor
  · intro h
    obtain ⟨n, hleast, hmost, hsteps⟩ := h
    obtain ⟨more, rfl⟩ := Nat.exists_eq_add_of_le hleast
    obtain ⟨c, hc, hb⟩ := inSteps_add_iff.mp hsteps
    refine ⟨c, hc, more, ?_, hb⟩
    intro m hm
    have hle := hmost m hm
    omega
  · intro h
    obtain ⟨c, hc, more, hmost, hb⟩ := h
    refine ⟨least + more, Nat.le_add_right least more, ?_, inSteps_add_iff.mpr ⟨c, hc, hb⟩⟩
    intro m hm
    have hle := hmost m hm
    omega

/-! ## Marks -/

open scoped Classical in
/-- The marks of a set of spots. -/
noncomputable def marksOf (spots : List Spot) (p : Spot → Prop) : Marks :=
  spots.map fun a => decide (p a)

variable {spots : List Spot} {p q : Spot → Prop}

/-- Two sets have the same marks exactly if they agree on the spots. -/
theorem marksOf_inj : marksOf spots p = marksOf spots q ↔ ∀ a ∈ spots, p a ↔ q a := by
  simp [marksOf, List.map_inj_left]

/-- What is marked in one row or in the other is marked where either holds. -/
theorem marksOf_either :
    (marksOf spots p).either (marksOf spots q) = marksOf spots fun a => p a ∨ q a := by
  simp only [marksOf, Marks.either, List.zipWith_map, List.zipWith_self]
  refine List.map_congr_left fun a _ => ?_
  by_cases hp : p a <;> simp [hp]

/-- What is marked where an assertion holds is marked where both do. -/
theorem marksOf_both (holds : Place → Bool) :
    (marksOf spots p).both ((spots.map Spot.place).map holds) =
      marksOf spots fun a => p a ∧ holds a.place = true := by
  simp only [marksOf, Marks.both, List.map_map, List.zipWith_map, List.zipWith_self,
    Function.comp_apply]
  refine List.map_congr_left fun a _ => ?_
  by_cases hp : p a <;> simp [hp]

/-- The marks of the spots of a text are the mark of its start and the others. -/
theorem marksOf_spotsFrom {marked : Bool} (h : marked = true ↔ p ⟨before, text⟩) :
    marksOf (spotsFrom before text) p = marked :: marksOf (spotsFrom before text).tail p := by
  rw [spotsFrom_eq_cons]
  exact congrArg (· :: _) (Bool.eq_iff_iff.mpr (by simp [h]))

open scoped Classical in
/-- A class moves the marks of the spots before its characters to the spots after them. -/
theorem zipWith_marksOf (ranges : CharClass) (before : Option Char) (text : List Char) :
    List.zipWith (fun marked c => marked && ranges.contains c)
        (marksOf (spotsFrom before text) p) text =
      marksOf (spotsFrom before text).tail fun b =>
        ∃ a ∈ spotsFrom before text, p a ∧ (Matcher.one ranges).Leads a b := by
  induction text generalizing before with
  | nil => rfl
  | cons d rest ih =>
      have hhead : (∃ a ∈ spotsFrom before (d :: rest),
            p a ∧ (Matcher.one ranges).Leads a ⟨some d, rest⟩) ↔
          p ⟨before, d :: rest⟩ ∧ ranges.contains d = true := by
        constructor
        · intro h
          obtain ⟨a, ha, hp, e, hrest, hbefore, hin⟩ := h
          obtain rfl := Option.some.inj hbefore
          rcases List.mem_cons.mp ha with rfl | ha
          · exact ⟨hp, hin⟩
          · have hle := (mem_spotsFrom_iff.mp ha).length_le
            rw [hrest] at hle
            exact absurd hle (Nat.not_succ_le_self _)
        · intro h
          exact ⟨⟨before, d :: rest⟩, List.mem_cons_self, h.1, d, rfl, rfl, h.2⟩
      -- the first spot leads to the second only, so the others are reached from what is left
      have htail : ∀ b ∈ (spotsFrom (some d) rest).tail,
          ((∃ a ∈ spotsFrom (some d) rest, p a ∧ (Matcher.one ranges).Leads a b) ↔
            ∃ a ∈ spotsFrom before (d :: rest), p a ∧ (Matcher.one ranges).Leads a b) := by
        intro b hb
        have hlt := length_lt_of_mem_tail hb
        constructor
        · intro h
          obtain ⟨a, ha, h⟩ := h
          exact ⟨a, List.mem_cons_of_mem _ ha, h⟩
        · intro h
          obtain ⟨a, ha, hp, e, hrest, h⟩ := h
          rcases List.mem_cons.mp ha with rfl | ha
          · obtain ⟨-, rfl⟩ := List.cons.inj hrest
            exact absurd hlt (Nat.lt_irrefl _)
          · exact ⟨a, ha, hp, e, hrest, h⟩
      have hmarked : (decide (p ⟨before, d :: rest⟩) && ranges.contains d) = true ↔
          ∃ a ∈ spotsFrom before (d :: rest), p a ∧
            (Matcher.one ranges).Leads a ⟨some d, rest⟩ := by
        rw [hhead, Bool.and_eq_true, decide_eq_true_iff]
      refine Eq.trans ?_ (marksOf_spotsFrom hmarked).symm
      rw [← marksOf_inj.mpr htail, ← ih (some d)]
      rfl

/-! ## Repetitions -/

section Repetitions

variable {r : Spot → Spot → Prop} {step : Marks → Marks}
  (hstep : ∀ p, step (marksOf spots p) = marksOf spots fun b => ∃ a ∈ spots, p a ∧ r a b)
  (hclosed : ∀ a ∈ spots, ∀ b, r a b → b ∈ spots)

include hstep hclosed in
/-- A step that moves marks along a relation, made so many times, moves them along as many
steps of the relation. -/
theorem iterate_marksOf (n : Nat) (p : Spot → Prop) : iterate step n (marksOf spots p) =
    marksOf spots fun b => ∃ a ∈ spots, p a ∧ InSteps r n a b := by
  induction n generalizing p with
  | zero =>
      refine marksOf_inj.mpr ?_
      intro b hb
      constructor
      · intro h
        exact ⟨b, hb, h, rfl⟩
      · intro h
        obtain ⟨a, _, h, rfl⟩ := h
        exact h
  | succ n ih =>
      rw [iterate, hstep, ih]
      refine marksOf_inj.mpr ?_
      intro c _
      constructor
      · intro h
        obtain ⟨b, _, ⟨a, ha, hp, hab⟩, hbc⟩ := h
        exact ⟨a, ha, hp, b, hab, hbc⟩
      · intro h
        obtain ⟨a, ha, hp, b, hab, hbc⟩ := h
        exact ⟨b, hclosed a ha b hab, ⟨a, ha, hp, hab⟩, hbc⟩

include hstep hclosed in
/-- Marks that one step adds nothing to are closed under any number of steps; so the search
loses nothing where it stops early. -/
theorem reach_marksOf (n : Nat) (p : Spot → Prop) : reach step n (marksOf spots p) =
    marksOf spots fun b => ∃ a ∈ spots, p a ∧ ∃ k ≤ n, InSteps r k a b := by
  induction n generalizing p with
  | zero =>
      refine marksOf_inj.mpr ?_
      intro b hb
      constructor
      · intro h
        exact ⟨b, hb, h, 0, Nat.le_refl 0, rfl⟩
      · intro h
        obtain ⟨a, _, hp, k, hk, hab⟩ := h
        obtain rfl := Nat.le_zero.mp hk
        obtain rfl : b = a := hab
        exact hp
  | succ n ih =>
      rw [reach, hstep, marksOf_either]
      split
      next hsame =>
        -- a step adds no mark, so no number of steps does
        have hkept : ∀ a b, r a b → a ∈ spots ∧ p a → b ∈ spots ∧ p b := by
          intro a b hab ha
          have hb := hclosed a ha.1 b hab
          exact ⟨hb, (marksOf_inj.mp hsame b hb).mp (Or.inr ⟨a, ha.1, ha.2, hab⟩)⟩
        refine marksOf_inj.mpr ?_
        intro b hb
        constructor
        · intro h
          exact ⟨b, hb, h, 0, Nat.zero_le _, rfl⟩
        · intro h
          obtain ⟨a, ha, hp, k, _, hab⟩ := h
          exact (hab.preserve hkept ⟨ha, hp⟩).2
      next =>
        rw [ih]
        refine marksOf_inj.mpr ?_
        intro c hc
        constructor
        · intro h
          obtain ⟨b, hb, hp | ⟨a, ha, hp, hab⟩, k, hk, hbc⟩ := h
          · exact ⟨b, hb, hp, k, Nat.le_succ_of_le hk, hbc⟩
          · exact ⟨a, ha, hp, k + 1, Nat.succ_le_succ hk, b, hab, hbc⟩
        · intro h
          obtain ⟨a, ha, hp, k, hk, hac⟩ := h
          cases k with
          | zero => exact ⟨a, ha, Or.inl hp, 0, Nat.zero_le n, hac⟩
          | succ k =>
              obtain ⟨b, hab, hbc⟩ := hac
              exact ⟨b, hclosed a ha b hab, Or.inr ⟨a, ha, hp, hab⟩, k, Nat.le_of_succ_le_succ hk,
                hbc⟩

include hstep hclosed in
/-- A repetition begins with the parts that it asks for, or with as many as can make a
difference. -/
theorem iterate_min_marksOf {bound : Nat}
    (hr : ∀ a b, r a b → b = a ∨ b.rest.length < a.rest.length)
    (hbound : ∀ a ∈ spots, a.rest.length < bound) (least : Nat) (p : Spot → Prop) :
    iterate step (min least bound) (marksOf spots p) =
      marksOf spots fun b => ∃ a ∈ spots, p a ∧ InSteps r least a b := by
  rw [iterate_marksOf hstep hclosed]
  refine marksOf_inj.mpr ?_
  intro b _
  refine exists_congr fun a => and_congr_right fun ha => and_congr_right fun _ => ?_
  exact inSteps_min_iff hr (hbound a ha)

end Repetitions

section Repeated

variable {body : Matcher} {least : Nat} {most : Option Nat} {step : Marks → Marks}
  (hstep : ∀ p, step (marksOf spots p) =
    marksOf spots fun b => ∃ a ∈ spots, p a ∧ body.Leads a b)
  (hclosed : ∀ a ∈ spots, ∀ b, body.Leads a b → b ∈ spots)

include hstep hclosed in
/-- It goes on with as many more as it allows, and then its marks are where it leads. -/
theorem reach_marksOf_repeated {rounds : Nat} (hrounds : ∀ c ∈ spots, ∀ b,
      (∃ n ≤ rounds, InSteps body.Leads n c b) ↔
        ∃ n, (∀ m, most = some m → n ≤ m - least) ∧ InSteps body.Leads n c b)
    (p : Spot → Prop) :
    reach step rounds
        (marksOf spots fun c => ∃ a ∈ spots, p a ∧ InSteps body.Leads least a c) =
      marksOf spots fun b => ∃ a ∈ spots, p a ∧ (Matcher.repeated body least most).Leads a b := by
  rw [reach_marksOf hstep hclosed]
  refine marksOf_inj.mpr ?_
  intro b _
  constructor
  · intro h
    obtain ⟨c, hc, ⟨a, ha, hp, hac⟩, hcb⟩ := h
    exact ⟨a, ha, hp, Matcher.leads_repeated_iff.mpr ⟨c, hac, (hrounds c hc b).mp hcb⟩⟩
  · intro h
    obtain ⟨a, ha, hp, hab⟩ := h
    obtain ⟨c, hac, hcb⟩ := Matcher.leads_repeated_iff.mp hab
    have hc := hac.preserve (fun x y hxy hx => hclosed x hx y hxy) ha
    exact ⟨c, hc, ⟨a, ha, hp, hac⟩, (hrounds c hc b).mpr hcb⟩

end Repeated

/-! ## The search -/

/-- **Marks.**  A matcher moves the marks of any set of spots of a text to the spots that it
leads to from there. -/
theorem run_marksOf (before : Option Char) (text : List Char) (m : Matcher) (p : Spot → Prop) :
    m.run text (placesFrom before text) (marksOf (spotsFrom before text) p) =
      marksOf (spotsFrom before text) fun b => ∃ a ∈ spotsFrom before text, p a ∧ m.Leads a b := by
  have hclosed (m : Matcher) : ∀ a ∈ spotsFrom before text, ∀ b, m.Leads a b →
      b ∈ spotsFrom before text := by
    intro a ha b hab
    exact mem_spotsFrom_iff.mpr ((mem_spotsFrom_iff.mp ha).trans hab.onward)
  induction m generalizing p with
  | empty =>
      refine marksOf_inj.mpr ?_
      intro b hb
      constructor
      · intro h
        exact ⟨b, hb, h, rfl⟩
      · intro h
        obtain ⟨a, _, h, rfl⟩ := h
        exact h
  | one ranges =>
      rw [Matcher.run, zipWith_marksOf]
      -- nothing leads to the first spot, so its mark is never set
      have hfirst : ¬ ∃ a ∈ spotsFrom before text, p a ∧
          (Matcher.one ranges).Leads a ⟨before, text⟩ := by
        intro h
        obtain ⟨a, ha, _, d, hrest, _⟩ := h
        have hle := (mem_spotsFrom_iff.mp ha).length_le
        rw [hrest] at hle
        exact absurd hle (Nat.not_succ_le_self _)
      exact (marksOf_spotsFrom (iff_of_false Bool.false_ne_true hfirst)).symm
  | place holds =>
      rw [Matcher.run, placesFrom_eq_map, marksOf_both]
      refine marksOf_inj.mpr ?_
      intro b hb
      constructor
      · intro h
        exact ⟨b, hb, h.1, h.2, rfl⟩
      · intro h
        obtain ⟨a, _, hp, hholds, rfl⟩ := h
        exact ⟨hp, hholds⟩
  | seq first second ihfirst ihsecond =>
      rw [Matcher.run, ihfirst, ihsecond]
      refine marksOf_inj.mpr ?_
      intro c _
      constructor
      · intro h
        obtain ⟨b, _, ⟨a, ha, hp, hab⟩, hbc⟩ := h
        exact ⟨a, ha, hp, b, hab, hbc⟩
      · intro h
        obtain ⟨a, ha, hp, b, hab, hbc⟩ := h
        exact ⟨b, hclosed first a ha b hab, ⟨a, ha, hp, hab⟩, hbc⟩
  | alt left right ihleft ihright =>
      rw [Matcher.run, ihleft, ihright, marksOf_either]
      refine marksOf_inj.mpr ?_
      intro b _
      simp only [Matcher.Leads, and_or_left, exists_or]
  | repeated body least most ih =>
      have hsize : ∀ a b : Spot, body.Leads a b → b = a ∨ b.rest.length < a.rest.length :=
        fun _ _ hab => hab.onward.eq_or_length_lt
      have hshort (a : Spot) (ha : a ∈ spotsFrom before text) : a.rest.length < text.length + 1 :=
        Nat.lt_succ_of_le (mem_spotsFrom_iff.mp ha).length_le
      have hstarted := iterate_min_marksOf ih (hclosed body) hsize hshort
      cases most with
      | none =>
          rw [Matcher.run, hstarted]
          refine reach_marksOf_repeated ih (hclosed body) ?_ p
          intro c hc b
          rw [exists_inSteps_iff hsize (hshort c hc)]
          simp
      | some m =>
          rw [Matcher.run, hstarted]
          refine reach_marksOf_repeated ih (hclosed body) ?_ p
          intro c hc b
          rw [exists_inSteps_min_iff hsize (hshort c hc)]
          simp

/-- **Searching.**  A text has a match exactly if the matcher leads on from its start or from a
later spot. -/
theorem occursIn_iff (m : Matcher) (text : List Char) : m.occursIn text = true ↔
    ∃ a b : Spot, Spot.Onward ⟨none, text⟩ a ∧ m.Leads a b := by
  have hall : ((placesFrom none text).map fun _ => true) =
      marksOf (spotsFrom none text) fun _ => True := by
    simp [placesFrom_eq_map, marksOf]
  rw [Matcher.occursIn, hall, run_marksOf, List.any_eq_true]
  simp only [marksOf, List.mem_map, id, exists_exists_and_eq_and, decide_eq_true_eq, true_and,
    mem_spotsFrom_iff]
  constructor
  · intro h
    obtain ⟨b, _, a, ha, hab⟩ := h
    exact ⟨a, b, ha, hab⟩
  · intro h
    obtain ⟨a, b, ha, hab⟩ := h
    exact ⟨b, ha.trans hab.onward, a, ha, hab⟩

end Pattern

end Formwork
