import Mathlib.Algebra.Ring.Nat
import Mathlib.Order.MinMax

/-!
# What is made of lists

Of some items other items are made, of each one or none, and of numbers their greatest or their
sum.  Names that are kept stay in order, and weights that do not grow have no greater sum.

* `map_filterMap_sublist` — the names of what is made of some items;
* `foldl_max_le_iff` and `foldl_max_lt_iff` — the bounds of the greatest of some numbers;
* `sum_filterMap_le` and `sum_filterMap_lt` — the weight of what is made of some items.
-/

namespace Formwork

variable {α β γ : Type}

/-- Where all that is made of an item is named as the item is, the names of what is made of some
items are names of these, in the same order. -/
theorem map_filterMap_sublist {make : α → Option β} {name : α → γ} {named : β → γ}
    (h : ∀ x y, make x = some y → named y = name x) (items : List α) :
    ((items.filterMap make).map named).Sublist (items.map name) := by
  induction items with
  | nil => exact .slnil
  | cons x rest ih =>
      cases hx : make x with
      | none => simpa [hx] using ih.cons (name x)
      | some y => simpa [hx, h x y hx] using ih.cons_cons (name x)

section Greatest

variable [LinearOrder α] {init bound : α} {numbers : List α}

/-- The greatest of some numbers is at most what all of them are at most. -/
theorem foldl_max_le_iff :
    numbers.foldl max init ≤ bound ↔ init ≤ bound ∧ ∀ n ∈ numbers, n ≤ bound := by
  induction numbers generalizing init with
  | nil => simp
  | cons n rest ih =>
      rw [List.foldl_cons, ih, max_le_iff, List.forall_mem_cons, and_assoc]

/-- It is one of them, so it is below what all of them are below. -/
theorem foldl_max_lt_iff :
    numbers.foldl max init < bound ↔ init < bound ∧ ∀ n ∈ numbers, n < bound := by
  induction numbers generalizing init with
  | nil => simp
  | cons n rest ih =>
      rw [List.foldl_cons, ih, max_lt_iff, List.forall_mem_cons, and_assoc]

end Greatest

section Weight

variable {change : α → Option α} {weight : α → Nat} {items : List α}

/-- Where nothing becomes heavier, the whole does not. -/
theorem sum_filterMap_le (h : ∀ x ∈ items, ∀ y, change x = some y → weight y ≤ weight x) :
    ((items.filterMap change).map weight).sum ≤ (items.map weight).sum := by
  induction items with
  | nil => exact Nat.le_refl _
  | cons x rest ih =>
      obtain ⟨hx, hrest⟩ := List.forall_mem_cons.mp h
      have hsum := ih hrest
      cases hchange : change x with
      | none =>
          rw [List.filterMap_cons_none hchange]
          simp only [List.map_cons, List.sum_cons]
          omega
      | some y =>
          have hy := hx y hchange
          rw [List.filterMap_cons_some hchange]
          simp only [List.map_cons, List.sum_cons]
          omega

/-- One item that loses weight, or is lost, is enough. -/
theorem sum_filterMap_lt (h : ∀ x ∈ items, ∀ y, change x = some y → weight y ≤ weight x) {x : α}
    (hx : x ∈ items) (hpos : 0 < weight x) (hlt : ∀ y, change x = some y → weight y < weight x) :
    ((items.filterMap change).map weight).sum < (items.map weight).sum := by
  obtain ⟨before, after, rfl⟩ := List.append_of_mem hx
  have hbefore := sum_filterMap_le fun y hy => h y (List.mem_append_left _ hy)
  have hafter := sum_filterMap_le fun y hy =>
    h y (List.mem_append_right _ (List.mem_cons_of_mem x hy))
  cases hchange : change x with
  | none =>
      simp only [List.filterMap_append, List.filterMap_cons_none hchange, List.map_append,
        List.map_cons, List.sum_append, List.sum_cons]
      omega
  | some y =>
      have hy := hlt y hchange
      simp only [List.filterMap_append, List.filterMap_cons_some hchange, List.map_append,
        List.map_cons, List.sum_append, List.sum_cons]
      omega

end Weight

end Formwork
