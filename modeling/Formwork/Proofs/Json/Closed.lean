import Formwork.Proofs.Json.Saved
import Mathlib.Data.List.Forall2
import Mathlib.Data.List.Nodup

/-!
# Closed structures

What it takes for a tree to be read as a closed structure can be said without the reader: a
record has keys that are distinct and declared, and a list has no more items than the structure
has members.

* `Tree.arrange?_eq_some_iff` and `Tree.arrangeItems?_eq_some_iff` — the two forms;
* `Tree.SlotOf` and `Tree.ListOf` — members that may be missing or null, and lists of what a
  relation says of their items.
-/

namespace Formwork

namespace Tree

variable {α β : Type}

/-! ## Members by name -/

section Record

variable {members : List (String × α)} {name : String}

/-- A name occurs as often as it is a key. -/
theorem length_occurrences :
    (occurrences members name).length = (Entries.keys members).count name := by
  induction members with
  | nil => rfl
  | cons m rest ih =>
      simp only [occurrences, Entries.keys] at ih
      by_cases h : m.1 = name <;> simp [occurrences, Entries.keys, h, ih]

/-- Its first occurrence is the one that is found by the key. -/
theorem head?_occurrences : (occurrences members name).head? = Entries.get? members name := by
  induction members with
  | nil => rfl
  | cons m rest ih =>
      obtain ⟨key, v⟩ := m
      simp only [occurrences] at ih
      rw [Entries.get?_cons, ← ih]
      by_cases h : key = name <;> simp [occurrences, h]

/-- A member is found by its name if this does not come twice. -/
theorem member?_eq_some_iff {m : Option α} : member? members name = some m ↔
    (Entries.keys members).count name ≤ 1 ∧ Entries.get? members name = m := by
  rw [← length_occurrences, ← head?_occurrences, member?]
  rcases occurrences members name with _ | ⟨_, _ | _⟩ <;> simp

end Record

/-- A function that may fail gives a result for a list if it gives one for every item. -/
theorem mapM_eq_some_iff {f : α → Option β} {l : List α} {r : List β} :
    l.mapM f = some r ↔ List.Forall₂ (fun x y => f x = some y) l r := by
  induction l generalizing r with
  | nil =>
      constructor
      · intro h
        obtain rfl := Option.some.inj h
        exact .nil
      · intro h
        cases h
        rfl
  | cons x rest ih =>
      simp only [List.mapM_cons, Option.bind_eq_bind, Option.bind_eq_some_iff]
      constructor
      · intro h
        obtain ⟨y, hy, ys, hys, hr⟩ := h
        obtain rfl := Option.some.inj hr
        exact .cons hy (ih.mp hys)
      · intro h
        cases h with
        | cons hy hys => exact ⟨_, hy, _, ih.mpr hys, rfl⟩

/-- A record is read as a closed structure if its keys are distinct and declared. -/
theorem arrange?_eq_some_iff {names : List String} {members : List (String × α)}
    {arranged : List (Option α)} : arrange? names true members = some arranged ↔
      Entries.Distinct members ∧ (∀ key ∈ Entries.keys members, key ∈ names) ∧
        names.map (Entries.get? members) = arranged := by
  have hclosed : (true && !members.all fun m => names.contains m.1) = true ↔
      ¬∀ key ∈ Entries.keys members, key ∈ names := by
    simp [Entries.keys]
  unfold arrange?
  by_cases hdeclared : ∀ key ∈ Entries.keys members, key ∈ names
  · have hdistinct : Entries.Distinct members ↔
        ∀ name ∈ names, (Entries.keys members).count name ≤ 1 := by
      rw [Entries.Distinct, List.nodup_iff_count_le_one]
      constructor
      · exact fun h name _ => h name
      · intro h key
        by_cases hkey : key ∈ Entries.keys members
        · exact h key (hdeclared key hkey)
        · simp [List.count_eq_zero_of_not_mem hkey]
    rw [if_neg (mt hclosed.mp (not_not_intro hdeclared)), mapM_eq_some_iff]
    simp only [member?_eq_some_iff, List.forall₂_and_left, ← hdistinct]
    rw [← List.forall₂_map_left_iff, List.forall₂_eq_eq_eq]
    exact and_congr_right fun _ => (and_iff_right hdeclared).symm
  · rw [if_pos (hclosed.mpr hdeclared)]
    constructor
    · intro h
      cases h
    · intro h
      exact absurd h.2.1 hdeclared

/-- A list is read as a structure if it is no longer than the list of the members. -/
theorem arrangeItems?_eq_some_iff {names : List String} {items : List α}
    {arranged : List (Option α)} : arrangeItems? names items = some arranged ↔
      items.length ≤ names.length ∧
        (List.range names.length).map (fun i => items[i]?) = arranged := by
  have hpadded (h : items.length ≤ names.length) :
      items.map some ++ List.replicate (names.length - items.length) none =
        (List.range names.length).map fun i => items[i]? := by
    refine List.ext_getElem (by simpa using by omega) fun i _ _ => ?_
    by_cases hi : i < items.length
    · simp [hi]
    · simp [List.getElem_append_right (show (items.map some).length ≤ i by simpa using hi),
        List.getElem?_eq_none (Nat.le_of_not_lt hi)]
  unfold arrangeItems?
  split
  · rename_i hlong
    constructor
    · intro h
      cases h
    · intro h
      omega
  · rename_i hshort
    have hlength : items.length ≤ names.length := Nat.le_of_not_lt hshort
    rw [hpadded hlength, Option.some.injEq]
    exact (and_iff_right hlength).symm

/-! ## Members that may be missing or null -/

/-- A member that is missing or null stands for nothing, and any other one for what it is
related to. -/
inductive SlotOf (R : Tree → β → Prop) : Option Tree → Option β → Prop
  | missing : SlotOf R none none
  | null : SlotOf R (some .null) none
  | value {t : Tree} {x : β} (hnull : t ≠ .null) (h : R t x) : SlotOf R (some t) (some x)

/-- The tree is a list whose items are related to these. -/
inductive ListOf (R : Tree → β → Prop) : Tree → List β → Prop
  | list {items : List Tree} {xs : List β} (h : List.Forall₂ R items xs) : ListOf R (.list items) xs

/-- What an optional member is read as: none if it is missing or null, and else what its reader
gives. -/
theorem optional_eq_some_iff {read : Tree → Option β} {m : Option Tree} {x : Option β} :
    optional read m = some x ↔ SlotOf (fun t y => read t = some y) m x := by
  constructor
  · intro h
    unfold optional at h
    split at h
    · obtain rfl := Option.some.inj h
      exact .missing
    · obtain rfl := Option.some.inj h
      exact .null
    · rename_i t hnull
      obtain ⟨y, hy, rfl⟩ := Option.map_eq_some_iff.mp h
      exact .value (by simpa using hnull) hy
  · intro h
    cases h with
    | missing => rfl
    | null => rfl
    | @value t y hnull hy =>
        cases t with
        | null => exact absurd rfl hnull
        | _ => simp [optional, hy]

/-- A list is read exactly if each of its items is. -/
theorem list?_eq_some_iff {read : Tree → Option β} {t : Tree} {xs : List β} :
    list? read t = some xs ↔ ListOf (fun u x => read u = some x) t xs := by
  constructor
  · intro h
    unfold list? at h
    split at h
    · exact .list (mapM_eq_some_iff.mp h)
    · cases h
  · intro h
    cases h with
    | list h => exact mapM_eq_some_iff.mpr h

/-- Nothing is read of a member exactly if it is missing or null. -/
theorem SlotOf.none_iff {R : Tree → β → Prop} {m : Option Tree} :
    SlotOf R m none ↔ ∀ t ∈ m, t = .null := by
  constructor
  · intro h
    cases h <;> simp
  · intro h
    cases m with
    | none => exact .missing
    | some t =>
        obtain rfl := h t rfl
        exact .null

/-- What holds of the readings of a member may be replaced by what follows from it. -/
theorem SlotOf.mono {R S : Tree → β → Prop} {m : Option Tree} {x : Option β} (h : SlotOf R m x)
    (hRS : ∀ t ∈ m, ∀ y, R t y → S t y) : SlotOf S m x := by
  cases h with
  | missing => exact .missing
  | null => exact .null
  | value hnull h => exact .value hnull (hRS _ rfl _ h)

/-- The same for the readings of the items of a list. -/
theorem ListOf.mono {R S : Tree → β → Prop} {t : Tree} {xs : List β} (h : ListOf R t xs)
    (hRS : ∀ items, t = .list items → ∀ u ∈ items, ∀ x, R u x → S u x) : ListOf S t xs := by
  cases h with
  | @list items _ h =>
      have hmem := (List.forall₂_and_left items xs).mpr ⟨fun _ hu => hu, h⟩
      exact .list (hmem.imp fun u x hux => hRS items rfl u hux.1 x hux.2)

/-- Where a list is read, each of its items is. -/
theorem ListOf.exists_of_mem {R : Tree → β → Prop} {items : List Tree} {xs : List β}
    (h : ListOf R (.list items) xs) {u : Tree} (hu : u ∈ items) : ∃ x, R u x := by
  cases h with
  | list h =>
      induction h with
      | nil => cases hu
      | cons hx _ ih =>
          rcases List.mem_cons.mp hu with rfl | hu
          · exact ⟨_, hx⟩
          · exact ih hu

end Tree

end Formwork
