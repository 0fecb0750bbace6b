import Formwork.Compilation.Dependency

/-!
# To which field a path belongs

A name **covers** a path if it is the whole path or stands before one of its dots.  A path
belongs to the longest of the names that cover it.  The names that cover a path are met
from the longest to the shortest when the path is cut at its dots from the right, so the
first of them that names a field is the owner.

* `mem_dotStems_iff` and `pairwise_dotStems` — what stands before the dots, the longest first;
* `owner?_eq_some_iff` — the owner is the longest name of a field that covers the path.
-/

namespace Formwork

/-- The name is the whole path, or what stands before one of its dots. -/
def Covers (name path : String) : Prop := path = name ∨ ∃ rest, path = name ++ "." ++ rest

/-- Among these names the owner is the longest that covers the path. -/
structure IsOwner (isName : String → Prop) (path owner : String) : Prop where
  named : isName owner
  covers : Covers owner path
  longest : ∀ other, isName other → Covers other path → other.length ≤ owner.length

/-! ## Cutting a path at its dots -/

/-- The stems of a text are what stands before its dots. -/
theorem mem_dotStems_iff {cs s : List Char} :
    s ∈ dotStems cs ↔ ∃ rest, cs = s ++ '.' :: rest := by
  induction cs generalizing s with
  | nil => simp [dotStems]
  | cons c cs ih =>
      cases s with
      | nil =>
          by_cases hc : c = '.'
          · simp [dotStems, hc]
          · simp [dotStems, hc]
      | cons d s =>
          have hmem : d :: s ∈ dotStems (c :: cs) ↔ s ∈ dotStems cs ∧ c = d := by
            by_cases hc : c = '.'
            · simp [dotStems, hc]
            · simp [dotStems, hc]
          rw [hmem, ih]
          simp [and_comm]

/-- The longest of them comes first. -/
theorem pairwise_dotStems (cs : List Char) :
    (dotStems cs).Pairwise fun s t => t.length < s.length := by
  induction cs with
  | nil => exact .nil
  | cons c cs ih =>
      unfold dotStems
      refine List.pairwise_append.mpr ⟨?_, ?_, ?_⟩
      · refine List.pairwise_map.mpr (ih.imp ?_)
        intro s t hst
        simpa using hst
      · split
        · exact List.pairwise_singleton _ _
        · exact .nil
      · intro s hs t ht
        obtain ⟨s', _, rfl⟩ := List.mem_map.mp hs
        split at ht
        · obtain rfl := List.mem_singleton.mp ht
          simp
        · cases ht

/-- The names that cover a path, the longest first. -/
def coverings (path : String) : List String := path :: (dotStems path.toList).map String.ofList

/-- The candidates for the owner of a path are the names that cover it. -/
theorem mem_coverings_iff {name path : String} : name ∈ coverings path ↔ Covers name path := by
  unfold coverings Covers
  rw [List.mem_cons, List.mem_map, eq_comm]
  refine or_congr Iff.rfl ?_
  constructor
  · intro h
    obtain ⟨s, hs, rfl⟩ := h
    obtain ⟨rest, hrest⟩ := mem_dotStems_iff.mp hs
    refine ⟨String.ofList rest, String.toList_inj.mp ?_⟩
    simp [hrest]
  · intro h
    obtain ⟨rest, rfl⟩ := h
    exact ⟨name.toList, mem_dotStems_iff.mpr ⟨rest.toList, by simp⟩, by simp⟩

/-- The longest of them comes first. -/
theorem pairwise_coverings (path : String) :
    (coverings path).Pairwise fun s t => t.length < s.length := by
  refine List.pairwise_cons.mpr ⟨?_, ?_⟩
  · intro name hname
    obtain ⟨s, hs, rfl⟩ := List.mem_map.mp hname
    obtain ⟨rest, hrest⟩ := mem_dotStems_iff.mp hs
    have hlength := congrArg List.length hrest
    rw [String.length_toList] at hlength
    simp only [List.length_append, List.length_cons] at hlength
    rw [String.length_ofList]
    omega
  · refine List.pairwise_map.mpr ((pairwise_dotStems _).imp ?_)
    intro s t hst
    simpa using hst

/-! ## The owner -/

/-- Of texts that get shorter, the first with a property is the longest with it. -/
theorem find?_eq_some_iff_longest {p : String → Bool} {names : List String}
    (hnames : names.Pairwise fun s t => t.length < s.length) {name : String} :
    names.find? p = some name ↔ name ∈ names ∧ p name = true ∧
      ∀ other ∈ names, p other = true → other.length ≤ name.length := by
  induction names with
  | nil => simp
  | cons s names ih =>
      obtain ⟨hs, hrest⟩ := List.pairwise_cons.mp hnames
      -- the first name is longer than all others, so it is the longest if it counts at all
      by_cases hp : p s = true
      · rw [List.find?_cons_of_pos hp, Option.some.injEq]
        constructor
        · intro h
          subst h
          refine ⟨List.mem_cons_self, hp, ?_⟩
          intro other hother _
          rcases List.mem_cons.mp hother with rfl | hother
          · exact Nat.le_refl _
          · exact Nat.le_of_lt (hs other hother)
        · intro h
          obtain ⟨hname, _, hlongest⟩ := h
          rcases List.mem_cons.mp hname with rfl | hname
          · rfl
          · have hlt := hs name hname
            have hle := hlongest s List.mem_cons_self hp
            omega
      · rw [List.find?_cons_of_neg hp, ih hrest]
        constructor
        · intro h
          obtain ⟨hname, hpname, hlongest⟩ := h
          refine ⟨List.mem_cons_of_mem _ hname, hpname, ?_⟩
          intro other hother hpother
          rcases List.mem_cons.mp hother with rfl | hother
          · exact absurd hpother hp
          · exact hlongest other hother hpother
        · intro h
          obtain ⟨hname, hpname, hlongest⟩ := h
          refine ⟨?_, hpname, fun other hother => hlongest other (List.mem_cons_of_mem _ hother)⟩
          rcases List.mem_cons.mp hname with rfl | hname
          · exact absurd hpname hp
          · exact hname

variable {fields : Entries FormField} {path owner : String}

theorem contains_iff {name : String} : fields.contains name = true ↔ name ∈ fields.keys :=
  fields.get?_isSome_iff name

/-- The owner of a path is the longest name of a field that covers it. -/
theorem owner?_eq_some_iff :
    owner? fields path = some owner ↔ IsOwner (· ∈ fields.keys) path owner := by
  have hfind : owner? fields path = some owner ↔ _ :=
    find?_eq_some_iff_longest (pairwise_coverings path)
  rw [hfind]
  simp only [mem_coverings_iff, contains_iff]
  constructor
  · intro h
    obtain ⟨hcovers, hname, hlongest⟩ := h
    exact ⟨hname, hcovers, fun other hother hcov => hlongest other hcov hother⟩
  · intro h
    exact ⟨h.covers, h.named, fun other hcov hother => h.longest other hother hcov⟩

end Formwork
