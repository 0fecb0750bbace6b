import Formwork.Proofs.Condition.Reach

/-!
# The parts of a condition

A condition is made of rules and groups, and every member of a group is a part of it, at
whatever depth.  An evaluation comes to some of the parts; what is said about the paths of
a condition is said about the rules among its parts.

* `Condition.HasPart` — the parts, the condition itself included;
* `Reaches.hasPart` — an evaluation comes to parts only;
* `mem_paths_iff` — the paths that a condition mentions are those of its rules.
-/

namespace Formwork

namespace Condition

/-- The other condition is the one itself, or it stands somewhere in its groups. -/
inductive HasPart : Condition → Condition → Prop
  | here (c : Condition) : HasPart c c
  | all {items : List Condition} {c x : Condition} (hc : c ∈ items) (hx : HasPart c x) :
      HasPart (.all items) x
  | any {items : List Condition} {c x : Condition} (hc : c ∈ items) (hx : HasPart c x) :
      HasPart (.any items) x
  | conflictingAll {xs ys : List Condition} {c x : Condition} (hc : c ∈ xs)
      (hx : HasPart c x) : HasPart (.conflicting xs ys) x
  | conflictingAny {xs ys : List Condition} {c x : Condition} (hc : c ∈ ys)
      (hx : HasPart c x) : HasPart (.conflicting xs ys) x

/-- What an evaluation reaches is a part of the condition. -/
theorem Reaches.hasPart [PatternEngine] {values : Snapshot} {c x : Condition}
    (h : Reaches values c x) :
    HasPart c x := by
  induction h with
  | here c => exact .here c
  | all _ _ ih => exact .all (by simp) ih
  | any _ _ ih => exact .any (by simp) ih

/-- A list mentions the paths that its conditions mention. -/
theorem mem_pathsOf_iff {items : List Condition} {path : String} :
    path ∈ pathsOf items ↔ ∃ c ∈ items, path ∈ c.paths := by
  induction items with
  | nil => simp [pathsOf]
  | cons c rest ih => simp [pathsOf, ih]

/-- If the paths of the members are those of rules in them, so are the paths of a list. -/
theorem exists_rule_of_mem_pathsOf {items : List Condition} {path : String}
    (ih : ∀ c ∈ items, path ∈ c.paths → ∃ r, HasPart c (.rule r) ∧ r.field = path)
    (h : path ∈ pathsOf items) :
    ∃ c ∈ items, ∃ r, HasPart c (.rule r) ∧ r.field = path := by
  obtain ⟨c, hc, hpath⟩ := mem_pathsOf_iff.mp h
  exact ⟨c, hc, ih c hc hpath⟩

/-- The paths that a condition mentions are those of the rules among its parts. -/
theorem mem_paths_iff {c : Condition} {path : String} :
    path ∈ c.paths ↔ ∃ r, HasPart c (.rule r) ∧ r.field = path := by
  constructor
  · intro h
    induction c using inductionOn with
    | rule r => exact ⟨r, .here _, (List.mem_singleton.mp h).symm⟩
    | all items ih =>
        obtain ⟨c, hc, r, hr, hfield⟩ := exists_rule_of_mem_pathsOf ih h
        exact ⟨r, .all hc hr, hfield⟩
    | any items ih =>
        obtain ⟨c, hc, r, hr, hfield⟩ := exists_rule_of_mem_pathsOf ih h
        exact ⟨r, .any hc hr, hfield⟩
    | unset => cases h
    | conflicting xs ys ihxs ihys =>
        rcases List.mem_append.mp h with h | h
        · obtain ⟨c, hc, r, hr, hfield⟩ := exists_rule_of_mem_pathsOf ihxs h
          exact ⟨r, .conflictingAll hc hr, hfield⟩
        · obtain ⟨c, hc, r, hr, hfield⟩ := exists_rule_of_mem_pathsOf ihys h
          exact ⟨r, .conflictingAny hc hr, hfield⟩
  · intro h
    obtain ⟨r, hr, rfl⟩ := h
    generalize hx : Condition.rule r = x at hr
    induction hr with
    | here c => simp [← hx, paths]
    | all hc _ ih => exact mem_pathsOf_iff.mpr ⟨_, hc, ih hx⟩
    | any hc _ ih => exact mem_pathsOf_iff.mpr ⟨_, hc, ih hx⟩
    | conflictingAll hc _ ih =>
        exact List.mem_append_left _ (mem_pathsOf_iff.mpr ⟨_, hc, ih hx⟩)
    | conflictingAny hc _ ih =>
        exact List.mem_append_right _ (mem_pathsOf_iff.mpr ⟨_, hc, ih hx⟩)

end Condition

end Formwork
