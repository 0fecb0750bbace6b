import Formwork.Proofs.Compilation.Cycle
import Formwork.Proofs.Condition.Parts
import Mathlib.Data.List.Sort
import Mathlib.Data.String.Basic

/-!
# The search for a cycle is exact

What the search for a cycle finds is decided by two things only: the names of the fields in
their order, and for every field the set of paths that the rules of its condition mention.
How often a rule stands in a condition, in which order the rules come and how they are
grouped makes no difference, because the dependencies of a field are sorted and each is
listed once before the search follows them.

The search itself is told here once more without a bound on its depth, as a relation between
where it starts and how it ends.  The trail never holds a name twice, so a depth of one more
than there are fields is never used up.

* `Explores` — a search that comes to an end; `exploresAll_keys` — the search for a cycle does;
* `pairwise_dependencies` — the dependencies of a field are sorted, each listed once;
* `cycle?_congr` — the same names and the same mentioned paths give the same cycle;
* `cycle_search_is_exact` — all of this, with soundness and completeness.
-/

namespace Formwork

open Relation (TransGen)

/-! ## The search without a bound -/

mutual

/-- A search from one name comes to this end. -/
inductive Explores (next : String → List String) :
    List String → List String → String → Search → Prop
  | settled {trail settled name} (hsettled : name ∈ settled) :
      Explores next trail settled name (.ok settled)
  | closed {trail settled name} (hfresh : name ∉ settled) (htrail : name ∈ trail) :
      Explores next trail settled name (.error (trail.dropWhile (· ≠ name) ++ [name]))
  | settles {trail settled name settled'} (hfresh : name ∉ settled) (hnew : name ∉ trail)
      (hnext : ExploresAll next (trail ++ [name]) settled (next name) (.ok settled')) :
      Explores next trail settled name (.ok (name :: settled'))
  | reports {trail settled name path} (hfresh : name ∉ settled) (hnew : name ∉ trail)
      (hnext : ExploresAll next (trail ++ [name]) settled (next name) (.error path)) :
      Explores next trail settled name (.error path)

/-- Searches from several names in turn come to this end; the first cycle ends them all. -/
inductive ExploresAll (next : String → List String) :
    List String → List String → List String → Search → Prop
  | nil {trail settled} : ExploresAll next trail settled [] (.ok settled)
  | cons {trail settled name settled' names result}
      (hname : Explores next trail settled name (.ok settled'))
      (hrest : ExploresAll next trail settled' names result) :
      ExploresAll next trail settled (name :: names) result
  | stops {trail settled name names path}
      (hname : Explores next trail settled name (.error path)) :
      ExploresAll next trail settled (name :: names) (.error path)

end

section Visit

variable {next : String → List String} {trail settled : List String}

/-- Names are explored one after the other, each by its own search. -/
theorem exploresAll_of_foldlM {search : List String → String → Search} {names : List String}
    (hsearch : ∀ name ∈ names, ∀ s, Explores next trail s name (search s name)) :
    ExploresAll next trail settled names (names.foldlM search settled) := by
  induction names generalizing settled with
  | nil => exact .nil
  | cons name names ih =>
      have hname := hsearch name List.mem_cons_self settled
      rw [List.foldlM_cons]
      cases hend : search settled name with
      | error path =>
          rw [hend] at hname
          exact .stops hname
      | ok settled' =>
          rw [hend] at hname
          exact .cons hname (ih fun n hn => hsearch n (List.mem_cons_of_mem _ hn))

/-- A search with a bound comes to the end that it has without one, if the bound is greater
than the number of names that are not on the trail. -/
theorem explores_of_visit {all : List String} (hall : ∀ a, next a ⊆ all) {fuel : Nat}
    {name : String} (hnodup : trail.Nodup) (htrail : trail ⊆ all) (hname : name ∈ all)
    (hfuel : all.length < trail.length + fuel) :
    Explores next trail settled name (visit next fuel trail settled name) := by
  induction fuel generalizing trail settled name with
  | zero =>
      -- the fuel cannot have run out: the trail would be too long
      have hlength := hnodup.length_le_of_subset htrail
      omega
  | succ fuel ih =>
      unfold visit
      split
      · rename_i hsettled
        exact .settled (by simpa using hsettled)
      · rename_i hfresh
        have hfresh : name ∉ settled := by simpa using hfresh
        split
        · rename_i hclosed
          exact .closed hfresh (by simpa using hclosed)
        · rename_i hnew
          have hnew : name ∉ trail := by simpa using hnew
          have hsub : trail ++ [name] ⊆ all :=
            List.append_subset.mpr ⟨htrail, List.cons_subset.mpr ⟨hname, List.nil_subset _⟩⟩
          have hleft : all.length < (trail ++ [name]).length + fuel := by
            rw [List.length_append, List.length_singleton]
            omega
          -- the name goes on the trail while those after it are explored
          have hnext : ExploresAll next (trail ++ [name]) settled (next name)
              ((next name).foldlM (visit next fuel (trail ++ [name])) settled) :=
            exploresAll_of_foldlM fun b hb s =>
              ih (nodup_snoc hnodup hnew) hsub (hall name hb) hleft
          cases hfold : (next name).foldlM (visit next fuel (trail ++ [name])) settled with
          | error path =>
              rw [hfold] at hnext
              exact .reports hfresh hnew hnext
          | ok settled' =>
              rw [hfold] at hnext
              exact .settles hfresh hnew hnext

end Visit

/-- The cycle that a search ended with. -/
def Search.cycle? : Search → Option (List String)
  | .ok _ => none
  | .error path => some path

/-- The search from all fields in turn comes to an end, and what it ends with is reported. -/
theorem exploresAll_keys (fields : Entries FormField) :
    ∃ result, ExploresAll (dependencies fields) [] [] fields.keys result ∧
      cycle? fields = result.cycle? := by
  refine ⟨fields.keys.foldlM (visit (dependencies fields) (fields.length + 1) []) [], ?_, ?_⟩
  · refine exploresAll_of_foldlM ?_
    intro name hname settled
    refine explores_of_visit dependencies_subset_keys List.nodup_nil (List.nil_subset _) hname ?_
    simp [Entries.keys]
  · unfold cycle?
    dsimp only
    split
    · rename_i hsearch
      rw [hsearch]
      rfl
    · rename_i hsearch
      rw [hsearch]
      rfl

/-! ## What the search depends on -/

/-- A rule in the condition of the field, at whatever depth, mentions the path. -/
def Mentions (fields : Entries FormField) (name path : String) : Prop :=
  ∃ f c r, fields.get? name = some f ∧ f.showWhen = some c ∧
    c.HasPart (.rule r) ∧ r.field = path

/-- The condition of the one field mentions a path that belongs to the other. -/
def LeadsTo (fields : Entries FormField) (a b : String) : Prop :=
  ∃ path, Mentions fields a path ∧ IsOwner (· ∈ fields.keys) path b

variable {fields others : Entries FormField}

/-- A field depends on those that it leads to. -/
theorem mem_dependencies_iff_leadsTo {a b : String} :
    b ∈ dependencies fields a ↔ LeadsTo fields a b := by
  rw [mem_dependencies_iff]
  constructor
  · intro h
    obtain ⟨f, c, path, hf, hc, hpath, howner⟩ := h
    obtain ⟨r, hr, hfield⟩ := Condition.mem_paths_iff.mp hpath
    exact ⟨path, ⟨f, c, r, hf, hc, hr, hfield⟩, howner⟩
  · intro h
    obtain ⟨path, ⟨f, c, r, hf, hc, hr, hfield⟩, howner⟩ := h
    exact ⟨f, c, path, hf, hc, Condition.mem_paths_iff.mpr ⟨r, hr, hfield⟩, howner⟩

/-- So the search follows where fields lead. -/
theorem dependencies_eq_leadsTo :
    (fun a b => b ∈ dependencies fields a) = LeadsTo fields := by
  funext a b
  exact propext mem_dependencies_iff_leadsTo

/-- No name is left twice when repetitions are dropped. -/
theorem nodup_eraseDups (names : List String) : names.eraseDups.Nodup := by
  cases names with
  | nil => exact .nil
  | cons name rest =>
      rw [List.eraseDups_cons, List.nodup_cons]
      exact ⟨by simp, nodup_eraseDups _⟩
termination_by names.length
decreasing_by
  have hle := List.length_filter_le (fun b => !b == name) rest
  rw [List.length_cons]
  omega

/-- The dependencies of a field are sorted, each listed once. -/
theorem pairwise_dependencies (name : String) :
    (dependencies fields name).Pairwise (· < ·) := by
  unfold dependencies conditionDependencies
  dsimp only
  generalize List.filterMap (owner? fields) _ = owners
  have hsorted := List.pairwise_mergeSort' (· ≤ ·) owners.eraseDups
  have hdistinct : (owners.eraseDups.mergeSort (· ≤ ·)).Nodup :=
    (List.mergeSort_perm ..).nodup_iff.mpr (nodup_eraseDups owners)
  refine (hsorted.and hdistinct).imp ?_
  intro a b hab
  exact lt_of_le_of_ne hab.1 hab.2

/-- The dependencies of a field are told by the names of the fields and by the paths that its
condition mentions. -/
theorem dependencies_congr (hkeys : others.keys = fields.keys)
    (hpaths : ∀ name path, Mentions others name path ↔ Mentions fields name path) :
    dependencies others = dependencies fields := by
  funext name
  refine (pairwise_dependencies name).eq_of_mem_iff (pairwise_dependencies name) ?_
  intro b
  simp only [mem_dependencies_iff_leadsTo, LeadsTo, hkeys, hpaths]

/-- So is what the search reports. -/
theorem cycle?_congr (hkeys : others.keys = fields.keys)
    (hpaths : ∀ name path, Mentions others name path ↔ Mentions fields name path) :
    cycle? others = cycle? fields := by
  have hlength : others.length = fields.length := by
    simpa [Entries.keys] using congrArg List.length hkeys
  unfold cycle?
  rw [dependencies_congr hkeys hpaths, hkeys, hlength]

/-! ## Rearranged conditions -/

/-- The fields with every condition rearranged. -/
def rearranged (f : Condition → Condition) (fields : Entries FormField) : Entries FormField :=
  fields.mapValues fun field => { field with showWhen := field.showWhen.map f }

theorem keys_rearranged (f : Condition → Condition) :
    (rearranged f fields).keys = fields.keys := by
  simp [rearranged, Entries.keys, Entries.mapValues]

/-- Conditions with the same rules, however often, in whatever order and grouping, mention
the same paths. -/
theorem mentions_rearranged {f : Condition → Condition}
    (hf : ∀ c r, (f c).HasPart (.rule r) ↔ c.HasPart (.rule r)) (name path : String) :
    Mentions (rearranged f fields) name path ↔ Mentions fields name path := by
  unfold Mentions rearranged
  rw [Entries.get?_mapValues]
  cases fields.get? name with
  | none => simp
  | some field => cases hc : field.showWhen <;> simp [hc, hf]

/-! ## Main statement -/

/-- **The search for a cycle is exact.**  It comes to an end, and reports what it ends with.
Nothing is reported exactly if no field leads back to itself over the fields that own the
paths which conditions mention.  What is reported is such a cycle: it starts and ends with
one field, every step of it is a dependency, and no field is on it twice but that one.  And
what is reported depends on nothing but the names of the fields in their order and the set
of paths that each condition mentions, so the rules of the conditions may be permuted,
repeated and grouped anew. -/
theorem cycle_search_is_exact (fields : Entries FormField) :
    (∃ result, ExploresAll (dependencies fields) [] [] fields.keys result ∧
      cycle? fields = result.cycle?) ∧
    (cycle? fields = none ↔ ∀ name, ¬ TransGen (LeadsTo fields) name name) ∧
    (∀ path, cycle? fields = some path → IsCycle (LeadsTo fields) path) ∧
    (∀ others : Entries FormField, others.keys = fields.keys →
      (∀ name path, Mentions others name path ↔ Mentions fields name path) →
        cycle? others = cycle? fields) ∧
    ∀ f : Condition → Condition, (∀ c r, (f c).HasPart (.rule r) ↔ c.HasPart (.rule r)) →
      cycle? (rearranged f fields) = cycle? fields := by
  have hedges : (fun a b => b ∈ dependencies fields a) = LeadsTo fields :=
    dependencies_eq_leadsTo
  refine ⟨exploresAll_keys fields, ?_, ?_, ?_, ?_⟩
  · rw [← hedges]
    exact cycle?_eq_none_iff
  · intro path hpath
    rw [← hedges]
    exact isCycle_of_cycle? hpath
  · intro others hkeys hpaths
    exact cycle?_congr hkeys hpaths
  · intro f hf
    exact cycle?_congr (keys_rearranged f) (mentions_rearranged hf)

/-- Two fields of which each is shown by what stands in the other. -/
def circleFields : Entries FormField :=
  let either : Condition := .any [.rule ⟨"b", .absent, none⟩, .rule ⟨"b.x", .present, none⟩]
  [("a", { kind := .text, showWhen := some either }),
    ("b", { kind := .text, showWhen := some (.rule ⟨"a", .present, none⟩) })]

/-- The circle is reported from its first field on, also if every condition is repeated in a
group of its own. -/
theorem circle_of_two_reported :
    cycle? circleFields = some ["a", "b", "a"] ∧
      IsCycle (LeadsTo circleFields) ["a", "b", "a"] ∧
      cycle? (rearranged (fun c => .all [c, .any [c]]) circleFields) = some ["a", "b", "a"] := by
  have hfound : cycle? circleFields = some ["a", "b", "a"] := by decide +kernel
  obtain ⟨_, _, hsound, _, hrearranged⟩ := cycle_search_is_exact circleFields
  refine ⟨hfound, hsound _ hfound, ?_⟩
  rw [hrearranged, hfound]
  intro c r
  constructor
  · intro h
    cases h with
    | all hmem hpart =>
        rcases List.mem_cons.mp hmem with rfl | hmem
        · exact hpart
        · obtain rfl := List.mem_singleton.mp hmem
          cases hpart with
          | any hmem hpart =>
              obtain rfl := List.mem_singleton.mp hmem
              exact hpart
  · intro h
    exact .all List.mem_cons_self h

end Formwork
