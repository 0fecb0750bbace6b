import Formwork.Proofs.Compilation.Owner
import Mathlib.Data.List.Chain
import Mathlib.Data.List.Nodup
import Mathlib.Logic.Relation

/-!
# The search for a cycle

The search follows dependencies from every field in turn.  Its **trail** holds the names
on the way from the start, and a name of the trail that is come to again closes a cycle.
The **settled** names are those from which everything was followed without that; nothing
leads out of them, and none of them leads back to itself.

* `isCycle_of_visit` — a path that is reported is a cycle;
* `Settled` — what holds of settled names; `settled_of_visit` says that a search which
  reports nothing adds its start to them, there being fuel enough for every trail;
* `mem_dependencies_iff` — the dependencies of a field;
* `isCycle_of_cycle?` and `cycle?_eq_none_iff` — a cycle is reported if and only if there
  is one, and what is reported is one.
-/

namespace Formwork

open Relation (TransGen ReflTransGen)

/-- The path ends where it starts, comes to no other name twice, and every step of it is
one of the relation. -/
def IsCycle (r : String → String → Prop) (path : List String) : Prop :=
  ∃ name rest, path = name :: rest ++ [name] ∧ (name :: rest).Nodup ∧ path.IsChain r

/-- A chain leads from its first name to its last. -/
theorem transGen_of_isChain {r : String → String → Prop} {a b : String} {between : List String}
    (h : (a :: between ++ [b]).IsChain r) : TransGen r a b := by
  induction between generalizing a with
  | nil => exact .single (List.isChain_cons_cons.mp h).1
  | cons c between ih =>
      obtain ⟨hac, hrest⟩ := List.isChain_cons_cons.mp h
      exact .head hac (ih hrest)

/-- So a cycle leads from a name back to it. -/
theorem IsCycle.transGen {r : String → String → Prop} {path : List String} (h : IsCycle r path) :
    ∃ name, TransGen r name name := by
  obtain ⟨name, rest, rfl, _, hchain⟩ := h
  exact ⟨name, transGen_of_isChain hchain⟩

/-- A new name at the end does not come twice. -/
theorem nodup_snoc {names : List String} {name : String} (hnames : names.Nodup)
    (hname : name ∉ names) : (names ++ [name]).Nodup := by
  refine List.nodup_append.mpr ⟨hnames, by simp, ?_⟩
  intro a ha b hb hab
  obtain rfl := List.mem_singleton.mp hb
  exact hname (hab ▸ ha)

/-! ## What is reported -/

/-- A fault in a sequence of steps is that of one of them. -/
theorem exists_of_foldlM_eq_error {α σ ε : Type} {f : σ → α → Except ε σ} {xs : List α} {s : σ}
    {e : ε} (h : xs.foldlM f s = .error e) : ∃ x ∈ xs, ∃ t, f t x = .error e := by
  induction xs generalizing s with
  | nil => cases h
  | cons x xs ih =>
      rw [List.foldlM_cons] at h
      cases hx : f s x with
      | error e' =>
          rw [hx] at h
          obtain rfl : e' = e := Except.error.inj h
          exact ⟨x, List.mem_cons_self, s, hx⟩
      | ok t =>
          rw [hx] at h
          obtain ⟨y, hy, t, ht⟩ := ih h
          exact ⟨y, List.mem_cons_of_mem _ hy, t, ht⟩

section Visit

variable {next : String → List String} {fuel : Nat} {trail settled : List String} {name : String}

/-- A trail that comes to one of its names again is a cycle from there on. -/
theorem isCycle_of_mem_trail (hnodup : trail.Nodup)
    (hchain : (trail ++ [name]).IsChain fun a b => b ∈ next a) (hname : name ∈ trail) :
    IsCycle (fun a b => b ∈ next a) (trail.dropWhile (· ≠ name) ++ [name]) := by
  obtain ⟨before, after, rfl, hbefore⟩ := List.eq_append_cons_of_mem hname
  have hdrop : (before ++ name :: after).dropWhile (· ≠ name) = name :: after := by
    have hpassed : ∀ a ∈ before, decide (a ≠ name) = true := by
      intro a ha
      have hne : a ≠ name := fun h => hbefore (h ▸ ha)
      simpa using hne
    rw [List.dropWhile_append_of_pos hpassed]
    simp
  rw [hdrop]
  rw [List.append_assoc] at hchain
  exact ⟨name, after, rfl, (List.nodup_append.mp hnodup).2.1, (List.isChain_append.mp hchain).2.1⟩

/-- What a search reports is a cycle. -/
theorem isCycle_of_visit {path : List String} (hnodup : trail.Nodup)
    (hchain : (trail ++ [name]).IsChain fun a b => b ∈ next a)
    (h : visit next fuel trail settled name = .error path) :
    IsCycle (fun a b => b ∈ next a) path := by
  induction fuel generalizing trail settled name with
  | zero => cases h
  | succ fuel ih =>
      unfold visit at h
      split at h
      · cases h
      · split at h
        · rename_i htrail
          obtain rfl := Except.error.inj h
          exact isCycle_of_mem_trail hnodup hchain (by simpa using htrail)
        · rename_i htrail
          have hname : name ∉ trail := by simpa using htrail
          cases hfold : (next name).foldlM (visit next fuel (trail ++ [name])) settled with
          | ok settled' => simp [hfold] at h
          | error path' =>
              obtain rfl : path' = path := by simpa [hfold] using h
              obtain ⟨b, hb, t, ht⟩ := exists_of_foldlM_eq_error hfold
              refine ih (nodup_snoc hnodup hname) ?_ ht
              refine hchain.append (List.isChain_singleton b) ?_
              intro x hx y hy
              obtain rfl : name = x := by simpa using hx
              obtain rfl : b = y := by simpa using hy
              exact hb

/-! ## What is settled -/

/-- What holds of the settled names while a search is on this trail: whatever they lead to
is settled, none of them leads back to itself, and none of them is on the trail. -/
structure Settled (next : String → List String) (trail settled : List String) : Prop where
  closed : ∀ a ∈ settled, ∀ b ∈ next a, b ∈ settled
  acyclic : ∀ a ∈ settled, ¬ TransGen (fun a b => b ∈ next a) a a
  apart : ∀ a ∈ trail, a ∉ settled

namespace Settled

/-- All that settled names lead to is settled. -/
theorem mem_of_reflTransGen (h : Settled next trail settled) {a b : String} (ha : a ∈ settled)
    (hab : ReflTransGen (fun a b => b ∈ next a) a b) : b ∈ settled := by
  induction hab with
  | refl => exact ha
  | tail _ hbc ih => exact h.closed _ ih _ hbc

/-- A name is settled after all that it leads to. -/
theorem cons (h : Settled next (trail ++ [name]) settled) (hname : name ∉ trail)
    (hnext : next name ⊆ settled) : Settled next trail (name :: settled) where
  closed := by
    intro a ha b hb
    rcases List.mem_cons.mp ha with rfl | ha
    · exact List.mem_cons_of_mem _ (hnext hb)
    · exact List.mem_cons_of_mem _ (h.closed a ha b hb)
  acyclic := by
    intro a ha hcycle
    rcases List.mem_cons.mp ha with rfl | ha
    · -- a cycle through the new name would come back to it from among the settled ones
      obtain ⟨b, hb, hback⟩ := TransGen.head'_iff.mp hcycle
      exact h.apart a (by simp) (h.mem_of_reflTransGen (hnext hb) hback)
    · exact h.acyclic a ha hcycle
  apart := by
    intro a ha hsettled
    rcases List.mem_cons.mp hsettled with rfl | hsettled
    · exact hname ha
    · exact h.apart a (List.mem_append_left _ ha) hsettled

/-- If searches from names each settle their start, so do these searches in turn. -/
theorem foldlM {search : List String → String → Search} {names : List String}
    (hsearch : ∀ name ∈ names, ∀ s s', Settled next trail s → search s name = .ok s' →
      Settled next trail s' ∧ s ⊆ s' ∧ name ∈ s')
    {s s' : List String} (hs : Settled next trail s) (h : names.foldlM search s = .ok s') :
    Settled next trail s' ∧ s ⊆ s' ∧ names ⊆ s' := by
  induction names generalizing s with
  | nil =>
      obtain rfl : s = s' := Except.ok.inj h
      exact ⟨hs, List.Subset.refl s, List.nil_subset s⟩
  | cons name names ih =>
      rw [List.foldlM_cons] at h
      cases hname : search s name with
      | error path =>
          rw [hname] at h
          cases h
      | ok t =>
          rw [hname] at h
          obtain ⟨ht, hst, hmem⟩ := hsearch name List.mem_cons_self s t hs hname
          obtain ⟨hs', hts', hnames⟩ :=
            ih (fun n hn => hsearch n (List.mem_cons_of_mem _ hn)) ht h
          exact ⟨hs', List.Subset.trans hst hts', List.cons_subset.mpr ⟨hts' hmem, hnames⟩⟩

end Settled

/-- A search that reports nothing settles its start.  The trail holds no name twice, so
the fuel lasts if there is more of it than names that are not on the trail. -/
theorem settled_of_visit {all settled' : List String} (hall : ∀ a, next a ⊆ all)
    (hnodup : trail.Nodup) (htrail : trail ⊆ all) (hname : name ∈ all)
    (hfuel : all.length < trail.length + fuel) (hs : Settled next trail settled)
    (h : visit next fuel trail settled name = .ok settled') :
    Settled next trail settled' ∧ settled ⊆ settled' ∧ name ∈ settled' := by
  induction fuel generalizing trail settled settled' name with
  | zero =>
      -- a trail without repetitions is not longer than all names are many
      have hlength := hnodup.length_le_of_subset htrail
      omega
  | succ fuel ih =>
      unfold visit at h
      split at h
      · rename_i hsettled
        obtain rfl := Except.ok.inj h
        exact ⟨hs, List.Subset.refl settled, by simpa using hsettled⟩
      · rename_i hfresh
        split at h
        · cases h
        · rename_i hnew
          have hnew' : name ∉ trail := by simpa using hnew
          have hfresh' : name ∉ settled := by simpa using hfresh
          cases hfold : (next name).foldlM (visit next fuel (trail ++ [name])) settled with
          | error path => simp [hfold] at h
          | ok t =>
              obtain rfl : name :: t = settled' := by simpa [hfold] using h
              -- the name goes on the trail while what it leads to is visited
              have hstart : Settled next (trail ++ [name]) settled := by
                refine ⟨hs.closed, hs.acyclic, ?_⟩
                intro a ha
                rcases List.mem_append.mp ha with ha | ha
                · exact hs.apart a ha
                · obtain rfl := List.mem_singleton.mp ha
                  exact hfresh'
              have hsub : trail ++ [name] ⊆ all :=
                List.append_subset.mpr ⟨htrail, List.cons_subset.mpr ⟨hname, List.nil_subset _⟩⟩
              have hleft : all.length < (trail ++ [name]).length + fuel := by
                rw [List.length_append, List.length_singleton]
                omega
              obtain ⟨ht, hst, hnext⟩ := Settled.foldlM
                (fun b hb s s' => ih (nodup_snoc hnodup hnew') hsub (hall name hb) hleft)
                hstart hfold
              -- then it is settled itself
              exact ⟨ht.cons hnew' hnext, List.Subset.trans hst (List.subset_cons_self _ _),
                List.mem_cons_self⟩

end Visit

/-! ## The dependencies of fields -/

variable {fields : Entries FormField}

/-- A field depends on the owners of the paths that its condition mentions. -/
theorem mem_dependencies_iff {a b : String} : b ∈ dependencies fields a ↔
    ∃ f c path, fields.get? a = some f ∧ f.showWhen = some c ∧ path ∈ c.paths ∧
      IsOwner (· ∈ fields.keys) path b := by
  simp only [← owner?_eq_some_iff]
  unfold dependencies conditionDependencies
  rw [List.mem_mergeSort, List.mem_eraseDups, List.mem_filterMap]
  cases hf : fields.get? a with
  | none => simp
  | some f => cases hc : f.showWhen <;> simp [hc]

/-- These are names of fields. -/
theorem dependencies_subset_keys (a : String) : dependencies fields a ⊆ fields.keys := by
  intro b hb
  obtain ⟨f, c, path, _, _, _, howner⟩ := mem_dependencies_iff.mp hb
  exact howner.named

/-- What is reported is a cycle of dependencies. -/
theorem isCycle_of_cycle? {path : List String} (h : cycle? fields = some path) :
    IsCycle (fun a b => b ∈ dependencies fields a) path := by
  unfold cycle? at h
  dsimp only at h
  split at h
  · cases h
  · rename_i path' hsearch
    obtain rfl := Option.some.inj h
    obtain ⟨name, _, settled, hvisit⟩ := exists_of_foldlM_eq_error hsearch
    exact isCycle_of_visit List.nodup_nil (List.isChain_singleton name) hvisit

/-- Nothing is reported exactly if no field depends on itself through any others. -/
theorem cycle?_eq_none_iff : cycle? fields = none ↔
    ∀ name, ¬ TransGen (fun a b => b ∈ dependencies fields a) name name := by
  constructor
  · intro h name hcycle
    unfold cycle? at h
    dsimp only at h
    split at h
    · rename_i settled hsearch
      have hstart : Settled (dependencies fields) [] [] := ⟨by simp, by simp, by simp⟩
      have hlength : fields.keys.length < ([] : List String).length + (fields.length + 1) := by
        simp [Entries.keys]
      obtain ⟨hsettled, _, hkeys⟩ := Settled.foldlM
        (fun n hn s s' => settled_of_visit dependencies_subset_keys List.nodup_nil
          (List.nil_subset _) hn hlength) hstart hsearch
      obtain ⟨a, _, ha⟩ := TransGen.tail'_iff.mp hcycle
      exact hsettled.acyclic name (hkeys (dependencies_subset_keys a ha)) hcycle
    · cases h
  · intro h
    cases hcycle : cycle? fields with
    | none => rfl
    | some path =>
        obtain ⟨name, hname⟩ := (isCycle_of_cycle? hcycle).transGen
        exact absurd hname (h name)

end Formwork
