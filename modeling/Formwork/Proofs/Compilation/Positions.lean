import Formwork.Compilation.Leaf

/-!
# Places and their positions

A place of a form can be told without any traversal, by its **position**: which of the
nodes of the form leads there, which of the nodes of that group, and so on down to the
place itself.  Positions are compared as words are, so a group comes before all that is
inside it, and what is inside it before whatever follows the group.

* `FormNode.nodesInductionOn` — induction over the nodes of a form, groups included;
* `StandsAt` — what stands at a position;
* `mem_numbered_iff` and `pairwise_numbered` — the places of a form are listed in the
  order of their positions, all of them and each once;
* `StandsAt.group_of_mem_scope` — the groups around a place are places themselves.
-/

namespace Formwork

/-- The numbers of the nodes on the way down to a place, the outermost first. -/
abbrev Position := List Nat

/-- Induction over nodes with their keys: a group may use the claim for the nodes in it. -/
@[elab_as_elim]
theorem FormNode.nodesInductionOn {motive : List (String × FormNode) → Prop}
    (nodes : List (String × FormNode))
    (nil : motive [])
    (field : ∀ key f rest, motive rest → motive ((key, .field f) :: rest))
    (group : ∀ key settings inner rest, motive inner → motive rest →
      motive ((key, .group settings inner) :: rest)) : motive nodes :=
  match nodes with
  | [] => nil
  | (key, .field f) :: rest => field key f rest (nodesInductionOn rest nil field group)
  | (key, .group settings inner) :: rest =>
    group key settings inner rest (nodesInductionOn inner nil field group)
      (nodesInductionOn rest nil field group)

namespace Place

/-- The groups around a place. -/
def scope : Place → Scope
  | .leaf l => l.scope
  | .group scope _ _ => scope

/-- The step that a place gives by itself. -/
def step : Place → Option Nat
  | .leaf l => l.field.step
  | .group _ _ settings => settings.step

/-- The keys from the top of the form down to a place. -/
def path : Place → String
  | .leaf l => l.path
  | .group scope key _ => dotted (scope.map Prod.fst ++ [key])

end Place

namespace Form

/-- From nodes in this scope the position leads to the place. -/
inductive StandsAt : Scope → List (String × FormNode) → Position → Place → Prop
  | field {scope nodes i key f} (hnode : nodes[i]? = some (key, .field f)) :
      StandsAt scope nodes [i] (.leaf ⟨scope, key, f⟩)
  | group {scope nodes i key settings inner}
      (hnode : nodes[i]? = some (key, .group settings inner)) :
      StandsAt scope nodes [i] (.group scope key settings)
  | inside {scope nodes i key settings inner position place}
      (hnode : nodes[i]? = some (key, .group settings inner))
      (hinside : StandsAt (scope ++ [(key, settings)]) inner position place) :
      StandsAt scope nodes (i :: position) place

/-- The place at a position of a form. -/
def HasPlace (form : Form) (position : Position) (place : Place) : Prop :=
  StandsAt [] form position place

/-- The field at a position of a form. -/
def HasLeaf (form : Form) (position : Position) (l : Leaf) : Prop :=
  form.HasPlace position (.leaf l)

/-! ## The first node and the others -/

section FirstNode

variable {scope : Scope} {key : String} {f : FormField} {settings : GroupSettings}
  {inner rest : List (String × FormNode)} {node : String × FormNode} {i : Nat} {q : Position}
  {place : Place}

/-- Nothing stands at no position. -/
theorem not_standsAt_nil {position : Position} : ¬ StandsAt scope [] position place := by
  intro h
  cases h with
  | field hnode => simp at hnode
  | group hnode => simp at hnode
  | inside hnode _ => simp at hnode

/-- What stands further on does not depend on the first node. -/
theorem standsAt_succ_iff :
    StandsAt scope (node :: rest) ((i + 1) :: q) place ↔ StandsAt scope rest (i :: q) place := by
  constructor
  · intro h
    cases h with
    | field hnode => exact .field (by simpa using hnode)
    | group hnode => exact .group (by simpa using hnode)
    | inside hnode hinside => exact .inside (by simpa using hnode) hinside
  · intro h
    cases h with
    | field hnode => exact .field (by simpa using hnode)
    | group hnode => exact .group (by simpa using hnode)
    | inside hnode hinside => exact .inside (by simpa using hnode) hinside

/-- Where the first node is a field, it alone stands there. -/
theorem standsAt_zero_field_iff :
    StandsAt scope ((key, .field f) :: rest) (0 :: q) place ↔
      q = [] ∧ place = .leaf ⟨scope, key, f⟩ := by
  constructor
  · intro h
    cases h with
    | field hnode => simp_all
    | group hnode => simp at hnode
    | inside hnode _ => simp at hnode
  · intro h
    obtain ⟨rfl, rfl⟩ := h
    exact .field rfl

/-- Where the first node is a group, it stands there, and what is in it stands below. -/
theorem standsAt_zero_group_iff :
    StandsAt scope ((key, .group settings inner) :: rest) (0 :: q) place ↔
      (q = [] ∧ place = .group scope key settings) ∨
        StandsAt (scope ++ [(key, settings)]) inner q place := by
  constructor
  · intro h
    cases h with
    | field hnode => simp at hnode
    | group hnode => simp_all
    | @inside _ _ _ k s nodes _ _ hnode hinside =>
        have hsame : key = k ∧ settings = s ∧ inner = nodes := by simpa using hnode
        obtain ⟨rfl, rfl, rfl⟩ := hsame
        exact Or.inr hinside
  · intro h
    rcases h with ⟨rfl, rfl⟩ | hinside
    · exact .group rfl
    · exact .inside rfl hinside

/-- A position among nodes that are numbered from `i` on leads into the first of them, or
into the others, which are numbered from the next number on. -/
theorem exists_standsAt_cons_iff {position : Position} :
    (∃ j q, position = (i + j) :: q ∧ StandsAt scope (node :: rest) (j :: q) place) ↔
      (∃ q, position = i :: q ∧ StandsAt scope (node :: rest) (0 :: q) place) ∨
        ∃ j q, position = (i + 1 + j) :: q ∧ StandsAt scope rest (j :: q) place := by
  constructor
  · intro h
    obtain ⟨j, q, rfl, hplace⟩ := h
    cases j with
    | zero => exact Or.inl ⟨q, rfl, hplace⟩
    | succ j =>
        have hnumber : i + (j + 1) = i + 1 + j := by omega
        exact Or.inr ⟨j, q, by rw [hnumber], standsAt_succ_iff.mp hplace⟩
  · intro h
    rcases h with ⟨q, rfl, hplace⟩ | ⟨j, q, rfl, hplace⟩
    · exact ⟨0, q, rfl, hplace⟩
    · have hnumber : i + 1 + j = i + (j + 1) := by omega
      exact ⟨j + 1, q, by rw [hnumber], standsAt_succ_iff.mpr hplace⟩

/-- A position leads from some node, so nodes that are numbered from 0 on are all there is. -/
theorem exists_standsAt_iff {nodes : List (String × FormNode)} {position : Position} :
    (∃ j q, position = (0 + j) :: q ∧ StandsAt scope nodes (j :: q) place) ↔
      StandsAt scope nodes position place := by
  constructor
  · intro h
    obtain ⟨j, q, rfl, hplace⟩ := h
    rwa [Nat.zero_add]
  · intro hplace
    cases position with
    | nil => cases hplace
    | cons j q => exact ⟨j, q, by rw [Nat.zero_add], hplace⟩

end FirstNode

/-! ## The places in order -/

mutual

/-- The places of a node with their positions below it, in pre-order. -/
def numberedOfNode (scope : Scope) (key : String) : FormNode → List (Position × Place)
  | .field f => [([], .leaf ⟨scope, key, f⟩)]
  | .group settings nodes =>
    ([], .group scope key settings) :: numberedOfNodes (scope ++ [(key, settings)]) 0 nodes

/-- The places of nodes with their positions, in pre-order; the first node has the number `i`. -/
def numberedOfNodes (scope : Scope) (i : Nat) :
    List (String × FormNode) → List (Position × Place)
  | [] => []
  | (key, n) :: rest =>
    (numberedOfNode scope key n).map (fun e => (i :: e.1, e.2)) ++
      numberedOfNodes scope (i + 1) rest

end

section Numbered

variable (scope : Scope) (i : Nat) (nodes : List (String × FormNode))

/-- The numbered places of some nodes are their places. -/
theorem map_snd_numberedOfNodes :
    (numberedOfNodes scope i nodes).map Prod.snd = placesOfNodes scope nodes := by
  induction nodes using FormNode.nodesInductionOn generalizing scope i with
  | nil => rfl
  | field key f rest ih =>
      simp [numberedOfNodes, numberedOfNode, placesOfNodes, placesOfNode, ih]
  | group key settings inner rest ihinner ih =>
      have hinner := ihinner (scope ++ [(key, settings)]) 0
      have hrest := ih scope (i + 1)
      simp [numberedOfNodes, numberedOfNode, placesOfNodes, placesOfNode, ← hinner, ← hrest,
        Function.comp_def]

variable {scope i nodes}

/-- A place is listed with its position, the nodes being numbered from `i` on. -/
theorem mem_numberedOfNodes_iff {position : Position} {place : Place} :
    (position, place) ∈ numberedOfNodes scope i nodes ↔
      ∃ j q, position = (i + j) :: q ∧ StandsAt scope nodes (j :: q) place := by
  induction nodes using FormNode.nodesInductionOn generalizing scope i position with
  | nil => simp [numberedOfNodes, not_standsAt_nil]
  | field key f rest ih =>
      rw [exists_standsAt_cons_iff, ← ih]
      simp only [standsAt_zero_field_iff, numberedOfNodes, numberedOfNode, List.map_cons,
        List.map_nil, List.cons_append, List.nil_append, List.mem_cons, Prod.mk.injEq]
      grind
  | group key settings inner rest ihinner ih =>
      have hinner : ∀ q, (q, place) ∈ numberedOfNodes (scope ++ [(key, settings)]) 0 inner ↔
          StandsAt (scope ++ [(key, settings)]) inner q place := by
        intro q
        rw [ihinner, exists_standsAt_iff]
      rw [exists_standsAt_cons_iff, ← ih]
      simp only [standsAt_zero_group_iff, ← hinner]
      simp only [numberedOfNodes, numberedOfNode, List.map_cons, List.cons_append,
        List.mem_cons, List.mem_append, List.mem_map, Prod.mk.injEq, Prod.exists]
      grind

/-- What is listed of the nodes after the first one comes after all that the number of the
first one leads to. -/
theorem lt_of_mem_rest {e : Position × Place} {q : Position}
    (he : e ∈ numberedOfNodes scope (i + 1) nodes) : i :: q < e.1 := by
  obtain ⟨j, p, hposition, _⟩ := mem_numberedOfNodes_iff.mp he
  rw [hposition]
  exact List.cons_lt_cons_iff.mpr (Or.inl (by omega))

/-- Nodes are listed in the order of their positions. -/
theorem pairwise_numberedOfNodes (scope : Scope) (i : Nat) (nodes : List (String × FormNode)) :
    (numberedOfNodes scope i nodes).Pairwise fun a b => a.1 < b.1 := by
  induction nodes using FormNode.nodesInductionOn generalizing scope i with
  | nil => exact .nil
  | field key f rest ih =>
      refine List.pairwise_cons.mpr ⟨?_, ih scope (i + 1)⟩
      intro b hb
      exact lt_of_mem_rest hb
  | group key settings inner rest ihinner ih =>
      have hinner := ihinner (scope ++ [(key, settings)]) 0
      simp only [numberedOfNodes, numberedOfNode, List.map_cons, List.cons_append]
      refine List.pairwise_cons.mpr ⟨?_, List.pairwise_append.mpr ⟨?_, ih scope (i + 1), ?_⟩⟩
      · intro b hb
        rcases List.mem_append.mp hb with hb | hb
        · obtain ⟨e, he, rfl⟩ := List.mem_map.mp hb
          obtain ⟨j, q, hposition, _⟩ := mem_numberedOfNodes_iff.mp he
          refine List.cons_lt_cons_iff.mpr (Or.inr ⟨rfl, ?_⟩)
          rw [hposition]
          exact List.nil_lt_cons _ _
        · exact lt_of_mem_rest hb
      · refine List.pairwise_map.mpr (hinner.imp ?_)
        intro a b hab
        exact List.cons_lt_cons_iff.mpr (Or.inr ⟨rfl, hab⟩)
      · intro a ha b hb
        obtain ⟨e, _, rfl⟩ := List.mem_map.mp ha
        exact lt_of_mem_rest hb

end Numbered

variable (form : Form)

/-- The places of a form with their positions, in pre-order. -/
def numbered : List (Position × Place) := numberedOfNodes [] 0 form

theorem map_snd_numbered : form.numbered.map Prod.snd = form.places :=
  map_snd_numberedOfNodes [] 0 form

theorem pairwise_numbered : form.numbered.Pairwise fun a b => a.1 < b.1 :=
  pairwise_numberedOfNodes [] 0 form

/-- All places are listed, each with its position. -/
theorem mem_numbered_iff {position : Position} {place : Place} :
    (position, place) ∈ form.numbered ↔ form.HasPlace position place := by
  unfold numbered HasPlace
  rw [mem_numberedOfNodes_iff, exists_standsAt_iff]

/-- Every place has a position. -/
theorem mem_places_iff {place : Place} :
    place ∈ form.places ↔ ∃ position, form.HasPlace position place := by
  simp only [← map_snd_numbered, List.mem_map, Prod.exists, mem_numbered_iff,
    exists_eq_right]

/-! ## The leaves in order -/

/-- The fields of a form with their positions, in pre-order. -/
def numberedLeaves : List (Position × Leaf) :=
  form.numbered.filterMap fun e => e.2.leaf?.map fun l => (e.1, l)

/-- The numbered leaves of a form are its leaves, in their order. -/
theorem map_snd_numberedLeaves : form.numberedLeaves.map Prod.snd = form.leaves := by
  rw [leaves, ← map_snd_numbered, List.filterMap_map, numberedLeaves, List.map_filterMap]
  simp [Function.comp_def]

/-- Their positions grow. -/
theorem pairwise_numberedLeaves : form.numberedLeaves.Pairwise fun a b => a.1 < b.1 := by
  refine List.Pairwise.filterMap _ ?_ form.pairwise_numbered
  intro a b hab x hx y hy
  obtain ⟨_, _, rfl⟩ := Option.map_eq_some_iff.mp hx
  obtain ⟨_, _, rfl⟩ := Option.map_eq_some_iff.mp hy
  exact hab

/-- Leaves are numbered by their positions. -/
theorem mem_numberedLeaves_iff {position : Position} {l : Leaf} :
    (position, l) ∈ form.numberedLeaves ↔ form.HasLeaf position l := by
  unfold HasLeaf
  rw [← mem_numbered_iff, numberedLeaves, List.mem_filterMap]
  constructor
  · intro h
    obtain ⟨⟨p, place⟩, hplace, hleaf⟩ := h
    cases place with
    | group scope key settings => simp [Place.leaf?] at hleaf
    | leaf m =>
        obtain ⟨rfl, rfl⟩ : p = position ∧ m = l := by simpa [Place.leaf?] using hleaf
        exact hplace
  · intro h
    exact ⟨_, h, rfl⟩

/-- Every leaf has a position. -/
theorem mem_leaves_iff {l : Leaf} : l ∈ form.leaves ↔ ∃ position, form.HasLeaf position l := by
  simp only [← map_snd_numberedLeaves, List.mem_map, Prod.exists, mem_numberedLeaves_iff,
    exists_eq_right]

/-- Of two fields the one listed first has the smaller position. -/
theorem lt_of_sublist_leaves {l m : Leaf} (h : [l, m].Sublist form.leaves) :
    ∃ p q, form.HasLeaf p l ∧ form.HasLeaf q m ∧ p < q := by
  rw [← map_snd_numberedLeaves, List.sublist_map_iff] at h
  obtain ⟨entries, hentries, hmap⟩ := h
  obtain ⟨⟨p, l'⟩, rest, rfl, rfl, hrest⟩ := List.map_eq_cons_iff.mp hmap.symm
  obtain ⟨⟨q, m'⟩, rest', rfl, rfl, hnil⟩ := List.map_eq_cons_iff.mp hrest
  obtain rfl := List.map_eq_nil_iff.mp hnil
  have hlt := List.pairwise_iff_forall_sublist.mp form.pairwise_numberedLeaves hentries
  exact ⟨p, q, form.mem_numberedLeaves_iff.mp (hentries.subset (by simp)),
    form.mem_numberedLeaves_iff.mp (hentries.subset (by simp)), hlt⟩

/-! ## The groups around a place -/

/-- A group around a place was there before, or it is a place itself. -/
theorem StandsAt.group_of_mem_scope {scope : Scope} {nodes : List (String × FormNode)}
    {position : Position} {place : Place} (h : StandsAt scope nodes position place)
    {g : String × GroupSettings} (hg : g ∈ place.scope) :
    g ∈ scope ∨ ∃ q outer, StandsAt scope nodes q (.group outer g.1 g.2) := by
  induction h with
  | field hnode => exact Or.inl hg
  | group hnode => exact Or.inl hg
  | inside hnode hinside ih =>
      rcases ih hg with hg | ⟨q, outer, hq⟩
      · rcases List.mem_append.mp hg with hg | hg
        · exact Or.inl hg
        · obtain rfl := List.mem_singleton.mp hg
          exact Or.inr ⟨_, _, .group hnode⟩
      · exact Or.inr ⟨_, _, .inside hnode hq⟩

/-- The groups around a field are places of the form. -/
theorem HasLeaf.group_of_mem_scope {form : Form} {position : Position} {l : Leaf}
    (h : form.HasLeaf position l) {g : String × GroupSettings} (hg : g ∈ l.scope) :
    ∃ q outer, form.HasPlace q (.group outer g.1 g.2) := by
  rcases StandsAt.group_of_mem_scope h hg with hnil | hgroup
  · cases hnil
  · exact hgroup

end Form

end Formwork
