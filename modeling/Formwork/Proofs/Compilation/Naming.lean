import Formwork.Pattern.Meaning
import Formwork.Proofs.Compilation.WellFormed
import Formwork.Proofs.Value.Path

/-!
# Names made of keys

A dotted name tells the way to a field: the keys of the groups around it and its own.  If no
key has a dot of its own, the way can be read off the name again, key by key, and where every
key stands for one node it leads to one place.  So dotted names keep all fields of a form
apart, whatever keys they share, the empty key included.

* `Form.KeysDistinct` — each key stands for one node among those around it;
* `StandsAt.eq_of_keys_eq` — the keys on the way lead to one place;
* `dotted_names_apart` — no two fields have one dotted name.
-/

namespace Formwork

/-! ## The way to a place -/

namespace Place

/-- The key under which a place stands. -/
def key : Place → String
  | .leaf l => l.key
  | .group _ key _ => key

/-- The keys from the top of the form down to a place. -/
def keys (place : Place) : List String := place.scope.map Prod.fst ++ [place.key]

theorem keys_ne_nil (place : Place) : place.keys ≠ [] := by simp [keys]

end Place

/-- A name with a key that is not blank is not blank. -/
theorem Leaf.isBlankText_name {l : Leaf} (h : isBlankText l.key = false) (naming : Naming) :
    isBlankText (l.name naming) = false := by
  cases naming with
  | flat => exact h
  | dotted =>
      obtain ⟨c, hc, hblank⟩ := List.all_eq_false.mp h
      have hkey : l.key ∈ (Place.leaf l).keys := List.mem_append_right _ (List.mem_singleton_self _)
      exact List.all_eq_false.mpr ⟨c, toList_subset_dotted hkey hc, hblank⟩

namespace Form

/-- Among these nodes, and among the nodes of every group below, a key stands for one node. -/
inductive KeysDistinct : List (String × FormNode) → Prop
  | intro {nodes : List (String × FormNode)} (hkeys : Entries.Distinct nodes)
      (hgroups : ∀ key settings inner, (key, .group settings inner) ∈ nodes → KeysDistinct inner) :
      KeysDistinct nodes

section OneKey

variable {nodes : List (String × FormNode)} {key : String}

/-- Where a key stands for one node, it stands at one number. -/
theorem eq_of_key_eq (h : KeysDistinct nodes) {i j : Nat} {n m : FormNode}
    (hi : nodes[i]? = some (key, n)) (hj : nodes[j]? = some (key, m)) : i = j := by
  obtain ⟨hkeys, _⟩ := h
  have hkey : (Entries.keys nodes)[i]? = (Entries.keys nodes)[j]? := by
    simp [Entries.keys, hi, hj]
  have hlt : i < (Entries.keys nodes).length := by
    have hlength := (List.getElem?_eq_some_iff.mp hi).1
    simpa [Entries.keys] using hlength
  exact (List.getElem?_inj hlt hkeys).mp hkey

/-- The keys in a group are apart if those of the whole form are. -/
theorem KeysDistinct.of_group (h : KeysDistinct nodes) {i : Nat} {settings : GroupSettings}
    {inner : List (String × FormNode)} (hi : nodes[i]? = some (key, .group settings inner)) :
    KeysDistinct inner := by
  obtain ⟨_, hgroups⟩ := h
  exact hgroups key settings inner (List.mem_of_getElem? hi)

end OneKey

variable {scope : Scope} {nodes : List (String × FormNode)} {p q : Position} {place other : Place}

/-- The groups around nodes are around all places below them. -/
theorem StandsAt.scope_prefix (h : StandsAt scope nodes p place) : scope <+: place.scope := by
  induction h with
  | field hnode => exact List.prefix_rfl
  | group hnode => exact List.prefix_rfl
  | inside hnode hinside ih => exact (List.prefix_append _ _).trans ih

/-- The way to a place inside a group goes on after the key of the group. -/
theorem StandsAt.keys_of_inside {key : String} {settings : GroupSettings}
    (h : StandsAt (scope ++ [(key, settings)]) nodes p place) :
    ∃ below, below ≠ [] ∧ place.keys = scope.map Prod.fst ++ key :: below := by
  obtain ⟨inner, hinner⟩ := h.scope_prefix
  refine ⟨inner.map Prod.fst ++ [place.key], by simp, ?_⟩
  simp [Place.keys, ← hinner]

/-- A way that takes the key of a node ends with it, or the node is a group and the way goes on
inside. -/
theorem StandsAt.cases_of_keys (hnodes : KeysDistinct nodes) {i : Nat} {key : String}
    {n : FormNode} (hnode : nodes[i]? = some (key, n)) (h : StandsAt scope nodes p place)
    {below : List String} (hkeys : place.keys = scope.map Prod.fst ++ key :: below) :
    below = [] ∧ p = [i] ∨ below ≠ [] ∧ ∃ settings inner rest, n = .group settings inner ∧
      p = i :: rest ∧ StandsAt (scope ++ [(key, settings)]) inner rest place := by
  cases h with
  | field hfirst =>
      obtain ⟨rfl, rfl⟩ := List.cons.inj (List.append_cancel_left hkeys)
      rw [eq_of_key_eq hnodes hfirst hnode]
      exact .inl ⟨rfl, rfl⟩
  | group hfirst =>
      obtain ⟨rfl, rfl⟩ := List.cons.inj (List.append_cancel_left hkeys)
      rw [eq_of_key_eq hnodes hfirst hnode]
      exact .inl ⟨rfl, rfl⟩
  | inside hfirst hinside =>
      obtain ⟨rest, hrest, hway⟩ := hinside.keys_of_inside
      obtain ⟨rfl, rfl⟩ := List.cons.inj (List.append_cancel_left (hway.symm.trans hkeys))
      obtain rfl := eq_of_key_eq hnodes hfirst hnode
      obtain rfl := (Prod.mk.inj (Option.some.inj (hfirst.symm.trans hnode))).2
      exact .inr ⟨hrest, _, _, _, rfl, rfl, hinside⟩

/-- The keys on the way lead to one place. -/
theorem StandsAt.eq_of_keys_eq (hnodes : KeysDistinct nodes) (hp : StandsAt scope nodes p place)
    (hq : StandsAt scope nodes q other) (hkeys : other.keys = place.keys) : p = q := by
  induction hp generalizing q with
  | field hnode =>
      obtain ⟨_, rfl⟩ := (hq.cases_of_keys hnodes hnode hkeys).resolve_right fun h => h.1 rfl
      rfl
  | group hnode =>
      obtain ⟨_, rfl⟩ := (hq.cases_of_keys hnodes hnode hkeys).resolve_right fun h => h.1 rfl
      rfl
  | inside hnode hinside ih =>
      obtain ⟨below, hbelow, hway⟩ := hinside.keys_of_inside
      obtain ⟨_, settings, inner, rest, hgroup, rfl, hq⟩ :=
        (hq.cases_of_keys hnodes hnode (hkeys.trans hway)).resolve_left fun h => hbelow h.1
      obtain ⟨rfl, rfl⟩ := FormNode.group.inj hgroup
      rw [ih (hnodes.of_group hnode) hq hkeys]

/-! ## The names of fields -/

section DottedNames

variable {form : Form} {options : CompileOptions}

/-- A report of two fields with one name is about two fields with one name. -/
theorem exists_leaves_of_duplicate [PatternEngine] {name first second : String}
    (h : form.HasDefect options (.duplicateFieldName name first second)) :
    ∃ p q l m, form.HasLeaf p l ∧ form.HasLeaf q m ∧ p < q ∧
      l.name options.naming = m.name options.naming := by
  cases h with
  | name hl hm hlt hname => exact ⟨_, _, _, _, hl, hm, hlt, hname⟩
  | condition _ _ _ he => cases he

/-- Where no key has a dot, none on the way to a leaf has one. -/
theorem HasLeaf.no_dot (hdots : ∀ place ∈ form.places, '.' ∉ place.key.toList) {l : Leaf}
    (hl : form.HasLeaf p l) : ∀ key ∈ (Place.leaf l).keys, '.' ∉ key.toList := by
  intro key hkey
  rcases List.mem_append.mp hkey with hscope | hown
  · obtain ⟨g, hg, rfl⟩ := List.mem_map.mp hscope
    obtain ⟨q, outer, hgroup⟩ := hl.group_of_mem_scope hg
    exact hdots _ (form.mem_places_iff.mpr ⟨q, hgroup⟩)
  · obtain rfl := List.mem_singleton.mp hown
    exact hdots _ (form.mem_places_iff.mpr ⟨p, hl⟩)

/-- **Dotted names keep the fields of a form apart.**  Where every key stands for one node among
those around it, and no key of a field or a group has a dot, two fields at different positions
have different dotted names, however often their keys are used in other groups.  So compilation
never reports that a name is used twice. -/
theorem dotted_names_apart [PatternEngine] (form : Form) (options : CompileOptions)
    (hkeys : KeysDistinct form)
    (hdots : ∀ place ∈ form.places, '.' ∉ place.key.toList) (hnaming : options.naming = .dotted) :
    (∀ p q l m, form.HasLeaf p l → form.HasLeaf q m →
      l.name options.naming = m.name options.naming → p = q) ∧
    ∀ name first second,
      form.compile options ≠ .error (.duplicateFieldName name first second) := by
  have hapart : ∀ p q l m, form.HasLeaf p l → form.HasLeaf q m →
      l.name options.naming = m.name options.naming → p = q := by
    intro p q l m hl hm hname
    rw [hnaming] at hname
    have hway : (Place.leaf m).keys = (Place.leaf l).keys := by
      calc (Place.leaf m).keys
          = segments (dotted (Place.leaf m).keys) :=
            (segments_dotted (Place.keys_ne_nil _) (hm.no_dot hdots)).symm
        _ = segments (dotted (Place.leaf l).keys) := congrArg segments hname.symm
        _ = (Place.leaf l).keys := segments_dotted (Place.keys_ne_nil _) (hl.no_dot hdots)
    exact StandsAt.eq_of_keys_eq hkeys hl hm hway
  refine ⟨hapart, ?_⟩
  intro name first second h
  obtain ⟨p, q, l, m, hl, hm, hlt, hname⟩ :=
    exists_leaves_of_duplicate (hasDefect_of_fault? (compile_eq_error_iff.mp h))
  obtain rfl := hapart p q l m hl hm hname
  exact List.lt_irrefl _ hlt

end DottedNames

end Form

/-- A city at the top, in a group without a key, and in another one inside that group. -/
def threeCities : Form :=
  [("city", .field { kind := .text }),
    ("", .group {}
      [("city", .field { kind := .text }),
        ("", .group {} [("city", .field { kind := .text })])])]

/-- The three cities have three dotted names, and one name without the keys of their groups. -/
theorem empty_keys_keep_cities_apart : Form.KeysDistinct threeCities ∧
    (∀ place ∈ threeCities.places, '.' ∉ place.key.toList) ∧
    (∀ name first second, threeCities.compile { naming := .dotted } ≠
      .error (.duplicateFieldName name first second)) ∧
    (threeCities.flatFields { naming := .dotted }).keys = ["city", ".city", "..city"] ∧
    threeCities.compile {} = .error (.duplicateFieldName "city" "city" ".city") := by
  have hinnermost : Form.KeysDistinct [("city", .field { kind := .text })] :=
    .intro (by decide) (by simp)
  have hinner : Form.KeysDistinct [("city", .field { kind := .text }),
      ("", .group {} [("city", .field { kind := .text })])] := by
    refine .intro (by decide) ?_
    intro key settings inner h
    obtain ⟨-, -, rfl⟩ :
        key = "" ∧ settings = {} ∧ inner = [("city", .field { kind := .text })] := by
      simpa using h
    exact hinnermost
  have hkeys : Form.KeysDistinct threeCities := by
    refine .intro (by decide) ?_
    intro key settings inner h
    obtain ⟨-, -, rfl⟩ : key = "" ∧ settings = {} ∧ inner = [("city", .field { kind := .text }),
        ("", .group {} [("city", .field { kind := .text })])] := by
      simpa [threeCities] using h
    exact hinner
  have hdots : ∀ place ∈ threeCities.places, '.' ∉ place.key.toList := by decide +kernel
  obtain ⟨_, hnever⟩ := Form.dotted_names_apart threeCities { naming := .dotted } hkeys hdots rfl
  have hflat := Form.compile_eq_error_iff.mpr (show threeCities.fault? {} =
    some (.duplicateFieldName "city" "city" ".city") by decide +kernel)
  exact ⟨hkeys, hdots, hnever, by decide +kernel, hflat⟩

end Formwork
