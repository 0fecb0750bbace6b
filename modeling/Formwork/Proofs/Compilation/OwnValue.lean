import Formwork.Pattern.Meaning
import Formwork.Proofs.Compilation.WellFormed
import Formwork.Proofs.Condition.Reads
import Formwork.Proofs.Value.Path
import Formwork.Visibility

/-!
# Whether a field is shown by its own value

The search for cycles knows of a condition only to which fields its paths belong.  A path that
belongs to the field `a.b` is nevertheless looked up in the value of the field `a`, where the
snapshot has no key for the path.  So the condition of `a` may read the value of `a` through a
path that belongs to a field with a longer name, and in no other way.

* `Snapshot.AgreeBut` — two snapshots that differ in the value of one key at most;
* `Schema.ReadsThrough` — a path that leads through the value of a field and belongs to
  another one;
* `resolve?_eq_of_agreeBut` — what two snapshots that agree but for a key have in common;
* `owner_ne_self` — in a compiled form no path in the condition of a field belongs to it;
* `own_value_read_iff` — where the condition of a field reads its own value.
-/

namespace Formwork

/-- The two snapshots have the same value, or none, under every other key. -/
def Snapshot.AgreeBut (name : String) (v w : Snapshot) : Prop :=
  ∀ key, key ≠ name → v.get? key = w.get? key

/-- The path goes on after the name of the field, which is its first segment, but belongs to
a field with a longer name. -/
def Schema.ReadsThrough (s : Schema) (name path : String) : Prop :=
  '.' ∉ name.toList ∧ (∃ rest, path = name ++ "." ++ rest) ∧
    ∃ owner, owner? s.fields path = some owner ∧ name.length < owner.length

/-! ## Snapshots that agree but for a key -/

namespace Snapshot

variable {name path : String} {v w : Snapshot}

/-- A path that neither is the key nor begins with it leads to the same in both. -/
theorem resolve?_eq_of_agreeBut (h : AgreeBut name v w) (hpath : path ≠ name)
    (hfirst : firstSegment path ≠ name) : v.resolve? path = w.resolve? path :=
  resolve?_congr (h path hpath) (h _ hfirst)

/-- If a path that begins with the key leads to something else, it is no key itself. -/
theorem get?_eq_none_of_resolve?_ne (h : AgreeBut name v w) (hpath : path ≠ name)
    (hne : v.resolve? path ≠ w.resolve? path) : v.get? path = none := by
  cases hv : v.get? path with
  | none => rfl
  | some x =>
      have hw : w.get? path = some x := by rw [← h path hpath, hv]
      rw [resolve?_of_key hv, resolve?_of_key hw] at hne
      exact absurd rfl hne

/-- For every path that goes on after a key there are two snapshots that agree but for this
key, and in which the path leads to different ends. -/
theorem exists_agreeBut_resolve?_ne (hdot : '.' ∉ name.toList) (rest : String) :
    ∃ v w : Snapshot, AgreeBut name v w ∧
      v.resolve? (name ++ "." ++ rest) ≠ w.resolve? (name ++ "." ++ rest) := by
  refine ⟨withPart name rest, [], ?_, ?_⟩
  · intro key hkey
    rw [get?_withPart_other hkey]
    rfl
  · rw [resolve?_withPart hdot, resolve?_nil]
    simp

end Snapshot

/-! ## Names that cover a path -/

/-- A name that covers a path begins it. -/
theorem Covers.isPrefix {name path : String} (h : Covers name path) :
    name.toList <+: path.toList := by
  rcases h with rfl | ⟨rest, rfl⟩
  · exact List.prefix_refl _
  · exact ⟨'.' :: rest.toList, by simp⟩

/-- So it is not longer. -/
theorem Covers.length_le {name path : String} (h : Covers name path) :
    name.length ≤ path.length := by
  rw [← String.length_toList, ← String.length_toList]
  exact h.isPrefix.length_le

/-- Two names of one length that cover a path are one name. -/
theorem Covers.eq_of_length_eq {a b path : String} (ha : Covers a path) (hb : Covers b path)
    (hlength : a.length = b.length) : a = b := by
  rw [← String.length_toList, ← String.length_toList] at hlength
  have hstart := List.prefix_of_prefix_length_le ha.isPrefix hb.isPrefix hlength.le
  exact String.toList_inj.mp (hstart.eq_of_length hlength)

/-! ## The condition of a field of a compiled form -/

namespace Form

variable [PatternEngine] {form : Form} {options : CompileOptions} {schema : Schema} {name : String}
  {f : FormField} {c : Condition} {path : String}

/-- No path in the condition of a field belongs to that field. -/
theorem owner_ne_self (h : form.compile options = .ok schema) (hf : (name, f) ∈ schema.fields)
    (hc : f.showWhen = some c) (hpath : path ∈ c.paths) :
    owner? schema.fields path ≠ some name := by
  intro howner
  have hcycle := (fault?_eq_none_iff.mp (fields_of_compile h).1).2.2.2
  rw [cycleFault?, Option.map_eq_none_iff, ← (fields_of_compile h).2] at hcycle
  refine cycle?_eq_none_iff.mp hcycle name (.single (mem_dependencies_iff.mpr ?_))
  exact ⟨f, c, path, Entries.get?_of_mem (distinct_of_compile h) hf, hc, hpath,
    owner?_eq_some_iff.mp howner⟩

/-- Every path in the condition of a field belongs to some field, if paths have to. -/
theorem exists_owner (h : form.compile options = .ok schema)
    (hclosed : options.allowUnknownFields = false) (hf : (name, f) ∈ schema.fields)
    (hc : f.showWhen = some c) (hpath : path ∈ c.paths) :
    ∃ owner, owner? schema.fields path = some owner := by
  obtain ⟨r, hr, rfl⟩ := Condition.mem_paths_iff.mp hpath
  have hsound := Condition.fault?_eq_none_iff.mp (condition_sound_of_compile h hf hc) _ hr
  obtain ⟨owner, howner⟩ := hsound.2.2.2 hclosed
  exact ⟨owner, owner?_eq_some_iff.mpr howner⟩

/-- If the name of a field covers a path in its condition, the path belongs to a field with a
longer name. -/
theorem exists_longer_owner (h : form.compile options = .ok schema)
    (hclosed : options.allowUnknownFields = false) (hf : (name, f) ∈ schema.fields)
    (hc : f.showWhen = some c) (hpath : path ∈ c.paths) (hcovers : Covers name path) :
    ∃ owner, owner? schema.fields path = some owner ∧ name.length < owner.length := by
  obtain ⟨owner, howner⟩ := exists_owner h hclosed hf hc hpath
  have hlongest := owner?_eq_some_iff.mp howner
  have hle : name.length ≤ owner.length := hlongest.longest name (List.mem_map_of_mem hf) hcovers
  refine ⟨owner, howner, Nat.lt_of_le_of_ne hle ?_⟩
  intro hlength
  obtain rfl := hcovers.eq_of_length_eq hlongest.covers hlength
  exact owner_ne_self h hf hc hpath howner

/-- The name of a field is no path in its condition. -/
theorem path_ne_self (h : form.compile options = .ok schema)
    (hclosed : options.allowUnknownFields = false) (hf : (name, f) ∈ schema.fields)
    (hc : f.showWhen = some c) (hpath : path ∈ c.paths) : path ≠ name := by
  rintro rfl
  obtain ⟨owner, howner, hlt⟩ := exists_longer_owner h hclosed hf hc hpath (Or.inl rfl)
  have hle := (owner?_eq_some_iff.mp howner).covers.length_le
  omega

/-- A path in the condition of a field that begins with the name of this field leads through
its value. -/
theorem readsThrough_of_firstSegment (h : form.compile options = .ok schema)
    (hclosed : options.allowUnknownFields = false) (hf : (name, f) ∈ schema.fields)
    (hc : f.showWhen = some c) (hpath : path ∈ c.paths) (hfirst : firstSegment path = name) :
    schema.ReadsThrough name path := by
  have hdot : '.' ∈ path.toList := by
    by_contra hdot
    rw [firstSegment_of_no_dot hdot] at hfirst
    exact path_ne_self h hclosed hf hc hpath hfirst
  obtain ⟨rest, hsplit, hname⟩ := firstSegment_of_dot hdot
  rw [hfirst] at hsplit hname
  exact ⟨hname, ⟨rest, hsplit⟩,
    exists_longer_owner h hclosed hf hc hpath (Or.inr ⟨rest, hsplit⟩)⟩

/-- Snapshots that agree but for the key of a field look different to its condition only
through the value of the field, where the path itself is no key. -/
theorem readsThrough_of_resolve?_ne (h : form.compile options = .ok schema)
    (hclosed : options.allowUnknownFields = false) (hf : (name, f) ∈ schema.fields)
    (hc : f.showWhen = some c) (hpath : path ∈ c.paths) {v w : Snapshot}
    (hagree : v.AgreeBut name w) (hne : v.resolve? path ≠ w.resolve? path) :
    schema.ReadsThrough name path ∧ v.get? path = none := by
  have hself := path_ne_self h hclosed hf hc hpath
  refine ⟨?_, Snapshot.get?_eq_none_of_resolve?_ne hagree hself hne⟩
  by_contra hthrough
  refine hne (Snapshot.resolve?_eq_of_agreeBut hagree hself ?_)
  intro hfirst
  exact hthrough (readsThrough_of_firstSegment h hclosed hf hc hpath hfirst)

/-- **When a field is shown by its own value.**  The condition of a field of a compiled form
reads the value of this field through the paths that lead through it and belong to a field
with a longer name, and through no other: without such a path, snapshots that agree but for
the key of the field look the same to the condition, and with one there are snapshots that do
not.  If the field is shown in one snapshot and hidden in another that agrees with it but for
the key of the field, such a path is no key of theirs and leads to different ends. -/
theorem own_value_read_iff (h : form.compile options = .ok schema)
    (hclosed : options.allowUnknownFields = false) (hf : (name, f) ∈ schema.fields) :
    ((∀ v w : Snapshot, v.AgreeBut name w → ∀ c, f.showWhen = some c → ∀ path ∈ c.paths,
        v.resolve? path = w.resolve? path) ↔
      ∀ c, f.showWhen = some c → ∀ path ∈ c.paths, ¬ schema.ReadsThrough name path) ∧
    ∀ v w : Snapshot, v.AgreeBut name w → f.isShown v ≠ f.isShown w →
      ∃ c, f.showWhen = some c ∧ ∃ path ∈ c.paths, schema.ReadsThrough name path ∧
        v.get? path = none ∧ v.resolve? path ≠ w.resolve? path := by
  refine ⟨⟨?_, ?_⟩, ?_⟩
  · intro hsame c hc path hpath hthrough
    obtain ⟨hdot, ⟨rest, rfl⟩, _⟩ := hthrough
    obtain ⟨v, w, hagree, hne⟩ := Snapshot.exists_agreeBut_resolve?_ne hdot rest
    exact hne (hsame v w hagree c hc _ hpath)
  · intro hnone v w hagree c hc path hpath
    by_contra hne
    exact hnone c hc path hpath (readsThrough_of_resolve?_ne h hclosed hf hc hpath hagree hne).1
  · intro v w hagree hshown
    by_contra hnone
    refine hshown (isVisible_congr ?_)
    intro c hc path hpath
    by_contra hne
    obtain ⟨hthrough, hkey⟩ := readsThrough_of_resolve?_ne h hclosed hf hc hpath hagree hne
    exact hnone ⟨c, hc, path, hpath, hthrough, hkey, hne⟩

end Form

/-- An address that is shown only where there is something at a path, and its city as a field
of its own. -/
def addressAndCity (path : String) : Form :=
  [("address", .field { kind := .address, showWhen := some (.rule ⟨path, .present, none⟩) }),
    ("address.city", .field { kind := .text }),
    ("phone", .field { kind := .text })]

/-- The address after compilation. -/
def guardedAddress (path : String) : FormField :=
  { kind := .address, name := some "address", showWhen := some (.rule ⟨path, .present, none⟩) }

/-- An address that depends on the phone number does not depend on itself. -/
theorem address_shown_by_phone : ∃ schema, (addressAndCity "phone").compile {} = .ok schema ∧
    schema.fields.get? "address" = some (guardedAddress "phone") ∧
    ∀ v w : Snapshot, v.AgreeBut "address" w →
      (guardedAddress "phone").isShown v = (guardedAddress "phone").isShown w := by
  have hcompile := Form.compile_eq_ok
    (show (addressAndCity "phone").fault? {} = none by decide +kernel)
  refine ⟨_, hcompile, by decide +kernel, ?_⟩
  intro v w hagree
  by_contra hshown
  obtain ⟨_, hself⟩ := Form.own_value_read_iff hcompile rfl
    (show ("address", guardedAddress "phone") ∈ _ by decide +kernel)
  obtain ⟨c, hc, path, hpath, ⟨_, ⟨rest, hrest⟩, _⟩, _⟩ := hself v w hagree hshown
  obtain rfl := Option.some.inj hc
  obtain rfl := List.mem_singleton.mp hpath
  have hhead := congrArg (fun s => s.toList.head?) hrest
  simp at hhead

/-- An address that depends on its city, which is a field of its own, compiles and is shown
or hidden by its own value. -/
theorem address_shown_by_itself : ∃ schema,
    (addressAndCity "address.city").compile {} = .ok schema ∧
    schema.fields.get? "address" = some (guardedAddress "address.city") ∧
    Snapshot.AgreeBut "address" [("address", .record [("city", .text "Paris")])]
      [("address", .text "Paris")] ∧
    (guardedAddress "address.city").isShown [("address", .record [("city", .text "Paris")])] =
      true ∧
    (guardedAddress "address.city").isShown [("address", .text "Paris")] = false := by
  have hcompile := Form.compile_eq_ok
    (show (addressAndCity "address.city").fault? {} = none by decide +kernel)
  refine ⟨_, hcompile, by decide +kernel, ?_, by decide +kernel, by decide +kernel⟩
  intro key hkey
  simp [Entries.get?_cons, Ne.symm hkey]

end Formwork
