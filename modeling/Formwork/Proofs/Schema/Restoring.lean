import Formwork.Draft
import Formwork.Pattern.Meaning
import Formwork.Proofs.Compilation.Flattening
import Formwork.Proofs.Json.Nesting
import Formwork.Proofs.Lists
import Formwork.Proofs.Value.Path

/-!
# Drafts that are taken up again

A draft may hold the values of its fields under their names or deep in records, and one name
may begin another.  What is kept of it is flat, one value for each field, and every field reads
in it what it read in the draft: one that read nothing finds nothing in the values of the
others, for a look-up in the kept values starts from the same key as before.

* `Entries.get?_ofPairs_filterMap` — the value of a key in a map that was made of another;
* `Schema.resolve?_retain` — every field reads in the kept values what it read before;
* `draft_keeps_what_fields_read` — so keeping is idempotent, the rules find the same mistakes,
  and a form starts from what its fields read in the draft.
-/

namespace Formwork

namespace Entries

variable {α β : Type}

theorem get?_eq_none_iff {m : Entries α} {key : String} : m.get? key = none ↔ key ∉ m.keys := by
  rw [← get?_isSome_iff, Option.not_isSome_iff_eq_none]

/-- The keys that are left when entries are dropped were there before, in the same order. -/
theorem keys_filterMap_sublist (m : Entries α) (g : String × α → Option β) :
    (keys (m.filterMap fun p => (g p).map fun v => (p.1, v))).Sublist m.keys := by
  refine map_filterMap_sublist (fun p q hq => ?_) m
  obtain ⟨_, _, rfl⟩ := Option.map_eq_some_iff.mp hq
  rfl

/-- What is found then is what is made of what was found before. -/
theorem get?_filterMap {m : Entries α} (h : m.Distinct) (g : String × α → Option β)
    (key : String) : get? (m.filterMap fun p => (g p).map fun v => (p.1, v)) key =
      (m.get? key).bind fun a => g (key, a) := by
  induction m with
  | nil => rfl
  | cons p rest ih =>
      obtain ⟨k, a⟩ := p
      obtain ⟨hnew, hrest⟩ := List.nodup_cons.mp h
      rw [get?_cons, List.filterMap_cons]
      by_cases hk : k = key
      · subst hk
        have habsent : get? rest k = none := get?_eq_none_iff.mpr hnew
        cases hg : g (k, a) with
        | none => simp [hg, ih hrest, habsent]
        | some v => simp [hg, get?_cons]
      · cases hg : g (k, a) with
        | none => simp [hk, ih hrest]
        | some v => simp [hk, get?_cons, ih hrest]

/-- A map that was made of another has a value for a key where the other has, and something
comes of it. -/
theorem get?_ofPairs_filterMap {m : Entries α} (h : m.Distinct) (g : String × α → Option β)
    (key : String) : get? (ofPairs (m.filterMap fun p => (g p).map fun v => (p.1, v))) key =
      (m.get? key).bind fun a => g (key, a) := by
  rw [ofPairs_of_distinct ((keys_filterMap_sublist m g).nodup h), get?_filterMap h]

/-- Of what is put the later wins. -/
theorem get?_putAll {m pairs : Entries α} (h : pairs.Distinct) (key : String) :
    (m.putAll pairs).get? key = (pairs.get? key).or (m.get? key) := by
  induction pairs generalizing m with
  | nil => rfl
  | cons p rest ih =>
      obtain ⟨k, v⟩ := p
      obtain ⟨hnew, hrest⟩ := List.nodup_cons.mp h
      have hput : m.putAll ((k, v) :: rest) = (m.put k v).putAll rest := rfl
      rw [hput, ih hrest, get?_put, get?_cons]
      by_cases hk : k = key
      · subst hk
        have habsent : get? rest k = none := get?_eq_none_iff.mpr hnew
        simp [habsent]
      · simp [hk]

end Entries

/-- The rules are about what their names read, and about nothing else. -/
theorem Rules.checkAll_congr [PatternEngine] {rules : Rules} {v w : Snapshot}
    (h : ∀ name ∈ rules.keys, v.resolve? name = w.resolve? name) :
    rules.checkAll v = rules.checkAll w := by
  unfold checkAll
  exact List.filterMap_congr fun name hname => by rw [h name hname]

namespace Schema

variable {s : Schema} {values v w : Snapshot} {name : String}

theorem get?_defaults (h : s.fields.Distinct) (name : String) :
    s.defaults.get? name = (s.fields.get? name).bind FormField.defaultValue :=
  Entries.get?_ofPairs_filterMap h (fun p => p.2.defaultValue) name

/-- What is kept for a key is what the field of this name reads. -/
theorem get?_retain (h : s.fields.Distinct) (values : Snapshot) (name : String) :
    (s.retain values).get? name = (s.fields.get? name).bind fun _ => values.resolve? name := by
  unfold retain Entries.keys
  rw [List.filterMap_map]
  exact Entries.get?_ofPairs_filterMap h (fun p => values.resolve? p.1) name

/-- All that keeping reads of a snapshot is what the fields read. -/
theorem retain_congr (h : ∀ name ∈ s.fields.keys, v.resolve? name = w.resolve? name) :
    s.retain v = s.retain w := by
  unfold retain
  congr 1
  exact List.filterMap_congr fun name hname => by rw [h name hname]

/-- A walk along the name of a field that read nothing finds nothing in the kept values either.
It starts from a key without a dot, and this was either kept as it was or not at all. -/
theorem walk?_retain_eq_none (h : s.fields.Distinct)
    (hwalk : values.walk? (segments name) = none) :
    (s.retain values).walk? (segments name) = none := by
  rw [Snapshot.walk?_segments, get?_retain h]
  cases s.fields.get? (firstSegment name) with
  | none => rfl
  | some _ =>
      have hkey : values.resolve? (firstSegment name) = values.get? (firstSegment name) := by
        unfold Snapshot.resolve?
        rw [Snapshot.walk?_of_no_dot (no_dot_firstSegment name)]
        cases values.get? (firstSegment name) <;> rfl
      rw [Option.bind_some, hkey, ← Snapshot.walk?_segments]
      exact hwalk

/-- Every field reads in the kept values what it read before. -/
theorem resolve?_retain (h : s.fields.Distinct) (hname : name ∈ s.fields.keys) :
    (s.retain values).resolve? name = values.resolve? name := by
  obtain ⟨f, hf⟩ := Option.isSome_iff_exists.mp ((Entries.get?_isSome_iff _ _).mpr hname)
  have hget : (s.retain values).get? name = values.resolve? name := by
    rw [get?_retain h, hf, Option.bind_some]
  cases hread : values.resolve? name with
  | some x => exact Snapshot.resolve?_of_key (hget.trans hread)
  | none =>
      have hwalk : values.walk? (segments name) = none := by
        unfold Snapshot.resolve? at hread
        split at hread
        · cases hread
        · exact hread
      rw [Snapshot.resolve?_of_no_key (hget.trans hread)]
      exact walk?_retain_eq_none h hwalk

/-- A form starts, for each field, from what the field reads in the draft or else from its
default. -/
theorem get?_initialValues (h : s.fields.Distinct) (draft : LoadedDraft) (name : String) :
    (s.initialValues draft).get? name = (s.fields.get? name).bind fun f =>
      (draft.toOption.join.bind (Snapshot.resolve? · name)).or f.defaultValue := by
  have hdefaults := get?_defaults h name
  unfold initialValues
  split
  · rename_i values
    have hkept : (s.retain values).Distinct := Entries.distinct_ofPairs _
    rw [Entries.get?_putAll hkept, get?_retain h, hdefaults]
    cases s.fields.get? name <;> rfl
  · rename_i hnone
    have hloaded : draft.toOption.join = none := by
      rcases draft with _ | _ | values
      · rfl
      · rfl
      · exact absurd rfl (hnone values)
    rw [hdefaults, hloaded]
    rfl

/-- What a form starts from has no names but those of its fields. -/
theorem keys_initialValues_subset (h : s.fields.Distinct) (draft : LoadedDraft) :
    ∀ name ∈ (s.initialValues draft).keys, name ∈ s.fields.keys := by
  intro name hname
  rw [← Entries.get?_isSome_iff, get?_initialValues h, Option.isSome_iff_exists] at hname
  obtain ⟨_, hvalue⟩ := hname
  obtain ⟨f, hf, _⟩ := Option.bind_eq_some_iff.mp hvalue
  exact (Entries.get?_isSome_iff _ _).mp (Option.isSome_iff_exists.mpr ⟨f, hf⟩)

/-- No field has two initial values. -/
theorem distinct_initialValues (s : Schema) (draft : LoadedDraft) :
    (s.initialValues draft).Distinct := by
  unfold initialValues
  split
  · exact Entries.distinct_putAll (Entries.distinct_ofPairs _) _
  · exact Entries.distinct_ofPairs _

/-- Without a draft the initial values are the defaults. -/
theorem initialValues_of_no_draft (s : Schema) {draft : LoadedDraft}
    (h : ∀ values, draft ≠ .ok (some values)) : s.initialValues draft = s.defaults := by
  unfold initialValues
  split
  · rename_i values
    exact absurd rfl (h values)
  · rfl

end Schema

/-- A compiled schema has a rule for each of its fields, in their order. -/
theorem Form.keys_rules_of_compile [PatternEngine] {form : Form} {options : CompileOptions}
    {schema : Schema}
    (h : form.compile options = .ok schema) : schema.rules.keys = schema.fields.keys := by
  rw [rules_of_compile h, (fields_of_compile h).2]
  simp [Entries.keys, Function.comp_def]

/-- **A draft keeps what its fields read.**  Whatever is loaded, a compiled form starts from
values under the names of its fields only, each at most once.  If there is a draft, the value of
a field is what its name leads to in the draft, or else its default; if there is none, or it
cannot be had, the form starts from the defaults.  The values that are kept of any snapshot are
such that every field reads what it read in the snapshot, so that keeping them twice is keeping
them once, and the rules find the same mistakes in them. -/
theorem draft_keeps_what_fields_read [PatternEngine] {form : Form} {options : CompileOptions}
    {compiled : Schema} (h : form.compile options = .ok compiled) (info : FormInfo) :
    let s : Schema := { compiled with info }
    (∀ draft, (s.initialValues draft).Distinct ∧
      ∀ name ∈ (s.initialValues draft).keys, name ∈ s.fields.keys) ∧
    (∀ values name f, s.fields.get? name = some f →
      (s.initialValues (.ok (some values))).get? name =
        (values.resolve? name).or f.defaultValue) ∧
    (∀ draft, (∀ values, draft ≠ .ok (some values)) → s.initialValues draft = s.defaults) ∧
    (∀ name, s.defaults.get? name = (s.fields.get? name).bind FormField.defaultValue) ∧
    ∀ values, (∀ name ∈ s.fields.keys, (s.retain values).resolve? name = values.resolve? name) ∧
      s.retain (s.retain values) = s.retain values ∧
      s.rules.checkAll (s.retain values) = s.rules.checkAll values := by
  intro s
  have hdistinct : s.fields.Distinct :=
    show compiled.fields.Distinct from Form.distinct_of_compile h
  have hreads (values : Snapshot) (name : String) (hname : name ∈ s.fields.keys) :
      (s.retain values).resolve? name = values.resolve? name :=
    Schema.resolve?_retain hdistinct hname
  refine ⟨fun draft => ⟨s.distinct_initialValues draft,
      Schema.keys_initialValues_subset hdistinct draft⟩, ?_,
    fun _ => s.initialValues_of_no_draft, Schema.get?_defaults hdistinct,
    fun values => ⟨hreads values, ?_, ?_⟩⟩
  · intro values name f hf
    rw [Schema.get?_initialValues hdistinct, hf]
    rfl
  · exact Schema.retain_congr (hreads values)
  · refine Rules.checkAll_congr fun name hname => hreads values name ?_
    have hkeys : s.rules.keys = s.fields.keys :=
      show compiled.rules.keys = compiled.fields.keys from Form.keys_rules_of_compile h
    rwa [← hkeys]

/-- An address, and fields for two parts of it; the city has a default. -/
def addressInParts : Form :=
  [("address", .field { kind := .address }),
    ("address.city", .field { kind := .text, defaultValue := some (.text "Berlin") }),
    ("address.zip", .field { kind := .text })]

/-- A part of the address after compilation. -/
def addressPart (name : String) (defaultValue : Option Value) : FormField :=
  { kind := .text, name := some name, defaultValue }

/-- Of a draft that holds the address alone, the city is kept as a value of its own, and the zip
code, which is not in it, still reads nothing.  Without the draft the city is the default. -/
theorem city_kept_of_address : ∃ schema, addressInParts.compile {} = .ok schema ∧
    (∀ values : Snapshot, values = [("address", .record [("city", .text "Paris")])] →
      (schema.initialValues (.ok (some values))).get? "address.city" = some (.text "Paris") ∧
      (schema.initialValues (.ok (some values))).get? "address.zip" = none ∧
      (schema.retain values).resolve? "address.zip" = none) ∧
    (schema.initialValues (.error (.unavailable "offline"))).get? "address.city" =
      some (.text "Berlin") := by
  have hcompile := Form.compile_eq_ok (show addressInParts.fault? {} = none by decide +kernel)
  have hcity : (addressInParts.flatFields {}).get? "address.city" =
      some (addressPart "address.city" (some (.text "Berlin"))) := by decide +kernel
  have hzip : (addressInParts.flatFields {}).get? "address.zip" =
      some (addressPart "address.zip" none) := by decide +kernel
  refine ⟨_, hcompile, ?_⟩
  obtain ⟨-, hloaded, hnone, hdefaults, hkept⟩ := draft_keeps_what_fields_read hcompile {}
  constructor
  · rintro values rfl
    refine ⟨?_, ?_, ?_⟩
    · rw [hloaded _ _ _ hcity]
      decide +kernel
    · rw [hloaded _ _ _ hzip]
      decide +kernel
    · rw [(hkept _).1 "address.zip" (by decide +kernel)]
      decide +kernel
  · have hfailed (values : Snapshot) :
        (.error (.unavailable "offline") : LoadedDraft) ≠ .ok (some values) := by simp
    rw [hnone _ hfailed, hdefaults, hcity]
    rfl

end Formwork
