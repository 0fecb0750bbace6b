import Formwork.Pattern.Meaning
import Formwork.Proofs.Compilation.Faults
import Formwork.Proofs.Compilation.Owner
import Formwork.Proofs.Value.Path
import Formwork.Visibility

/-!
# What conditions see of the parts of a field

A path that goes on after the name of the field it belongs to is about a part of the value
of that field.  The value itself is looked up by the name, and a key of the snapshot equal
to the name wins.  The part is looked up by the whole path, and if that is no key of the
snapshot, by a walk from the first segment on, which asks for no other key.  So the two agree
for a field without dots in its name, and for any other field only where its value is not
found under a key of its own.

* `Schema.ReadsPart` — some condition reads a part of a field;
* `Snapshot.SeesPart` — the part is found in the value of the field;
* `seesPart_iff` — where it is, in one snapshot;
* `sees_parts_iff_no_dots` — the fields of which conditions see the parts in all snapshots
  are those without dots in their names.
-/

namespace Formwork

/-- A condition of the schema reads the part `rest` of the field `owner`: its path goes on
after the name of that field, and belongs to it. -/
def Schema.ReadsPart (s : Schema) (owner rest : String) : Prop :=
  ∃ name f c, (name, f) ∈ s.fields ∧ f.showWhen = some c ∧
    owner ++ "." ++ rest ∈ c.paths ∧ owner? s.fields (owner ++ "." ++ rest) = some owner

namespace Snapshot

variable {values : Snapshot} {owner rest : String}

/-- What the path leads to is the part of the value of the field that its further segments
lead to. -/
def SeesPart (values : Snapshot) (owner rest : String) : Prop :=
  values.resolve? (owner ++ "." ++ rest) =
    (values.resolve? owner).bind (Value.walk? · (segments rest))

/-- The part of a field is seen unless the value of the field has a key of its own, and
what its segments lead to has another part there. -/
theorem seesPart_iff (h : values.get? (owner ++ "." ++ rest) = none) :
    values.SeesPart owner rest ↔ ∀ v, values.get? owner = some v →
      (values.walk? (segments owner)).bind (Value.walk? · (segments rest)) =
        v.walk? (segments rest) := by
  unfold SeesPart
  rw [resolve?_append h]
  cases hkey : values.get? owner with
  | none => simp [resolve?_of_no_key hkey]
  | some v => simp [resolve?_of_key hkey]

/-- A part of a field whose name has no dot is seen if no key is in the way. -/
theorem seesPart_of_no_dot (hdot : '.' ∉ owner.toList)
    (h : values.get? (owner ++ "." ++ rest) = none) : values.SeesPart owner rest := by
  rw [seesPart_iff h]
  intro v hv
  rw [walk?_of_no_dot hdot, hv]
  rfl

/-- Under a name with dots the walk does not find the value of the field. -/
theorem not_seesPart_withPart (hdot : '.' ∈ owner.toList) :
    ¬ (withPart owner rest).SeesPart owner rest := by
  rw [seesPart_iff (get?_withPart_path owner rest), walk?_withPart hdot]
  intro h
  have hpart := h _ (get?_withPart_self owner rest)
  rw [Value.walk?_under] at hpart
  cases hpart

end Snapshot

/-- **Which parts of fields conditions see.**  In every snapshot in which the path is no key,
a condition sees the part of a field that its path is about, however the value of the field
is found, if and only if the name of the field has no dot.  In a single snapshot it does if
the field has no key of its own, or has in this part what its segments lead to there. -/
theorem Schema.sees_parts_iff_no_dots (s : Schema) :
    ((∀ owner rest, s.ReadsPart owner rest → ∀ values : Snapshot,
        values.get? (owner ++ "." ++ rest) = none → values.SeesPart owner rest) ↔
      ∀ owner rest, s.ReadsPart owner rest → '.' ∉ owner.toList) ∧
    ∀ owner rest, s.ReadsPart owner rest → ∀ values : Snapshot,
      values.get? (owner ++ "." ++ rest) = none →
      (values.SeesPart owner rest ↔ ∀ v, values.get? owner = some v →
        (values.walk? (segments owner)).bind (Value.walk? · (segments rest)) =
          v.walk? (segments rest)) := by
  refine ⟨⟨?_, ?_⟩, ?_⟩
  · intro hsees owner rest hreads hdot
    exact Snapshot.not_seesPart_withPart hdot
      (hsees owner rest hreads _ (Snapshot.get?_withPart_path owner rest))
  · intro hdot owner rest hreads values hpath
    exact Snapshot.seesPart_of_no_dot (hdot owner rest hreads) hpath
  · intro owner rest _ values hpath
    exact Snapshot.seesPart_iff hpath

/-- A company with an address, and a number that is asked for only where there is something
at a path. -/
def companyAddress (path : String) : Form :=
  [("company", .group {}
    [("address", .field { kind := .address }),
      ("vat", .field { kind := .text, showWhen := some (.rule ⟨path, .present, none⟩) })])]

/-- The number after compilation. -/
def companyVat (name path : String) : FormField :=
  { kind := .text, name := some name, showWhen := some (.rule ⟨path, .present, none⟩) }

/-- Without the key of the group, the address has no dot in its name, and its city is seen. -/
theorem city_of_address_seen : ∃ schema, (companyAddress "address.city").compile {} = .ok schema ∧
    schema.ReadsPart "address" "city" ∧ ∀ values : Snapshot,
      values.get? "address.city" = none → values.SeesPart "address" "city" := by
  have hcompile := Form.compile_eq_ok
    (show (companyAddress "address.city").fault? {} = none by decide +kernel)
  refine ⟨_, hcompile, ?reads,
    (Schema.sees_parts_iff_no_dots _).1.mpr ?dots "address" "city" ?reads⟩
  case reads =>
    exact ⟨"vat", companyVat "vat" "address.city", _, by decide +kernel, rfl, by decide +kernel,
      by decide +kernel⟩
  case dots =>
    intro owner rest h
    obtain ⟨_, _, _, _, _, _, howner⟩ := h
    have hdots : ∀ name ∈ (Form.flatFields (companyAddress "address.city") {}).keys,
        '.' ∉ name.toList := by decide +kernel
    exact hdots owner (owner?_eq_some_iff.mp howner).named

/-- An address under the key of its field. -/
def flatAddress : Snapshot := [("company.address", .record [("city", .text "Paris")])]

/-- With the key of the group in the name of the address, a city in an address that is found
under this name is not seen, and what depends on it is hidden. -/
theorem city_of_flat_address_not_seen : ∃ schema,
    (companyAddress "company.address.city").compile { naming := .dotted } = .ok schema ∧
    schema.ReadsPart "company.address" "city" ∧
    flatAddress.get? "company.address.city" = none ∧
    (flatAddress.resolve? "company.address").bind (Value.walk? · (segments "city")) =
      some (.text "Paris") ∧
    flatAddress.resolve? "company.address.city" = none ∧
    ∃ f, schema.fields.get? "company.vat" = some f ∧ f.isShown flatAddress = false := by
  have hcompile := Form.compile_eq_ok
    (show (companyAddress "company.address.city").fault? { naming := .dotted } = none by
      decide +kernel)
  refine ⟨_, hcompile, ?_, by decide +kernel, by decide +kernel, by decide +kernel, ?_⟩
  · exact ⟨"company.vat", companyVat "company.vat" "company.address.city", _, by decide +kernel,
      rfl, by decide +kernel, by decide +kernel⟩
  · exact ⟨companyVat "company.vat" "company.address.city", by decide +kernel, by decide +kernel⟩

end Formwork
