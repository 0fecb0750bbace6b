import Formwork.Constraint.Json
import Formwork.Proofs.Json.Structures

/-!
# Constraints that are written and read back

A constraint is written with its type first and then all of its members, null standing for
one that is not set.  None of them can be null otherwise, so a constraint is read back as it
was.

* `Tree.reads_tagged` — a structure is read back with its tag in front of its members;
* `Constraint.Writable` — the constraints that a text can carry;
* `Constraint.reads_toValue` and `FieldRule.reads_toValue` — they are read back.
-/

namespace Formwork

open Formwork.Tree Value

/-! ## Tags -/

namespace Tree

variable {tag kind : String} {kinds : List String} {slots : List MemberSlot} {i : Nat}

/-- A tag that is no slot is taken away without the slots changing. -/
theorem without_ofSlots (htag : tag ∉ slots.map Prod.fst) (t : Tree) (f : Value → Tree) :
    without tag ((tag, t) :: (ofSlots slots).map fun m => (m.1, f m.2)) =
      (ofSlots slots).map fun m => (m.1, f m.2) := by
  have hothers : ∀ m ∈ (ofSlots slots).map fun m => (m.1, f m.2), decide (m.1 ≠ tag) = true := by
    rw [List.forall_mem_map]
    intro m hm
    refine decide_eq_true ?_
    rintro rfl
    exact htag (List.mem_map_of_mem (mem_ofSlots_iff.mp hm))
  rw [without, List.filter_cons_of_neg (by simp), List.filter_eq_self.mpr hothers]

/-- The tag of a structure is found, and so are the other members. -/
theorem tagged?_ofSlots (hnames : ((tag :: slots.map Prod.fst)).Nodup)
    (hkind : kinds.idxOf? kind = some i) {nested : Bool} {f : Value → Tree}
    (hf : f (.text kind) = .text kind)
    (hreadable : (nested || (Tree.record
      ((tag, .text kind) :: (ofSlots slots).map fun m => (m.1, f m.2))).isReadable) = true) :
    tagged? tag kinds nested
        (.record ((tag, .text kind) :: (ofSlots slots).map fun m => (m.1, f m.2))) =
      some (i, .record ((ofSlots slots).map fun m => (m.1, f m.2))) := by
  have hmember := member?_ofSlots (f := f) (show (((tag, some (Value.text kind)) :: slots).map
    Prod.fst).Nodup from hnames) List.mem_cons_self
  rw [ofSlots_cons_some, List.map_cons, Option.map_some] at hmember
  simp only [hf] at hmember
  rw [tagged?, hreadable]
  simp only [Bool.not_true, Bool.false_eq_true, if_false, hmember,
    without_ofSlots (List.nodup_cons.mp hnames).1]
  simp [required, kindOfTag?, hkind]

variable {α : Type} {read : Nat × Tree → Option α} {x : α}

/-- A structure with a tag is read back if its other members are. -/
theorem reads_tagged (hnames : ((tag :: slots.map Prod.fst)).Nodup)
    (hkind : kinds.idxOf? kind = some i) (nested : Bool)
    (hslots : ∀ s ∈ slots, SlotWritable s.2)
    (h : ∀ room, read (i, .record ((ofSlots slots).map fun m => (m.1, ofValueWithin room m.2))) =
      if depthOfMembers (ofSlots slots) ≤ room then some x else none) :
    Reads (fun t => (t.tagged? tag kinds nested).bind read)
      (.record ((tag, .text kind) :: ofSlots slots)) x := by
  have hdeep : ((unreadable.tagged? tag kinds nested).bind read) = none := by
    cases nested <;> rfl
  refine reads_of_members hdeep fun room => ?_
  have hall : (((tag, some (Value.text kind)) :: slots).map Prod.fst).Nodup := hnames
  have htext : ofValueWithin room (.text kind) = .text kind := by rw [ofValueWithin]
  have hdepth : depthOfMembers ((tag, .text kind) :: ofSlots slots) ≤ room ↔
      depthOfMembers (ofSlots slots) ≤ room := by
    simp [depth, depthOfMembers]
  -- Before the tag is looked for, the whole structure is read as a value.
  have hvalue := reads_value (writable_ofSlots hall
    (List.forall_mem_cons.mpr ⟨slotWritable_some (.text kind), hslots⟩)) (room + 1)
  simp only [ofSlots_cons_some, ofValueWithin_record, JsonText.within, Nat.add_one_ne_zero,
    if_false, Nat.add_sub_cancel, depth, Nat.add_le_add_iff_right, hdepth, List.map_cons,
    htext] at hvalue ⊢
  by_cases hfits : depthOfMembers (ofSlots slots) ≤ room
  · rw [if_pos hfits] at hvalue ⊢
    rw [tagged?_ofSlots hnames hkind htext (by simp [isReadable, hvalue]), Option.bind_some,
      h room, if_pos hfits]
  · rw [if_neg hfits] at hvalue ⊢
    cases nested with
    | false => simp [tagged?, isReadable, hvalue]
    | true =>
        rw [tagged?_ofSlots hnames hkind htext (Bool.true_or _), Option.bind_some, h room,
          if_neg hfits]

end Tree

/-! ## Constraints -/

namespace TextFormat

/-- A format is read by its name. -/
theorem reads_name (f : TextFormat) : Reads ofTree? (.text f.name) f := by
  intro room
  cases f <;> simp [ofValueWithin, ofTree?, name, name?, depth]

end TextFormat

namespace Constraint

/-- A text can carry the constraint: its lengths have 64 bits, its bounds read back, and so
do the values that it allows. -/
def Writable : Constraint → Prop
  | .text lo hi _ _ _ => (∀ n ∈ lo, n < Nat.pow 2 64) ∧ ∀ n ∈ hi, n < Nat.pow 2 64
  | .number lo hi _ _ => (∀ x ∈ lo, x.ReadsBack) ∧ ∀ x ∈ hi, x.ReadsBack
  | .oneOf values _ => ∀ v ∈ values, v.Writable
  | .many lo hi allowed _ => (∀ n ∈ lo, n < Nat.pow 2 64) ∧ (∀ n ∈ hi, n < Nat.pow 2 64) ∧
      ∀ vs ∈ allowed, ∀ v ∈ vs, v.Writable
  | _ => True

/-- The members of a constraint besides its type. -/
def slots : Constraint → List MemberSlot
  | .any => []
  | .text lo hi pattern format message => [("min_length", some (orNull lo .ofNat)),
      ("max_length", some (orNull hi .ofNat)), ("pattern", some (orNull pattern .text)),
      ("format", some (orNull format fun f => .text f.name)),
      ("message", some (orNull message .text))]
  | .number lo hi integer message => [("min", some (orNull lo boundValue)),
      ("max", some (orNull hi boundValue)), ("integer", some (.bool integer)),
      ("message", some (orNull message .text))]
  | .boolean mustBeTrue message => [("must_be_true", some (.bool mustBeTrue)),
      ("message", some (orNull message .text))]
  | .oneOf values message => [("values", some (.list values)),
      ("message", some (orNull message .text))]
  | .many lo hi allowed message => [("min_items", some (orNull lo .ofNat)),
      ("max_items", some (orNull hi .ofNat)), ("one_of", some (orNull allowed .list)),
      ("message", some (orNull message .text))]
  | .date message => [("message", some (orNull message .text))]
  | .dateTime message => [("message", some (orNull message .text))]

/-- The type of a constraint as it is written. -/
def typeName : Constraint → String
  | .any => "any"
  | .text .. => "text"
  | .number .. => "number"
  | .boolean .. => "boolean"
  | .oneOf .. => "one_of"
  | .many .. => "many"
  | .date _ => "date"
  | .dateTime _ => "date_time"

theorem toValue_eq_ofSlots (c : Constraint) :
    c.toValue = .record (("type", .text c.typeName) :: ofSlots c.slots) := by
  cases c <;> rfl

theorem nodup_names (c : Constraint) : ("type" :: c.slots.map Prod.fst).Nodup := by
  cases c <;> simp [slots]

/-! ### Members -/

theorem slotWritable_ofNat {n : Option Nat} (h : ∀ k ∈ n, k < Nat.pow 2 64) :
    SlotWritable (some (orNull n .ofNat)) :=
  slotWritable_orNull fun k hk => writable_ofNat (h k hk)

theorem slotWritable_bound {x : Option Binary64} (h : ∀ b ∈ x, b.ReadsBack) :
    SlotWritable (some (orNull x boundValue)) :=
  slotWritable_orNull fun b hb => .number (h b hb)

theorem slotWritable_words (s : Option String) : SlotWritable (some (orNull s .text)) :=
  slotWritable_orNull fun a _ => .text a

/-- Each slot of a constraint can be written if the constraint can: its counts are numbers of 64
bits, its bounds read back and its values can be written. -/
theorem slotWritable_slots {c : Constraint} (h : c.Writable) :
    ∀ s ∈ c.slots, SlotWritable s.2 := by
  cases c with
  | any => nofun
  | text lo hi pattern format message =>
      simp only [slots, List.forall_mem_cons]
      exact ⟨slotWritable_ofNat h.1, slotWritable_ofNat h.2, slotWritable_words pattern,
        slotWritable_orNull fun f _ => .text f.name, slotWritable_words message, nofun⟩
  | number lo hi integer message =>
      simp only [slots, List.forall_mem_cons]
      exact ⟨slotWritable_bound h.1, slotWritable_bound h.2, slotWritable_some (.bool integer),
        slotWritable_words message, nofun⟩
  | boolean mustBeTrue message =>
      simp only [slots, List.forall_mem_cons]
      exact ⟨slotWritable_some (.bool mustBeTrue), slotWritable_words message, nofun⟩
  | oneOf values message =>
      simp only [slots, List.forall_mem_cons]
      exact ⟨slotWritable_some (.list h), slotWritable_words message, nofun⟩
  | many lo hi allowed message =>
      simp only [slots, List.forall_mem_cons]
      exact ⟨slotWritable_ofNat h.1, slotWritable_ofNat h.2.1,
        slotWritable_orNull fun vs hvs => .list (h.2.2 vs hvs), slotWritable_words message, nofun⟩
  | date message =>
      simp only [slots, List.forall_mem_cons]
      exact ⟨slotWritable_words message, nofun⟩
  | dateTime message =>
      simp only [slots, List.forall_mem_cons]
      exact ⟨slotWritable_words message, nofun⟩

/-- What a constraint is written as can be carried by a text if the constraint can. -/
theorem writable_toValue {c : Constraint} (h : c.Writable) : c.toValue.Writable := by
  have hnames : ((("type", some (Value.text c.typeName)) :: c.slots).map Prod.fst).Nodup :=
    nodup_names c
  rw [toValue_eq_ofSlots]
  exact writable_ofSlots hnames (List.forall_mem_cons.mpr
    ⟨slotWritable_some (.text c.typeName), slotWritable_slots h⟩)

/-- No constraint is written as null. -/
theorem toValue_ne_null (c : Constraint) : c.toValue ≠ .null := by
  rw [toValue_eq_ofSlots]
  nofun

theorem reads_ofNat {n : Option Nat} (h : ∀ k ∈ n, k < Nat.pow 2 64) :
    ReadsSlot (Tree.optional nat64?) (some (orNull n .ofNat)) n :=
  readsSlot_orNull (fun k hk => reads_nat64 (h k hk)) nofun

theorem reads_bound (x : Option Binary64) :
    ReadsSlot (Tree.optional real?) (some (orNull x boundValue)) x :=
  readsSlot_orNull (fun b _ => reads_real b) nofun

theorem reads_message (s : Option String) :
    ReadsSlot (Tree.optional text?) (some (orNull s .text)) s :=
  readsSlot_orNull (fun a _ => reads_text a) nofun

/-- A format is read by its name, and null as none. -/
theorem reads_format (f : Option TextFormat) :
    ReadsSlot (Tree.optional TextFormat.ofTree?)
      (some (orNull f fun g => .text g.name)) f :=
  readsSlot_orNull (fun g _ => TextFormat.reads_name g) nofun

/-- The slots of a text constraint are read as it. -/
theorem textOfMembers?_slots {lo hi : Option Nat} {pattern : Option String}
    {format : Option TextFormat} {message : Option String}
    (h : (text lo hi pattern format message).Writable) (room : Nat) :
    textOfMembers? ((text lo hi pattern format message).slots.map fun s =>
        s.2.map (ofValueWithin room)) =
      if depthOfMembers (ofSlots (text lo hi pattern format message).slots) ≤ room then
        some (text lo hi pattern format message) else none := by
  have hlo := reads_ofNat h.1 room
  have hhi := reads_ofNat h.2 room
  have hpattern := reads_message pattern room
  have hformat := reads_format format room
  have hmessage := reads_message message room
  simp only [slots, List.map_cons, List.map_nil, textOfMembers?, hlo, hhi, hpattern, hformat,
    hmessage, bind_ite, fits_cons_iff, fits_nil_iff, and_true, ite_and]
  rfl

/-- So are those of a number constraint. -/
theorem numberOfMembers?_slots (lo hi : Option Binary64) (integer : Bool)
    (message : Option String) (room : Nat) :
    numberOfMembers? ((number lo hi integer message).slots.map fun s =>
        s.2.map (ofValueWithin room)) =
      if depthOfMembers (ofSlots (number lo hi integer message).slots) ≤ room then
        some (number lo hi integer message) else none := by
  have hlo := reads_bound lo room
  have hhi := reads_bound hi room
  have hinteger := (reads_bool integer).orDefault false room
  have hmessage := reads_message message room
  simp only [slots, List.map_cons, List.map_nil, numberOfMembers?, hlo, hhi, hinteger, hmessage,
    bind_ite, fits_cons_iff, fits_nil_iff, and_true, ite_and]
  rfl

/-- So are those of a constraint on truth values. -/
theorem booleanOfMembers?_slots (mustBeTrue : Bool) (message : Option String) (room : Nat) :
    booleanOfMembers? ((boolean mustBeTrue message).slots.map fun s =>
        s.2.map (ofValueWithin room)) =
      if depthOfMembers (ofSlots (boolean mustBeTrue message).slots) ≤ room then
        some (boolean mustBeTrue message) else none := by
  have hmust := (reads_bool mustBeTrue).orDefault false room
  have hmessage := reads_message message room
  simp only [slots, List.map_cons, List.map_nil, booleanOfMembers?, hmust, hmessage, bind_ite,
    fits_cons_iff, fits_nil_iff, and_true, ite_and]
  rfl

/-- So are those of a choice of one value. -/
theorem oneOfMembers?_slots {values : List Value} (h : ∀ v ∈ values, v.Writable)
    (message : Option String) (room : Nat) :
    oneOfMembers? ((oneOf values message).slots.map fun s => s.2.map (ofValueWithin room)) =
      if depthOfMembers (ofSlots (oneOf values message).slots) ≤ room then
        some (oneOf values message) else none := by
  have hvalues := (reads_values h).required room
  have hmessage := reads_message message room
  simp only [slots, List.map_cons, List.map_nil, oneOfMembers?, hvalues, hmessage, bind_ite,
    fits_cons_iff, fits_nil_iff, and_true, ite_and]
  rfl

/-- So are those of a choice of many. -/
theorem manyOfMembers?_slots {lo hi : Option Nat} {allowed : Option (List Value)}
    {message : Option String} (h : (many lo hi allowed message).Writable) (room : Nat) :
    manyOfMembers? ((many lo hi allowed message).slots.map fun s =>
        s.2.map (ofValueWithin room)) =
      if depthOfMembers (ofSlots (many lo hi allowed message).slots) ≤ room then
        some (many lo hi allowed message) else none := by
  have hlo := reads_ofNat h.1 room
  have hhi := reads_ofNat h.2.1 room
  have hallowed := readsSlot_orNull (fun vs hvs => reads_values (h.2.2 vs hvs)) nofun room
  have hmessage := reads_message message room
  simp only [slots, List.map_cons, List.map_nil, manyOfMembers?, hlo, hhi, hallowed, hmessage,
    bind_ite, fits_cons_iff, fits_nil_iff, and_true, ite_and]
  rfl

/-- A constraint that has only a message is read back. -/
theorem messageOnly?_slots (make : Option String → Constraint) (message : Option String)
    (room : Nat) :
    (messageOnly? ([("message", some (orNull message .text))].map fun s =>
        s.2.map (ofValueWithin room)) >>= fun m => some (make m)) =
      if depthOfMembers (ofSlots [("message", some (orNull message .text))]) ≤ room then
        some (make message) else none := by
  have hmessage := reads_message message room
  simp only [List.map_cons, List.map_nil, messageOnly?, hmessage, bind_ite, fits_cons_iff,
    fits_nil_iff, and_true]

/-- **What is read of a written constraint.**  It is the constraint itself. -/
theorem reads_toValue {c : Constraint} (h : c.Writable) (nested : Bool) :
    Reads (ofTree? nested) c.toValue c := by
  have hnames := nodup_names c
  have hothers := (List.nodup_cons.mp hnames).2
  have hslots := slotWritable_slots h
  rw [toValue_eq_ofSlots]
  unfold ofTree?
  cases c with
  | any =>
      refine reads_tagged hnames rfl nested hslots ?_
      intro room
      rfl
  | text lo hi pattern format message =>
      refine reads_tagged hnames rfl nested hslots ?_
      exact read_ofSlots hothers (textOfMembers?_slots h)
  | number lo hi integer message =>
      refine reads_tagged hnames rfl nested hslots ?_
      exact read_ofSlots hothers (numberOfMembers?_slots lo hi integer message)
  | boolean mustBeTrue message =>
      refine reads_tagged hnames rfl nested hslots ?_
      exact read_ofSlots hothers (booleanOfMembers?_slots mustBeTrue message)
  | oneOf values message =>
      refine reads_tagged hnames rfl nested hslots ?_
      exact read_ofSlots hothers (oneOfMembers?_slots h message)
  | many lo hi allowed message =>
      refine reads_tagged hnames rfl nested hslots ?_
      exact read_ofSlots hothers (manyOfMembers?_slots h)
  | date message =>
      refine reads_tagged hnames rfl nested hslots ?_
      exact read_ofSlots hothers (messageOnly?_slots .date message)
  | dateTime message =>
      refine reads_tagged hnames rfl nested hslots ?_
      exact read_ofSlots hothers (messageOnly?_slots .dateTime message)

end Constraint

/-! ## The rules of fields -/

namespace FieldRule

def slots (r : FieldRule) : List MemberSlot :=
  [("constraint", some r.constraint.toValue), ("optional", some (.bool r.isOptional))]

/-- A rule can be written if its constraint can. -/
theorem writable_toValue {r : FieldRule} (h : r.constraint.Writable) : r.toValue.Writable := by
  refine writable_ofSlots (show (r.slots.map Prod.fst).Nodup by simp [slots]) ?_
  simp only [slots, List.forall_mem_cons]
  exact ⟨slotWritable_some (Constraint.writable_toValue h),
    slotWritable_some (.bool r.isOptional), nofun⟩

/-- So a rule is read as itself. -/
theorem reads_toValue {r : FieldRule} (h : r.constraint.Writable) :
    Reads ofTree? r.toValue r := by
  unfold ofTree?
  refine reads_structure (show (r.slots.map Prod.fst).Nodup by simp [slots]) false ?_
  intro room
  have hconstraint := (Constraint.reads_toValue h false).required room
  have hoptional := (reads_bool r.isOptional).required room
  simp only [slots, List.map_cons, List.map_nil, hconstraint, hoptional, bind_ite, fits_cons_iff,
    fits_nil_iff, and_true, ite_and]
  rfl

end FieldRule

end Formwork
