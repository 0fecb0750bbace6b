import Formwork.Proofs.Definition.Saved
import Formwork.Proofs.Json.Text

/-!
# Forms that are saved and loaded again

A form can be written in many ways, and it is saved in one.  Whatever text a form was loaded
from, what is loaded is never more than what can be saved: a node has the room that its text
had, null has been read as missing where it would be read so again, and no key is left twice.
So the form that was saved is the form that is loaded the next time.

A group is the one place where the reader does not follow the shape of what it reads: its
nodes are read before it is known to be a group.  It is put back into the shape of a structure
with a tag first, and everything else is said of that.

* `FormNode.ofTree?_eq` — a node is a structure with a tag, a field or a group;
* `FormNode.Saved` — what makes a node one that can be saved;
* `FormNode.Saved.reads_toValue` — a node that can be saved is read as itself;
* `FormNode.saves_ofTree?` — a node that was read can be saved, by induction on the room;
* `Form.saved_text_reads_back` — a form that was loaded survives being saved, and is saved as
  the same text ever after.
-/

namespace Formwork

open Formwork.Tree Value

/-! ## Layouts -/

namespace Layout

/-- A text can carry the layout: the number of columns has 32 bits. -/
def Writable : Layout → Prop
  | .grid columns => columns < Nat.pow 2 32
  | _ => True

/-- The members of a grid. -/
def columnSlots (columns : Nat) : List MemberSlot := [("columns", some (.ofNat columns))]

/-- The single member of a layout that is not only a name. -/
def gridSlots (columns : Nat) : List MemberSlot :=
  [("grid", some (.record (ofSlots (columnSlots columns))))]

theorem toValue_grid (columns : Nat) :
    (grid columns).toValue = .record (ofSlots (gridSlots columns)) := rfl

/-- A layout can be written if its number of columns can be. -/
theorem writable_toValue {l : Layout} (h : l.Writable) : l.toValue.Writable := by
  cases l with
  | grid columns =>
      have hcolumns : (record (ofSlots (columnSlots columns))).Writable := by
        refine writable_ofSlots (by simp [columnSlots]) ?_
        simp only [columnSlots, List.forall_mem_cons]
        exact ⟨slotWritable_some (writable_ofNat (Nat.lt_trans h (by decide))), nofun⟩
      rw [toValue_grid]
      refine writable_ofSlots (by simp [gridSlots]) ?_
      simp only [gridSlots, List.forall_mem_cons]
      exact ⟨slotWritable_some hcolumns, nofun⟩
  | _ => exact .text _

/-- The columns of a grid are read as they were written. -/
theorem reads_columns {columns : Nat} (h : columns < Nat.pow 2 32) :
    Reads columnsOf? (.record (ofSlots (columnSlots columns))) (.grid columns) := by
  unfold columnsOf?
  refine reads_structure (show ((columnSlots columns).map Prod.fst).Nodup by simp [columnSlots])
    false ?_
  intro room
  simp only [columnSlots, List.map_cons, List.map_nil, (reads_nat32 h).required room, bind_ite,
    fits_cons_iff, fits_nil_iff, and_true]
  rfl

/-- So a layout is read as itself. -/
theorem reads_toValue {l : Layout} (h : l.Writable) : Reads ofTree? l.toValue l := by
  cases l with
  | grid columns =>
      refine reads_of_members rfl fun room => ?_
      simp only [ofTree?, List.map_cons, List.map_nil, depthOfMembers, Nat.max_zero]
      exact reads_columns h room
  | _ =>
      intro room
      simp [toValue, ofValueWithin, ofTree?, name?, depth]

/-- What is read as columns is a grid that can be saved. -/
theorem exists_of_columnsOf? {room : Nat} {t : Tree} {l : Layout} (hroom : t.FitsIn room)
    (h : columnsOf? t = some l) : ∃ columns, l = .grid columns ∧
      SavedIn room (some (.record (ofSlots (columnSlots columns)))) (columns < Nat.pow 2 32) := by
  obtain ⟨members, hmembers, hread⟩ := Option.bind_eq_some_iff.mp h
  obtain ⟨r, rfl, hfits⟩ := exists_room_of_members? hroom hmembers
  split at hread
  · have hfits := (List.forall_mem_cons.mp hfits).1
    obtain ⟨columns, hsaved, hread⟩ := saves_nat32.required.next hfits hread
    refine ⟨columns, (Option.some.inj hread).symm, ?_⟩
    apply savedIn_structure <;> simp only [columnSlots, List.forall_mem_cons]
    · exact ⟨hsaved.fits, nofun⟩
    · exact fun hreals => hsaved.kept hreals.1
  · cases hread

/-- So every layout that is read can be saved. -/
theorem saves_ofTree? (room : Nat) : Saves room ofTree? toValue Writable := by
  intro t l hroom hread
  unfold ofTree? at hread
  split at hread
  · cases hroom with
    | record hmembers =>
        obtain ⟨columns, rfl, hsaved⟩ :=
          exists_of_columnsOf? (hmembers _ List.mem_cons_self) hread
        rw [toValue_grid]
        apply savedIn_structure <;> simp only [gridSlots, List.forall_mem_cons]
        · exact ⟨hsaved.fits, nofun⟩
        · exact fun hreals => hsaved.kept hreals.1
  · split at hread <;> cases hread <;> exact savedIn_flat rfl fun _ => trivial

end Layout

/-! ## Groups -/

namespace GroupSettings

/-- The settings can be saved: a text can carry them, and no operand in the condition is
null. -/
structure Saved (s : GroupSettings) : Prop where
  layout : s.layout.Writable
  step : ∀ n ∈ s.step, n < Nat.pow 2 32
  showWhen : ∀ c ∈ s.showWhen, c.Saved

def slots (s : GroupSettings) : List MemberSlot :=
  [("layout", some s.layout.toValue), ("label", s.label.map .text),
    ("collapsible", some (.bool s.isCollapsible)), ("step", s.step.map .ofNat),
    ("showWhen", s.showWhen.map Condition.toValue)]

/-- The settings of a group are written as their slots say. -/
theorem toMembers_eq_ofSlots (s : GroupSettings) : s.toMembers = ofSlots s.slots := by
  unfold toMembers slots
  simp [ofSlots_cons_map]

/-- Each of them can be written if the settings can be saved. -/
theorem slotWritable_slots {s : GroupSettings} (h : s.Saved) :
    ∀ slot ∈ s.slots, SlotWritable slot.2 := by
  simp only [slots, List.forall_mem_cons]
  exact ⟨slotWritable_some (Layout.writable_toValue h.layout), slotWritable_text s.label,
    slotWritable_some (.bool s.isCollapsible),
    slotWritable_map fun n hn => writable_ofNat (Nat.lt_trans (h.step n hn) (by decide)),
    slotWritable_map fun c hc => Condition.writable_toValue (h.showWhen c hc).writable, nofun⟩

/-- The settings are read from the slots that they are written in. -/
theorem ofMembers?_slots {s : GroupSettings} (h : s.Saved) (room : Nat) :
    ofMembers? (s.slots.map fun slot => slot.2.map (ofValueWithin room)) =
      if depthOfMembers (ofSlots s.slots) ≤ room then some s else none := by
  have hstep : ReadsSlot (Tree.optional nat32?) (s.step.map .ofNat) s.step :=
    readsSlot_optional (fun n hn => reads_nat32 (h.step n hn)) nofun
  have hshow : ReadsSlot (Tree.optional Condition.ofTree?) (s.showWhen.map Condition.toValue)
      s.showWhen :=
    readsSlot_optional (fun c hc => (h.showWhen c hc).reads_toValue) Condition.toValue_ne_null
  simp only [slots, List.map_cons, List.map_nil, ofMembers?,
    (Layout.reads_toValue h.layout).orDefault .vertical room, readsSlot_text s.label room,
    (reads_bool s.isCollapsible).orDefault false room, hstep room, hshow room, bind_ite,
    fits_cons_iff, fits_nil_iff, and_true, ite_and]
  rfl

/-- Settings that were read fit into the room that they were read from, and can be saved if their
numbers read back. -/
theorem savesSlots_ofMembers? {room : Nat} {members : List (Option Tree)} {s : GroupSettings}
    (hroom : ∀ m ∈ members, ∀ u ∈ m, u.FitsIn room) (h : ofMembers? members = some s) :
    (∀ slot ∈ s.slots, depthOfSlot slot.2 ≤ room) ∧
      ((∀ slot ∈ s.slots, ∀ v ∈ slot.2, v.RealsReadBack) → s.Saved) := by
  unfold ofMembers? at h
  split at h
  · simp only [List.forall_mem_cons] at hroom
    obtain ⟨hlayout, hlabel, hcollapsible, hstep, hshow, _⟩ := hroom
    have hvertical : SavedIn room (some Layout.vertical.toValue) Layout.vertical.Writable :=
      savedIn_flat rfl fun _ => trivial
    obtain ⟨layout, hlayout, h⟩ := ((Layout.saves_ofTree? room).orDefault hvertical).next hlayout h
    obtain ⟨label, hlabel, h⟩ := saves_text.optional.next hlabel h
    obtain ⟨collapsible, hcollapsible, h⟩ := (savesSlot_flag false).next hcollapsible h
    obtain ⟨step, hstep, h⟩ := saves_nat32.optional.next hstep h
    obtain ⟨showWhen, hshow, h⟩ := (Condition.saves_ofTree? room).optional.next hshow h
    obtain rfl := Option.some.inj h
    simp only [slots, List.forall_mem_cons]
    refine ⟨⟨hlayout.fits, hlabel.fits, hcollapsible.fits, hstep.fits, hshow.fits, nofun⟩, ?_⟩
    rintro ⟨hlayoutReals, _, _, hstepReals, hshowReals, _⟩
    exact ⟨hlayout.kept hlayoutReals, hstep.kept hstepReals, hshow.kept hshowReals⟩
  · cases h

end GroupSettings

/-! ## Nodes -/

namespace FormNode

/-- The members of a group are written one by one, under their keys. -/
theorem nodesToMembers_eq_map (nodes : List (String × FormNode)) :
    nodesToMembers nodes = nodes.map fun p => (p.1, p.2.toValue) := by
  induction nodes with
  | nil => rfl
  | cons p rest ih => rw [nodesToMembers, ih, List.map_cons]

/-- So they are read one by one. -/
theorem nodesOfMembers?_eq_mapM (nested : Bool) (members : List (String × Tree)) :
    nodesOfMembers? nested members =
      members.mapM fun m => (ofTree? nested m.2).map fun n => (m.1, n) := by
  induction members with
  | nil => rfl
  | cons m rest ih =>
      obtain ⟨k, t⟩ := m
      rw [List.mapM_cons, ← ih, nodesOfMembers?]
      cases ofTree? nested t <;> cases nodesOfMembers? nested rest <;> rfl

/-- The reader of the members of a group reads a map of nodes. -/
theorem nodeMapOf?_eq_mapOf? : nodeMapOf? = mapOf? (ofTree? true) := by
  funext t
  cases t with
  | record members => rw [nodeMapOf?, nodesOfMembers?_eq_mapM, mapOf?]
  | _ => simp [nodeMapOf?, mapOf?]

/-- The members of a record are read as maps of nodes one by one. -/
theorem nodeMapsOfMembers_eq_map (members : List (String × Tree)) :
    nodeMapsOfMembers members = members.map fun m => (m.1, nodeMapOf? m.2) := by
  induction members with
  | nil => rfl
  | cons m rest ih => rw [nodeMapsOfMembers, ih, List.map_cons]

/-! ### A node as a structure with a tag -/

def groupNames : List String := "fields" :: GroupSettings.memberNames

/-- A group from its members in declared order. -/
def ofGroupMembers? : List (Option Tree) → Option FormNode
  | nodes :: settings => do
    let nodes ← Tree.required (mapOf? (ofTree? true)) nodes
    let settings ← GroupSettings.ofMembers? settings
    return .group settings nodes
  | [] => none

/-- A node of the kind that its tag tells. -/
def ofKind? : Nat × Tree → Option FormNode
  | (0, body) => (FormField.ofTree? true body).map .field
  | (1, body) => (body.members? groupNames false).bind ofGroupMembers?
  | _ => none

/-- The nodes of a group are read by themselves, and are looked for among all of its members. -/
theorem ofGroup?_eq (nodes : Tree) (settings : Option (List (Option Tree))) :
    ofGroup? (nodeMapOf? nodes) settings =
      settings.bind fun s => ofGroupMembers? (some nodes :: s) := by
  rw [nodeMapOf?_eq_mapOf?]
  cases settings with
  | none => rfl
  | some settings =>
      simp only [ofGroup?, ofGroupMembers?, required, Option.bind_eq_bind, Option.bind_some]
      cases GroupSettings.ofMembers? settings <;> cases mapOf? (ofTree? true) nodes <;> rfl

/-- A member of another name is found whether or not the tag is taken away. -/
theorem member?_without {tag name : String} (h : name ≠ tag) (members : List (String × Tree)) :
    member? (without tag members) name = member? members name := by
  have hoccurrences : occurrences (without tag members) name = occurrences members name := by
    rw [occurrences, occurrences, without, List.filterMap_filter]
    refine congrArg (List.filterMap · members) (funext fun m => ?_)
    by_cases hm : m.1 = name <;> simp [hm, h]
  rw [member?, member?, hoccurrences]

/-- The members of a group are its nodes and its settings. -/
theorem arrange?_groupNames (members : List (String × Tree)) :
    arrange? groupNames false members = (member? members "fields").bind fun nodes =>
      (arrange? GroupSettings.memberNames false members).map (nodes :: ·) := by
  rw [groupNames, arrange?, arrange?, List.mapM_cons]
  cases member? members "fields" <;>
    cases GroupSettings.memberNames.mapM (member? members) <;> rfl

/-- In a group that is given as a list the nodes come first. -/
theorem arrangeItems?_groupNames (nodes : Tree) (items : List Tree) :
    arrangeItems? groupNames (nodes :: items) =
      (arrangeItems? GroupSettings.memberNames items).map (some nodes :: ·) := by
  simp only [arrangeItems?, groupNames, List.length_cons, Nat.add_lt_add_iff_right]
  split
  · rfl
  · simp

section Tagged

variable {tag : String} {kinds : List String} {nested : Bool} {kind : Nat} {body : Tree}

/-- What a record holds beside its tag is its body. -/
theorem body_of_tagged?_record {members : List (String × Tree)}
    (h : (Tree.record members).tagged? tag kinds nested = some (kind, body)) :
    body = .record (without tag members) := by
  unfold tagged? at h
  split at h
  · cases h
  · simp only [Option.bind_eq_bind, Option.bind_eq_some_iff] at h
    obtain ⟨_, _, _, _, h⟩ := h
    exact (Prod.mk.inj (Option.some.inj h)).2.symm

/-- What a list holds after its first item is its body. -/
theorem body_of_tagged?_list {first : Tree} {rest : List Tree}
    (h : (Tree.list (first :: rest)).tagged? tag kinds nested = some (kind, body)) :
    body = .list rest := by
  unfold tagged? at h
  split at h
  · cases h
  · obtain ⟨_, _, h⟩ := Option.map_eq_some_iff.mp h
    exact (Prod.mk.inj h).2.symm

end Tagged

/-- A record is read as a node by the tag that it has among its members. -/
theorem ofTree?_record (nested : Bool) (members : List (String × Tree)) :
    ofTree? nested (.record members) =
      ((Tree.record members).tagged? "kind" kindNames nested).bind ofKind? := by
  rw [ofTree?, nodeMapsOfMembers_eq_map, member?_map]
  cases htagged : (Tree.record members).tagged? "kind" kindNames nested with
  | none => rfl
  | some p =>
      obtain ⟨kind, body⟩ := p
      obtain rfl := body_of_tagged?_record htagged
      rcases kind with _ | _ | kind
      · rfl
      · simp only [Option.bind_some, ofKind?, Tree.members?, arrange?_groupNames,
          member?_without (show "fields" ≠ "kind" by decide)]
        rcases member? members "fields" with _ | _ | nodes
        · rfl
        · cases arrange? GroupSettings.memberNames false (without "kind" members) with
          | none => rfl
          | some settings => rfl
        · simp only [Option.map_some, ofGroup?_eq, Option.bind_some, Option.bind_map,
            Function.comp_def]
      · rfl

/-- A list is read as a node by its first item. -/
theorem ofTree?_list (nested : Bool) (tag : Tree) (rest : List Tree) :
    ofTree? nested (.list (tag :: rest)) =
      ((Tree.list (tag :: rest)).tagged? "kind" kindNames nested).bind ofKind? := by
  rw [ofTree?.eq_def]
  cases htagged : (Tree.list (tag :: rest)).tagged? "kind" kindNames nested with
  | none => simp only [htagged, Option.bind_none]
  | some p =>
      obtain ⟨kind, body⟩ := p
      obtain rfl := body_of_tagged?_list htagged
      simp only [htagged, Option.bind_some]
      match kind, rest with
      | 0, _ => rfl
      | 1, [] => rfl
      | 1, nodes :: settings =>
          simp only [ofKind?, Tree.members?, arrangeItems?_groupNames, ofGroup?_eq,
            Option.bind_map, Function.comp_def]
      | _ + 2, _ => rfl

/-- A node is a structure with a tag, and a group is one whose first member are its nodes. -/
theorem ofTree?_eq (nested : Bool) (t : Tree) :
    ofTree? nested t = (t.tagged? "kind" kindNames nested).bind ofKind? := by
  cases t with
  | record members => exact ofTree?_record nested members
  | list items =>
      cases items with
      | nil => cases nested <;> simp [ofTree?, tagged?]
      | cons tag rest => exact ofTree?_list nested tag rest
  | _ => cases nested <;> simp [ofTree?, tagged?]

/-! ### Nodes that are written and read back -/

/-- The node can be saved: the fields and the settings in it can, and no key stands for two
nodes of a group. -/
inductive Saved : FormNode → Prop
  | field {f : FormField} (hf : f.Saved) : Saved (.field f)
  | group {settings : GroupSettings} {nodes : List (String × FormNode)}
      (hsettings : settings.Saved) (hkeys : Entries.Distinct nodes)
      (hnodes : ∀ p ∈ nodes, Saved p.2) : Saved (.group settings nodes)

def groupSlots (settings : GroupSettings) (nodes : List (String × FormNode)) : List MemberSlot :=
  ("fields", some (.record (nodes.map fun p => (p.1, p.2.toValue)))) :: settings.slots

theorem toValue_field (f : FormField) :
    (field f).toValue = .record (("kind", .text "field") :: ofSlots f.slots) := by
  rw [toValue, FormField.toMembers_eq_ofSlots]

/-- A group is written as a structure that is tagged as a group. -/
theorem toValue_group (settings : GroupSettings) (nodes : List (String × FormNode)) :
    (group settings nodes).toValue =
      .record (("kind", .text "group") :: ofSlots (groupSlots settings nodes)) := by
  rw [toValue, nodesToMembers_eq_map, GroupSettings.toMembers_eq_ofSlots]
  rfl

theorem nodup_fieldNames (f : FormField) : ("kind" :: f.slots.map Prod.fst).Nodup := by
  simp [FormField.slots]

theorem nodup_groupNames (settings : GroupSettings) (nodes : List (String × FormNode)) :
    ("kind" :: (groupSlots settings nodes).map Prod.fst).Nodup := by
  simp [groupSlots, GroupSettings.slots]

/-- A tagged structure can be written if its slots can. -/
theorem writable_tagged {kind : String} {slots : List MemberSlot}
    (hnames : ("kind" :: slots.map Prod.fst).Nodup) (hslots : ∀ s ∈ slots, SlotWritable s.2) :
    (Value.record (("kind", .text kind) :: ofSlots slots)).Writable := by
  rw [← ofSlots_cons_some]
  exact writable_ofSlots hnames (List.forall_mem_cons.mpr ⟨slotWritable_some (.text kind), hslots⟩)

/-- The slots of a group can be written if its settings can be saved and its nodes can be written.
-/
theorem slotWritable_groupSlots {settings : GroupSettings} {nodes : List (String × FormNode)}
    (hsettings : settings.Saved) (hkeys : Entries.Distinct nodes)
    (hnodes : ∀ p ∈ nodes, p.2.toValue.Writable) :
    ∀ s ∈ groupSlots settings nodes, SlotWritable s.2 :=
  List.forall_mem_cons.mpr ⟨slotWritable_some (writable_map hkeys hnodes),
    GroupSettings.slotWritable_slots hsettings⟩

/-- What a node is written as can be carried by a text if the node can be saved. -/
theorem Saved.writable_toValue {n : FormNode} (h : n.Saved) : n.toValue.Writable := by
  induction h with
  | field hf =>
      rw [toValue_field]
      exact writable_tagged (nodup_fieldNames _) (FormField.slotWritable_slots hf.writable)
  | group hsettings hkeys _ ih =>
      rw [toValue_group]
      exact writable_tagged (nodup_groupNames _ _) (slotWritable_groupSlots hsettings hkeys ih)

/-- What is tagged as a field is read as the field that was written. -/
theorem ofKind?_field {f : FormField} (h : f.Saved) (room : Nat) :
    ofKind? (0, .record ((ofSlots f.slots).map fun m => (m.1, ofValueWithin room m.2))) =
      if depthOfMembers (ofSlots f.slots) ≤ room then some (.field f) else none := by
  have hreads := h.reads_toValue true (room + 1)
  rw [FormField.toValue, FormField.toMembers_eq_ofSlots, ofValueWithin_record, JsonText.within,
    if_neg (Nat.succ_ne_zero room), Nat.add_sub_cancel, depth] at hreads
  simp only [ofKind?, hreads, Nat.add_le_add_iff_right]
  split <;> rfl

/-- The slots of a group are read as the group if its nodes are read as themselves. -/
theorem ofGroupMembers?_slots {settings : GroupSettings} {nodes : List (String × FormNode)}
    (hsettings : settings.Saved) (hkeys : Entries.Distinct nodes)
    (hnodes : ∀ p ∈ nodes, Reads (ofTree? true) p.2.toValue p.2) (room : Nat) :
    ofGroupMembers? ((groupSlots settings nodes).map fun s => s.2.map (ofValueWithin room)) =
      if depthOfMembers (ofSlots (groupSlots settings nodes)) ≤ room then
        some (.group settings nodes) else none := by
  have hfields := (reads_map_self hkeys hnodes).required room
  simp only [groupSlots, List.map_cons, ofGroupMembers?, GroupSettings.ofMembers?_slots hsettings,
    hfields, bind_ite, fits_cons_iff, ite_and]
  rfl

/-- **What is read of a written node.**  It is the node itself. -/
theorem Saved.reads_toValue {n : FormNode} (h : n.Saved) (nested : Bool) :
    Reads (ofTree? nested) n.toValue n := by
  rw [show ofTree? nested = _ from funext (ofTree?_eq nested)]
  induction h generalizing nested with
  | field hf =>
      rw [toValue_field]
      exact reads_tagged (nodup_fieldNames _) rfl nested
        (FormField.slotWritable_slots hf.writable) (ofKind?_field hf)
  | group hsettings hkeys hnodes ih =>
      have hinner := ih
      simp only [← ofTree?_eq] at hinner
      rw [toValue_group]
      refine reads_tagged (nodup_groupNames _ _) rfl nested
        (slotWritable_groupSlots hsettings hkeys fun p hp => (hnodes p hp).writable_toValue) ?_
      exact read_ofSlots (List.nodup_cons.mp (nodup_groupNames _ _)).2
        (ofGroupMembers?_slots hsettings hkeys fun p hp => hinner p hp true)

/-! ### Nodes that were read -/

/-- A group that was read can be saved if all that was read with less room can be. -/
theorem savedIn_ofGroupMembers? {room : Nat} {members : List (Option Tree)} {n : FormNode}
    (ih : ∀ r < room, Saves r (ofTree? true) toValue Saved)
    (hroom : ∀ m ∈ members, ∀ u ∈ m, u.FitsIn room) (h : ofGroupMembers? members = some n) :
    SavedIn (room + 1) (some n.toValue) n.Saved := by
  unfold ofGroupMembers? at h
  split at h
  · obtain ⟨hroomNodes, hroomSettings⟩ := List.forall_mem_cons.mp hroom
    obtain ⟨nodes, hnodes, h⟩ := (saves_mapOf ih).required.next hroomNodes h
    obtain ⟨settings, hread, h⟩ := Option.bind_eq_some_iff.mp h
    have hsettings := GroupSettings.savesSlots_ofMembers? hroomSettings hread
    obtain rfl := Option.some.inj h
    rw [toValue_group]
    refine SavedIn.tagged ?_ "kind" "group"
    apply savedIn_structure <;> simp only [groupSlots, List.forall_mem_cons]
    · exact ⟨hnodes.fits, hsettings.1⟩
    · rintro ⟨hrealsNodes, hrealsSettings⟩
      have hkept := hnodes.kept hrealsNodes
      exact .group (hsettings.2 hrealsSettings) hkept.1 hkept.2
  · cases h

/-- **A node that was read can be saved.**  The induction is on the room: the nodes of a group
have less of it. -/
theorem saves_ofTree? (room : Nat) (nested : Bool) :
    Saves room (ofTree? nested) toValue Saved := by
  induction room using Nat.strongRecOn generalizing nested with
  | ind room ih =>
      intro t n hroom hread
      rw [ofTree?_eq] at hread
      obtain ⟨⟨kind, body⟩, htagged, hread⟩ := Option.bind_eq_some_iff.mp hread
      have hbody := fitsIn_of_tagged? hroom htagged
      match kind with
      | 0 =>
          obtain ⟨f, hf, rfl⟩ := Option.map_eq_some_iff.mp hread
          have hsaved := (FormField.saves_ofTree? room true hbody hf).tagged "kind" "field"
          exact ⟨hsaved.fits, fun hreals => .field (hsaved.kept hreals)⟩
      | 1 =>
          obtain ⟨members, hmembers, hn⟩ := Option.bind_eq_some_iff.mp hread
          obtain ⟨room, rfl, hfits⟩ := exists_room_of_members? hbody hmembers
          exact savedIn_ofGroupMembers? (fun r hr => ih r (Nat.lt_succ_of_lt hr) true) hfits hn
      | _ + 2 => cases hread

end FormNode

/-! ## Forms -/

namespace Form

/-- The form can be saved: its nodes can, and no key stands for two of them. -/
structure Saved (form : Form) : Prop where
  keys : Entries.Distinct form
  nodes : ∀ p ∈ form, p.2.Saved

/-- A form is read as a map of nodes. -/
theorem ofTree?_eq_mapOf? : ofTree? = mapOf? (FormNode.ofTree? false) := by
  funext t
  cases t with
  | record members => rw [ofTree?, FormNode.nodesOfMembers?_eq_mapM, mapOf?]
  | _ => rfl

theorem toValue_eq_map (form : Form) :
    form.toValue = .record (form.map fun p => (p.1, p.2.toValue)) := by
  rw [toValue, FormNode.nodesToMembers_eq_map]

/-- A form that can be saved has a text. -/
theorem Saved.writable_toValue {form : Form} (h : form.Saved) : form.toValue.Writable := by
  rw [toValue_eq_map]
  exact writable_map h.keys fun p hp => (h.nodes p hp).writable_toValue

/-- What is read where a form was written is the form itself. -/
theorem Saved.reads_toValue {form : Form} (h : form.Saved) : Reads ofTree? form.toValue form := by
  rw [ofTree?_eq_mapOf?, toValue_eq_map]
  exact reads_map_self h.keys fun p hp => (h.nodes p hp).reads_toValue false

theorem saves_ofTree? (room : Nat) : Saves room ofTree? toValue Saved := by
  intro t form hroom hread
  rw [ofTree?_eq_mapOf?] at hread
  have hsaved := saves_mapOf (fun r _ => FormNode.saves_ofTree? r false) hroom hread
  rw [toValue_eq_map]
  exact ⟨hsaved.fits, fun hreals => ⟨(hsaved.kept hreals).1, (hsaved.kept hreals).2⟩⟩

/-- The text of a form that can be saved is read as this form, if it does not nest too deep. -/
theorem Saved.ofText?_compact {form : Form} (h : form.Saved)
    (hdepth : form.toValue.depth ≤ JsonText.nestingLimit) :
    ofText? form.toValue.compact = some form := by
  rw [ofText?, Tree.ofText?_compact h.writable_toValue, Option.bind_some, h.reads_toValue,
    if_pos hdepth]

/-- **Loading and saving loses nothing.**  However a form was written, if the binary64 numbers
in it are read back from their digits, then what is read of its saved text is the same form,
its nodes in the same order, and so the text that is saved of that is the same once more. -/
theorem saved_text_reads_back {s : String} {form : Form} (h : ofText? s = some form)
    (hreals : ∀ x ∈ form.toValue.reals, x.ReadsBack) :
    ofText? form.toValue.compact = some form ∧
      ∀ back, ofText? form.toValue.compact = some back →
        back.toValue.compact = form.toValue.compact := by
  obtain ⟨t, ht, hread⟩ := Option.bind_eq_some_iff.mp h
  have hsaved := saves_ofTree? _ (Tree.fitsIn_of_ofText? ht) hread
  have hform : form.Saved := hsaved.kept (by
    rintro _ ⟨⟩
    exact hreals)
  have hback := hform.ofText?_compact hsaved.fits
  refine ⟨hback, fun back h => ?_⟩
  obtain rfl := Option.some.inj (hback.symm.trans h)
  rfl

end Form

/-- A form as few would write it: the field is a list, the type of its constraint comes after
the bound, and the bound is an integer. -/
def ageText : String :=
  "\x7b\"age\":[\"field\",\"number\",null,null,null,null,true,false,null," ++
    "\x7b\"max\":5,\"type\":\"number\"\x7d]\x7d"

/-- The same form once it was saved. -/
def savedAgeText : String :=
  "\x7b\"age\":\x7b\"kind\":\"field\",\"type\":\"number\",\"required\":true,\"disabled\":false," ++
    "\"validation\":\x7b\"type\":\"number\",\"min\":null,\"max\":5.0,\"integer\":false," ++
    "\"message\":null\x7d\x7d\x7d"

/-- The number five. -/
def five : Binary64 := .finite false (5 * Nat.pow 2 1074)

theorem five_readsBack : five.ReadsBack :=
  ⟨⟨false, ['5'], some ['0'], none⟩, by decide +kernel, by decide +kernel⟩

/-- Saving this form changes its text, and loading what was saved gives the form again. -/
theorem age_saved : ∃ form, Form.ofText? ageText = some form ∧
    form.toValue.compact = savedAgeText ∧ savedAgeText ≠ ageText ∧
    Form.ofText? savedAgeText = some form := by
  obtain ⟨form, hform, hread⟩ := Option.map_eq_some_iff.mp
    (show (Form.ofText? ageText).map (fun f => (f.toValue.compact, f.toValue.reals)) =
      some (savedAgeText, [five]) by decide +kernel)
  obtain ⟨hsaved, hnumbers⟩ := Prod.mk.inj hread
  have hreals : ∀ x ∈ form.toValue.reals, x.ReadsBack := by
    rw [hnumbers]
    exact List.forall_mem_singleton.mpr five_readsBack
  have hback := (Form.saved_text_reads_back hform hreals).1
  rw [hsaved] at hback
  exact ⟨form, hform, hsaved, by decide, hback⟩

end Formwork
