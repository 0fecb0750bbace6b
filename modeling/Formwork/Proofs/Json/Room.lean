import Formwork.Json.Reader

/-!
# What a text is read as

A text can be written in many ways that a printer would never choose, but what is read of it
is not arbitrary: every integer in it has a place in the format, and every list and record in
it stands within the room that the reader has for them.

* `Numeric.InFormat` — the integers that a numeral can stand for;
* `Tree.FitsIn` — the trees for which a reader has room;
* `Tree.fitsIn_of_ofText?` — a text is read as such a tree.
-/

namespace Formwork

/-- An integer has 64 bits, with or without a sign. -/
def Numeric.InFormat : Numeric → Prop
  | .integer n => -(Nat.pow 2 63 : Int) ≤ n ∧ n < Nat.pow 2 64
  | .real _ => True

namespace JsonNumeral

variable {n : JsonNumeral}

/-- An integer that a numeral comes to is one of 64 bits. -/
theorem inFormat_of_integer? {negative : Bool} {digits : List Char} {i : Int}
    (h : integer? negative digits = some i) : (Numeric.integer i).InFormat := by
  unfold integer? significandLimit at h
  dsimp only at h
  split at h <;> split at h
  · cases h
  · obtain rfl := Option.some.inj h
    exact ⟨by omega, by omega⟩
  · obtain rfl := Option.some.inj h
    exact ⟨by omega, by omega⟩
  · cases h

/-- What a numeral stands for has a place in the format. -/
theorem inFormat_of_value? {x : Numeric} (h : n.value? = some x) : x.InFormat := by
  have hreal (h : n.real?.map Numeric.real = some x) : x.InFormat := by
    obtain ⟨y, _, rfl⟩ := Option.map_eq_some_iff.mp h
    trivial
  unfold value? at h
  split at h
  · split at h
    · rename_i i hi
      obtain rfl := Option.some.inj h
      exact inFormat_of_integer? hi
    · exact hreal h
  · exact hreal h

end JsonNumeral

namespace Tree

/-- No more lists and records nest in the tree than there is room for, and its integers have
a place in the format. -/
inductive FitsIn : Nat → Tree → Prop
  | null {room : Nat} : FitsIn room .null
  | bool {room : Nat} (b : Bool) : FitsIn room (.bool b)
  | number {room : Nat} {n : Numeric} (hn : n.InFormat) : FitsIn room (.number n)
  | text {room : Nat} (s : String) : FitsIn room (.text s)
  | list {room : Nat} {items : List Tree} (hitems : ∀ t ∈ items, FitsIn room t) :
      FitsIn (room + 1) (.list items)
  | record {room : Nat} {members : List (String × Tree)}
      (hmembers : ∀ m ∈ members, FitsIn room m.2) : FitsIn (room + 1) (.record members)
  | unreadable {room : Nat} : FitsIn room .unreadable

end Tree

/-- Every result of a reader that succeeds on all items comes from one of them. -/
theorem Tree.exists_of_mem_mapM {α β : Type} {f : α → Option β} {l : List α} {r : List β}
    (h : l.mapM f = some r) {y : β} (hy : y ∈ r) : ∃ x ∈ l, f x = some y := by
  induction l generalizing r with
  | nil =>
      obtain rfl := Option.some.inj h
      cases hy
  | cons x rest ih =>
      simp only [List.mapM_cons, Option.bind_eq_bind, Option.bind_eq_some_iff] at h
      obtain ⟨first, hfirst, others, hothers, hr⟩ := h
      obtain rfl := Option.some.inj hr
      rcases List.mem_cons.mp hy with rfl | hy
      · exact ⟨x, List.mem_cons_self, hfirst⟩
      · obtain ⟨z, hz, hread⟩ := ih hothers hy
        exact ⟨z, List.mem_cons_of_mem x hz, hread⟩

namespace JsonText

open Formwork.Tree

variable {room : Nat}

/-- A list fits if its items fit with one level less, and else it is no longer there to fit. -/
theorem fitsIn_within_list {items : List Tree} (h : ∀ t ∈ items, t.FitsIn (room - 1)) :
    (within room (.list items)).FitsIn room := by
  unfold within
  split
  · exact .unreadable
  · obtain ⟨room, rfl⟩ : ∃ k, room = k + 1 := ⟨room - 1, by omega⟩
    exact .list h

/-- A record is read if its keys denote something, and its members are those that were read. -/
theorem fitsIn_within_record {members : List (Option String × Tree)}
    (h : ∀ m ∈ members, m.2.FitsIn (room - 1)) :
    (within room (recordOf members)).FitsIn room := by
  unfold within
  split
  · exact .unreadable
  · obtain ⟨room, rfl⟩ : ∃ k, room = k + 1 := ⟨room - 1, by omega⟩
    unfold recordOf
    split
    · rename_i ms hms
      refine .record fun m hm => ?_
      obtain ⟨p, hp, hpm⟩ := exists_of_mem_mapM hms hm
      obtain ⟨k, _, rfl⟩ := Option.map_eq_some_iff.mp hpm
      exact h p hp
    · exact .unreadable

/-- All that a reader with this fuel reads fits into the room that it has. -/
structure ReadsWithin (fuel : Nat) : Prop where
  tree : ∀ {room s t r}, readTree fuel room s = some (t, r) → t.FitsIn room
  items : ∀ {room s ts r}, readItems fuel room s = some (ts, r) → ∀ t ∈ ts, t.FitsIn room
  member : ∀ {room s m r}, readMember fuel room s = some (m, r) → m.2.FitsIn room
  members : ∀ {room s ms r}, readMembers fuel room s = some (ms, r) → ∀ m ∈ ms, m.2.FitsIn room

namespace ReadsWithin

variable {fuel : Nat} {s r : List Char}

/-- A tree of every kind fits: a list or a record is kept only where it has room, and its parts
were read with one level less. -/
theorem tree_succ (ih : ReadsWithin fuel) {t : Tree}
    (h : readTree (fuel + 1) room s = some (t, r)) : t.FitsIn room := by
  unfold readTree at h
  split at h
  · cases h
    exact .null
  · cases h
    exact .bool true
  · cases h
    exact .bool false
  · -- a text, which is unreadable where its escapes are
    obtain ⟨⟨text, rest⟩, _, ht⟩ := Option.map_eq_some_iff.mp h
    obtain ⟨rfl, _⟩ := Prod.mk.inj ht
    cases text with
    | none => exact .unreadable
    | some s => exact .text s
  · -- a list, whose items were read with one level less
    split at h
    · cases h
      exact fitsIn_within_list (List.forall_mem_nil _)
    · split at h
      · rename_i first _ hfirst
        obtain ⟨⟨ts, rest⟩, hothers, ht⟩ := Option.map_eq_some_iff.mp h
        obtain ⟨rfl, _⟩ := Prod.mk.inj ht
        exact fitsIn_within_list (List.forall_mem_cons.mpr ⟨ih.tree hfirst, ih.items hothers⟩)
      · cases h
  · -- a record, in the same way
    split at h
    · cases h
      exact fitsIn_within_record (List.forall_mem_nil _)
    · split at h
      · rename_i first _ hfirst
        obtain ⟨⟨ms, rest⟩, hothers, ht⟩ := Option.map_eq_some_iff.mp h
        obtain ⟨rfl, _⟩ := Prod.mk.inj ht
        exact fitsIn_within_record
          (List.forall_mem_cons.mpr ⟨ih.member hfirst, ih.members hothers⟩)
      · cases h
  · -- a numeral, which is unreadable where it comes to no number
    obtain ⟨⟨n, rest⟩, _, ht⟩ := Option.map_eq_some_iff.mp h
    obtain ⟨rfl, _⟩ := Prod.mk.inj ht
    cases hvalue : n.value? with
    | none => exact .unreadable
    | some x => exact .number (JsonNumeral.inFormat_of_value? hvalue)

/-- The items of a list fit, the first as a tree and the others by the same reading. -/
theorem items_succ (ih : ReadsWithin fuel) {ts : List Tree}
    (h : readItems (fuel + 1) room s = some (ts, r)) : ∀ t ∈ ts, t.FitsIn room := by
  unfold readItems at h
  split at h
  · cases h
    exact List.forall_mem_nil _
  · split at h
    · rename_i first _ hfirst
      obtain ⟨⟨others, rest⟩, hothers, hts⟩ := Option.map_eq_some_iff.mp h
      obtain ⟨rfl, _⟩ := Prod.mk.inj hts
      exact List.forall_mem_cons.mpr ⟨ih.tree hfirst, ih.items hothers⟩
    · cases h
  · cases h

/-- A member fits if its tree does. -/
theorem member_succ (ih : ReadsWithin fuel) {m : Option String × Tree}
    (h : readMember (fuel + 1) room s = some (m, r)) : m.2.FitsIn room := by
  unfold readMember at h
  split at h
  · split at h
    · split at h
      · obtain ⟨⟨t, rest⟩, ht, hm⟩ := Option.map_eq_some_iff.mp h
        obtain ⟨rfl, _⟩ := Prod.mk.inj hm
        exact ih.tree ht
      · cases h
    · cases h
  · cases h

/-- The members of a record fit, the first by itself and the others by the same reading. -/
theorem members_succ (ih : ReadsWithin fuel) {ms : List (Option String × Tree)}
    (h : readMembers (fuel + 1) room s = some (ms, r)) : ∀ m ∈ ms, m.2.FitsIn room := by
  unfold readMembers at h
  split at h
  · cases h
    exact List.forall_mem_nil _
  · split at h
    · rename_i first _ hfirst
      obtain ⟨⟨others, rest⟩, hothers, hms⟩ := Option.map_eq_some_iff.mp h
      obtain ⟨rfl, _⟩ := Prod.mk.inj hms
      exact List.forall_mem_cons.mpr ⟨ih.member hfirst, ih.members hothers⟩
    · cases h
  · cases h

end ReadsWithin

/-- What is read fits, whatever the fuel: each reader calls the others with less of it. -/
theorem readsWithin (fuel : Nat) : ReadsWithin fuel := by
  induction fuel with
  | zero =>
      exact ⟨fun h => by simp [readTree] at h, fun h => by simp [readItems] at h,
        fun h => by simp [readMember] at h, fun h => by simp [readMembers] at h⟩
  | succ fuel ih => exact ⟨ih.tree_succ, ih.items_succ, ih.member_succ, ih.members_succ⟩

end JsonText

/-- A text is read as a tree that the reader has room for. -/
theorem Tree.fitsIn_of_ofText? {s : String} {t : Tree} (h : Tree.ofText? s = some t) :
    t.FitsIn JsonText.nestingLimit := by
  unfold ofText? at h
  dsimp only at h
  split at h
  · rename_i hread
    split at h
    · obtain rfl := Option.some.inj h
      exact (JsonText.readsWithin _).tree hread
    · cases h
  · cases h

end Formwork
