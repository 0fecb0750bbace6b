import Formwork.Proofs.Condition.Saved
import Formwork.Proofs.Json.Closed
import Mathlib.Logic.Relation

/-!
# The grammar of conditions

A condition can be spelled in four ways: a rule or a group, each as a record or as a list.  The
reader accepts exactly what is spelled so, at every depth, and reads what is spelled.  A
record with a key that is mistyped spells neither a rule nor a group, and no group around it
then spells anything.

* `Rule.SpelledBy`, `Condition.GroupOf` and `Condition.SpelledBy` — the grammar;
* `Condition.ofTree?_eq_some_iff` — it is what the reader accepts;
* `Condition.SpelledBy.of_hasPlace` — what has the place of a condition spells one;
* `conditions_follow_grammar` — so a mistyped rule is never taken for an empty group.
-/

namespace Formwork

open Formwork.Tree

/-! ## Rules -/

/-- The trees that spell a rule.  An operand that is null is one that is not there. -/
inductive Rule.SpelledBy : Tree → Rule → Prop
  | record {members : List (String × Tree)} {field op : String} {operand : Option Value}
      (hdistinct : Entries.Distinct members)
      (hkeys : ∀ key ∈ Entries.keys members, key ∈ ["field", "op", "value"])
      (hfield : Entries.get? members "field" = some (.text field))
      (hop : Entries.get? members "op" = some (.text op))
      (hvalue : SlotOf (fun t v => t.value? = some v) (Entries.get? members "value") operand) :
      SpelledBy (.record members) ⟨field, .ofTag op, operand⟩
  | list {field op : String} {rest : List Tree} {operand : Option Value}
      (hlength : rest.length ≤ 1)
      (hvalue : SlotOf (fun t v => t.value? = some v) rest.head? operand) :
      SpelledBy (.list (.text field :: .text op :: rest)) ⟨field, .ofTag op, operand⟩

namespace Rule

/-- Three members are a rule exactly if they give a field, an operator and a value or none. -/
theorem ofMembers?_eq_some_iff {field op value : Option Tree} {r : Rule} :
    ofMembers? [field, op, value] = some r ↔ ∃ f o v, field = some (.text f) ∧
      op = some (.text o) ∧ SlotOf (fun t v => t.value? = some v) value v ∧
      ⟨f, .ofTag o, v⟩ = r := by
  have htext (m : Option Tree) (s : String) :
      required text? m = some s ↔ m = some (.text s) := by
    rcases m with _ | ⟨_ | _ | _ | _ | _ | _ | _⟩ <;> simp [required, text?]
  simp only [ofMembers?, Option.bind_eq_bind, Option.bind_eq_some_iff, Option.pure_def,
    Option.some.injEq, htext, optional_eq_some_iff]
  constructor
  · intro h
    obtain ⟨f, hf, o, ho, v, hv, hr⟩ := h
    exact ⟨f, o, v, hf, ho, hv, hr⟩
  · intro h
    obtain ⟨f, o, v, hf, ho, hv, hr⟩ := h
    exact ⟨f, hf, o, ho, v, hv, hr⟩

/-- The reader of rules accepts what spells one. -/
theorem members?_bind_eq_some_iff {t : Tree} {r : Rule} :
    (t.members? memberNames true).bind ofMembers? = some r ↔ SpelledBy t r := by
  rw [Option.bind_eq_some_iff]
  constructor
  · intro h
    obtain ⟨arranged, harranged, hr⟩ := h
    cases t with
    | record members =>
        obtain ⟨hdistinct, hkeys, rfl⟩ := arrange?_eq_some_iff.mp harranged
        obtain ⟨f, o, v, hf, ho, hv, rfl⟩ := ofMembers?_eq_some_iff.mp hr
        exact .record hdistinct hkeys hf ho hv
    | list items =>
        obtain ⟨hlength, rfl⟩ := arrangeItems?_eq_some_iff.mp harranged
        obtain ⟨f, o, v, hf, ho, hv, rfl⟩ := ofMembers?_eq_some_iff.mp hr
        rcases items with _ | ⟨first, _ | ⟨second, rest⟩⟩
        · cases hf
        · cases ho
        · obtain rfl : first = .text f := Option.some.inj hf
          obtain rfl : second = .text o := Option.some.inj ho
          refine .list (Nat.le_of_succ_le_succ (Nat.le_of_succ_le_succ hlength)) ?_
          rwa [List.head?_eq_getElem?]
    | _ => cases harranged
  · intro h
    cases h with
    | record hdistinct hkeys hf ho hv =>
        exact ⟨_, arrange?_eq_some_iff.mpr ⟨hdistinct, hkeys, rfl⟩,
          ofMembers?_eq_some_iff.mpr ⟨_, _, _, hf, ho, hv, rfl⟩⟩
    | list hlength hv =>
        rw [List.head?_eq_getElem?] at hv
        exact ⟨_, arrangeItems?_eq_some_iff.mpr
            ⟨Nat.succ_le_succ (Nat.succ_le_succ hlength), rfl⟩,
          ofMembers?_eq_some_iff.mpr ⟨_, _, _, rfl, rfl, hv, rfl⟩⟩

end Rule

/-! ## Groups -/

namespace Condition

/-- The trees that spell a group, where `R` tells what spells a condition in it. -/
inductive GroupOf (R : Tree → Condition → Prop) : Tree → Condition → Prop
  | record {members : List (String × Tree)} {xs ys : Option (List Condition)}
      (hdistinct : Entries.Distinct members)
      (hkeys : ∀ key ∈ Entries.keys members, key ∈ ["and", "or"])
      (hall : SlotOf (ListOf R) (Entries.get? members "and") xs)
      (hany : SlotOf (ListOf R) (Entries.get? members "or") ys) :
      GroupOf R (.record members) (ofLists xs ys)
  | list {items : List Tree} {xs ys : Option (List Condition)} (hlength : items.length ≤ 2)
      (hall : SlotOf (ListOf R) items[0]? xs) (hany : SlotOf (ListOf R) items[1]? ys) :
      GroupOf R (.list items) (ofLists xs ys)

/-- Two members are a group exactly if each of them gives a list of conditions or nothing. -/
theorem ofGroupMembers?_eq_some_iff {xs ys : Option Tree} {c : Condition} :
    ofGroupMembers? [xs, ys] = some c ↔ ∃ all any,
      SlotOf (ListOf fun t d => ofTree? t = some d) xs all ∧
      SlotOf (ListOf fun t d => ofTree? t = some d) ys any ∧ ofLists all any = c := by
  simp only [ofGroupMembers?, Option.bind_eq_bind, Option.bind_eq_some_iff, Option.pure_def,
    Option.some.injEq, optional_eq_some_iff, list?_eq_some_iff]
  constructor
  · intro h
    obtain ⟨all, hall, any, hany, hc⟩ := h
    exact ⟨all, any, hall, hany, hc⟩
  · intro h
    obtain ⟨all, any, hall, hany, hc⟩ := h
    exact ⟨all, hall, any, hany, hc⟩

/-- The reader of groups accepts what spells one, if the conditions in it are what it reads. -/
theorem members?_bind_eq_some_iff {t : Tree} {c : Condition} :
    (t.members? groupNames true).bind ofGroupMembers? = some c ↔
      GroupOf (fun u d => ofTree? u = some d) t c := by
  rw [Option.bind_eq_some_iff]
  constructor
  · intro h
    obtain ⟨arranged, harranged, hc⟩ := h
    cases t with
    | record members =>
        obtain ⟨hdistinct, hkeys, rfl⟩ := arrange?_eq_some_iff.mp harranged
        obtain ⟨all, any, hall, hany, rfl⟩ := ofGroupMembers?_eq_some_iff.mp hc
        exact .record hdistinct hkeys hall hany
    | list items =>
        obtain ⟨hlength, rfl⟩ := arrangeItems?_eq_some_iff.mp harranged
        obtain ⟨all, any, hall, hany, rfl⟩ := ofGroupMembers?_eq_some_iff.mp hc
        exact .list hlength hall hany
    | _ => cases harranged
  · intro h
    cases h with
    | record hdistinct hkeys hall hany =>
        exact ⟨_, arrange?_eq_some_iff.mpr ⟨hdistinct, hkeys, rfl⟩,
          ofGroupMembers?_eq_some_iff.mpr ⟨_, _, hall, hany, rfl⟩⟩
    | list hlength hall hany =>
        exact ⟨_, arrangeItems?_eq_some_iff.mpr ⟨hlength, rfl⟩,
          ofGroupMembers?_eq_some_iff.mpr ⟨_, _, hall, hany, rfl⟩⟩

end Condition

/-- In a group that `t` spells, `u` has the place of a condition. -/
inductive Tree.Holds : Tree → Tree → Prop
  | record {members : List (String × Tree)} {key : String} {items : List Tree} {u : Tree}
      (hkey : key ∈ ["and", "or"]) (hmember : (key, .list items) ∈ members) (hu : u ∈ items) :
      Holds (.record members) u
  | list {lists items : List Tree} {i : Nat} {u : Tree} (hi : i < 2)
      (hlist : lists[i]? = some (.list items)) (hu : u ∈ items) : Holds (.list lists) u

/-- However deep it is, `u` has the place of a condition in `t`. -/
def Tree.HasPlace : Tree → Tree → Prop := Relation.ReflTransGen Tree.Holds

/-- A part is smaller than the tree that holds it. -/
theorem Tree.Holds.sizeOf_lt {t u : Tree} (h : t.Holds u) : sizeOf u < sizeOf t := by
  cases h with
  | @record members key items u _ hmember hu =>
      have hinner := List.sizeOf_lt_of_mem hu
      have houter := List.sizeOf_lt_of_mem hmember
      simp only [Prod.mk.sizeOf_spec, Tree.list.sizeOf_spec] at houter
      rw [Tree.record.sizeOf_spec]
      omega
  | @list lists items i u _ hlist hu =>
      have hinner := List.sizeOf_lt_of_mem hu
      have houter := List.sizeOf_lt_of_mem (List.mem_of_getElem? hlist)
      simp only [Tree.list.sizeOf_spec] at houter ⊢
      omega

namespace Condition

/-- What holds of the parts of a group may be replaced by what follows from it. -/
theorem GroupOf.mono {R S : Tree → Condition → Prop} {t : Tree} {c : Condition}
    (h : GroupOf R t c) (hRS : ∀ u, t.Holds u → ∀ d, R u d → S u d) : GroupOf S t c := by
  cases h with
  | @record members xs ys hdistinct hkeys hall hany =>
      have hlist (key : String) (hkey : key ∈ ["and", "or"]) (xs : Option (List Condition))
          (h : SlotOf (ListOf R) (Entries.get? members key) xs) :
          SlotOf (ListOf S) (Entries.get? members key) xs :=
        h.mono fun t ht _ hlist => hlist.mono fun items hitems u hu =>
          hRS u (.record hkey (Entries.mem_of_get? (hitems ▸ ht)) hu)
      exact .record hdistinct hkeys (hlist _ (by simp) xs hall) (hlist _ (by simp) ys hany)
  | @list items xs ys hlength hall hany =>
      have hlist (i : Nat) (hi : i < 2) (xs : Option (List Condition))
          (h : SlotOf (ListOf R) items[i]? xs) : SlotOf (ListOf S) items[i]? xs :=
        h.mono fun t ht _ hlist => hlist.mono fun inner hinner u hu =>
          hRS u (.list hi (hinner ▸ ht) hu)
      exact .list hlength (hlist 0 (by omega) xs hall) (hlist 1 (by omega) ys hany)

/-- The trees that spell a condition. -/
inductive SpelledBy : Tree → Condition → Prop
  | rule {t : Tree} {r : Rule} (h : r.SpelledBy t) : SpelledBy t (.rule r)
  | group {t : Tree} {c : Condition} (h : GroupOf SpelledBy t c) : SpelledBy t c

/-- No tree spells both a rule and a group, so it makes no difference which is tried first. -/
theorem not_groupOf_of_spelledBy {R : Tree → Condition → Prop} {t : Tree} {r : Rule}
    (h : r.SpelledBy t) (c : Condition) : ¬GroupOf R t c := by
  intro hgroup
  cases h with
  | record _ _ hfield =>
      cases hgroup with
      | record _ hkeys =>
          have hmem := (Entries.get?_isSome_iff _ "field").mp (by rw [hfield]; rfl)
          exact absurd (hkeys _ hmem) (by decide)
  | list =>
      cases hgroup with
      | list _ hall =>
          cases hall with
          | value _ hlist => cases hlist

/-- A tree is read as a condition exactly if it spells the condition. -/
theorem ofTree?_eq_some_iff {t : Tree} {c : Condition} :
    ofTree? t = some c ↔ c.SpelledBy t := by
  induction hsize : sizeOf t using Nat.strong_induction_on generalizing t c with
  | _ n ih =>
      have hinner (u : Tree) (hu : t.Holds u) (d : Condition) :
          ofTree? u = some d ↔ d.SpelledBy u := ih _ (hsize ▸ hu.sizeOf_lt) rfl
      rw [ofTree?_eq, Option.or_eq_some_iff]
      constructor
      · intro h
        rcases h with hrule | hgroup
        · obtain ⟨r, hr, rfl⟩ := Option.map_eq_some_iff.mp hrule
          exact .rule (Rule.members?_bind_eq_some_iff.mp hr)
        · exact .group ((members?_bind_eq_some_iff.mp hgroup.2).mono
            fun u hu d => (hinner u hu d).mp)
      · intro h
        cases h with
        | rule hr =>
            rw [Rule.members?_bind_eq_some_iff.mpr hr]
            exact .inl rfl
        | group hgroup =>
            have hnone : (t.members? Rule.memberNames true).bind Rule.ofMembers? = none := by
              by_contra hne
              obtain ⟨r, hr⟩ := Option.ne_none_iff_exists'.mp hne
              exact not_groupOf_of_spelledBy (Rule.members?_bind_eq_some_iff.mp hr) c hgroup
            rw [hnone]
            exact .inr ⟨rfl, members?_bind_eq_some_iff.mpr
              (hgroup.mono fun u hu d => (hinner u hu d).mpr)⟩

/-! ## What a failure inside does to the whole -/

/-- Where a list is spelled, each of its items is. -/
theorem exists_spelledBy_of_slot {m : Option Tree} {xs : Option (List Condition)}
    (h : SlotOf (ListOf SpelledBy) m xs) {items : List Tree} (hm : m = some (.list items))
    {u : Tree} (hu : u ∈ items) : ∃ d, SpelledBy u d := by
  subst hm
  cases h with
  | value _ hlist => exact hlist.exists_of_mem hu

/-- What has the place of a condition in a condition spells one. -/
theorem SpelledBy.of_holds {t u : Tree} {c : Condition} (h : SpelledBy t c) (hu : t.Holds u) :
    ∃ d, SpelledBy u d := by
  cases hu with
  | @record members key items _ hkey hmember hu =>
      cases h with
      | rule hrule =>
          cases hrule with
          | record _ hkeys =>
              -- a rule has no member that is a list of conditions
              have hdeclared := hkeys key (List.mem_map_of_mem hmember)
              simp only [List.mem_cons, List.not_mem_nil, or_false] at hkey hdeclared
              rcases hkey with rfl | rfl <;> exact absurd hdeclared (by decide)
      | group hgroup =>
          cases hgroup with
          | record hdistinct _ hall hany =>
              have hget := Entries.get?_of_mem hdistinct hmember
              simp only [List.mem_cons, List.not_mem_nil, or_false] at hkey
              rcases hkey with rfl | rfl
              · exact exists_spelledBy_of_slot hall hget hu
              · exact exists_spelledBy_of_slot hany hget hu
  | @list lists items i _ hi hlist hu =>
      cases h with
      | rule hrule =>
          cases hrule with
          | list =>
              obtain rfl | rfl : i = 0 ∨ i = 1 := by omega
              · cases hlist
              · cases hlist
      | group hgroup =>
          cases hgroup with
          | list _ hall hany =>
              obtain rfl | rfl : i = 0 ∨ i = 1 := by omega
              · exact exists_spelledBy_of_slot hall hlist hu
              · exact exists_spelledBy_of_slot hany hlist hu

/-- Where a condition is spelled, every place for a condition inside it is. -/
theorem SpelledBy.of_hasPlace {t u : Tree} {c : Condition} (h : SpelledBy t c)
    (hu : t.HasPlace u) : ∃ d, SpelledBy u d := by
  induction hu with
  | refl => exact ⟨c, h⟩
  | tail _ hholds ih =>
      obtain ⟨d, hd⟩ := ih
      exact hd.of_holds hholds

/-- A record that spells a condition has the keys of a rule or of a group. -/
theorem SpelledBy.keys {members : List (String × Tree)} {c : Condition}
    (h : SpelledBy (.record members) c) : Entries.Distinct members ∧
      ((∀ key ∈ Entries.keys members, key ∈ ["field", "op", "value"]) ∧
          "field" ∈ Entries.keys members ∧ "op" ∈ Entries.keys members ∨
        ∀ key ∈ Entries.keys members, key ∈ ["and", "or"]) := by
  cases h with
  | rule hrule =>
      cases hrule with
      | record hdistinct hkeys hfield hop =>
          have hpresent {key s : String} (h : Entries.get? members key = some (.text s)) :
              key ∈ Entries.keys members :=
            (Entries.get?_isSome_iff members key).mp (by rw [h]; rfl)
          exact ⟨hdistinct, .inl ⟨hkeys, hpresent hfield, hpresent hop⟩⟩
  | group hgroup =>
      cases hgroup with
      | record hdistinct hkeys => exact ⟨hdistinct, .inr hkeys⟩

/-- The group that imposes nothing is spelled by what sets no list and has nothing else. -/
theorem unset_spelledBy_iff {t : Tree} : SpelledBy t .unset ↔
    (∃ members, t = .record members ∧ Entries.Distinct members ∧
      ∀ m ∈ members, m.1 ∈ ["and", "or"] ∧ m.2 = .null) ∨
    ∃ items, t = .list items ∧ items.length ≤ 2 ∧ ∀ u ∈ items, u = .null := by
  -- only two lists that are both missing give the unset group
  have hnone (xs ys : Option (List Condition)) (h : .unset = ofLists xs ys) :
      xs = none ∧ ys = none := by
    cases xs <;> cases ys <;> simp [ofLists] at h ⊢
  constructor
  · intro h
    generalize hc : Condition.unset = c at h
    cases h with
    | rule => cases hc
    | group hgroup =>
        cases hgroup with
        | @record members xs ys hdistinct hkeys hall hany =>
            obtain ⟨rfl, rfl⟩ := hnone xs ys hc
            refine .inl ⟨members, rfl, hdistinct, fun m hm => ?_⟩
            have hkey := hkeys m.1 (List.mem_map_of_mem hm)
            have hget := Entries.get?_of_mem hdistinct hm
            refine ⟨hkey, ?_⟩
            simp only [List.mem_cons, List.not_mem_nil, or_false] at hkey
            rcases hkey with hkey | hkey
            · exact SlotOf.none_iff.mp hall _ (hkey ▸ hget)
            · exact SlotOf.none_iff.mp hany _ (hkey ▸ hget)
        | @list items xs ys hlength hall hany =>
            obtain ⟨rfl, rfl⟩ := hnone xs ys hc
            refine .inr ⟨items, rfl, hlength, fun u hu => ?_⟩
            -- a list has two slots, and both of them are null
            obtain ⟨i, hi⟩ := List.mem_iff_getElem?.mp hu
            have hbound := (List.getElem?_eq_some_iff.mp hi).1
            obtain rfl | rfl : i = 0 ∨ i = 1 := by omega
            · exact SlotOf.none_iff.mp hall u hi
            · exact SlotOf.none_iff.mp hany u hi
  · intro h
    rcases h with ⟨members, rfl, hdistinct, hmembers⟩ | ⟨items, rfl, hlength, hitems⟩
    · have hslot (key : String) : SlotOf (ListOf SpelledBy) (Entries.get? members key) none :=
        SlotOf.none_iff.mpr fun u hu => (hmembers _ (Entries.mem_of_get? hu)).2
      refine .group (.record hdistinct ?_ (hslot "and") (hslot "or"))
      intro key hkey
      obtain ⟨m, hm, rfl⟩ := List.mem_map.mp hkey
      exact (hmembers m hm).1
    · have hslot (i : Nat) : SlotOf (ListOf SpelledBy) items[i]? none :=
        SlotOf.none_iff.mpr fun u hu => hitems u (List.mem_of_getElem? hu)
      exact .group (.list hlength (hslot 0) (hslot 1))

end Condition

/-- **Conditions follow their grammar.**  A tree is read as a condition exactly if it spells the
condition.  Where it spells a rule, it spells nothing else.  In a tree that is read, whatever has
the place of a condition, however deep, is read as well, and if it is a record, its keys are
distinct and are those of a rule or those of a group: one key that is not among them, or comes
twice, or is missing, and the whole tree is refused.  The group that imposes nothing is read
only where nothing was written but lists that are null. -/
theorem conditions_follow_grammar :
    (∀ (t : Tree) (c : Condition), Condition.ofTree? t = some c ↔ c.SpelledBy t) ∧
    (∀ (t : Tree) (r : Rule) (c : Condition), r.SpelledBy t → c.SpelledBy t → c = .rule r) ∧
    (∀ (t : Tree) (c : Condition), Condition.ofTree? t = some c → ∀ u, t.HasPlace u →
      (Condition.ofTree? u).isSome ∧
      ∀ members, u = .record members → Entries.Distinct members ∧
        ((∀ key ∈ Entries.keys members, key ∈ ["field", "op", "value"]) ∧
            "field" ∈ Entries.keys members ∧ "op" ∈ Entries.keys members ∨
          ∀ key ∈ Entries.keys members, key ∈ ["and", "or"])) ∧
    ∀ t : Tree, Condition.ofTree? t = some .unset ↔
      (∃ members, t = .record members ∧ Entries.Distinct members ∧
        ∀ m ∈ members, m.1 ∈ ["and", "or"] ∧ m.2 = .null) ∨
      ∃ items, t = .list items ∧ items.length ≤ 2 ∧ ∀ u ∈ items, u = .null := by
  refine ⟨fun _ _ => Condition.ofTree?_eq_some_iff, ?_, ?_, ?_⟩
  · intro t r c hr hc
    have hrule := Condition.ofTree?_eq_some_iff.mpr (.rule hr)
    have hread := Condition.ofTree?_eq_some_iff.mpr hc
    exact Option.some.inj (hread.symm.trans hrule)
  · intro t c h u hu
    obtain ⟨d, hd⟩ := (Condition.ofTree?_eq_some_iff.mp h).of_hasPlace hu
    refine ⟨by rw [Condition.ofTree?_eq_some_iff.mpr hd]; rfl, ?_⟩
    rintro members rfl
    exact hd.keys
  · intro t
    rw [Condition.ofTree?_eq_some_iff, Condition.unset_spelledBy_iff]

/-- One key that is mistyped, two groups deep, and the tree is refused; without the mistake it is
read. -/
theorem mistyped_rule_refused :
    let age (key : String) : Tree := .record [(key, .text "age"), ("op", .text "gte"),
      ("value", .number (.integer 18))]
    let name : Tree := .list [.text "name", .text "exists"]
    let either (key : String) : Tree := .record [("or", .list [age key])]
    let both (key : String) : Tree := .record [("and", .list [name, either key])]
    (∀ key, (both key).HasPlace (age key)) ∧
    Condition.ofTree? (both "field") = some (.all [.rule ⟨"name", .present, none⟩,
      .any [.rule ⟨"age", .atLeast, some (.number (.integer 18))⟩]]) ∧
    (Condition.ofTree? (age "field")).isSome ∧ Condition.ofTree? (both "feild") = none := by
  intro age name either both
  obtain ⟨-, -, hplaces, -⟩ := conditions_follow_grammar
  have hplace (key : String) : (both key).HasPlace (age key) := by
    have houter : (both key).Holds (either key) :=
      .record (by decide) List.mem_cons_self (List.mem_cons_of_mem _ List.mem_cons_self)
    have hinner : (either key).Holds (age key) :=
      .record (by decide) List.mem_cons_self List.mem_cons_self
    exact .tail (.single houter) hinner
  have hread : Condition.ofTree? (both "field") = some (.all [.rule ⟨"name", .present, none⟩,
      .any [.rule ⟨"age", .atLeast, some (.number (.integer 18))⟩]]) := rfl
  refine ⟨hplace, hread, (hplaces _ _ hread _ (hplace "field")).1, ?_⟩
  by_contra hne
  obtain ⟨c, hc⟩ := Option.ne_none_iff_exists'.mp hne
  have hkeys := ((hplaces _ c hc _ (hplace "feild")).2 _ rfl).2
  revert hkeys
  decide

end Formwork
