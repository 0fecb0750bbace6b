import Formwork.Proofs.Value.Path
import Mathlib.Data.List.Forall2

/-!
# Locations in a snapshot

A location is a key at the top and steps down from its value, each to the member of a record
with a key or to the item of a list at a position.  A path is a text: its segments say which
steps to take, but not of which kind, and whether a segment is a key or a position depends on
the value that it comes to.  A path that is itself a key at the top leads to the value of this
key and to no other.  So paths and locations are not the same thing, but they reach the same
values: every location whose keys have no dots has a path, and what is found at a path has a
location.

* `Value.HasAt` and `Snapshot.HasAt` — the value at a location;
* `position?_repr` — a position is read back from its decimal digits;
* `Value.part?_eq_some_iff` and `Value.walk?_eq_some_iff` — one step, and a walk;
* `Snapshot.resolve?_eq_some_iff` — all that a path may lead to;
* `paths_reach_locations` — paths lead to every location, and nowhere else.
-/

namespace Formwork

/-- A step from a value down to one of its parts. -/
inductive DownStep where
  | member (key : String)
  | item (position : Nat)
deriving DecidableEq, Repr

namespace DownStep

/-- How a step is written: a key as it is, a position in decimal digits. -/
def text : DownStep → String
  | .member key => key
  | .item position => position.repr

/-- The key of a step that has one. -/
def key? : DownStep → Option String
  | .member key => some key
  | .item _ => none

/-- The segment may be read as this step. -/
def NamedBy (segment : String) : DownStep → Prop
  | .member key => segment = key
  | .item position => position? segment = some position

end DownStep

/-- A place in a snapshot: a key at the top, and the steps down from its value. -/
structure Location where
  top : String
  steps : List DownStep := []
deriving DecidableEq, Repr

namespace Location

/-- The keys on the way to a location. -/
def keys (l : Location) : List String := l.top :: l.steps.filterMap DownStep.key?

/-- The path of a location: its keys and positions, joined by dots. -/
def path (l : Location) : String := dotted (l.top :: l.steps.map DownStep.text)

/-- The path may be read as the way to this location, segment by segment. -/
def NamedBy (path : String) (l : Location) : Prop :=
  firstSegment path = l.top ∧ List.Forall₂ DownStep.NamedBy (segments path).tail l.steps

end Location

/-- The value has this part, one step down. -/
inductive Value.HasPart : Value → DownStep → Value → Prop
  | member {members : List (String × Value)} {key : String} {v : Value}
      (h : Entries.get? members key = some v) : HasPart (.record members) (.member key) v
  | item {items : List Value} {position : Nat} {v : Value} (h : items[position]? = some v) :
      HasPart (.list items) (.item position) v

/-- The steps lead from the one value down to the other. -/
inductive Value.HasAt : Value → List DownStep → Value → Prop
  | here (v : Value) : HasAt v [] v
  | down {v part w : Value} {step : DownStep} {steps : List DownStep}
      (hpart : v.HasPart step part) (h : HasAt part steps w) : HasAt v (step :: steps) w

/-- The snapshot has this value at the location. -/
def Snapshot.HasAt (values : Snapshot) (l : Location) (w : Value) : Prop :=
  ∃ v, values.get? l.top = some v ∧ v.HasAt l.steps w

/-! ## Positions -/

/-- A number is written in digits. -/
theorem isDigit_of_mem_repr {n : Nat} {c : Char} (h : c ∈ n.repr.toList) : c.isDigit = true := by
  rw [Nat.toList_repr] at h
  exact Nat.isDigit_of_mem_toDigits (by decide) (by decide) h

/-- A text of digits is read as their number. -/
theorem position?_of_digits {segment : String} (hne : segment.toList ≠ [])
    (hdigits : ∀ c ∈ segment.toList, c.isDigit = true) :
    position? segment = some (digitsValue segment.toList) := by
  cases htext : segment.toList with
  | nil => exact absurd htext hne
  | cons c rest =>
      rw [htext] at hdigits
      have hplus : c ≠ '+' := by
        rintro rfl
        exact absurd (hdigits '+' List.mem_cons_self) (by decide)
      have hall : (c :: rest).all Char.isDigit = true := List.all_eq_true.mpr hdigits
      simp [position?, htext, hplus, hall]

/-- A position is read back from its decimal digits. -/
theorem position?_repr (n : Nat) : position? n.repr = some n := by
  have hne : n.repr.toList ≠ [] := by
    rw [Nat.toList_repr]
    exact Nat.toDigits_ne_nil
  rw [position?_of_digits hne fun _ => isDigit_of_mem_repr, Nat.toList_repr]
  exact congrArg some Nat.ofDigitChars_ten_toDigits

/-! ## Steps and walks -/

namespace DownStep

/-- Every step goes by its own text. -/
theorem namedBy_text (s : DownStep) : s.NamedBy s.text := by
  cases s with
  | member key => rfl
  | item position => exact position?_repr position

/-- The text of a step has no dot if its key has none. -/
theorem no_dot_text {s : DownStep} (h : ∀ key, s.key? = some key → '.' ∉ key.toList) :
    '.' ∉ s.text.toList := by
  cases s with
  | member key => exact h key rfl
  | item position =>
      intro hdot
      have hdigit := isDigit_of_mem_repr hdot
      simp at hdigit

end DownStep

namespace Value

/-- The part that a segment names is one that a step leads to, as which it may be read. -/
theorem part?_eq_some_iff {v w : Value} {segment : String} :
    v.part? segment = some w ↔ ∃ s, DownStep.NamedBy segment s ∧ v.HasPart s w := by
  constructor
  · intro h
    cases v with
    | record members => exact ⟨.member segment, rfl, .member h⟩
    | list items =>
        obtain ⟨position, hposition, hitem⟩ := Option.bind_eq_some_iff.mp h
        exact ⟨.item position, hposition, .item hitem⟩
    | null => cases h
    | bool b => cases h
    | number n => cases h
    | text s => cases h
  · intro h
    obtain ⟨s, hs, hpart⟩ := h
    cases hpart with
    | member h =>
        obtain rfl := hs
        exact h
    | item h => exact Option.bind_eq_some_iff.mpr ⟨_, hs, h⟩

/-- A walk along segments ends where steps lead as which they may be read, one by one. -/
theorem walk?_eq_some_iff {v w : Value} {names : List String} :
    v.walk? names = some w ↔ ∃ steps, List.Forall₂ DownStep.NamedBy names steps ∧
      v.HasAt steps w := by
  induction names generalizing v with
  | nil =>
      constructor
      · intro h
        obtain rfl := Option.some.inj h
        exact ⟨[], .nil, .here v⟩
      · intro h
        obtain ⟨steps, hnames, hat⟩ := h
        obtain rfl := List.forall₂_nil_left_iff.mp hnames
        cases hat
        rfl
  | cons name rest ih =>
      simp only [walk?, Option.bind_eq_some_iff, part?_eq_some_iff, ih]
      constructor
      · intro h
        obtain ⟨part, ⟨s, hs, hpart⟩, steps, hrest, hat⟩ := h
        exact ⟨s :: steps, .cons hs hrest, .down hpart hat⟩
      · intro h
        obtain ⟨_, hnames, hat⟩ := h
        cases hat with
        | here => cases hnames
        | down hpart hat =>
            obtain ⟨hs, hrest⟩ := List.forall₂_cons.mp hnames
            exact ⟨_, ⟨_, hs, hpart⟩, _, hrest, hat⟩

end Value

/-! ## Paths and locations -/

/-- A location whose keys have no dots is named by its path. -/
theorem Location.namedBy_path {l : Location} (h : ∀ key ∈ l.keys, '.' ∉ key.toList) :
    Location.NamedBy l.path l := by
  obtain ⟨htop, hsteps⟩ := List.forall_mem_cons.mp h
  have hdots : ∀ name ∈ l.top :: l.steps.map DownStep.text, '.' ∉ name.toList := by
    refine List.forall_mem_cons.mpr ⟨htop, List.forall_mem_map.mpr ?_⟩
    intro s hs
    exact DownStep.no_dot_text fun key hkey => hsteps key (List.mem_filterMap.mpr ⟨s, hs, hkey⟩)
  have hsegments : segments l.path = l.top :: l.steps.map DownStep.text :=
    segments_dotted (by simp) hdots
  constructor
  · simp [firstSegment, hsegments]
  · rw [hsegments, List.tail_cons, List.forall₂_map_left_iff, List.forall₂_same]
    exact fun s _ => s.namedBy_text

namespace Snapshot

variable {values : Snapshot} {path : String} {w : Value}

/-- The walk along a path ends at a location that it names. -/
theorem walk?_eq_some_iff : values.walk? (segments path) = some w ↔
    ∃ l, Location.NamedBy path l ∧ values.HasAt l w := by
  rw [walk?_segments, Option.bind_eq_some_iff]
  simp only [Value.walk?_eq_some_iff]
  constructor
  · intro h
    obtain ⟨v, htop, steps, hnames, hat⟩ := h
    exact ⟨⟨firstSegment path, steps⟩, ⟨rfl, hnames⟩, v, htop, hat⟩
  · intro h
    obtain ⟨l, ⟨hfirst, hnames⟩, v, htop, hat⟩ := h
    rw [← hfirst] at htop
    exact ⟨v, htop, l.steps, hnames, hat⟩

/-- A path leads to the value of the key that is equal to it; if there is none, to the value at
a location that it names. -/
theorem resolve?_eq_some_iff : values.resolve? path = some w ↔
    values.get? path = some w ∨
      values.get? path = none ∧ ∃ l, Location.NamedBy path l ∧ values.HasAt l w := by
  rw [← walk?_eq_some_iff, resolve?]
  cases values.get? path <;> simp

/-- **Paths lead to every location, and nowhere else.**  The path of a location whose keys have
no dots leads to the value that is there, unless the whole path is a key at the top: then it
leads to the value of this key.  Whatever a path leads to is the value at some location. -/
theorem paths_reach_locations (values : Snapshot) :
    (∀ l v, values.HasAt l v → (∀ key ∈ l.keys, '.' ∉ key.toList) →
      values.resolve? l.path = (values.get? l.path).or (some v)) ∧
    ∀ path v, values.resolve? path = some v → ∃ l, values.HasAt l v := by
  constructor
  · intro l v hat hdots
    cases hkey : values.get? l.path with
    | some u => exact resolve?_of_key hkey
    | none => exact resolve?_eq_some_iff.mpr (Or.inr ⟨hkey, l, Location.namedBy_path hdots, hat⟩)
  · intro path v h
    rcases resolve?_eq_some_iff.mp h with hkey | ⟨_, l, _, hat⟩
    · exact ⟨{ top := path }, v, hkey, .here v⟩
    · exact ⟨l, hat⟩

end Snapshot

/-- Two items, and a key at the top that is spelled like the path of the second. -/
def stock : Snapshot :=
  [("items", .list [.record [("sku", .text "X1")], .record [("sku", .text "X2")]]),
    ("items.1", .text "sold")]

/-- The number of the first item. -/
def firstSku : Location := { top := "items", steps := [.item 0, .member "sku"] }

/-- The second item. -/
def secondItem : Location := { top := "items", steps := [.item 1] }

/-- The number of the first item is found at its path, in other spellings of the position too;
at the path of the second item is not this item but the key. -/
theorem second_item_behind_key :
    (stock.HasAt firstSku (.text "X1") ∧ (∀ key ∈ firstSku.keys, '.' ∉ key.toList) ∧
      firstSku.path = "items.0.sku" ∧ stock.resolve? "items.0.sku" = some (.text "X1")) ∧
    (stock.HasAt secondItem (.record [("sku", .text "X2")]) ∧
      (∀ key ∈ secondItem.keys, '.' ∉ key.toList) ∧
      secondItem.path = "items.1" ∧ stock.resolve? "items.1" = some (.text "sold")) ∧
    stock.resolve? "items.+00.sku" = some (.text "X1") ∧
      ∃ l, stock.HasAt l (.text "X1") := by
  obtain ⟨hreach, hback⟩ := Snapshot.paths_reach_locations stock
  have hfirst : stock.HasAt firstSku (.text "X1") :=
    ⟨_, rfl, .down (.item rfl) (.down (.member rfl) (.here _))⟩
  have hsecond : stock.HasAt secondItem (.record [("sku", .text "X2")]) :=
    ⟨_, rfl, .down (.item rfl) (.here _)⟩
  have hfirstDots : ∀ key ∈ firstSku.keys, '.' ∉ key.toList := by decide +kernel
  have hsecondDots : ∀ key ∈ secondItem.keys, '.' ∉ key.toList := by decide +kernel
  have hfirstPath : firstSku.path = "items.0.sku" := by decide +kernel
  have hsecondPath : secondItem.path = "items.1" := by decide +kernel
  have hspelled : stock.resolve? "items.+00.sku" = some (.text "X1") := by decide +kernel
  refine ⟨⟨hfirst, hfirstDots, hfirstPath, ?_⟩, ⟨hsecond, hsecondDots, hsecondPath, ?_⟩,
    hspelled, hback _ _ hspelled⟩
  · have h := hreach firstSku _ hfirst hfirstDots
    rwa [hfirstPath, show stock.get? "items.0.sku" = none by decide +kernel] at h
  · have h := hreach secondItem _ hsecond hsecondDots
    rwa [hsecondPath, show stock.get? "items.1" = some (.text "sold") by decide +kernel] at h

end Formwork
