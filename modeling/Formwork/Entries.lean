/-!
# Entries in order of insertion

A map that remembers the order in which its keys first came is a list of pairs.
`get?` finds the first pair with a key, `put` replaces the value of a key where
it stands or adds the key at the end, and `ofPairs` puts pair after pair: of two
pairs with one key the later gives the value and the earlier the place.

* `get?_put` — a put key has the value that was put, every other key keeps its own;
* `get?_of_mem` — where no key occurs twice, every pair is found by its key;
* `distinct_ofPairs` — what is built by `put` never holds a key twice.
-/

namespace Formwork

/-- A map as its pairs in order of insertion. -/
abbrev Entries (α : Type) := List (String × α)

namespace Entries

variable {α β : Type}

def keys (m : Entries α) : List String := m.map Prod.fst

/-- No key occurs twice. -/
def Distinct (m : Entries α) : Prop := m.keys.Nodup

instance (m : Entries α) : Decidable m.Distinct := inferInstanceAs (Decidable m.keys.Nodup)

/-- The value of the first pair with this key. -/
def get? : Entries α → String → Option α
  | [], _ => none
  | (k, v) :: rest, key => if k = key then some v else get? rest key

def contains (m : Entries α) (key : String) : Bool := (m.get? key).isSome

/-- Gives the key this value, in its place if it has one and at the end if not. -/
def put : Entries α → String → α → Entries α
  | [], key, value => [(key, value)]
  | (k, v) :: rest, key, value =>
    if k = key then (k, value) :: rest else (k, v) :: put rest key value

/-- Puts the pairs one after the other. -/
def putAll (m : Entries α) (pairs : List (String × α)) : Entries α :=
  pairs.foldl (fun m p => m.put p.1 p.2) m

/-- The map in which these pairs were put one after the other. -/
def ofPairs (pairs : List (String × α)) : Entries α := putAll [] pairs

/-- Without the pairs of a key. -/
def erase (m : Entries α) (key : String) : Entries α := m.filter fun p => p.1 ≠ key

def mapValues (f : α → β) (m : Entries α) : Entries β := m.map fun p => (p.1, f p.2)

@[simp] theorem get?_nil (key : String) : get? ([] : Entries α) key = none := rfl

theorem get?_cons (k : String) (v : α) (rest : Entries α) (key : String) :
    get? ((k, v) :: rest) key = if k = key then some v else get? rest key := rfl

/-- A key that is put is found with its new value, every other key keeps its own. -/
theorem get?_put (m : Entries α) (k key : String) (v : α) :
    (m.put k v).get? key = if k = key then some v else m.get? key := by
  induction m with
  | nil => simp [put, get?]
  | cons p rest ih =>
    obtain ⟨j, w⟩ := p
    by_cases h : j = k
    · subst h
      by_cases hk : j = key <;> simp [put, get?, hk]
    · by_cases hk : j = key
      · subst hk
        have h' : ¬k = j := fun e => h e.symm
        simp [put, get?, h, h']
      · simp [put, get?, h, hk, ih]

/-- An erased key is not found, every other key keeps its value. -/
theorem get?_erase (m : Entries α) (k key : String) :
    (m.erase k).get? key = if k = key then none else m.get? key := by
  induction m with
  | nil => simp [erase, get?]
  | cons p rest ih =>
    obtain ⟨j, w⟩ := p
    by_cases h : j = k
    · subst h
      have hrest : erase ((j, w) :: rest) j = erase rest j := by simp [erase]
      rw [hrest, ih, get?_cons]
      split <;> rfl
    · have hrest : erase ((j, w) :: rest) k = (j, w) :: erase rest k := by simp [erase, h]
      rw [hrest, get?_cons, ih, get?_cons]
      by_cases hk : j = key
      · subst hk
        simp [Ne.symm h]
      · simp [hk]

/-- Erased keys are not found, every other key keeps its value. -/
theorem get?_foldl_erase (m : Entries α) (ks : List String) (key : String) :
    (ks.foldl erase m).get? key = if key ∈ ks then none else m.get? key := by
  induction ks generalizing m with
  | nil => simp
  | cons k rest ih =>
    rw [List.foldl_cons, ih, get?_erase]
    by_cases h : k = key
    · simp [h]
    · simp [h, Ne.symm h]

/-- A function applied to all values is applied to what is found. -/
theorem get?_mapValues (f : α → β) (m : Entries α) (key : String) :
    (m.mapValues f).get? key = (m.get? key).map f := by
  induction m with
  | nil => rfl
  | cons p rest ih =>
    obtain ⟨k, v⟩ := p
    show get? ((k, f v) :: mapValues f rest) key = _
    rw [get?_cons, get?_cons, ih]
    split <;> rfl

/-- A key is found exactly if it is one of the keys. -/
theorem get?_isSome_iff (m : Entries α) (key : String) :
    (m.get? key).isSome ↔ key ∈ m.keys := by
  induction m with
  | nil => simp [get?, keys]
  | cons p rest ih =>
    obtain ⟨k, v⟩ := p
    by_cases h : k = key
    · simp [get?, keys, h]
    · simp only [get?, h, if_false, ih, keys, List.map_cons, List.mem_cons]
      exact ⟨Or.inr, fun e => e.resolve_left fun e => h e.symm⟩

/-- What is found is one of the entries. -/
theorem mem_of_get? {m : Entries α} {key : String} {v : α} (h : m.get? key = some v) :
    (key, v) ∈ m := by
  induction m with
  | nil => cases h
  | cons p rest ih =>
    obtain ⟨k, w⟩ := p
    rw [get?_cons] at h
    split at h
    · rename_i hk
      obtain rfl := Option.some.inj h
      simp [hk]
    · exact List.mem_cons_of_mem _ (ih h)

/-- Where no key occurs twice, every pair is found by its key. -/
theorem get?_of_mem {m : Entries α} (hm : m.Distinct) {key : String} {v : α}
    (h : (key, v) ∈ m) : m.get? key = some v := by
  induction m with
  | nil => cases h
  | cons p rest ih =>
    obtain ⟨k, w⟩ := p
    obtain ⟨hk, hrest⟩ := List.nodup_cons.mp hm
    rcases List.mem_cons.mp h with heq | hmem
    · obtain ⟨rfl, rfl⟩ := Prod.mk.inj heq
      simp [get?_cons]
    · have hne : k ≠ key := by
        rintro rfl
        exact hk (List.mem_map.mpr ⟨_, hmem, rfl⟩)
      rw [get?_cons, if_neg hne]
      exact ih hrest hmem

/-- A key that is put stays where it was, or comes last if it is new. -/
theorem keys_put (m : Entries α) (k : String) (v : α) :
    (m.put k v).keys = if k ∈ m.keys then m.keys else m.keys ++ [k] := by
  induction m with
  | nil => simp [put, keys]
  | cons p rest ih =>
    obtain ⟨j, w⟩ := p
    by_cases h : j = k
    · simp [put, keys, h]
    · have h' : ¬ k = j := fun e => h e.symm
      by_cases hk : k ∈ keys rest
      · simp only [put, h, if_false]
        simp only [keys, List.map_cons, List.mem_cons] at *
        simp [ih, hk]
      · simp only [put, h, if_false]
        simp only [keys, List.map_cons, List.mem_cons] at *
        simp [ih, hk, h']

/-- To put a key makes none occur twice. -/
theorem distinct_put {m : Entries α} (h : m.Distinct) (k : String) (v : α) :
    (m.put k v).Distinct := by
  unfold Distinct
  rw [keys_put]
  split
  · exact h
  · rename_i hk
    exact List.nodup_append.mpr ⟨h, by simp, fun a ha b hb e => hk (by simp_all)⟩

/-- Nor does putting many. -/
theorem distinct_putAll {m : Entries α} (h : m.Distinct) (pairs : List (String × α)) :
    (m.putAll pairs).Distinct := by
  induction pairs generalizing m with
  | nil => exact h
  | cons p rest ih => exact ih (distinct_put h p.1 p.2)

theorem distinct_ofPairs (pairs : List (String × α)) : (ofPairs pairs).Distinct :=
  distinct_putAll (m := []) (by simp [Distinct, keys]) pairs

end Entries

end Formwork
