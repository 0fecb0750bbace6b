import Formwork.Compilation.Leaf
import Formwork.Value.Path

/-!
# Segments and walks

The segments of a path that is put together from two are those of the one and then those of
the other, and a walk along them is the one walk after the other.  A path without dots is
its own only segment, so that looking it up is looking up a key, and keys without dots are the
segments of the path that is made of them.  All that a look-up reads of a snapshot is the value
of two keys, the path itself and its first segment.

* `segments_append` and `segments_of_no_dot` — the segments of a path;
* `segments_dotted` — the segments of a path that is made of keys;
* `Value.walk?_append` and `Snapshot.walk?_append` — a walk in two parts;
* `Snapshot.resolve?_congr` — the two keys that a look-up reads;
* `Value.under` and `Snapshot.withPart` — a value deep in a record, where a walk finds it again.
-/

namespace Formwork

/-! ## The segments of a path -/

/-- Every text has at least one segment. -/
theorem splitAtDots_ne_nil (cs : List Char) : splitAtDots cs ≠ [] := by
  cases cs with
  | nil => simp [splitAtDots]
  | cons c rest =>
      unfold splitAtDots
      split
      · simp
      · split <;> simp

/-- A dot separates the segments before it from those after it. -/
theorem splitAtDots_append (s t : List Char) :
    splitAtDots (s ++ '.' :: t) = splitAtDots s ++ splitAtDots t := by
  induction s with
  | nil => simp [splitAtDots]
  | cons c rest ih =>
      by_cases hc : c = '.'
      · simp [splitAtDots, hc, ih]
      · obtain ⟨part, parts, hrest⟩ := List.exists_cons_of_ne_nil (splitAtDots_ne_nil rest)
        simp [splitAtDots, hc, ih, hrest]

/-- A text without dots is one segment. -/
theorem splitAtDots_of_no_dot {cs : List Char} (h : '.' ∉ cs) : splitAtDots cs = [cs] := by
  induction cs with
  | nil => rfl
  | cons c rest ih =>
      rw [List.mem_cons, not_or] at h
      obtain ⟨hc, hrest⟩ := h
      simp [splitAtDots, Ne.symm hc, ih hrest]

/-- A path that goes on after a dot has the segments of both its parts. -/
theorem segments_append (name rest : String) :
    segments (name ++ "." ++ rest) = segments name ++ segments rest := by
  have hlist : (name ++ "." ++ rest).toList = name.toList ++ '.' :: rest.toList := by simp
  rw [segments, hlist, splitAtDots_append, List.map_append]
  rfl

theorem segments_of_no_dot {name : String} (h : '.' ∉ name.toList) : segments name = [name] := by
  simp [segments, splitAtDots_of_no_dot h]

theorem segments_ne_nil (path : String) : segments path ≠ [] := by
  simp [segments, splitAtDots_ne_nil]

/-- The key that the walk along a path starts from. -/
def firstSegment (path : String) : String := (segments path).head (segments_ne_nil path)

theorem segments_eq_cons (path : String) :
    segments path = firstSegment path :: (segments path).tail :=
  (List.cons_head_tail (segments_ne_nil path)).symm

theorem firstSegment_of_no_dot {name : String} (h : '.' ∉ name.toList) :
    firstSegment name = name := by
  simp [firstSegment, segments_of_no_dot h]

/-- What follows a dot has no part in the first segment. -/
theorem firstSegment_append (name rest : String) :
    firstSegment (name ++ "." ++ rest) = firstSegment name := by
  simp only [firstSegment, segments_append]
  exact List.head_append_of_ne_nil _

/-- A path begins with what stands before its first dot. -/
theorem firstSegment_of_dot {path : String} (h : '.' ∈ path.toList) :
    ∃ rest, path = firstSegment path ++ "." ++ rest ∧ '.' ∉ (firstSegment path).toList := by
  obtain ⟨before, after, hpath, hbefore⟩ := List.eq_append_cons_of_mem h
  have hsplit : path = String.ofList before ++ "." ++ String.ofList after := by
    rw [← String.toList_inj]
    simpa using hpath
  have hfirst : firstSegment path = String.ofList before := by
    rw [hsplit, firstSegment_append]
    exact firstSegment_of_no_dot (by simpa using hbefore)
  refine ⟨String.ofList after, ?_, ?_⟩
  · rw [hfirst]
    exact hsplit
  · simpa [hfirst] using hbefore

/-- The first segment has no dot. -/
theorem no_dot_firstSegment (path : String) : '.' ∉ (firstSegment path).toList := by
  by_cases h : '.' ∈ path.toList
  · obtain ⟨_, _, hfirst⟩ := firstSegment_of_dot h
    exact hfirst
  · rwa [firstSegment_of_no_dot h]

/-! ## Keys joined by dots -/

theorem dotted_singleton (key : String) : dotted [key] = key := String.intercalate_singleton

theorem dotted_cons {keys : List String} (h : keys ≠ []) (key : String) :
    dotted (key :: keys) = key ++ "." ++ dotted keys :=
  String.intercalate_cons_of_ne_nil h

/-- Keys without dots are the segments of the path that is made of them. -/
theorem segments_dotted {keys : List String} (hne : keys ≠ [])
    (hdots : ∀ key ∈ keys, '.' ∉ key.toList) : segments (dotted keys) = keys := by
  induction keys with
  | nil => exact absurd rfl hne
  | cons key rest ih =>
      obtain ⟨hkey, hrest⟩ := List.forall_mem_cons.mp hdots
      by_cases hlast : rest = []
      · rw [hlast, dotted_singleton, segments_of_no_dot hkey]
      · calc segments (dotted (key :: rest))
            = segments key ++ segments (dotted rest) := by
              rw [dotted_cons hlast, segments_append]
          _ = [key] ++ rest := by rw [segments_of_no_dot hkey, ih hlast hrest]

/-- A path that is made of keys has the characters of each. -/
theorem toList_subset_dotted {keys : List String} {key : String} (h : key ∈ keys) :
    key.toList ⊆ (dotted keys).toList := by
  induction keys with
  | nil => cases h
  | cons first rest ih =>
      by_cases hlast : rest = []
      · rw [hlast] at h ⊢
        rw [dotted_singleton, List.mem_singleton.mp h]
        exact List.Subset.refl _
      · rw [dotted_cons hlast, String.toList_append, String.toList_append]
        rcases List.mem_cons.mp h with rfl | hrest
        · exact List.subset_append_of_subset_left _ (List.subset_append_left _ _)
        · exact List.subset_append_of_subset_right _ (ih hrest)

/-! ## Walks -/

namespace Value

/-- A walk of two parts goes on from where the first of them leads. -/
theorem walk?_append (v : Value) (xs ys : List String) :
    v.walk? (xs ++ ys) = (v.walk? xs).bind (walk? · ys) := by
  induction xs generalizing v with
  | nil => rfl
  | cons x xs ih =>
      simp only [List.cons_append, walk?, Option.bind_assoc]
      exact congrArg _ (funext ih)

/-- A value in a record under a key, in a record under a key, and so on. -/
def under : List String → Value → Value
  | [], v => v
  | key :: rest, v => .record [(key, under rest v)]

/-- A walk along the keys finds the value that was put under them. -/
theorem walk?_under (keys : List String) (v : Value) : (under keys v).walk? keys = some v := by
  induction keys with
  | nil => rfl
  | cons key rest ih => simpa [under, walk?, part?, Entries.get?_cons] using ih

end Value

namespace Snapshot

variable {values v w : Snapshot} {name path rest : String}

/-- A walk from a snapshot goes on from where its first part leads. -/
theorem walk?_append {xs ys : List String} (h : xs ≠ []) :
    values.walk? (xs ++ ys) = (values.walk? xs).bind (Value.walk? · ys) := by
  cases xs with
  | nil => exact absurd rfl h
  | cons key rest =>
      simp only [List.cons_append, walk?, Option.bind_assoc]
      exact congrArg _ (funext fun v => v.walk?_append rest ys)

/-- A walk begins at the key that is the first segment. -/
theorem walk?_segments (values : Snapshot) (path : String) : values.walk? (segments path) =
    (values.get? (firstSegment path)).bind (Value.walk? · (segments path).tail) := by
  rw [segments_eq_cons path]
  rfl

/-- A walk along a name without dots looks up this key. -/
theorem walk?_of_no_dot (h : '.' ∉ path.toList) :
    values.walk? (segments path) = values.get? path := by
  rw [segments_of_no_dot h]
  simp [walk?, Value.walk?]

/-- A path in two parts that is no key leads where the one walk after the other does. -/
theorem resolve?_append (h : values.get? (name ++ "." ++ rest) = none) :
    values.resolve? (name ++ "." ++ rest) =
      (values.walk? (segments name)).bind (Value.walk? · (segments rest)) := by
  rw [resolve?_of_no_key h, segments_append, walk?_append (segments_ne_nil name)]

/-- A look-up reads two keys, the path itself and its first segment. -/
theorem resolve?_congr (hpath : v.get? path = w.get? path)
    (hfirst : v.get? (firstSegment path) = w.get? (firstSegment path)) :
    v.resolve? path = w.resolve? path := by
  unfold resolve?
  rw [hpath, walk?_segments, walk?_segments, hfirst]

/-- In an empty snapshot no path has a value. -/
theorem resolve?_nil (path : String) : resolve? [] path = none := by
  rw [resolve?_of_no_key (by simp), walk?_segments]
  simp

/-- No name is longer than itself. -/
theorem ne_append_dot (name rest : String) : name ≠ name ++ "." ++ rest := by
  intro h
  have hlength := congrArg String.length h
  have hdot : ".".length = 1 := by decide
  simp only [String.length_append] at hlength
  omega

/-- A snapshot with a value under one key, which has something in this part. -/
def withPart (name rest : String) : Snapshot :=
  [(name, Value.under (segments rest) (.bool true))]

/-- The name has a value with a part under it. -/
theorem get?_withPart_self (name rest : String) : (withPart name rest).get? name =
    some (Value.under (segments rest) (.bool true)) := by
  simp [withPart, Entries.get?_cons]

theorem get?_withPart_other {key : String} (h : key ≠ name) :
    (withPart name rest).get? key = none := by
  simp [withPart, Entries.get?_cons, Ne.symm h]

theorem get?_withPart_path (name rest : String) :
    (withPart name rest).get? (name ++ "." ++ rest) = none :=
  get?_withPart_other (ne_append_dot name rest).symm

/-- The part is found by its path if the key has no dot. -/
theorem resolve?_withPart (h : '.' ∉ name.toList) :
    (withPart name rest).resolve? (name ++ "." ++ rest) = some (.bool true) := by
  rw [resolve?_append (get?_withPart_path name rest), walk?_of_no_dot h, get?_withPart_self]
  exact Value.walk?_under _ _

/-- The part is not found by its path if the key has a dot. -/
theorem walk?_withPart (h : '.' ∈ name.toList) :
    (withPart name rest).walk? (segments name) = none := by
  have hfirst : firstSegment name ≠ name := by
    intro heq
    refine no_dot_firstSegment name ?_
    rwa [heq]
  rw [walk?_segments, get?_withPart_other hfirst]
  rfl

end Snapshot

end Formwork
