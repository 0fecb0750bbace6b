import Formwork.Text.CharClass

/-!
# Set operations on classes of characters

A class is asked one character at a time, so what an operation does is said by the characters
that its result contains.

* `contains_normalize` — to normalize a class changes nothing;
* `contains_complement` — the complement contains the characters that the class does not;
* `contains_union`, `contains_intersection`, `contains_difference`,
  `contains_symmetricDifference` — the other operations.

A complement is read off the gaps between ranges, and a range whose ends are the wrong way
round has none on either side: hence `Proper`, which every class of a pattern is.
-/

namespace Formwork

namespace CharClass

/-- No range has its ends the wrong way round. -/
def Proper (ranges : CharClass) : Prop := ∀ r ∈ ranges, r.1 ≤ r.2

instance (ranges : CharClass) : Decidable ranges.Proper :=
  inferInstanceAs (Decidable (∀ r ∈ ranges, r.1 ≤ r.2))

/-- The ranges come in order, with a gap between one and the next. -/
def Apart (ranges : CharClass) : Prop := ranges.Pairwise fun r s => r.2 + 1 < s.1

variable {a b ranges rest : CharClass} {r : Nat × Nat} {x start : Nat}

/-! ## Membership -/

theorem containsCode_iff : ranges.containsCode x = true ↔ ∃ r ∈ ranges, r.1 ≤ x ∧ x ≤ r.2 := by
  simp [containsCode]

@[simp] theorem containsCode_nil : containsCode [] x = false := rfl

theorem containsCode_cons_iff : containsCode (r :: rest) x = true ↔
    (r.1 ≤ x ∧ x ≤ r.2) ∨ containsCode rest x = true := by
  simp [containsCode_iff]

/-- A list of ranges contains what either of its two parts contains. -/
@[simp] theorem containsCode_append :
    containsCode (a ++ b) x = (a.containsCode x || b.containsCode x) :=
  List.any_append

/-- The order of the ranges does not matter. -/
theorem containsCode_perm (h : a.Perm b) : a.containsCode x = b.containsCode x := by
  rw [Bool.eq_iff_iff, containsCode_iff, containsCode_iff]
  simp only [h.mem_iff]

/-! ## Joining ranges -/

/-- A range of a joined list starts no earlier than the first range that was joined. -/
theorem fst_le_of_mem_merge {s : Nat × Nat} (hsorted : ∀ t ∈ rest, r.1 ≤ t.1)
    (hrest : rest.Pairwise fun s t => s.1 ≤ t.1) (hs : s ∈ merge r rest) : r.1 ≤ s.1 := by
  induction rest generalizing r with
  | nil =>
      rw [merge, List.mem_singleton] at hs
      exact Nat.le_of_eq (congrArg Prod.fst hs.symm)
  | cons t rest ih =>
      obtain ⟨hhead, htail⟩ := List.pairwise_cons.mp hrest
      have hfirst := hsorted t List.mem_cons_self
      rw [merge] at hs
      split at hs
      · exact ih (r := (r.1, max r.2 t.2))
          (fun u hu => hsorted u (List.mem_cons_of_mem t hu)) htail hs
      · rcases List.mem_cons.mp hs with rfl | hs
        · exact Nat.le_refl _
        · exact Nat.le_trans hfirst (ih hhead htail hs)

/-- To join ranges that touch leaves the characters as they are. -/
theorem containsCode_merge (hsorted : ∀ t ∈ rest, r.1 ≤ t.1)
    (hrest : rest.Pairwise fun s t => s.1 ≤ t.1) :
    (merge r rest).containsCode x = containsCode (r :: rest) x := by
  induction rest generalizing r with
  | nil => rfl
  | cons t rest ih =>
      obtain ⟨hhead, htail⟩ := List.pairwise_cons.mp hrest
      have hfirst := hsorted t List.mem_cons_self
      rw [merge, Bool.eq_iff_iff]
      split
      next htouch =>
        -- the two ranges touch, so the joined one has no character between them
        have hjoined : r.1 ≤ x ∧ x ≤ max r.2 t.2 ↔
            (r.1 ≤ x ∧ x ≤ r.2) ∨ (t.1 ≤ x ∧ x ≤ t.2) := by omega
        rw [ih (r := (r.1, max r.2 t.2)) (fun u hu => hsorted u (List.mem_cons_of_mem t hu)) htail,
          containsCode_cons_iff, containsCode_cons_iff, containsCode_cons_iff, hjoined, or_assoc]
      next =>
        rw [containsCode_cons_iff, containsCode_cons_iff, ih hhead htail]

/-- Joined ranges are apart. -/
theorem apart_merge (hsorted : ∀ t ∈ rest, r.1 ≤ t.1)
    (hrest : rest.Pairwise fun s t => s.1 ≤ t.1) : Apart (merge r rest) := by
  induction rest generalizing r with
  | nil => exact List.pairwise_singleton _ r
  | cons t rest ih =>
      obtain ⟨hhead, htail⟩ := List.pairwise_cons.mp hrest
      rw [merge]
      split
      next => exact ih (fun u hu => hsorted u (List.mem_cons_of_mem t hu)) htail
      next hgap =>
        refine List.pairwise_cons.mpr ⟨?_, ih hhead htail⟩
        intro s hs
        have hle := fst_le_of_mem_merge hhead htail hs
        dsimp only
        omega

/-- Ranges that are joined are proper. -/
theorem proper_merge (h : Proper (r :: rest)) : Proper (merge r rest) := by
  induction rest generalizing r with
  | nil => exact h
  | cons t rest ih =>
      obtain ⟨hr, hothers⟩ := List.forall_mem_cons.mp h
      rw [merge]
      split
      next =>
        have hjoined : r.1 ≤ max r.2 t.2 := by omega
        exact ih (List.forall_mem_cons.mpr ⟨hjoined, (List.forall_mem_cons.mp hothers).2⟩)
      next => exact List.forall_mem_cons.mpr ⟨hr, ih hothers⟩

/-! ## Normal form -/

/-- Ranges sorted by where they start. -/
theorem pairwise_sorted (ranges : CharClass) :
    (ranges.mergeSort fun r s => r.1 ≤ s.1).Pairwise fun r s => r.1 ≤ s.1 := by
  refine (List.pairwise_mergeSort ?_ ?_ ranges).imp of_decide_eq_true
  · intro r s t
    simp only [decide_eq_true_eq]
    exact Nat.le_trans
  · intro r s
    simp only [Bool.or_eq_true, decide_eq_true_eq]
    exact Nat.le_total _ _

/-- A normal form has the ranges of a class, sorted and joined. -/
theorem normalize_cases (ranges : CharClass) : (ranges = [] ∧ ranges.normalize = []) ∨
    ∃ r rest, (r :: rest).Perm ranges ∧ ranges.normalize = merge r rest ∧
      (∀ t ∈ rest, r.1 ≤ t.1) ∧ rest.Pairwise fun s t => s.1 ≤ t.1 := by
  have hperm := List.mergeSort_perm ranges fun r s : Nat × Nat => decide (r.1 ≤ s.1)
  have hsorted := pairwise_sorted ranges
  unfold normalize
  cases hsort : ranges.mergeSort fun r s => r.1 ≤ s.1 with
  | nil =>
      rw [hsort] at hperm
      exact Or.inl ⟨hperm.nil_eq.symm, rfl⟩
  | cons r rest =>
      rw [hsort] at hperm hsorted
      exact Or.inr ⟨r, rest, hperm, rfl, List.pairwise_cons.mp hsorted⟩

/-- **Normal forms.**  To normalize a class changes none of its characters. -/
@[simp] theorem containsCode_normalize :
    ranges.normalize.containsCode x = ranges.containsCode x := by
  rcases normalize_cases ranges with ⟨rfl, hnormal⟩ | ⟨r, rest, hperm, hnormal, hfirst, hsorted⟩
  · rw [hnormal]
  · rw [hnormal, containsCode_merge hfirst hsorted, containsCode_perm hperm]

/-- The ranges of a normal form are apart. -/
theorem apart_normalize (ranges : CharClass) : Apart ranges.normalize := by
  rcases normalize_cases ranges with ⟨_, hnormal⟩ | ⟨r, rest, _, hnormal, hfirst, hsorted⟩
  · rw [hnormal]
    exact List.Pairwise.nil
  · rw [hnormal]
    exact apart_merge hfirst hsorted

/-- They are proper if those of the class are. -/
theorem Proper.normalize (h : ranges.Proper) : ranges.normalize.Proper := by
  rcases normalize_cases ranges with ⟨_, hnormal⟩ | ⟨r, rest, hperm, hnormal, _⟩
  · rw [hnormal]
    exact List.forall_mem_nil _
  · rw [hnormal]
    exact proper_merge fun s hs => h s (hperm.subset hs)

/-! ## Gaps -/

/-- The gaps of ranges that are apart hold what no range holds, from `start` on. -/
theorem containsCode_gaps_iff (hproper : ranges.Proper) (hapart : ranges.Apart)
    (hstart : ∀ r ∈ ranges, start ≤ r.1) (hx : x ≤ maxCodePoint) :
    (gaps start ranges).containsCode x = true ↔ start ≤ x ∧ ranges.containsCode x = false := by
  induction ranges generalizing start with
  | nil =>
      rw [gaps]
      split <;> simp [containsCode] <;> omega
  | cons r rest ih =>
      obtain ⟨hr, hrest⟩ := List.forall_mem_cons.mp hproper
      obtain ⟨hbefore, hlater⟩ := List.pairwise_cons.mp hapart
      have hlow := hstart r List.mem_cons_self
      have hothers := ih hrest hlater fun s hs => Nat.le_of_lt (hbefore s hs)
      have hclear (h : x < r.1) : containsCode rest x = false := by
        refine Bool.eq_false_iff.mpr fun hin => ?_
        obtain ⟨s, hs, hsx, _⟩ := containsCode_iff.mp hin
        have hgap := hbefore s hs
        omega
      have hfirst : containsCode (r :: rest) x = false ↔
          ¬ (r.1 ≤ x ∧ x ≤ r.2) ∧ containsCode rest x = false := by
        rw [Bool.eq_false_iff, Ne, containsCode_cons_iff, not_or, Bool.not_eq_true]
      rw [hfirst, gaps]
      split
      next hgap =>
        rw [containsCode_cons_iff, hothers]
        constructor
        · intro h
          rcases h with h | ⟨h, hin⟩
          · exact ⟨h.1, by omega, hclear (by omega)⟩
          · exact ⟨by omega, by omega, hin⟩
        · intro h
          obtain ⟨h, hout, hin⟩ := h
          rcases Nat.lt_or_ge x r.1 with hlt | hge
          · exact Or.inl ⟨h, by omega⟩
          · exact Or.inr ⟨by omega, hin⟩
      next hgap =>
        rw [hothers]
        constructor
        · intro h
          exact ⟨by omega, by omega, h.2⟩
        · intro h
          obtain ⟨h, hout, hin⟩ := h
          exact ⟨by omega, hin⟩

/-- Gaps are proper ranges. -/
theorem proper_gaps (start : Nat) (ranges : CharClass) : Proper (gaps start ranges) := by
  induction ranges generalizing start with
  | nil =>
      rw [gaps]
      split
      next h => exact List.forall_mem_singleton.mpr h
      next => exact List.forall_mem_nil _
  | cons r rest ih =>
      rw [gaps]
      split
      next h => exact List.forall_mem_cons.mpr ⟨Nat.le_sub_one_of_lt h, ih _⟩
      next => exact ih _

/-! ## Length -/

/-- To join ranges makes no more of them. -/
theorem length_merge_le (r : Nat × Nat) (rest : CharClass) :
    (merge r rest).length ≤ rest.length + 1 := by
  induction rest generalizing r with
  | nil => exact Nat.le_refl 1
  | cons t rest ih =>
      rw [merge]
      split
      next => exact Nat.le_succ_of_le (ih _)
      next => exact Nat.succ_le_succ (ih t)

/-- Between ranges, before the first and after the last there are so many gaps at most. -/
theorem length_gaps_le (start : Nat) (ranges : CharClass) :
    (gaps start ranges).length ≤ ranges.length + 1 := by
  induction ranges generalizing start with
  | nil =>
      rw [gaps]
      split <;> simp
  | cons r rest ih =>
      rw [gaps]
      split
      next => exact Nat.succ_le_succ (ih _)
      next => exact Nat.le_succ_of_le (ih _)

/-- A normal form has no more ranges than the class. -/
theorem length_normalize_le (ranges : CharClass) : ranges.normalize.length ≤ ranges.length := by
  rcases normalize_cases ranges with ⟨rfl, hnormal⟩ | ⟨r, rest, hperm, hnormal, _⟩
  · exact Nat.le_of_eq (congrArg List.length hnormal)
  · rw [hnormal, ← hperm.length_eq]
    exact length_merge_le r rest

theorem length_complement_le (ranges : CharClass) :
    ranges.complement.length ≤ ranges.length + 1 :=
  Nat.le_trans (length_gaps_le 0 _) (Nat.succ_le_succ (length_normalize_le ranges))

/-! ## The operations -/

theorem proper_complement (ranges : CharClass) : ranges.complement.Proper := proper_gaps 0 _

theorem Proper.union (ha : a.Proper) (hb : b.Proper) : (a.union b).Proper :=
  Proper.normalize fun r hr => (List.mem_append.mp hr).elim (ha r) (hb r)

variable {c : Char}

@[simp] theorem contains_normalize : ranges.normalize.contains c = ranges.contains c :=
  containsCode_normalize

@[simp] theorem contains_append : contains (a ++ b) c = (a.contains c || b.contains c) :=
  containsCode_append

/-- The class of one character contains that one. -/
@[simp] theorem contains_single {d : Char} : (single d).contains c = decide (c = d) := by
  rw [Bool.eq_iff_iff, contains, containsCode_iff]
  simp only [single, List.mem_singleton, exists_eq_left, decide_eq_true_eq, ← Char.toNat_inj]
  omega

/-- **Complements.**  The complement of a class contains the characters that the class does
not. -/
theorem contains_complement (h : ranges.Proper) :
    ranges.complement.contains c = !ranges.contains c := by
  have hcode : c.toNat ≤ maxCodePoint := by
    have hvalid := c.valid
    simp only [UInt32.isValidChar, Nat.isValidChar] at hvalid
    unfold maxCodePoint Char.toNat
    omega
  rw [Bool.eq_iff_iff, contains, complement, containsCode_gaps_iff h.normalize
    (apart_normalize ranges) (fun _ _ => Nat.zero_le _) hcode]
  simp [contains]

/-- **Unions.** -/
@[simp] theorem contains_union : (a.union b).contains c = (a.contains c || b.contains c) := by
  rw [union, contains_normalize, contains_append]

/-- **Intersections**, by the complements. -/
theorem contains_intersection (ha : a.Proper) (hb : b.Proper) :
    (a.intersection b).contains c = (a.contains c && b.contains c) := by
  rw [intersection, contains_complement ((proper_complement a).union (proper_complement b)),
    contains_union, contains_complement ha, contains_complement hb, Bool.not_or, Bool.not_not,
    Bool.not_not]

theorem proper_intersection (a b : CharClass) : (a.intersection b).Proper := proper_complement _

/-- **Differences.** -/
theorem contains_difference (ha : a.Proper) (hb : b.Proper) :
    (a.difference b).contains c = (a.contains c && !b.contains c) := by
  rw [difference, contains_intersection ha (proper_complement b), contains_complement hb]

/-- **Symmetric differences**: what exactly one of the two classes contains. -/
theorem contains_symmetricDifference (ha : a.Proper) (hb : b.Proper) :
    (a.symmetricDifference b).contains c = (a.contains c ^^ b.contains c) := by
  rw [symmetricDifference, contains_difference (ha.union hb) (proper_intersection a b),
    contains_union, contains_intersection ha hb]
  cases a.contains c <;> cases b.contains c <;> rfl

end CharClass

end Formwork
