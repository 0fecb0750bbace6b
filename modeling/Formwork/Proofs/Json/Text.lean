import Formwork.Proofs.Json.Nesting

/-!
# Reading what was written

What `Value.compact` writes has no gaps, and every part of it shows by its first character
what it is and by the one after it where it ends.  So the reader finds in the text the tree
of the value, as deep as it has room for.

* `JsonText.readText_quote` — a quoted text is read as itself;
* `JsonText.TextReads` — the text of a value is read as its tree, whatever ends it;
* `JsonText.textReads` — it is, for every value that a text can carry;
* `Tree.ofText?_compact` — the same for a whole text.
-/

namespace Formwork

namespace JsonText

/-! ## Quoted texts -/

/-- A backslash and a letter stand for one character. -/
theorem readPieces_escape {e c : Char} (h : escaped? e = some c) (tail : List Char) :
    readPieces ('\\' :: e :: tail) = (readPieces tail).map fun (ps, r) => (.char c :: ps, r) := by
  have hu : e ≠ 'u' := by
    rintro rfl
    cases h
  rw [readPieces.eq_4 _ _ fun _ _ _ _ _ he _ => hu he, h]
  cases readPieces tail <;> rfl

/-- A backslash, a `u` and four digits stand for a code unit. -/
theorem readPieces_code {a b c d : Char} {n : Nat} (h : hexCode? a b c d = some n)
    (tail : List Char) : readPieces ('\\' :: 'u' :: a :: b :: c :: d :: tail) =
      (readPieces tail).map fun (ps, r) => (.code n :: ps, r) := by
  rw [readPieces, h]
  cases readPieces tail <;> rfl

/-- Every other character stands for itself, but for control characters. -/
theorem readPieces_plain {c : Char} (hquote : c ≠ '"') (hslash : c ≠ '\\')
    (hcontrol : ¬ c.toNat < 0x20) (tail : List Char) :
    readPieces (c :: tail) = (readPieces tail).map fun (ps, r) => (.char c :: ps, r) := by
  rw [readPieces.eq_5 _ _ hquote (fun _ _ _ _ _ hc _ => hslash hc) fun _ _ hc _ => hslash hc,
    if_neg (not_or.mpr ⟨hcontrol, hslash⟩)]

theorem hexDigit?_hexChar : ∀ n < 16, hexDigit? (hexChar n) = some n := by decide

/-- A control character is written by its code. -/
theorem hexCode?_of_lt {n : Nat} (h : n < 0x20) :
    hexCode? '0' '0' (hexChar (n / 16)) (hexChar (n % 16)) = some n := by
  have hzero : hexDigit? '0' = some 0 := by decide
  rw [hexCode?, hzero, hexDigit?_hexChar _ (by omega), hexDigit?_hexChar _ (by omega)]
  simp
  omega

/-- The code unit of a control character is that character. -/
theorem joinPieces_code {n : Nat} (h : n < 0x20) (ps : List Piece) :
    joinPieces (.code n :: ps) = (joinPieces ps).map (Char.ofNat n :: ·) := by
  have hlead : ¬ (0xD800 ≤ n ∧ n ≤ 0xDBFF) := by omega
  have htrail : ¬ (0xDC00 ≤ n ∧ n ≤ 0xDFFF) := by omega
  rw [joinPieces.eq_def]
  simp only [hlead, htrail, if_false]

/-- A quoted character is read as one piece, and this piece stands for the character. -/
theorem exists_piece (c : Char) : ∃ p,
    (∀ tail, readPieces (quoteChar c ++ tail) =
      (readPieces tail).map fun (ps, r) => (p :: ps, r)) ∧
    ∀ ps, joinPieces (p :: ps) = (joinPieces ps).map (c :: ·) := by
  have escape {e : Char} (he : escaped? e = some c) (tail : List Char) :
      readPieces (['\\', e] ++ tail) = _ := readPieces_escape he tail
  -- the cases of the writer: letters that stand for a character come first
  unfold quoteChar
  split
  · subst c
    exact ⟨.char '"', escape rfl, fun _ => rfl⟩
  split
  · subst c
    exact ⟨.char '\\', escape rfl, fun _ => rfl⟩
  split
  · subst c
    exact ⟨.char '\n', escape rfl, fun _ => rfl⟩
  split
  · subst c
    exact ⟨.char '\r', escape rfl, fun _ => rfl⟩
  split
  · subst c
    exact ⟨.char '\t', escape rfl, fun _ => rfl⟩
  split
  · subst c
    exact ⟨.char '\x08', escape rfl, fun _ => rfl⟩
  split
  · subst c
    exact ⟨.char '\x0c', escape rfl, fun _ => rfl⟩
  split
  · -- the other control characters are written by their codes
    rename_i hcontrol
    refine ⟨.code c.toNat, readPieces_code (hexCode?_of_lt hcontrol), fun ps => ?_⟩
    rw [joinPieces_code hcontrol, Char.ofNat_toNat]
  · rename_i hquote hslash _ _ _ _ _ hcontrol
    exact ⟨.char c, readPieces_plain hquote hslash hcontrol, fun _ => rfl⟩

/-- Characters that were quoted are read up to the closing quote and come to themselves. -/
theorem exists_pieces (cs rest : List Char) : ∃ ps,
    readPieces (cs.flatMap quoteChar ++ '"' :: rest) = some (ps, rest) ∧
      joinPieces ps = some cs := by
  induction cs with
  | nil => exact ⟨[], rfl, rfl⟩
  | cons c cs ih =>
      obtain ⟨ps, hread, hjoin⟩ := ih
      obtain ⟨p, hpiece, htext⟩ := exists_piece c
      refine ⟨p :: ps, ?_, ?_⟩
      · rw [List.flatMap_cons, List.append_assoc, hpiece, hread]
        rfl
      · rw [htext, hjoin]
        rfl

/-- A quoted text is read as itself. -/
theorem readText_quote (s : String) (rest : List Char) :
    readText (s.toList.flatMap quoteChar ++ '"' :: rest) = some (some s, rest) := by
  obtain ⟨ps, hread, hjoin⟩ := exists_pieces s.toList rest
  simp [readText, hread, hjoin]

/-! ## Where a value begins and ends -/

/-- No gap begins with a character that belongs to none. -/
theorem skipGap_cons {c : Char} (h : isGap c = false) (s : List Char) :
    skipGap (c :: s) = c :: s := by
  simp [skipGap, h]

/-- A numeral begins with a digit or with its sign. -/
theorem exists_head_of_read? {s r : List Char} {n : JsonNumeral}
    (h : JsonNumeral.read? s = some (n, r)) :
    ∃ c tail, s = c :: tail ∧ (c.isDigit = true ∨ c = '-') := by
  cases s with
  | nil => cases h
  | cons c tail =>
      refine ⟨c, tail, rfl, ?_⟩
      by_cases hc : c = '-'
      · exact Or.inr hc
      · left
        have hhead : (c :: tail).head? ≠ some '-' := fun hhead => hc (Option.some.inj hhead)
        rw [JsonNumeral.read?_of_ne_minus hhead] at h
        obtain ⟨_, afterWhole, _, hwhole, _⟩ := JsonNumeral.unsigned?_eq_some_iff.mp h
        by_contra hdigit
        simp [JsonNumeral.takeWhole?, JsonNumeral.takeDigits?, hdigit] at hwhole

/-- A numeral neither begins with a gap nor looks like the end of a list. -/
theorem isGap_of_head {c : Char} (h : c.isDigit = true ∨ c = '-') :
    isGap c = false ∧ c ≠ ']' := by
  constructor
  · by_contra hgap
    simp only [isGap, Bool.or_eq_false_iff, decide_eq_false_iff_not, not_and_or, not_not] at hgap
    rcases hgap with ((rfl | rfl) | rfl) | rfl <;> revert h <;> decide
  · rintro rfl
    revert h
    decide

/-- A written value begins with a character that is no gap and closes no list. -/
theorem exists_head_chars {v : Value} (h : v.Writable) :
    ∃ c tail, chars v = c :: tail ∧ isGap c = false ∧ c ≠ ']' := by
  cases h with
  | null => exact ⟨_, _, rfl, by decide, by decide⟩
  | bool b => cases b <;> exact ⟨_, _, rfl, by decide, by decide⟩
  | number hn =>
      obtain ⟨n, hread, _⟩ := JsonNumeral.read?_chars hn JsonNumeral.ends_nil
      rw [List.append_nil] at hread
      obtain ⟨c, tail, hchars, hc⟩ := exists_head_of_read? hread
      exact ⟨c, tail, hchars, isGap_of_head hc⟩
  | text s => exact ⟨_, _, rfl, by decide, by decide⟩
  | @list items _ => cases items <;> exact ⟨_, _, rfl, by decide, by decide⟩
  | @record members _ _ => cases members <;> exact ⟨_, _, rfl, by decide, by decide⟩

/-- The text of a value does not begin with a gap. -/
theorem skipGap_chars {v : Value} (h : v.Writable) (rest : List Char) :
    skipGap (chars v ++ rest) = chars v ++ rest := by
  obtain ⟨c, tail, hchars, hgap, _⟩ := exists_head_chars h
  rw [hchars]
  exact skipGap_cons hgap _

theorem skipGap_quote (k : String) (rest : List Char) :
    skipGap (quote k ++ rest) = quote k ++ rest :=
  skipGap_cons (by decide) _

/-- What follows an item of a list ends a numeral. -/
theorem ends_itemChars (items : List Value) (rest : List Char) :
    JsonNumeral.Ends (itemChars items ++ rest) := by
  cases items <;> exact JsonNumeral.ends_cons (by decide)

/-- What follows a member of a record ends a numeral. -/
theorem ends_memberChars (members : List (String × Value)) (rest : List Char) :
    JsonNumeral.Ends (memberChars members ++ rest) := by
  cases members <;> exact JsonNumeral.ends_cons (by decide)

theorem skipGap_itemChars (items : List Value) (rest : List Char) :
    skipGap (itemChars items ++ rest) = itemChars items ++ rest := by
  cases items <;> exact skipGap_cons (by decide) _

theorem skipGap_memberChars (members : List (String × Value)) (rest : List Char) :
    skipGap (memberChars members ++ rest) = memberChars members ++ rest := by
  cases members <;> exact skipGap_cons (by decide) _

/-! ## Values -/

/-- The text of the value is read as its tree, whatever ends it. -/
def TextReads (v : Value) : Prop :=
  ∀ {fuel : Nat} (room : Nat) {rest : List Char}, JsonNumeral.Ends rest →
    (chars v).length ≤ fuel →
    readTree fuel room (chars v ++ rest) = some (Tree.ofValueWithin room v, rest)

/-- What begins with a digit or a minus is read as a numeral. -/
theorem readTree_numeral {c : Char} (hc : c.isDigit = true ∨ c = '-') (fuel room : Nat)
    (tail : List Char) : readTree (fuel + 1) room (c :: tail) =
      (JsonNumeral.read? (c :: tail)).map fun (n, r) =>
        ((n.value?.map Tree.number).getD .unreadable, r) := by
  have hword {d : Char} {s : List Char} (hd : ¬ (d.isDigit = true ∨ d = '-')) :
      c :: tail ≠ d :: s := by
    intro heq
    obtain ⟨rfl, _⟩ := List.cons.inj heq
    exact hd hc
  exact readTree.eq_8 _ _ _ (fun _ => hword (by decide)) (fun _ => hword (by decide))
    (fun _ => hword (by decide)) (fun _ => hword (by decide)) (fun _ => hword (by decide))
    fun _ => hword (by decide)

/-- Fuel that is enough for a value is not used up. -/
theorem exists_eq_succ_of_length_le {v : Value} (h : v.Writable) {fuel : Nat}
    (hfuel : (chars v).length ≤ fuel) : ∃ f, fuel = f + 1 := by
  obtain ⟨c, tail, hchars, _⟩ := exists_head_chars h
  rw [hchars, List.length_cons] at hfuel
  exact ⟨fuel - 1, by omega⟩

/-- A number that a text can carry is read, whatever ends it. -/
theorem textReads_number {n : Numeric} (h : n.Writable) : TextReads (.number n) := by
  intro fuel room rest hrest hfuel
  obtain ⟨fuel, rfl⟩ := exists_eq_succ_of_length_le (.number h) hfuel
  obtain ⟨m, hread, hvalue⟩ := JsonNumeral.read?_chars h hrest
  obtain ⟨c, tail, hchars, hc⟩ := exists_head_of_read? hread
  rw [chars, hchars, readTree_numeral hc, ← hchars, hread]
  simp [hvalue, Tree.ofValueWithin]

/-- What follows an item is read as the items that it was written for. -/
theorem readItems_itemChars {items : List Value} (hitems : ∀ v ∈ items, v.Writable)
    (ih : ∀ v ∈ items, TextReads v) {fuel : Nat} (room : Nat) (rest : List Char)
    (hfuel : (itemChars items).length ≤ fuel) :
    readItems fuel room (itemChars items ++ rest) =
      some (Tree.ofItemsWithin room items, rest) := by
  induction items generalizing fuel with
  | nil =>
      obtain ⟨fuel, rfl⟩ : ∃ f, fuel = f + 1 := ⟨fuel - 1, by simp [itemChars] at hfuel; omega⟩
      simp [itemChars, readItems, Tree.ofItemsWithin]
  | cons v items ihitems =>
      simp only [itemChars, List.length_cons, List.length_append] at hfuel
      obtain ⟨fuel, rfl⟩ : ∃ f, fuel = f + 1 := ⟨fuel - 1, by omega⟩
      have hv := ih v List.mem_cons_self room (ends_itemChars items rest)
        (show _ ≤ fuel by omega)
      have hrest := ihitems (fun w hw => hitems w (List.mem_cons_of_mem v hw))
        (fun w hw => ih w (List.mem_cons_of_mem v hw)) (show _ ≤ fuel by omega)
      simp only [itemChars, List.cons_append, List.append_assoc, readItems,
        skipGap_chars (hitems v List.mem_cons_self), hv, skipGap_itemChars, hrest,
        Option.map_some, Tree.ofItemsWithin]

/-- A key, a colon and a value are read as one member. -/
theorem readMember_chars {k : String} {v : Value} (hv : v.Writable) (ih : TextReads v)
    {fuel : Nat} (room : Nat) {rest : List Char} (hrest : JsonNumeral.Ends rest)
    (hfuel : (quote k ++ ':' :: chars v).length ≤ fuel) :
    readMember fuel room (quote k ++ ':' :: (chars v ++ rest)) =
      some ((some k, Tree.ofValueWithin room v), rest) := by
  simp only [quote, List.cons_append, List.length_cons, List.length_append] at hfuel
  obtain ⟨fuel, rfl⟩ : ∃ f, fuel = f + 1 := ⟨fuel - 1, by omega⟩
  have hvalue := ih room hrest (show _ ≤ fuel by omega)
  have hcolon : isGap ':' = false := by decide
  simp only [quote, List.cons_append, List.append_assoc, List.nil_append, readMember,
    readText_quote, skipGap_cons hcolon, skipGap_chars hv, hvalue, Option.map_some]

/-- What follows a member is read as the members that it was written for. -/
theorem readMembers_memberChars {members : List (String × Value)}
    (hmembers : ∀ m ∈ members, m.2.Writable) (ih : ∀ m ∈ members, TextReads m.2) {fuel : Nat}
    (room : Nat) (rest : List Char) (hfuel : (memberChars members).length ≤ fuel) :
    readMembers fuel room (memberChars members ++ rest) =
      some ((Tree.ofMembersWithin room members).map fun m => (some m.1, m.2), rest) := by
  induction members generalizing fuel with
  | nil =>
      obtain ⟨fuel, rfl⟩ : ∃ f, fuel = f + 1 := ⟨fuel - 1, by simp [memberChars] at hfuel; omega⟩
      simp [memberChars, readMembers, Tree.ofMembersWithin]
  | cons m members ihmembers =>
      obtain ⟨k, v⟩ := m
      simp only [memberChars, List.length_cons, List.length_append] at hfuel
      obtain ⟨fuel, rfl⟩ : ∃ f, fuel = f + 1 := ⟨fuel - 1, by omega⟩
      have hm := readMember_chars (k := k) (hmembers _ List.mem_cons_self)
        (ih _ List.mem_cons_self) room (ends_memberChars members rest)
        (show _ ≤ fuel by simp only [List.length_append, List.length_cons]; omega)
      have hrest := ihmembers (fun w hw => hmembers w (List.mem_cons_of_mem _ hw))
        (fun w hw => ih w (List.mem_cons_of_mem _ hw)) (show _ ≤ fuel by omega)
      simp only [memberChars, List.cons_append, List.append_assoc, readMembers, skipGap_quote, hm,
        skipGap_memberChars, hrest, Option.map_some, Tree.ofMembersWithin, List.map_cons]

/-- Members with texts for keys are the members of a record. -/
theorem recordOf_members (members : List (String × Tree)) :
    recordOf (members.map fun m => (some m.1, m.2)) = .record members := by
  have hkeys : (members.map fun m => (some m.1, m.2)).mapM
      (fun (m : Option String × Tree) => m.1.map fun k => (k, m.2)) = some members := by
    induction members with
    | nil => rfl
    | cons m rest ih => simp [List.mapM_cons, ih]
  simp only [recordOf, hkeys]

/-- A list that does not end at once is read item by item. -/
theorem readTree_openList {s r : List Char} {fuel room : Nat} {t : Tree}
    (hgap : skipGap s = s) (hend : ∀ tail, s ≠ ']' :: tail)
    (hitem : readTree fuel (room - 1) s = some (t, r)) :
    readTree (fuel + 1) room ('[' :: s) = (readItems fuel (room - 1) (skipGap r)).map
      fun (ts, r) => (within room (.list (t :: ts)), r) := by
  rw [readTree, hgap]
  split
  · exact absurd rfl (hend _)
  · rw [hitem]

/-- A record that does not end at once is read member by member. -/
theorem readTree_openRecord {s r : List Char} {fuel room : Nat} {m : Option String × Tree}
    (hgap : skipGap s = s) (hend : ∀ tail, s ≠ '\x7d' :: tail)
    (hmember : readMember fuel (room - 1) s = some (m, r)) :
    readTree (fuel + 1) room ('\x7b' :: s) = (readMembers fuel (room - 1) (skipGap r)).map
      fun (ms, r) => (within room (recordOf (m :: ms)), r) := by
  rw [readTree, hgap]
  split
  · exact absurd rfl (hend _)
  · rw [hmember]

/-- A list is read if its items are. -/
theorem textReads_list {items : List Value} (hitems : ∀ v ∈ items, v.Writable)
    (ih : ∀ v ∈ items, TextReads v) : TextReads (.list items) := by
  intro fuel room rest hrest hfuel
  obtain ⟨fuel, rfl⟩ := exists_eq_succ_of_length_le (.list hitems) hfuel
  cases items with
  | nil =>
      simp [chars, readTree, skipGap_cons (show isGap ']' = false by decide),
        Tree.ofValueWithin, Tree.ofItemsWithin]
  | cons v items =>
      have hv := hitems v List.mem_cons_self
      have hbracket : ∀ tail, chars v ++ (itemChars items ++ rest) ≠ ']' :: tail := by
        intro tail heq
        obtain ⟨c, s, hchars, _, hc⟩ := exists_head_chars hv
        rw [hchars] at heq
        exact hc (List.cons.inj heq).1
      simp only [chars, List.length_cons, List.length_append] at hfuel
      have hitem := ih v List.mem_cons_self (room - 1) (ends_itemChars items rest)
        (show _ ≤ fuel by omega)
      have hothers := readItems_itemChars (fun w hw => hitems w (List.mem_cons_of_mem v hw))
        (fun w hw => ih w (List.mem_cons_of_mem v hw)) (room - 1) rest (show _ ≤ fuel by omega)
      rw [chars, List.cons_append, List.append_assoc,
        readTree_openList (skipGap_chars hv _) hbracket hitem, skipGap_itemChars, hothers]
      rfl

/-- A record is read if its members are. -/
theorem textReads_record {members : List (String × Value)} (hkeys : Entries.Distinct members)
    (hmembers : ∀ m ∈ members, m.2.Writable) (ih : ∀ m ∈ members, TextReads m.2) :
    TextReads (.record members) := by
  intro fuel room rest hrest hfuel
  obtain ⟨fuel, rfl⟩ := exists_eq_succ_of_length_le (.record hkeys hmembers) hfuel
  cases members with
  | nil =>
      simp [chars, readTree, skipGap_cons (show isGap '\x7d' = false by decide),
        Tree.ofValueWithin, Tree.ofMembersWithin]
  | cons m members =>
      obtain ⟨k, v⟩ := m
      have hbrace : ∀ s tail, quote k ++ s ≠ '\x7d' :: tail := by
        intro s tail heq
        exact absurd (List.cons.inj heq).1 (by decide)
      simp only [chars, List.length_cons, List.length_append] at hfuel
      have hmember := readMember_chars (k := k) (hmembers _ List.mem_cons_self)
        (ih _ List.mem_cons_self) (room - 1) (ends_memberChars members rest)
        (show _ ≤ fuel by simp only [List.length_append, List.length_cons]; omega)
      have hothers := readMembers_memberChars
        (fun w hw => hmembers w (List.mem_cons_of_mem _ hw))
        (fun w hw => ih w (List.mem_cons_of_mem _ hw)) (room - 1) rest (show _ ≤ fuel by omega)
      have hrecord := recordOf_members (Tree.ofMembersWithin (room - 1) ((k, v) :: members))
      rw [chars, List.cons_append, List.append_assoc, List.cons_append, List.append_assoc,
        readTree_openRecord (skipGap_quote k _) (hbrace _) hmember, skipGap_memberChars, hothers,
        Tree.ofValueWithin, ← hrecord]
      rfl

/-- The text of a value is read as its tree, as far as there is room. -/
theorem textReads {v : Value} (h : v.Writable) : TextReads v := by
  induction h with
  | null =>
      intro fuel room rest hrest hfuel
      obtain ⟨fuel, rfl⟩ := exists_eq_succ_of_length_le .null hfuel
      simp [chars, readTree, Tree.ofValueWithin]
  | bool b =>
      intro fuel room rest hrest hfuel
      obtain ⟨fuel, rfl⟩ := exists_eq_succ_of_length_le (.bool b) hfuel
      cases b <;> simp [chars, readTree, Tree.ofValueWithin]
  | number hn => exact textReads_number hn
  | text s =>
      intro fuel room rest hrest hfuel
      obtain ⟨fuel, rfl⟩ := exists_eq_succ_of_length_le (.text s) hfuel
      simp [chars, quote, readTree, readText_quote, Tree.ofValueWithin]
  | list hitems ih => exact textReads_list hitems ih
  | record hkeys hmembers ih => exact textReads_record hkeys hmembers ih

end JsonText

/-- **What is read of a written value.**  The text of a value is read as the tree of this
value, with unreadable leaves where it nests beyond the limit. -/
theorem Tree.ofText?_compact {v : Value} (h : v.Writable) :
    Tree.ofText? v.compact = some (Tree.ofValueWithin JsonText.nestingLimit v) := by
  have hgap := JsonText.skipGap_chars h []
  have hread := JsonText.textReads h JsonText.nestingLimit JsonNumeral.ends_nil
    (show (JsonText.chars v).length ≤ (JsonText.chars v).length + 1 by omega)
  rw [List.append_nil] at hgap hread
  rw [Tree.ofText?, Value.compact, String.toList_ofList, hgap, hread]
  rfl

end Formwork
