import Formwork.Condition.Explanation
import Formwork.Pattern.Meaning
import Formwork.Proofs.Condition.Meaning

/-!
# The reasons that an explanation gives

An explanation leaves out what did not decide: of a group that one member settled it tells
that member alone, and of a group that was left open all members.  What it tells in the end
are rules and groups without members.  They are the **reasons** for the outcome: each of
them came out like the whole, and the whole would come out the same in any other snapshot in
which they do.

* `Trace.reasons` — the rules and the empty groups that the text of a trace is made of;
* `Tells` — a text that is put together from reasons with a single connective;
* `Trace.Settled` — the traces that an evaluation gives, as far as their outcomes go;
* `Settled.tells_textWithin` and `Settled.textWithin_eq` — what their texts are;
* `explanation_is_sound_reason` — the text of an evaluation tells its reasons, and they are
  enough for its outcome.
-/

namespace Formwork

/-- What an explanation is made of: a rule with the value that it saw, or a group without
members, which has an outcome of its own. -/
inductive Reason where
  | rule (r : Rule) (actual : Option Value) (outcome : Bool)
  | empty (outcome : Bool)
deriving DecidableEq, Repr

namespace Reason

def text : Reason → String
  | .rule r actual _ => Trace.ruleText r actual
  | .empty outcome => if outcome then "always" else "never"

def outcome : Reason → Bool
  | .rule _ _ outcome => outcome
  | .empty outcome => outcome

/-- The rule finds this value in the snapshot and comes out like this. -/
def WasSeen [PatternEngine] (values : Snapshot) : Reason → Prop
  | .rule r actual outcome => actual = values.resolve? r.field ∧ r.outcome actual = .ok outcome
  | .empty _ => True

end Reason

namespace Trace

mutual

/-- The reasons that the text of a trace tells, in the order in which it does. -/
def reasons : Trace → List Reason
  | .rule r actual outcome => [.rule r actual outcome]
  | .all children outcome =>
    if children.isEmpty then [.empty true]
    else match (if outcome then none else firstReasons false children) with
      | some reasons => reasons
      | none => reasonsOf children
  | .any children outcome =>
    if children.isEmpty then [.empty false]
    else match (if outcome then firstReasons true children else none) with
      | some reasons => reasons
      | none => reasonsOf children

/-- The reasons of the first trace with this outcome. -/
def firstReasons (outcome : Bool) : List Trace → Option (List Reason)
  | [] => none
  | t :: rest => if t.outcome = outcome then some t.reasons else firstReasons outcome rest

/-- The reasons of several traces. -/
def reasonsOf : List Trace → List Reason
  | [] => []
  | t :: rest => t.reasons ++ reasonsOf rest

end

end Trace

/-- The text is made of these reasons, one after the other, joined by this connective and no
other; parentheses may stand around any part of it. -/
inductive Tells (connective : String) : List Reason → String → Prop
  | reason (r : Reason) : Tells connective [r] r.text
  | joined {parts : List (List Reason × String)} (h : ∀ p ∈ parts, Tells connective p.1 p.2) :
      Tells connective (parts.flatMap Prod.fst)
        ((" " ++ connective ++ " ").intercalate (parts.map Prod.snd))
  | parenthesized {reasons : List Reason} {text : String} (h : Tells connective reasons text) :
      Tells connective reasons ("(" ++ text ++ ")")

/-- The connective between reasons that came out like this. -/
def connectiveOf (outcome : Bool) : String := if outcome then "AND" else "OR"

namespace Trace

/-- The trace of a group that a member with the outcome `settling` settles. -/
def group : Bool → List Trace → Bool → Trace
  | false => all
  | true => any

/-- The outcome of every group in the trace is that of its children: a group that was left
open has children that all came out like it, and one that was settled ends with the child
that settled it. -/
inductive Settled : Trace → Prop
  | rule (r : Rule) (actual : Option Value) (b : Bool) : Settled (.rule r actual b)
  | leftOpen {settling : Bool} {children : List Trace} (h : ∀ t ∈ children, Settled t)
      (hopen : ∀ t ∈ children, t.outcome = !settling) :
      Settled (group settling children (!settling))
  | upTo {settling : Bool} {told : List Trace} {t : Trace}
      (hopen : ∀ s ∈ told, s.outcome = !settling) (h : Settled t)
      (hsettled : t.outcome = settling) : Settled (group settling (told ++ [t]) settling)

/-! ## What is told of a group -/

section Group

variable {settling b : Bool} {children told : List Trace} {t : Trace} {outer : Nat}

@[simp] theorem outcome_group : (group settling children b).outcome = b := by
  cases settling <;> rfl

/-- Traces give their reasons one after the other. -/
theorem reasonsOf_eq_flatMap (children : List Trace) :
    reasonsOf children = children.flatMap reasons := by
  induction children with
  | nil => rfl
  | cons t rest ih => rw [reasonsOf, ih, List.flatMap_cons]

/-- Each trace is told by its own text. -/
theorem textsWithin_eq_map (children : List Trace) :
    textsWithin outer children = children.map (textWithin outer) := by
  induction children with
  | nil => rfl
  | cons t rest ih => rw [textsWithin, ih, List.map_cons]

/-- The reasons for what settles a group are those of the member that settles it. -/
theorem firstReasons_append (hopen : ∀ s ∈ told, s.outcome = !b) (hsettled : t.outcome = b) :
    firstReasons b (told ++ [t]) = some t.reasons := by
  induction told with
  | nil => simp [firstReasons, hsettled]
  | cons s rest ih =>
      obtain ⟨hs, hrest⟩ := List.forall_mem_cons.mp hopen
      simp [firstReasons, hs, ih hrest]

/-- The text is that of this member too. -/
theorem firstText_append (hopen : ∀ s ∈ told, s.outcome = !b) (hsettled : t.outcome = b) :
    firstText outer b (told ++ [t]) = some (t.textWithin outer) := by
  induction told with
  | nil => simp [firstText, hsettled]
  | cons s rest ih =>
      obtain ⟨hs, hrest⟩ := List.forall_mem_cons.mp hopen
      simp [firstText, hs, ih hrest]

/-- The reason of an empty group is that it is empty. -/
theorem reasons_group_nil : (group settling [] b).reasons = [.empty (!settling)] := by
  cases settling <;> rfl

/-- Its text says so. -/
theorem textWithin_group_nil : (group settling [] b).textWithin outer =
    (group settling [] b).parenthesized outer (Reason.empty (!settling)).text := by
  cases settling <;> rfl

/-- A group that was left open is told by all its children. -/
theorem reasons_group_leftOpen (h : children ≠ []) :
    (group settling children (!settling)).reasons = children.flatMap reasons := by
  cases settling <;> simp [group, reasons, h, reasonsOf_eq_flatMap]

/-- A group that no member settles is told by the texts of all. -/
theorem textWithin_group_leftOpen (h : children ≠ []) :
    (group settling children (!settling)).textWithin outer =
      (group settling children (!settling)).parenthesized outer
        ((" " ++ connectiveOf (!settling) ++ " ").intercalate
          (children.map (textWithin (if settling then 1 else 2)))) := by
  cases settling <;> simp [group, textWithin, h, textsWithin_eq_map, connectiveOf]

/-- A group that one child settled is told by that child. -/
theorem reasons_group_upTo (hopen : ∀ s ∈ told, s.outcome = !settling)
    (hsettled : t.outcome = settling) :
    (group settling (told ++ [t]) settling).reasons = t.reasons := by
  cases settling <;> simp [group, reasons, firstReasons_append hopen hsettled]

/-- A group that a member settles is told by the text of this one. -/
theorem textWithin_group_upTo (hopen : ∀ s ∈ told, s.outcome = !settling)
    (hsettled : t.outcome = settling) :
    (group settling (told ++ [t]) settling).textWithin outer =
      (group settling (told ++ [t]) settling).parenthesized outer
        (t.textWithin (if settling then 1 else 2)) := by
  cases settling <;> simp [group, textWithin, firstText_append hopen hsettled]

end Group

namespace Settled

variable {t : Trace}

/-- A trace has at least one reason. -/
theorem reasons_ne_nil (h : t.Settled) : t.reasons ≠ [] := by
  induction h with
  | rule r actual b => simp [reasons]
  | @leftOpen settling children _ _ ih =>
      by_cases hempty : children = []
      · simp [hempty, reasons_group_nil]
      · obtain ⟨s, hs⟩ := List.exists_mem_of_ne_nil _ hempty
        rw [reasons_group_leftOpen hempty, Ne, List.flatMap_eq_nil_iff]
        intro hnil
        exact ih s hs (hnil s hs)
  | upTo hopen _ hsettled ih => rwa [reasons_group_upTo hopen hsettled]

/-- Every reason came out like the whole. -/
theorem outcome_of_mem_reasons (h : t.Settled) :
    ∀ reason ∈ t.reasons, reason.outcome = t.outcome := by
  induction h with
  | rule r actual b => simp [reasons, Reason.outcome]
  | @leftOpen settling children _ hopen ih =>
      by_cases hempty : children = []
      · simp [hempty, reasons_group_nil, Reason.outcome]
      · rw [reasons_group_leftOpen hempty]
        intro reason hreason
        obtain ⟨s, hs, hmem⟩ := List.mem_flatMap.mp hreason
        rw [ih s hs reason hmem, hopen s hs, outcome_group]
  | upTo hopen _ hsettled ih =>
      rw [reasons_group_upTo hopen hsettled, outcome_group, ← hsettled]
      exact ih

/-! ## The text of a trace -/

/-- Parentheses do not change what is told. -/
theorem tells_parenthesized {connective : String} {reasons : List Reason} {body : String}
    (h : Tells connective reasons body) (t : Trace) (outer : Nat) :
    Tells connective reasons (t.parenthesized outer body) := by
  unfold parenthesized
  split
  · exact .parenthesized h
  · exact h

/-- Texts that are joined by a connective tell the reasons of all. -/
theorem tells_children {connective : String} {children : List Trace} {outer : Nat}
    (h : ∀ t ∈ children, Tells connective t.reasons (t.textWithin outer)) :
    Tells connective (children.flatMap reasons)
      ((" " ++ connective ++ " ").intercalate (children.map (textWithin outer))) := by
  have hjoined := @Tells.joined connective (children.map fun t => (t.reasons, t.textWithin outer))
    (List.forall_mem_map.mpr h)
  simpa [List.flatMap_map, Function.comp_def] using hjoined

/-- The text tells the reasons, and joins them by the connective that goes with the outcome. -/
theorem tells_textWithin (h : t.Settled) (outer : Nat) :
    Tells (connectiveOf t.outcome) t.reasons (t.textWithin outer) := by
  induction h generalizing outer with
  | rule r actual b => exact tells_parenthesized (.reason (.rule r actual b)) _ outer
  | @leftOpen settling children _ hopen ih =>
      by_cases hempty : children = []
      · rw [hempty, reasons_group_nil, textWithin_group_nil]
        exact tells_parenthesized (.reason _) _ outer
      · rw [reasons_group_leftOpen hempty, textWithin_group_leftOpen hempty, outcome_group]
        refine tells_parenthesized (tells_children fun s hs => ?_) _ outer
        rw [← hopen s hs]
        exact ih s hs _
  | upTo hopen _ hsettled ih =>
      rw [reasons_group_upTo hopen hsettled, textWithin_group_upTo hopen hsettled, outcome_group,
        ← hsettled]
      exact tells_parenthesized (ih _) _ outer

/-- Parts that are joined alike, and then joined alike with one another, are joined as one. -/
theorem intercalate_map_intercalate (sep : String) {parts : List (List String)}
    (h : ∀ p ∈ parts, p ≠ []) :
    sep.intercalate (parts.map sep.intercalate) = sep.intercalate parts.flatten := by
  induction parts with
  | nil => rfl
  | cons p rest ih =>
      obtain ⟨hp, hrest⟩ := List.forall_mem_cons.mp h
      rw [List.map_cons, List.flatten_cons]
      cases rest with
      | nil => simp
      | cons q rest =>
          have hflat : (q :: rest).flatten ≠ [] := by simp [hrest]
          rw [String.intercalate_cons_of_ne_nil (by simp), ih hrest,
            String.intercalate_append_of_ne_nil hp hflat]

/-- A group that holds is not put in parentheses: if all its children are to hold it binds
tightly enough, and if one is enough for it, that one stands for it. -/
theorem parenthesized_group {settling b : Bool} {children : List Trace} {outer : Nat}
    (houter : outer ≤ 2) (h : settling = true → b = true ∧ children ≠ []) (body : String) :
    (group settling children b).parenthesized outer body = body := by
  unfold parenthesized
  cases settling with
  | false => simp [group, precedence, Nat.not_lt.mpr houter]
  | true => simp [group, isSingle, h rfl]

/-- What holds is told by its reasons in a row, without a parenthesis. -/
theorem textWithin_eq (h : t.Settled) (hholds : t.outcome = true) {outer : Nat}
    (houter : outer ≤ 2) :
    t.textWithin outer = " AND ".intercalate (t.reasons.map Reason.text) := by
  induction h generalizing outer with
  | rule r actual b => simp [textWithin, parenthesized, isSingle, reasons, Reason.text]
  | @leftOpen settling children h hopen ih =>
      obtain rfl : settling = false := by simpa using hholds
      by_cases hempty : children = []
      · rw [hempty, reasons_group_nil, textWithin_group_nil,
          parenthesized_group houter fun h => absurd h Bool.false_ne_true]
        simp
      · rw [reasons_group_leftOpen hempty, textWithin_group_leftOpen hempty,
          parenthesized_group houter fun h => absurd h Bool.false_ne_true]
        -- the texts of the members are lists joined by the same word, so the whole is one such list
        have htexts : children.map (textWithin 2) =
            (children.map fun t => t.reasons.map Reason.text).map " AND ".intercalate := by
          rw [List.map_map]
          exact List.map_congr_left fun s hs => ih s hs (hopen s hs) (Nat.le_refl 2)
        have hnil : ∀ p ∈ children.map (fun t => t.reasons.map Reason.text), p ≠ [] := by
          refine List.forall_mem_map.mpr fun s hs => ?_
          simpa using (h s hs).reasons_ne_nil
        have hflat : (children.map fun t => t.reasons.map Reason.text).flatten =
            (children.flatMap reasons).map Reason.text := by
          rw [List.map_flatMap, List.flatMap_def]
        rw [← hflat, ← intercalate_map_intercalate _ hnil, ← htexts]
        rfl
  | @upTo settling told t hopen _ hsettled ih =>
      obtain rfl : settling = true := by simpa using hholds
      rw [reasons_group_upTo hopen hsettled, textWithin_group_upTo hopen hsettled,
        parenthesized_group houter fun _ => ⟨rfl, by simp⟩]
      -- a group that needs any is told by the one member that holds
      exact ih hsettled (by decide)

end Settled

end Trace

/-! ## The reasons for an outcome -/

namespace Condition

variable {values other : Snapshot}

/-- The rules among these reasons come out in the snapshot as they are told. -/
def Sustains [PatternEngine] (values : Snapshot) (reasons : List Reason) : Prop :=
  ∀ r actual b, .rule r actual b ∈ reasons → r.outcome (values.resolve? r.field) = .ok b

/-- Where lists are related item by item, every item has its counterpart. -/
theorem exists_of_forall₂ {α β : Type} {related : α → β → Prop} {xs : List α} {ys : List β}
    (h : List.Forall₂ related xs ys) {x : α} (hx : x ∈ xs) : ∃ y ∈ ys, related x y := by
  induction h with
  | nil => cases hx
  | @cons a b xs ys hab _ ih =>
      rcases List.mem_cons.mp hx with rfl | hx
      · exact ⟨b, List.mem_cons_self, hab⟩
      · obtain ⟨y, hy, hrelated⟩ := ih hx
        exact ⟨y, List.mem_cons_of_mem b hy, hrelated⟩

namespace RecordedUpTo

variable {record : Condition → Trace → Prop} {settling b : Bool} {items : List Condition}
  {children : List Trace} (h : RecordedUpTo record settling items children b)

include h

/-- The outcomes in the record of a group fit together if those in its members do. -/
theorem settled (ih : ∀ c ∈ items, ∀ t, record c t → t.Settled) :
    (Trace.group settling children b).Settled := by
  rcases h with ⟨rfl, hall, hopen⟩ | ⟨rfl, before, c, after, told, t, rfl, rfl, _, hopen, hc, ht⟩
  · refine .leftOpen (fun t ht => ?_) hopen
    obtain ⟨c, hc, hrecord⟩ := exists_of_forall₂ hall.flip ht
    exact ih c hc t hrecord
  · exact .upTo hopen (ih c (by simp) t hc) ht

/-- What is so of the reasons in all members is so of those in the record of a group. -/
theorem forall_mem_reasons {p : Reason → Prop} (hempty : p (.empty (!settling)))
    (ih : ∀ c ∈ items, ∀ t, record c t → ∀ reason ∈ t.reasons, p reason) :
    ∀ reason ∈ (Trace.group settling children b).reasons, p reason := by
  rcases h with ⟨rfl, hall, hopen⟩ | ⟨rfl, before, c, after, told, t, rfl, rfl, _, hopen, hc, ht⟩
  · by_cases hnil : children = []
    · simpa [hnil, Trace.reasons_group_nil] using hempty
    · rw [Trace.reasons_group_leftOpen hnil]
      intro reason hreason
      obtain ⟨t, ht, hmem⟩ := List.mem_flatMap.mp hreason
      obtain ⟨c, hc, hrecord⟩ := exists_of_forall₂ hall.flip ht
      exact ih c hc t hrecord reason hmem
  · rw [Trace.reasons_group_upTo hopen ht]
    exact ih c (by simp) t hc

/-- The reasons for the outcome of a group are enough for it if those for the outcomes of its
members are: a member that settled the group would settle it again, unless one before it
did, and where all members left it open, all would leave it open again. -/
theorem eq_of_sustains [PatternEngine]
    (ih : ∀ c ∈ items, ∀ t, record c t → Sustains other t.reasons →
      ∀ b, c.evaluate other = .ok b → b = t.outcome)
    (hsustains : Sustains other (Trace.group settling children b).reasons) {outcome : Bool}
    (hread : ReadUpTo (fun c r => c.evaluate other = r) settling items (.ok outcome)) :
    outcome = b := by
  rcases h with ⟨rfl, hall, hopen⟩ | ⟨rfl, before, c, after, told, t, rfl, rfl, _, hopen, hc, ht⟩
  · rcases hread with ⟨heq, _⟩ | ⟨_, before, c, after, rfl, _, hc⟩
    · exact Except.ok.inj heq
    · obtain ⟨t, ht, hrecord⟩ := exists_of_forall₂ hall (show c ∈ before ++ c :: after by simp)
      rw [Trace.reasons_group_leftOpen (List.ne_nil_of_mem ht)] at hsustains
      rw [← hopen t ht]
      refine ih c (by simp) t hrecord ?_ outcome hc
      intro r actual b hr
      exact hsustains r actual b (List.mem_flatMap.mpr ⟨t, ht, hr⟩)
  · rw [Trace.reasons_group_upTo hopen ht] at hsustains
    have hagain := ih c (by simp) t hc hsustains
    rcases hread with ⟨_, hopenAgain⟩ | ⟨hne, _⟩
    · have hflip := hagain _ (hopenAgain c (by simp))
      simp [ht] at hflip
    · have hsettled : outcome ≠ !b := fun heq => hne (congrArg Except.ok heq)
      simpa using Bool.eq_not_of_ne hsettled

end RecordedUpTo

namespace Recorded

variable [PatternEngine] {c : Condition} {t : Trace}

/-- The outcomes in a recorded trace fit together throughout. -/
theorem settled (h : Recorded values c t) : t.Settled := by
  induction c using inductionOn generalizing t with
  | rule r =>
      cases h
      exact .rule r _ _
  | all items ih =>
      obtain ⟨children, b, rfl, hitems⟩ := recorded_all_iff.mp h
      exact hitems.settled fun c hc t ht => ih c hc ht
  | any items ih =>
      obtain ⟨children, b, rfl, hitems⟩ := recorded_any_iff.mp h
      exact hitems.settled fun c hc t ht => ih c hc ht
  | unset =>
      cases h
      exact @Trace.Settled.leftOpen false [] nofun nofun
  | conflicting xs ys => cases h

/-- A rule that is told was read, and found what it is told to have found. -/
theorem wasSeen_of_mem_reasons (h : Recorded values c t) :
    ∀ reason ∈ t.reasons, reason.WasSeen values := by
  induction c using inductionOn generalizing t with
  | rule r =>
      cases h with
      | rule hr => simpa [Trace.reasons, Reason.WasSeen] using hr
  | all items ih =>
      obtain ⟨children, b, rfl, hitems⟩ := recorded_all_iff.mp h
      exact hitems.forall_mem_reasons trivial fun c hc t ht => ih c hc ht
  | any items ih =>
      obtain ⟨children, b, rfl, hitems⟩ := recorded_any_iff.mp h
      exact hitems.forall_mem_reasons trivial fun c hc t ht => ih c hc ht
  | unset =>
      cases h
      simp [Trace.reasons, Reason.WasSeen]
  | conflicting xs ys => cases h

/-- The reasons are enough for the outcome. -/
theorem eq_of_sustains (h : Recorded values c t) (hsustains : Sustains other t.reasons) {b : Bool}
    (hb : c.evaluate other = .ok b) : b = t.outcome := by
  induction c using inductionOn generalizing t b with
  | rule r =>
      cases h with
      | rule hr =>
          have hagain := hsustains r _ _ List.mem_cons_self
          have heval := evaluate_eq_iff_reading.mp hb
          generalize hresult : Except.ok b = result at heval
          cases heval
          exact Except.ok.inj (hresult.trans hagain)
  | all items ih =>
      obtain ⟨children, outcome, rfl, hitems⟩ := recorded_all_iff.mp h
      exact hitems.eq_of_sustains (fun c hc t ht hs b hb => ih c hc ht hs hb) hsustains
        (evaluate_all_iff.mp hb)
  | any items ih =>
      obtain ⟨children, outcome, rfl, hitems⟩ := recorded_any_iff.mp h
      exact hitems.eq_of_sustains (fun c hc t ht hs b hb => ih c hc ht hs hb) hsustains
        (evaluate_any_iff.mp hb)
  | unset =>
      cases h
      exact (Except.ok.inj hb).symm
  | conflicting xs ys => cases h

end Recorded

/-- **The explanation is a sound reason.**  What the text of an evaluation tells are rules
that were read, with what they found, and groups without members, and all of them came out
like the condition.  It joins them by the one connective that goes with the outcome; what
holds is told in a row, without a parenthesis.  And the reasons are enough: in every other
snapshot in which the rules among them come out as they are told, the condition comes out the
same, unless its evaluation faults. -/
theorem explanation_is_sound_reason [PatternEngine] {c : Condition} {values : Snapshot} {t : Trace}
    (h : c.explain values = .ok t) :
    (∀ reason ∈ t.reasons, reason.WasSeen values ∧ reason.outcome = t.outcome) ∧
    Tells (connectiveOf t.outcome) t.reasons t.text ∧
    (t.outcome = true → t.text = " AND ".intercalate (t.reasons.map Reason.text)) ∧
    ∀ other, Sustains other t.reasons → ∀ b, c.evaluate other = .ok b → b = t.outcome := by
  have hrecorded := explain_eq_ok_iff.mp h
  have hsettled := hrecorded.settled
  refine ⟨?_, hsettled.tells_textWithin 0, ?_, ?_⟩
  · intro reason hreason
    exact ⟨hrecorded.wasSeen_of_mem_reasons reason hreason,
      hsettled.outcome_of_mem_reasons reason hreason⟩
  · intro hholds
    exact hsettled.textWithin_eq hholds (Nat.zero_le 2)
  · intro other hsustains b hb
    exact hrecorded.eq_of_sustains hsustains hb

/-- Whoever wants news has to leave a way to be reached. -/
def canBeReached : Condition :=
  .all [.rule ⟨"news", .present, none⟩,
    .any [.rule ⟨"mail", .present, none⟩, .rule ⟨"phone", .present, none⟩]]

/-- That there is neither a mail nor a phone is told, and is enough whoever wants news. -/
theorem unreachable_explained : ∃ t, canBeReached.explain [("news", .text "yes")] = .ok t ∧
    t.text = "(mail (was nothing) exists OR phone (was nothing) exists)" ∧
    ∀ b, canBeReached.evaluate [("phone", .text "")] = .ok b → b = false := by
  let neither : List Trace := [.rule ⟨"mail", .present, none⟩ none false,
    .rule ⟨"phone", .present, none⟩ none false]
  let t : Trace := .all [.rule ⟨"news", .present, none⟩ (some (.text "yes")) true,
    .any neither false] false
  have h : canBeReached.explain [("news", .text "yes")] = .ok t := rfl
  have hreasons : t.reasons = neither.flatMap Trace.reasons := by decide +kernel
  refine ⟨t, h, by decide +kernel, ?_⟩
  refine (explanation_is_sound_reason h).2.2.2 [("phone", .text "")] ?_
  intro r actual b hr
  rw [hreasons] at hr
  rcases List.mem_pair.mp hr with hr | hr <;> cases hr <;> rfl

end Condition

end Formwork
