import Formwork.Pattern.Meaning
import Formwork.Proofs.Async.Moves
import Formwork.Proofs.Wizard.Report
import Formwork.Wizard.Awaiting

/-!
# What is known at the gate

Going on after outside checks has three parts: for every value that nothing is known
about a check is started, the runs of the step are waited for, and the step is judged
by what is known then.  What is known about a value is asked twice, before the wait and
after it, and the two answers are compared here.

A value of which something is known is left alone, and a check under way counts as
something known, whatever value it is for.  If it is for another value, its outcome says
nothing about the value at hand, and the value passes unchecked.

* `covers_beforeWait` and `isAbout_beforeWait` — the checks that are started;
* `Ledger.SettlesTo` — what the wait does;
* `lets_through_iff_not_pending_elsewhere` — the values that pass with an outcome of
  their own are those whose field was not pending for another value.
-/

namespace Formwork

namespace Ledger

/-- The ledger is about this value of the field, and a check of it was started. -/
def Covers (l : Ledger) (field : String) (v : Value) : Prop :=
  (l.slot field).isAbout v = true ∧ (l.slot field).status ≠ .idle

/-- A check of the field is under way, but for another value. -/
def PendingElsewhere (l : Ledger) (field : String) (v : Value) : Prop :=
  (l.slot field).status = .pending ∧ (l.slot field).isAbout v = false

variable {l m : Ledger} {field : String} {v : Value}

/-- Of the value that its slot is about, the status of the field is known. -/
theorem statusFor_of_isAbout (h : (l.slot field).isAbout v = true) :
    l.statusFor field v = (l.slot field).status := by
  unfold statusFor
  by_cases hp : (l.slot field).status = .pending
  · simp [hp]
  · simp [hp, h]

/-- Of any other value it is known at most that a check is under way. -/
theorem statusFor_of_not_isAbout (h : (l.slot field).isAbout v = false) :
    l.statusFor field v = .pending ∨ l.statusFor field v = .idle := by
  unfold statusFor
  by_cases hp : (l.slot field).status = .pending
  · simp [hp]
  · simp [hp, h]

/-- Something is known about a value exactly if the ledger covers it or if the field is
pending for another one. -/
theorem statusFor_ne_idle_iff :
    l.statusFor field v ≠ .idle ↔ l.Covers field v ∨ l.PendingElsewhere field v := by
  cases h : (l.slot field).isAbout v with
  | true => simp [statusFor_of_isAbout h, Covers, PendingElsewhere, h]
  | false =>
      unfold statusFor Covers PendingElsewhere
      by_cases hp : (l.slot field).status = .pending <;> simp [hp, h]

/-- An outcome for a value that is covered leaves it covered. -/
theorem Covers.settlesTo (h : l.Covers field v) (hs : l.SettlesTo m) : m.Covers field v := by
  obtain ⟨habout, hidle⟩ := h
  rcases hs field with hm | ⟨o, hm⟩
  · rw [Covers, hm]
    exact ⟨habout, hidle⟩
  · rw [Covers, hm]
    exact ⟨habout, by cases o <;> simp [Outcome.status]⟩

/-- What settles is about the same values as before. -/
theorem SettlesTo.isAbout_eq (h : l.SettlesTo m) (field : String) (v : Value) :
    (m.slot field).isAbout v = (l.slot field).isAbout v := by
  rcases h field with hm | ⟨o, hm⟩
  · rw [hm]
  · rw [hm]
    rfl

end Ledger

/-! ## The checks that are started -/

namespace Dispatcher

variable (d : Dispatcher)

/-- A started run covers its value, also where nothing can carry it out. -/
theorem covers_startRun (field : String) (validator : ValidatorRef) (value : Value)
    (delay : Nat) : (d.startRun field validator value delay).ledger.Covers field value := by
  unfold startRun
  dsimp only
  split
  · simp [Ledger.Covers, Ledger.slot_start, Slot.isAbout]
  · simp [Ledger.Covers, Ledger.slot_resolve, Ledger.isCurrent_eq_accepts, Ledger.slot_start,
      Ledger.start_fst, Slot.accepts, Slot.isAbout, Outcome.status]

/-- To start a run of one field leaves what is kept of all others. -/
theorem slot_startRun_other {field other : String} (h : field ≠ other)
    (validator : ValidatorRef) (value : Value) (delay : Nat) :
    (d.startRun field validator value delay).ledger.slot other = d.ledger.slot other := by
  unfold startRun
  dsimp only
  split
  · simp [Ledger.slot_start, h]
  · simp [Ledger.slot_resolve, Ledger.slot_start, Ledger.start_fst, h]

variable {known : Ledger} {values : Snapshot} {field : String} {v : Value} {f : FormField}

/-- A field is left alone, or a check of its value in the snapshot is started, of which
nothing is known. -/
theorem checkIfUnknown_cases (known : Ledger) (values : Snapshot) (f : FormField) :
    d.checkIfUnknown known values f = d ∨
      ∃ validator v, values.resolve? f.nameText = some v ∧
        known.statusFor f.nameText v = .idle ∧
        d.checkIfUnknown known values f = d.startRun f.nameText validator v 0 := by
  unfold checkIfUnknown
  cases hv : values.resolve? f.nameText with
  | none => exact Or.inl rfl
  | some v =>
      dsimp only
      split
      · rename_i hcheck
        have hcheck : v.isBlank = false ∧ known.statusFor f.nameText v = .idle := by
          simpa using hcheck
        cases hval : f.validator with
        | none => exact Or.inl (by simp [validateNow, schedule, hval])
        | some validator =>
            refine Or.inr ⟨validator, v, rfl, hcheck.2, ?_⟩
            simp [validateNow, schedule, hval, hcheck.1]
      · exact Or.inl rfl

/-- Of a value of which nothing is known a check is started without delay. -/
theorem checkIfUnknown_of_unknown {validator : ValidatorRef}
    (hvalidator : f.validator = some validator)
    (hv : values.resolve? f.nameText = some v) (hblank : v.isBlank = false)
    (hidle : known.statusFor f.nameText v = .idle) :
    d.checkIfUnknown known values f = d.startRun f.nameText validator v 0 := by
  simp [checkIfUnknown, validateNow, schedule, hv, hblank, hidle, hvalidator]

/-- This leaves what is kept of all other fields. -/
theorem slot_checkIfUnknown_other (h : f.nameText ≠ field) :
    (d.checkIfUnknown known values f).ledger.slot field = d.ledger.slot field := by
  rcases d.checkIfUnknown_cases known values f with he | ⟨validator, v, _, _, he⟩
  · rw [he]
  · rw [he, d.slot_startRun_other h]

/-- What is known of a field is left alone. -/
theorem slot_checkIfUnknown_of_known (hv : values.resolve? f.nameText = some v)
    (hknown : known.statusFor f.nameText v ≠ .idle) :
    (d.checkIfUnknown known values f).ledger.slot f.nameText = d.ledger.slot f.nameText := by
  rcases d.checkIfUnknown_cases known values f with he | ⟨_, w, hw, hidle, _⟩
  · rw [he]
  · have hvw : v = w := Option.some.inj (hv.symm.trans hw)
    rw [hvw] at hknown
    exact absurd hidle hknown

/-- The checks that are started leave a value alone of which something is known. -/
theorem slot_foldl_checkIfUnknown (fields : List FormField)
    (hv : values.resolve? field = some v) (hknown : known.statusFor field v ≠ .idle) :
    (fields.foldl (checkIfUnknown known values) d).ledger.slot field = d.ledger.slot field := by
  induction fields generalizing d with
  | nil => rfl
  | cons f rest ih =>
      rw [List.foldl_cons, ih]
      by_cases hf : f.nameText = field
      · subst hf
        exact d.slot_checkIfUnknown_of_known hv hknown
      · exact d.slot_checkIfUnknown_other hf

/-- A check of a field is always for its value in the snapshot, so a value that is
covered stays so. -/
theorem covers_checkIfUnknown (hv : values.resolve? field = some v)
    (h : d.ledger.Covers field v) : (d.checkIfUnknown known values f).ledger.Covers field v := by
  by_cases hf : f.nameText = field
  · subst hf
    rcases d.checkIfUnknown_cases known values f with he | ⟨validator, w, hw, _, he⟩
    · rw [he]
      exact h
    · have hvw : v = w := Option.some.inj (hv.symm.trans hw)
      rw [he, hvw]
      exact d.covers_startRun ..
  · rw [Ledger.Covers, d.slot_checkIfUnknown_other hf]
    exact h

/-- A value that is covered stays so while the checks of all fields are started. -/
theorem covers_foldl_checkIfUnknown (fields : List FormField)
    (hv : values.resolve? field = some v) (h : d.ledger.Covers field v) :
    (fields.foldl (checkIfUnknown known values) d).ledger.Covers field v := by
  induction fields generalizing d with
  | nil => exact h
  | cons f rest ih => exact ih _ (d.covers_checkIfUnknown hv h)

/-- A value of which nothing is known is covered as soon as the checks are started. -/
theorem covers_foldl_of_unknown {fields : List FormField} (hf : f ∈ fields)
    (hvalidator : f.validator.isSome) (hv : values.resolve? f.nameText = some v)
    (hblank : v.isBlank = false) (hidle : known.statusFor f.nameText v = .idle) :
    (fields.foldl (checkIfUnknown known values) d).ledger.Covers f.nameText v := by
  induction fields generalizing d with
  | nil => simp at hf
  | cons g rest ih =>
      rcases List.mem_cons.mp hf with rfl | hrest
      · refine covers_foldl_checkIfUnknown _ rest hv ?_
        obtain ⟨validator, hval⟩ := Option.isSome_iff_exists.mp hvalidator
        rw [d.checkIfUnknown_of_unknown hval hv hblank hidle]
        exact d.covers_startRun ..
      · exact ih _ hrest

end Dispatcher

/-! ## Before and after the wait -/

namespace Wizard

variable [PatternEngine] (w : Wizard) (values : Snapshot) (d : Dispatcher)

/-- The dispatcher as it is left to itself: checks are started for the values of the
current step, and the runs of the step are let go of. -/
def beforeWait : Dispatcher :=
  (((w.awaitedFields values).foldl (Dispatcher.checkIfUnknown d.ledger values) d).release
    ((w.awaitedFields values).map FormField.nameText)).2

theorem beforeWait_ledger : (w.beforeWait values d).ledger =
    ((w.awaitedFields values).foldl (Dispatcher.checkIfUnknown d.ledger values) d).ledger := rfl

/-- The outcome is one of going on after a wait in which no caller had a hand: runs got
on and time passed, in whatever order and with whatever answers. -/
def AwaitsTo (outcome : Navigation × Wizard × Dispatcher) : Prop :=
  ∃ moves : List Move, (∀ m ∈ moves, ∃ validators, m.IsQuiet validators) ∧
    outcome = ((w.next values ((w.beforeWait values d).play moves).ledger).1,
      (w.next values ((w.beforeWait values d).play moves).ledger).2,
      (w.beforeWait values d).play moves)

/-- To go on after outside checks is one of the things that such a wait can come to. -/
theorem nextAwaiting_awaitsTo (validators : Validators) :
    w.AwaitsTo values d (w.nextAwaiting validators values d) := by
  obtain ⟨moves, hquiet, hsettle⟩ := Dispatcher.settleFields_quiet
    ((w.awaitedFields values).foldl (Dispatcher.checkIfUnknown d.ledger values) d) validators
    ((w.awaitedFields values).map FormField.nameText)
  refine ⟨moves, fun m hm => ⟨validators, hquiet m hm⟩, ?_⟩
  unfold nextAwaiting
  dsimp only
  rw [hsettle]
  rfl

variable {w values d} {f : FormField} {v : Value}

/-- The fields that are awaited are those of the step that have a validator and are shown. -/
theorem mem_awaitedFields : f ∈ w.awaitedFields values ↔
    f ∈ w.currentFields ∧ f.validator.isSome ∧ f.isShown values = true := by
  simp [awaitedFields]

/-- After the checks are started, a value is covered or its field goes on waiting for
another one. -/
theorem covers_beforeWait (hf : f ∈ w.awaitedFields values)
    (hv : values.resolve? f.nameText = some v) (hblank : v.isBlank = false)
    (h : ¬ d.ledger.PendingElsewhere f.nameText v) :
    (w.beforeWait values d).ledger.Covers f.nameText v := by
  by_cases hidle : d.ledger.statusFor f.nameText v = .idle
  · exact d.covers_foldl_of_unknown hf (mem_awaitedFields.mp hf).2.1 hv hblank hidle
  · have hcovers := (Ledger.statusFor_ne_idle_iff.mp hidle).resolve_right h
    exact d.covers_foldl_checkIfUnknown _ hv hcovers

/-- Where the field is pending for another value, its slot is not about this one before the wait
either. -/
theorem isAbout_beforeWait (hv : values.resolve? f.nameText = some v)
    (h : d.ledger.PendingElsewhere f.nameText v) :
    ((w.beforeWait values d).ledger.slot f.nameText).isAbout v = false := by
  have hknown := Ledger.statusFor_ne_idle_iff.mpr (Or.inr h)
  have hslot := d.slot_foldl_checkIfUnknown (w.awaitedFields values) hv hknown
  rw [beforeWait_ledger, hslot]
  exact h.2

/-- **What is known at the gate.**  Whatever a dispatcher has been through, if a wizard
goes on after it has waited, then of a value of the step that is not blank and has an
outside validator an outcome of its own is known that lets it through, or else the field
was pending for another value when the wish to go on came; and in that case nothing at
all is known about the value. -/
theorem lets_through_iff_not_pending_elsewhere (w : Wizard) (values : Snapshot)
    (d : Dispatcher) :
    (∀ validators, w.AwaitsTo values d (w.nextAwaiting validators values d)) ∧
    ∀ navigation w' e, w.AwaitsTo values d (navigation, w', e) → navigation.Passes →
      ∀ f ∈ w.currentFields, f.isShown values = true → f.isDisabled = false →
        f.validator.isSome → ∀ v, values.resolve? f.nameText = some v → v.isBlank = false →
          ((e.ledger.statusFor f.nameText v).LetsThrough w.policy ↔
            ¬ d.ledger.PendingElsewhere f.nameText v) ∧
          (e.ledger.statusFor f.nameText v = .idle ↔
            d.ledger.PendingElsewhere f.nameText v) := by
  refine ⟨w.nextAwaiting_awaitsTo values d, ?_⟩
  intro navigation w' e hawaits hpasses f hf hshown henabled hvalidator v hv hblank
  obtain ⟨moves, hquiet, hout⟩ := hawaits
  obtain ⟨rfl, hrest⟩ := Prod.mk.inj hout
  obtain ⟨_, rfl⟩ := Prod.mk.inj hrest
  have hmem : f ∈ w.awaitedFields values := mem_awaitedFields.mpr ⟨hf, hvalidator, hshown⟩
  -- nothing but outcomes comes in during the wait, and the step has passed
  have hsettles := (w.beforeWait values d).play_settlesTo hquiet
  have hstatus := (Finding.passes_ofStatus_iff ..).mp
    (passes_of_next hpasses hf hshown henabled hvalidator hv)
  by_cases helse : d.ledger.PendingElsewhere f.nameText v
  · -- the field is still not about the value, and a pending field would have blocked
    have habout : (((w.beforeWait values d).play moves).ledger.slot
        f.nameText).isAbout v = false := by
      rw [hsettles.isAbout_eq]
      exact isAbout_beforeWait hv helse
    have hidle : ((w.beforeWait values d).play moves).ledger.statusFor
        f.nameText v = .idle := by
      rcases Ledger.statusFor_of_not_isAbout habout with hpending | hidle
      · simp [hpending, AsyncStatus.LetsThrough] at hstatus
      · exact hidle
    simp [hidle, helse, AsyncStatus.LetsThrough]
  · -- the value was known or its check was started, and so it is what the field is about
    have hcovers := (covers_beforeWait hmem hv hblank helse).settlesTo hsettles
    have hidle := Ledger.statusFor_ne_idle_iff.mpr (Or.inl hcovers)
    have hlets := hstatus.resolve_left hidle
    simp [hidle, helse, hlets]

end Wizard

/-- A form of one field, whose validator refuses the value `taken`. -/
def userField : FormField := { kind := .text, name := some "user", validator := some ⟨0⟩ }

def userWizard : Wizard := { schema := { fields := [("user", userField)], rules := [] } }

def refuseTaken : Validators := fun _ v =>
  ⟨some 5, some (if v.same (.text "taken") then .invalid "taken" else .valid)⟩

/-- What comes of going on with this value while the value `free` is being checked. -/
def goOnWith (value : String) : Navigation × Wizard × Dispatcher :=
  userWizard.nextAwaiting refuseTaken [("user", .text value)]
    ((Dispatcher.new {}).onChange userField (.text "free"))

/-- The value that is being checked passes with an outcome of its own. -/
theorem lets_through_free : (goOnWith "free").1 = .stayed 1 ∧
    ((goOnWith "free").2.2.ledger.statusFor "user" (.text "free")).LetsThrough .allow := by
  obtain ⟨hawaits, hgate⟩ :=
    Wizard.lets_through_iff_not_pending_elsewhere userWizard [("user", .text "free")]
      ((Dispatcher.new {}).onChange userField (.text "free"))
  have hstayed : (goOnWith "free").1 = .stayed 1 := by decide
  have hpasses : (goOnWith "free").1.Passes := by
    rw [hstayed]
    trivial
  have hfree := hgate _ _ _ (hawaits refuseTaken) hpasses userField (by decide) (by decide)
    rfl rfl (.text "free") (by decide) (by decide)
  exact ⟨hstayed, hfree.1.mpr fun helse => absurd helse.2 (by decide)⟩

/-- A value that would be refused passes unchecked. -/
theorem taken_passes_unchecked :
    (goOnWith "taken").1 = .stayed 1 ∧
      (goOnWith "taken").2.2.ledger.statusFor "user" (.text "taken") = .idle ∧
      (goOnWith "taken").2.2.inquiries.map Inquiry.value = [.text "free"] := by
  decide

end Formwork
