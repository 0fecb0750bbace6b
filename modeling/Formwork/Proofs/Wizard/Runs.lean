import Formwork.Pattern.Meaning
import Formwork.Proofs.Async.History
import Formwork.Proofs.Lists
import Formwork.Proofs.Wizard.Report

/-!
# Runs of a wizard

A **run** is any sequence of wishes told to one wizard: to go on, with whatever snapshot
and ledger and under whatever policy, to go back, or to jump to a step.  Nothing ties the
values of one wish to those of another, so a step that has passed may well not pass again.

* `Wizard.Leads` — all that one wish can lead to; `answer_leads` takes a wish apart;
* `Wizard.Passed` — in a run, a step passed if it was the current one of a wish to go on
  and the report on it was valid;
* `Wizard.OnTrack` — the furthest step that has passed is a bound for the current one, and
  every step up to it has passed; `onTrack_after` says so of every run;
* `run_skips_no_step` — a wizard stays among its steps, skips none of them, and says what
  it did.
-/

namespace Formwork

/-- What a wizard can be asked to do. -/
inductive Wish where
  | next (policy : UnverifiedPolicy) (values : Snapshot) (ledger : Ledger)
  | previous
  | goTo (step : Nat)

/-! ## The number of steps -/

/-- There is a first step, even where nothing mentions one. -/
theorem Schema.one_le_totalSteps (s : Schema) : 1 ≤ s.totalSteps :=
  (foldl_max_le_iff.mp (Nat.le_refl _)).1

namespace Wizard

variable [PatternEngine]

/-! ## One wish -/

/-- The report on the current step lets it pass under this policy. -/
def StepPasses (w : Wizard) (policy : UnverifiedPolicy) (values : Snapshot) (ledger : Ledger) :
    Prop :=
  ({ w with policy }.reportOnStep w.current values ledger).isValid = true

/-- What comes of a wish: how the wizard moved, and the wizard after it. -/
def answer (w : Wizard) : Wish → Navigation × Wizard
  | .next policy values ledger => { w with policy }.next values ledger
  | .previous => w.previous
  | .goTo step => w.goTo step

/-- All that a wish can lead to: how the wizard moved, the current step after it, and the
furthest step that has passed. -/
inductive Leads (w : Wizard) : Wish → Navigation → Nat → Nat → Prop
  | blocked {policy values ledger} (hfails : ¬ w.StepPasses policy values ledger) :
      Leads w (.next policy values ledger)
        (.blocked ({ w with policy }.reportOnStep w.current values ledger)) w.current w.validated
  | finished {policy values ledger} (hpasses : w.StepPasses policy values ledger)
      (hlast : w.total ≤ w.current) :
      Leads w (.next policy values ledger) (.stayed w.current) w.current
        (max w.validated w.current)
  | forward {policy values ledger} (hpasses : w.StepPasses policy values ledger)
      (hlast : w.current < w.total) :
      Leads w (.next policy values ledger) (.moved w.current (w.current + 1)) (w.current + 1)
        (max w.validated w.current)
  | first (hfirst : w.current ≤ 1) :
      Leads w .previous (.stayed w.current) w.current w.validated
  | back (hfirst : 1 < w.current) :
      Leads w .previous (.moved w.current (w.current - 1)) (w.current - 1) w.validated
  | refused {step} (hrefused : w.canReach step = false ∨ step = w.current) :
      Leads w (.goTo step) (.stayed w.current) w.current w.validated
  | jump {step} (hone : 1 ≤ step) (htotal : step ≤ w.total)
      (hreach : step ≤ max w.current (w.validated + 1)) (hne : step ≠ w.current) :
      Leads w (.goTo step) (.moved w.current step) step w.validated

omit [PatternEngine] in
/-- A step can be reached if it is one of the form and not beyond the one after the last that has
passed, or the current one. -/
theorem canReach_iff (w : Wizard) (step : Nat) : w.canReach step = true ↔
    1 ≤ step ∧ step ≤ w.total ∧ step ≤ max w.current (w.validated + 1) := by
  simp only [canReach, Bool.and_eq_true, decide_eq_true_eq, and_assoc]

/-- Every wish is answered as it should be: a step that is not valid blocks, one that is counts as
passed, and the current step changes to the one wished for if that can be reached. -/
theorem answer_leads (w : Wizard) (wish : Wish) :
    w.Leads wish (w.answer wish).1 (w.answer wish).2.current (w.answer wish).2.validated := by
  cases wish with
  | next policy values ledger =>
      by_cases hpasses : w.StepPasses policy values ledger
      · have hvalid := hpasses
        unfold StepPasses at hvalid
        -- a step that is valid is followed by the next, or by the end
        by_cases hlast : w.total ≤ w.current
        · have hlast' : { w with policy }.total ≤ w.current := hlast
          simp only [answer, next, hvalid, hlast', if_true]
          exact .finished hpasses hlast
        · have hlast' : ¬ { w with policy }.total ≤ w.current := hlast
          simp only [answer, next, hvalid, hlast', if_true, if_false]
          exact .forward hpasses (by omega)
      · have hinvalid := hpasses
        unfold StepPasses at hinvalid
        simp only [answer, next, hinvalid]
        exact .blocked hpasses
  | previous =>
      by_cases hfirst : w.current ≤ 1
      · simp only [answer, previous, hfirst, if_true]
        exact .first hfirst
      · simp only [answer, previous, hfirst, if_false]
        exact .back (by omega)
  | goTo step =>
      by_cases hrefused : w.canReach step = false ∨ step = w.current
      · have hstays : (!w.canReach step || step = w.current) = true := by simpa using hrefused
        simp only [answer, goTo, hstays, if_true]
        exact .refused hrefused
      · -- the step can be reached and is not the current one
        obtain ⟨hreach, hne⟩ := not_or.mp hrefused
        have hmoves : ¬ (!w.canReach step || step = w.current) = true := by simpa using hrefused
        simp only [answer, goTo, hmoves]
        have hcan : w.canReach step = true := by simpa using hreach
        obtain ⟨hone, htotal, hmax⟩ := (w.canReach_iff step).mp hcan
        exact .jump hone htotal hmax hne

/-- No wish changes what the wizard leads through. -/
theorem answer_schema (w : Wizard) (wish : Wish) : (w.answer wish).2.schema = w.schema := by
  cases wish with
  | next policy values ledger =>
      simp only [answer, next]
      split
      · split <;> rfl
      · rfl
  | previous =>
      simp only [answer, previous]
      split <;> rfl
  | goTo step =>
      simp only [answer, goTo]
      split <;> rfl

/-- A wish is answered by a move exactly if it changes the current step, and the move
tells from where to where. -/
theorem Leads.moved_iff {w : Wizard} {wish : Wish} {navigation : Navigation}
    {current validated : Nat} (h : w.Leads wish navigation current validated) (start finish : Nat) :
    navigation = .moved start finish ↔
      current ≠ w.current ∧ start = w.current ∧ finish = current := by
  cases h with
  | blocked => simp
  | finished => simp
  | first => simp
  | refused => simp
  | forward =>
      simp only [Navigation.moved.injEq]
      omega
  | back hfirst =>
      simp only [Navigation.moved.injEq]
      omega
  | jump hone htotal hreach hne =>
      simp only [Navigation.moved.injEq]
      omega

/-- A wizard that is blocked stays as it was. -/
theorem Leads.eq_of_blocked {w : Wizard} {wish : Wish} {report : Report}
    {current validated : Nat} (h : w.Leads wish (.blocked report) current validated) :
    current = w.current ∧ validated = w.validated := by
  cases h with
  | blocked => exact ⟨rfl, rfl⟩

/-! ## Runs -/

/-- A new wizard after these wishes. -/
def after (schema : Schema) (wishes : List Wish) : Wizard :=
  wishes.foldl (fun w wish => (w.answer wish).2) { schema }

theorem after_snoc (schema : Schema) (wishes : List Wish) (wish : Wish) :
    after schema (wishes ++ [wish]) = ((after schema wishes).answer wish).2 := by
  simp [after]

/-- No wish changes the schema. -/
theorem after_schema (schema : Schema) (wishes : List Wish) :
    (after schema wishes).schema = schema := by
  induction wishes using List.reverseRecOn with
  | nil => rfl
  | append_singleton wishes wish ih => rw [after_snoc, answer_schema, ih]

theorem after_total (schema : Schema) (wishes : List Wish) :
    (after schema wishes).total = schema.totalSteps := by
  rw [total, after_schema]

/-- In this run the step was the current one of a wish to go on, and the report on it was
valid. -/
def Passed (schema : Schema) (wishes : List Wish) (step : Nat) : Prop :=
  ∃ before policy values ledger since,
    wishes = before ++ .next policy values ledger :: since ∧
      (after schema before).current = step ∧
      (after schema before).StepPasses policy values ledger

/-- One more wish adds the current step to those that have passed, if it is to go on
and succeeds. -/
theorem passed_snoc {schema : Schema} {wishes : List Wish} {wish : Wish} {step : Nat} :
    Passed schema (wishes ++ [wish]) step ↔ Passed schema wishes step ∨
      ∃ policy values ledger, wish = .next policy values ledger ∧
        (after schema wishes).current = step ∧
        (after schema wishes).StepPasses policy values ledger := by
  constructor
  · intro h
    obtain ⟨before, policy, values, ledger, since, hrun, hcurrent, hpasses⟩ := h
    rcases append_cons_eq_snoc_iff.mp hrun.symm with ⟨rfl, rfl, _⟩ | ⟨earlier, _, rfl⟩
    · exact Or.inr ⟨policy, values, ledger, rfl, hcurrent, hpasses⟩
    · exact Or.inl ⟨before, policy, values, ledger, earlier, rfl, hcurrent, hpasses⟩
  · intro h
    rcases h with ⟨before, policy, values, ledger, since, rfl, hcurrent, hpasses⟩ |
      ⟨policy, values, ledger, rfl, hcurrent, hpasses⟩
    · exact ⟨before, policy, values, ledger, since ++ [wish], by simp, hcurrent, hpasses⟩
    · exact ⟨wishes, policy, values, ledger, [], rfl, hcurrent, hpasses⟩

/-- A wish that is not to go on lets no further step pass. -/
theorem passed_snoc_of_not_next {schema : Schema} {wishes : List Wish} {wish : Wish}
    {step : Nat} (hwish : ∀ policy values ledger, wish ≠ .next policy values ledger) :
    Passed schema (wishes ++ [wish]) step ↔ Passed schema wishes step := by
  rw [passed_snoc]
  refine or_iff_left ?_
  intro h
  obtain ⟨policy, values, ledger, rfl, _⟩ := h
  exact hwish policy values ledger rfl

/-- What holds of a wizard with these two steps after a run: both are among the steps of
the schema, the current one is at most one beyond the furthest that has passed, and the
steps up to that one are those that have passed. -/
structure OnTrack (schema : Schema) (wishes : List Wish) (current validated : Nat) :
    Prop where
  one_le : 1 ≤ current
  le_total : current ≤ schema.totalSteps
  validated_le : validated ≤ schema.totalSteps
  le_succ : current ≤ validated + 1
  passed_iff : ∀ step, Passed schema wishes step ↔ 1 ≤ step ∧ step ≤ validated

namespace OnTrack

variable {schema : Schema} {wishes : List Wish}

/-- At first the wizard is at the first step, and none has passed. -/
theorem new (schema : Schema) : OnTrack schema [] 1 0 where
  one_le := Nat.le_refl 1
  le_total := schema.one_le_totalSteps
  validated_le := Nat.zero_le _
  le_succ := Nat.le_refl 1
  passed_iff := by
    intro step
    refine iff_of_false ?_ (by omega)
    intro h
    obtain ⟨before, policy, values, ledger, since, hnil, _⟩ := h
    simp at hnil

/-- The steps that have passed after a wish to go on that succeeds: the current one is
now among them, and it is at most one beyond the others. -/
theorem passed_iff_of_passes
    (h : OnTrack schema wishes (after schema wishes).current
      (after schema wishes).validated) {policy : UnverifiedPolicy} {values : Snapshot}
    {ledger : Ledger} (hpasses : (after schema wishes).StepPasses policy values ledger)
    (step : Nat) :
    Passed schema (wishes ++ [.next policy values ledger]) step ↔
      1 ≤ step ∧ step ≤ max (after schema wishes).validated (after schema wishes).current := by
  have hone := h.one_le
  have hsucc := h.le_succ
  rw [passed_snoc, h.passed_iff]
  constructor
  · intro hstep
    rcases hstep with hstep | ⟨_, _, _, _, hcurrent, _⟩
    · omega
    · omega
  · intro hstep
    -- a step that has not passed before can only be the current one
    by_cases hold : step ≤ (after schema wishes).validated
    · exact Or.inl ⟨hstep.1, hold⟩
    · exact Or.inr ⟨policy, values, ledger, rfl, by omega, hpasses⟩

/-- A wish that is not to go on keeps a wizard on its track if it leads to one of the steps
up to the one after the furthest that has passed. -/
theorem of_not_next (h : OnTrack schema wishes (after schema wishes).current
      (after schema wishes).validated) {wish : Wish} {current : Nat}
    (hwish : ∀ policy values ledger, wish ≠ .next policy values ledger) (hone : 1 ≤ current)
    (htotal : current ≤ schema.totalSteps) (hsucc : current ≤ (after schema wishes).validated + 1) :
    OnTrack schema (wishes ++ [wish]) current (after schema wishes).validated where
  one_le := hone
  le_total := htotal
  validated_le := h.validated_le
  le_succ := hsucc
  passed_iff := by
    intro step
    rw [passed_snoc_of_not_next hwish, h.passed_iff]

/-- Every wish keeps a wizard on its track. -/
theorem leads (h : OnTrack schema wishes (after schema wishes).current
      (after schema wishes).validated) {wish : Wish} {navigation : Navigation}
    {current validated : Nat}
    (hwish : (after schema wishes).Leads wish navigation current validated) :
    OnTrack schema (wishes ++ [wish]) current validated := by
  have hone := h.one_le
  have htotal := h.le_total
  have hvalidated := h.validated_le
  have hsucc := h.le_succ
  have heq := after_total schema wishes
  cases hwish with
  | @blocked policy values ledger hfails =>
      refine ⟨hone, htotal, hvalidated, hsucc, fun step => ?_⟩
      rw [passed_snoc, h.passed_iff]
      refine or_iff_left ?_
      intro hnew
      obtain ⟨_, _, _, hwish, _, hpasses⟩ := hnew
      cases hwish
      exact hfails hpasses
  | finished hpasses hlast =>
      exact ⟨hone, htotal, by omega, by omega, h.passed_iff_of_passes hpasses⟩
  | forward hpasses hlast =>
      exact ⟨by omega, by omega, by omega, by omega, h.passed_iff_of_passes hpasses⟩
  | first => exact h.of_not_next (by simp) hone htotal hsucc
  | back hfirst => exact h.of_not_next (by simp) (by omega) (by omega) (by omega)
  | refused => exact h.of_not_next (by simp) hone htotal hsucc
  | jump hstep hreachable hreach hne =>
      exact h.of_not_next (by simp) hstep (by omega) (by omega)

end OnTrack

/-- Every run keeps a wizard on its track. -/
theorem onTrack_after (schema : Schema) (wishes : List Wish) :
    OnTrack schema wishes (after schema wishes).current
      (after schema wishes).validated := by
  induction wishes using List.reverseRecOn with
  | nil => exact OnTrack.new schema
  | append_singleton wishes wish ih =>
      rw [after_snoc]
      exact ih.leads (answer_leads _ wish)

/-- **A wizard skips no step.**  After every run the current step is one of the steps of
the schema, at most one beyond the furthest that has passed, and every step before it has
passed at some time in the run.  A wish is answered by a move exactly if it changes the
current step, and a wizard that is blocked stays as it was. -/
theorem run_skips_no_step (schema : Schema) (wishes : List Wish) :
    let w := after schema wishes
    (1 ≤ w.current ∧ w.current ≤ w.total ∧ w.validated ≤ w.total ∧
      w.current ≤ w.validated + 1) ∧
    (∀ step, 1 ≤ step → step < w.current → Passed schema wishes step) ∧
    ∀ wish, (∀ start finish, (w.answer wish).1 = .moved start finish ↔
        (w.answer wish).2.current ≠ w.current ∧ start = w.current ∧
          finish = (w.answer wish).2.current) ∧
      ∀ report, (w.answer wish).1 = .blocked report →
        (w.answer wish).2.current = w.current ∧ (w.answer wish).2.validated = w.validated := by
  intro w
  have htrack := onTrack_after schema wishes
  have htotal : w.total = schema.totalSteps := after_total schema wishes
  refine ⟨⟨htrack.one_le, ?_, ?_, htrack.le_succ⟩, ?_, ?_⟩
  · rw [htotal]
    exact htrack.le_total
  · rw [htotal]
    exact htrack.validated_le
  · intro step hone hstep
    have hsucc := htrack.le_succ
    have hbefore : step < (after schema wishes).current := hstep
    exact (htrack.passed_iff step).mpr ⟨hone, by omega⟩
  · intro wish
    have hleads := w.answer_leads wish
    refine ⟨hleads.moved_iff, ?_⟩
    intro report hblocked
    rw [hblocked] at hleads
    exact hleads.eq_of_blocked

end Wizard

/-- A form of two steps, of which the first asks for a name. -/
def nameThenMail : Schema where
  fields := [("name", { kind := .text, name := some "name", isRequired := true }),
    ("mail", { kind := .email, name := some "mail", step := some 2 })]
  rules := [("name", ⟨.any, false⟩), ("mail", ⟨.any, true⟩)]

/-- Going on without a name, then with one, then back, and to the second step by a jump. -/
def backAndForth : List Wish :=
  [.next .block [] [], .next .allow [("name", .text "Ada")] [], .previous, .goTo 2]

/-- The jump leads to a step whose predecessor has passed, though not at the first try. -/
theorem jump_follows_pass : (Wizard.after nameThenMail backAndForth).current = 2 ∧
    Wizard.Passed nameThenMail backAndForth 1 := by
  obtain ⟨_, hpassed, _⟩ := Wizard.run_skips_no_step nameThenMail backAndForth
  exact ⟨by decide, hpassed 1 (by decide) (by decide)⟩

end Formwork
