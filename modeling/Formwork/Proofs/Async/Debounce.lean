import Formwork.Proofs.Async.Pending
import Formwork.Proofs.Async.Awaited

/-!
# Only the value in force is checked, and not before its delay is over

While a user types, every value replaces the one before it, and a validator is to see
none of those that were replaced.  A run that nobody waits for is stopped by the next
value; one that a caller waits for is over before the next value comes, if callers do
nothing else while they wait.  So every run under way is that of the value in force, and
it is the only one of its field.

* `InForce` — the value that a field was given last, no cancel having come since;
* `Debounced` is what all moves preserve: the runs under way are those of the values in
  force, and their delays end no earlier than they should;
* `asked_only_in_force` — validators are asked about values in force after their delay,
  once for each at most, and of values that come quickly one after another only about
  the last.
-/

namespace Formwork

/-! ## Places among the moves -/

theorem before_of_snoc {α : Type} {before all : List α} {x : α} (h : before ++ [x] <+: all) :
    before <+: all :=
  (List.prefix_append before [x]).trans h

/-- The last place with a property is the only one that no such place comes after. -/
theorem last_place_unique {α : Type} {p : α → Prop} {xs ys xs' ys' : List α} {x x' : α}
    (h : xs ++ x :: ys = xs' ++ x' :: ys') (hx : p x) (hys : ∀ y ∈ ys, ¬ p y) (hx' : p x')
    (hys' : ∀ y ∈ ys', ¬ p y) : xs = xs' ∧ x = x' := by
  rcases List.append_eq_append_iff.mp h with ⟨zs, rfl, htail⟩ | ⟨zs, rfl, htail⟩
  · cases zs with
    | nil => exact ⟨(List.append_nil _).symm, (List.cons.inj htail).1⟩
    | cons z zs =>
        obtain ⟨_, rfl⟩ := List.cons.inj htail
        exact absurd hx' (hys x' (by simp))
  · cases zs with
    | nil => exact ⟨List.append_nil _, (List.cons.inj htail).1.symm⟩
    | cons z zs =>
        obtain ⟨_, rfl⟩ := List.cons.inj htail
        exact absurd hx (hys' x (by simp))

/-! ## The value in force -/

/-- The field was given a value by the move after the moves `earlier`, and in the moves
`since` it was given no other value and no cancel came for it. -/
def InForce (config : DispatchConfig) (moves : List Move) (field : String) (q : CheckRequest)
    (earlier since : List Move) : Prop :=
  ∃ m, moves = earlier ++ m :: since ∧ m.request? config field = some q ∧
    ∀ x ∈ since, ¬ x.Withdraws field

section InForce

variable {config : DispatchConfig} {moves : List Move} {field : String} {q p : CheckRequest}
  {earlier since : List Move}

/-- A value is in force after one more move if that move gives it, or if it was in force before
and the move does not take it back. -/
theorem inForce_snoc {c : Move} :
    InForce config (moves ++ [c]) field q earlier since ↔
      (c.request? config field = some q ∧ earlier = moves ∧ since = []) ∨
      (¬ c.Withdraws field ∧ ∃ before, since = before ++ [c] ∧
        InForce config moves field q earlier before) := by
  constructor
  · intro h
    obtain ⟨m, hmoves, hq, hsince⟩ := h
    rcases append_cons_eq_snoc_iff.mp hmoves.symm with ⟨rfl, rfl, rfl⟩ | ⟨before, rfl, rfl⟩
    · exact Or.inl ⟨hq, rfl, rfl⟩
    · obtain ⟨hbefore, hc⟩ := forall_mem_snoc.mp hsince
      exact Or.inr ⟨hc, before, rfl, m, rfl, hq, hbefore⟩
  · intro h
    rcases h with ⟨hq, rfl, rfl⟩ | ⟨hc, before, rfl, m, rfl, hq, hbefore⟩
    · exact ⟨c, rfl, hq, by simp⟩
    · exact ⟨m, by simp, hq, forall_mem_snoc.mpr ⟨hbefore, hc⟩⟩

namespace InForce

/-- A value in force was given at a place among the moves. -/
theorem prefix_moves (h : InForce config moves field q earlier since) : earlier <+: moves := by
  obtain ⟨m, rfl, _⟩ := h
  exact List.prefix_append ..

/-- It was given at no later time than now. -/
theorem now_le (h : InForce config moves field q earlier since) :
    ((Dispatcher.new config).play earlier).now ≤ ((Dispatcher.new config).play moves).now :=
  Dispatcher.now_mono _ h.prefix_moves

/-- It stays in force through a move that does not take it back. -/
theorem snoc (h : InForce config moves field q earlier since) {c : Move}
    (hc : ¬ c.Withdraws field) : InForce config (moves ++ [c]) field q earlier (since ++ [c]) :=
  inForce_snoc.mpr (Or.inr ⟨hc, since, rfl, h⟩)

/-- One value at most is in force. -/
theorem unique (h : InForce config moves field q earlier since) {before after : List Move}
    (k : InForce config moves field p before after) : earlier = before ∧ q = p := by
  obtain ⟨m, rfl, hq, hsince⟩ := h
  obtain ⟨c, hmoves, hp, hafter⟩ := k
  obtain ⟨hplace, rfl⟩ := last_place_unique hmoves (Or.inl (Move.gives_of_request? hq)) hsince
    (Or.inl (Move.gives_of_request? hp)) hafter
  exact ⟨hplace, Option.some.inj (hq.symm.trans hp)⟩

/-- What is in force stands at its place in all moves. -/
theorem of_prefix_cons (h : InForce config moves field q earlier since) {x : Move}
    {rest : List Move} (hpre : moves <+: earlier ++ x :: rest) :
    moves = earlier ++ x :: since ∧ since <+: rest ∧ x.request? config field = some q ∧
      ∀ z ∈ since, ¬ z.Withdraws field := by
  obtain ⟨m, rfl, hq, hsince⟩ := h
  obtain ⟨more, hmore⟩ := hpre
  rw [List.append_assoc, List.cons_append] at hmore
  obtain ⟨rfl, hrest⟩ := List.cons.inj (List.append_cancel_left hmore)
  exact ⟨rfl, ⟨more, hrest⟩, hq, hsince⟩

end InForce

end InForce

namespace Dispatcher

/-! ## The runs of values in force -/

/-- How often validators were asked about the field. -/
def timesAsked (d : Dispatcher) (field : String) : Nat :=
  d.inquiries.countP fun i => i.field = field

theorem timesAsked_le_play (d : Dispatcher) (moves : List Move) (field : String) :
    d.timesAsked field ≤ (d.play moves).timesAsked field :=
  (d.inquiries_prefix_play moves).sublist.countP_le

/-- The run is that of the value in force for its field, which is not blank.  As long as
its validator was not asked, no validator was asked about the field since the value was
given; and its delay ends no earlier than it should, counted from the time when the
value was given. -/
structure Timely (config : DispatchConfig) (moves : List Move) (d : Dispatcher) (r : Run)
    (earlier since : List Move) : Prop where
  inForce : InForce config moves r.ticket.field ⟨r.validator, r.ticket.value, r.delay⟩
    earlier since
  notBlank : r.ticket.value.isBlank = false
  notAsked : (∀ time, r.phase ≠ .asking time) →
    d.timesAsked r.ticket.field = ((new config).play earlier).timesAsked r.ticket.field
  notEarly : ∀ time, r.phase = .delayed time →
    ((new config).play earlier).now + r.delay ≤ time

/-- All runs are timely, and no two are of one field. -/
structure Debounced (config : DispatchConfig) (moves : List Move) (d : Dispatcher) : Prop where
  timely : ∀ {id r}, (id, r) ∈ d.runs → ∃ earlier since, Timely config moves d r earlier since
  alone : ∀ {i j r s}, (i, r) ∈ d.runs → (j, s) ∈ d.runs → r.ticket.field = s.ticket.field →
    (i, r) = (j, s)

section Step

variable {config : DispatchConfig} {moves : List Move} {d e : Dispatcher} {m : Move}

/-- A run that is in time stays so through a move that neither takes its value back nor asks about
its field. -/
theorem Timely.snoc {r : Run} {earlier since : List Move}
    (h : Timely config moves d r earlier since) (hm : ¬ m.Withdraws r.ticket.field)
    (hasked : e.timesAsked r.ticket.field = d.timesAsked r.ticket.field) :
    Timely config (moves ++ [m]) e r earlier (since ++ [m]) where
  inForce := h.inForce.snoc hm
  notBlank := h.notBlank
  notAsked := fun hphase => hasked.trans (h.notAsked hphase)
  notEarly := h.notEarly

namespace Debounced

/-- Runs may end, if the values of those that are left stay in force. -/
theorem mono (h : Debounced config moves d)
    (hruns : ∀ {id r}, (id, r) ∈ e.runs → (id, r) ∈ d.runs ∧ ¬ m.Withdraws r.ticket.field)
    (hinquiries : e.inquiries = d.inquiries) : Debounced config (moves ++ [m]) e where
  timely := by
    intro id r hr
    obtain ⟨hr, hm⟩ := hruns hr
    obtain ⟨earlier, since, ht⟩ := h.timely hr
    exact ⟨earlier, since ++ [m], ht.snoc hm (by rw [timesAsked, hinquiries, timesAsked])⟩
  alone := fun hr hs => h.alone (hruns hr).1 (hruns hs).1

/-- A field whose runs are in its hands has none left when it is cancelled or forgotten. -/
theorem cancel (h : Debounced config moves d) (hheld : d.HeldOr []) {field : String}
    (hm : ∀ other, other ≠ field → ¬ m.Withdraws other) (hruns : e.runs = (d.cancel field).runs)
    (hinquiries : e.inquiries = (d.cancel field).inquiries) :
    Debounced config (moves ++ [m]) e := by
  refine h.mono ?_ (hinquiries.trans (cancel_inquiries ..))
  intro id r hr
  rw [hruns] at hr
  obtain ⟨hr, hne⟩ := d.mem_runs_cancel.mp hr
  exact ⟨hr, hm _ (hheld.field_ne_of_cancel hr hne)⟩

/-- The run of a new value is the only one of its field. -/
theorem startRun (h : Debounced config moves d) (hd : d = (new config).play moves)
    (hscheduler : d.hasScheduler = true) (hheld : d.HeldOr []) {field : String}
    {q : CheckRequest} (hq : m.request? config field = some q)
    (hblank : q.value.isBlank = false) :
    Debounced config (moves ++ [m]) (d.startRun field q.validator q.value q.delay) := by
  have hasked : ∀ name, (d.startRun field q.validator q.value q.delay).timesAsked name =
      d.timesAsked name := by
    intro name
    rw [timesAsked, startRun_inquiries, timesAsked]
  -- the older run of the field is stopped, so all others are of other fields
  have hcases : ∀ {id r}, (id, r) ∈ (d.startRun field q.validator q.value q.delay).runs →
      ((id, r) ∈ d.runs ∧ r.ticket.field ≠ field) ∨
        (id, r) = (d.nextRun, ⟨(d.ledger.start field q.value).1, q.validator, q.delay,
          .scheduled⟩) := by
    intro id r hr
    rcases (mem_runs_startRun hscheduler).mp hr with ⟨hr, hne⟩ | hr
    · exact Or.inl ⟨hr, hheld.field_ne_of_cancel hr hne⟩
    · exact Or.inr hr
  constructor
  · intro id r hr
    rcases hcases hr with ⟨hr, hne⟩ | hr
    · obtain ⟨earlier, since, ht⟩ := h.timely hr
      have hm := Move.not_withdraws_of_gives (Move.gives_of_request? hq) hne
      exact ⟨earlier, since ++ [m], ht.snoc hm (hasked _)⟩
    · obtain ⟨_, rfl⟩ := Prod.mk.inj hr
      refine ⟨moves, [], inForce_snoc.mpr (Or.inl ⟨hq, rfl, rfl⟩), hblank, ?_, nofun⟩
      intro _
      rw [hasked, hd]
  · intro i j r s hr hs hf
    rcases hcases hr with ⟨hr, hrne⟩ | hr
    · rcases hcases hs with ⟨hs, _⟩ | hs
      · exact h.alone hr hs hf
      · obtain ⟨_, rfl⟩ := Prod.mk.inj hs
        exact absurd hf hrne
    · rcases hcases hs with ⟨_, hsne⟩ | hs
      · obtain ⟨_, rfl⟩ := Prod.mk.inj hr
        exact absurd hf.symm hsne
      · exact hr.trans hs.symm

/-- One run gets on, and the others stay as they are. -/
theorem setPhase (h : Debounced config moves d) (hsound : d.Sound) {id : Nat} {r : Run}
    (hr : (id, r) ∈ d.runs) {phase : Phase} (hm : ∀ field, ¬ m.Withdraws field)
    (hruns : e.runs = (d.setPhase id phase).runs)
    (hself : ∀ {earlier since}, Timely config moves d r earlier since →
      Timely config (moves ++ [m]) e { r with phase } earlier (since ++ [m]))
    (hasked : ∀ field, field ≠ r.ticket.field → e.timesAsked field = d.timesAsked field) :
    Debounced config (moves ++ [m]) e := by
  -- there is one run for each field, so all others are of other fields
  have hcases : ∀ {j s}, (j, s) ∈ e.runs → (j, s) = (id, { r with phase }) ∨
      ((j, s) ∈ d.runs ∧ s.ticket.field ≠ r.ticket.field) := by
    intro j s hs
    rw [hruns] at hs
    obtain ⟨t, ht, rfl⟩ := d.mem_runs_setPhase.mp hs
    by_cases hj : j = id
    · subst hj
      have hf : t.ticket.field = r.ticket.field := by rw [hsound.run_unique ht hr]
      obtain ⟨_, rfl⟩ := Prod.mk.inj (h.alone ht hr hf)
      exact Or.inl (by rw [if_pos rfl])
    · rw [if_neg hj]
      exact Or.inr ⟨ht, fun hf => hj (Prod.mk.inj (h.alone ht hr hf)).1⟩
  constructor
  · intro j s hs
    rcases hcases hs with hs | ⟨hs, hne⟩
    · obtain ⟨_, rfl⟩ := Prod.mk.inj hs
      obtain ⟨earlier, since, ht⟩ := h.timely hr
      exact ⟨earlier, since ++ [m], hself ht⟩
    · obtain ⟨earlier, since, ht⟩ := h.timely hs
      exact ⟨earlier, since ++ [m], ht.snoc (hm _) (hasked _ hne)⟩
  · intro i j s t hs ht hf
    rcases hcases hs with hs | ⟨hs, hsne⟩
    · rcases hcases ht with ht | ⟨_, htne⟩
      · exact hs.trans ht.symm
      · obtain ⟨_, rfl⟩ := Prod.mk.inj hs
        exact absurd hf.symm htne
    · rcases hcases ht with ht | ⟨ht, _⟩
      · obtain ⟨_, rfl⟩ := Prod.mk.inj ht
        exact absurd hf hsne
      · exact h.alone hs ht hf

/-- Every move keeps what is debounced so, if a move of a caller finds all runs in the
hands of their fields. -/
theorem apply (h : Debounced config moves d) (hd : d = (new config).play moves)
    (hheld : m.isCall = true → d.HeldOr []) : Debounced config (moves ++ [m]) (m.apply d) := by
  have hsound : d.Sound := hd ▸ (sound_new config).play moves
  have hconfig : d.config = config := by rw [hd, play_config]; rfl
  -- moves of runs and of time take nothing back
  have hkeeps : m.isCall = false → ∀ field, ¬ m.Withdraws field :=
    Move.not_withdraws_of_not_isCall
  have hdoes := does_apply d m
  generalize m.apply d = e at hdoes ⊢
  cases hdoes with
  | nothing hm => exact h.mono (fun hr => ⟨hr, hm _⟩) rfl
  | forgets hq =>
      have hgives := Move.gives_of_request? hq
      refine h.cancel (hheld hgives.isCall) ?_ rfl rfl
      exact fun other hne => Move.not_withdraws_of_gives hgives hne
  | starts hq hblank =>
      rw [hconfig] at hq
      have hgives := Move.gives_of_request? hq
      exact h.startRun hd hsound.hasScheduler (hheld hgives.isCall) hq hblank
  | cancels =>
      refine h.cancel (hheld rfl) ?_ rfl rfl
      intro other hne
      simp [Move.Withdraws, Move.Gives, hne.symm]
  | releases => exact h.mono (fun hr => ⟨hr, by simp [Move.Withdraws, Move.Gives]⟩) rfl
  | delays hr hphase =>
      have hm := hkeeps rfl
      refine h.setPhase hsound hr hm rfl ?_ fun _ _ => rfl
      intro earlier since ht
      refine ⟨ht.inForce.snoc (hm _), ht.notBlank, ?_, ?_⟩
      · intro _
        exact ht.notAsked (by simp [hphase])
      · -- the delay began later than the value was given
        intro time htime
        obtain rfl := Phase.delayed.inj htime
        have hle := ht.inForce.now_le
        rw [← hd] at hle
        exact Nat.add_le_add_right hle _
  | asks hr hphase =>
      have hm := hkeeps rfl
      refine h.setPhase hsound hr hm rfl ?_ ?_
      · intro earlier since ht
        refine ⟨ht.inForce.snoc (hm _), ht.notBlank, ?_, ?_⟩
        · -- now the value was asked about, and nothing is claimed of that
          intro hnot
          exact absurd rfl (hnot _)
        · intro time htime
          cases htime
      · intro field hne
        simp [timesAsked, hne.symm]
  | ends => exact h.mono (fun hr => ⟨(d.mem_runs_stop.mp hr).1, hkeeps rfl _⟩) rfl
  | breaksOff => exact h.mono (fun hr => ⟨(d.mem_runs_stop.mp hr).1, hkeeps rfl _⟩) rfl
  | passes => exact h.mono (fun hr => ⟨hr, hkeeps rfl _⟩) rfl

end Debounced

end Step

/-- So a dispatcher is debounced after all moves, if callers make none while they wait. -/
theorem WaitsOut.debounced {config : DispatchConfig} {moves : List Move}
    (h : WaitsOut config moves) : Debounced config moves ((new config).play moves) := by
  induction moves using List.reverseRecOn with
  | nil => exact ⟨by simp [new], by simp [new]⟩
  | append_singleton moves m ih =>
      rw [play_snoc]
      exact (ih (h.up_to (List.prefix_append ..))).apply rfl h.held

/-! ## What validators are asked about -/

/-- Among the moves, one that follows `before` has a validator asked, while the value that
the field was given after the moves `earlier` is in force. -/
def AsksFor (config : DispatchConfig) (moves earlier before : List Move) (i : Inquiry) : Prop :=
  ∃ m, before ++ [m] <+: moves ∧ ((new config).play before).Asks m i ∧
    ∃ q since, InForce config before i.field q earlier since

/-- In these moves the field is given values so quickly one after another that the delay
of none of them is over when the next one comes. -/
def IsBurst (config : DispatchConfig) (start : List Move) (field : String)
    (burst : List Move) : Prop :=
  ∀ pre x mid y post q, burst = pre ++ x :: mid ++ y :: post →
    x.request? config field = some q → (∀ z ∈ mid, ¬ z.Gives field) → y.Gives field →
      ((new config).play (start ++ pre ++ x :: mid)).now <
        ((new config).play (start ++ pre)).now + q.delay

section Asked

variable {config : DispatchConfig} {moves before earlier : List Move} {i i' : Inquiry}

/-- A validator is asked at a place among the moves. -/
theorem AsksFor.place (h : AsksFor config moves earlier before i) : before <+: moves := by
  obtain ⟨m, hbefore, _⟩ := h
  exact before_of_snoc hbefore

/-- The move that asks about a field adds one to the times that it was asked about. -/
theorem timesAsked_apply_of_asks {d : Dispatcher} {m : Move} (h : d.Asks m i) :
    (m.apply d).timesAsked i.field = d.timesAsked i.field + 1 := by
  rw [timesAsked, h, timesAsked]
  simp

/-- A validator is asked about the value in force, after its delay, and for the first time
since that value was given. -/
theorem WaitsOut.of_asks (h : WaitsOut config before) {m : Move}
    (hask : ((new config).play before).Asks m i) :
    ∃ q earlier since, InForce config before i.field q earlier since ∧
      i = ⟨q.validator, i.field, q.value, ((new config).play before).now⟩ ∧
      q.value.isBlank = false ∧
      ((new config).play earlier).now + q.delay ≤ ((new config).play before).now ∧
      ((new config).play before).timesAsked i.field =
        ((new config).play earlier).timesAsked i.field := by
  obtain ⟨id, r, time, hr, hphase, htime, rfl⟩ := exists_run_of_asks _ hask
  obtain ⟨earlier, since, ht⟩ := h.debounced.timely hr
  have hdelay := Nat.le_trans (ht.notEarly time hphase) htime
  have hasked := ht.notAsked (by simp [hphase])
  exact ⟨_, earlier, since, ht.inForce, rfl, ht.notBlank, hdelay, hasked⟩

/-- Once a validator was asked about a value, none is asked about it at a later place. -/
theorem WaitsOut.not_asks_again (h : WaitsOut config moves) {later : List Move}
    (hfirst : AsksFor config later earlier before i)
    (hsecond : AsksFor config moves earlier later i') (hfield : i.field = i'.field) : False := by
  obtain ⟨m, hlater, hask, q, since, hforce⟩ := hfirst
  obtain ⟨m', hmoves, hask', q', since', hforce'⟩ := hsecond
  have hwaits := h.up_to (before_of_snoc hmoves)
  obtain ⟨_, _, _, hforce'', _, _, _, hasked⟩ := hwaits.of_asks hask'
  obtain ⟨rfl, _⟩ := hforce'.unique hforce''
  rw [← hfield] at hasked
  -- The inquiry of the first move lies between the value and the second inquiry.
  obtain ⟨middle, hmiddle⟩ := hforce.prefix_moves
  obtain ⟨rest, rfl⟩ := hlater
  have hbefore := ((new config).play earlier).timesAsked_le_play middle i.field
  have hafter := ((new config).play (before ++ [m])).timesAsked_le_play rest i.field
  rw [← play_append, hmiddle] at hbefore
  rw [← play_append, play_snoc, timesAsked_apply_of_asks hask] at hafter
  omega

/-- Of two places among the moves, the one that is not before the other comes after it. -/
theorem AsksFor.up_to (h : AsksFor config moves earlier before i) {later : List Move}
    (hlater : later <+: moves) (hnot : ¬ later <+: before) :
    AsksFor config later earlier before i := by
  obtain ⟨m, hbefore, hask⟩ := h
  refine ⟨m, List.prefix_of_prefix_length_le hbefore hlater ?_, hask⟩
  have hlt : ¬ later.length ≤ before.length := by
    intro hle
    have hpre := before_of_snoc hbefore
    exact hnot (List.prefix_of_prefix_length_le hlater hpre hle)
  simp only [List.length_append, List.length_singleton]
  omega

/-- For one value a validator is asked at one place at most. -/
theorem WaitsOut.asks_once (h : WaitsOut config moves) {before' : List Move}
    (hask : AsksFor config moves earlier before i)
    (hask' : AsksFor config moves earlier before' i') (hfield : i.field = i'.field) :
    before = before' := by
  by_cases hle : before <+: before'
  · by_cases hge : before' <+: before
    · exact hle.eq_of_length (Nat.le_antisymm hle.length_le hge.length_le)
    · exact (h.not_asks_again (hask.up_to hask'.place hge) hask' hfield).elim
  · exact (h.not_asks_again (hask'.up_to hask.place hle) hask hfield.symm).elim

/-! ## Bursts -/

section Burst

variable {start burst rest pre post since : List Move} {x y : Move} {field : String}
  {q : CheckRequest}

/-- If a validator is asked about a value of a burst after its delay, no further value of
the burst comes next: it would have come before the delay was over. -/
theorem IsBurst.not_gives_next (h : IsBurst config start field burst) {mid : List Move}
    (hburst : burst = pre ++ x :: mid ++ y :: post) (hmid : ∀ z ∈ mid, ¬ z.Gives field)
    (hbefore : before <+: start ++ burst ++ rest)
    (hforce : InForce config before field q (start ++ pre) since)
    (hdelay : ((new config).play (start ++ pre)).now + q.delay ≤
      ((new config).play before).now) : ¬ y.Gives field := by
  intro hy
  have hplace : start ++ burst ++ rest = start ++ pre ++ x :: (mid ++ y :: post ++ rest) := by
    simp [hburst]
  rw [hplace] at hbefore
  obtain ⟨rfl, hpre, hq, hsince⟩ := hforce.of_prefix_cons hbefore
  have hlt := h pre x mid y post q hburst hq hmid hy
  obtain ⟨more, hmore⟩ := hpre
  rw [List.append_assoc, List.cons_append] at hmore
  rcases List.append_eq_append_iff.mp hmore with ⟨later, rfl, _⟩ | ⟨later, rfl, hlater⟩
  · have hpre : start ++ pre ++ x :: since <+: start ++ pre ++ x :: (since ++ later) :=
      ⟨later, by simp⟩
    have hle := (new config).now_mono hpre
    omega
  · cases later with
    | nil =>
        rw [List.append_nil] at hdelay
        omega
    | cons z later =>
        obtain ⟨rfl, _⟩ := List.cons.inj hlater
        exact hsince y (by simp) (Or.inl hy)

/-- So that value is the last one of the burst. -/
theorem IsBurst.not_gives_after (h : IsBurst config start field burst) (mid : List Move)
    (hburst : burst = pre ++ x :: mid ++ post) (hmid : ∀ z ∈ mid, ¬ z.Gives field)
    (hbefore : before <+: start ++ burst ++ rest)
    (hforce : InForce config before field q (start ++ pre) since)
    (hdelay : ((new config).play (start ++ pre)).now + q.delay ≤
      ((new config).play before).now) : ∀ y ∈ post, ¬ y.Gives field := by
  induction post generalizing mid with
  | nil => simp
  | cons y post ih =>
      have hy := h.not_gives_next hburst hmid hbefore hforce hdelay
      intro z hz
      rcases List.mem_cons.mp hz with rfl | hz
      · exact hy
      · exact ih (mid ++ [y]) (by simp [hburst]) (forall_mem_snoc.mpr ⟨hmid, hy⟩) z hz

/-- So a validator that is asked about a value of the burst is asked about its last one. -/
theorem IsBurst.last_of_asksFor (h : IsBurst config start field burst)
    (hmoves : moves = start ++ burst ++ rest) (hwaits : WaitsOut config moves)
    (hburst : burst = pre ++ x :: post) (hask : AsksFor config moves (start ++ pre) before i)
    (hfield : i.field = field) : x.Gives field ∧ ∀ y ∈ post, ¬ y.Gives field := by
  subst hfield
  obtain ⟨m, hm, hask, q, since, hforce⟩ := hask
  have hbefore := before_of_snoc hm
  obtain ⟨p, _, _, hforce', _, _, hdelay, _⟩ := (hwaits.up_to hbefore).of_asks hask
  obtain ⟨rfl, rfl⟩ := hforce.unique hforce'
  rw [hmoves] at hbefore
  have hplace : start ++ burst ++ rest = start ++ pre ++ x :: (post ++ rest) := by simp [hburst]
  obtain ⟨_, _, hq, _⟩ := hforce.of_prefix_cons (hplace ▸ hbefore)
  have hnone : burst = pre ++ x :: [] ++ post := by simp [hburst]
  exact ⟨Move.gives_of_request? hq, h.not_gives_after [] hnone (by simp) hbefore hforce hdelay⟩

end Burst

end Asked

/-! ## What calls for other fields do -/

/-- A call that withdraws nothing from a field leaves its runs as they are. -/
theorem Sound.mem_runs_apply_iff {d : Dispatcher} (h : d.Sound) {m : Move} {field : String}
    (hcall : m.isCall = true) (hm : ¬ m.Withdraws field) {id : Nat} {r : Run}
    (hf : r.ticket.field = field) : (id, r) ∈ (m.apply d).runs ↔ (id, r) ∈ d.runs := by
  have hcancel : ∀ {other}, field ≠ other →
      ((id, r) ∈ (d.cancel other).runs ↔ (id, r) ∈ d.runs) := by
    intro other hne
    rw [mem_runs_cancel]
    exact and_iff_left_of_imp fun hr => h.ne_handle hr (hf ▸ hne)
  have hdoes := does_apply d m
  generalize m.apply d = e at hdoes ⊢
  cases hdoes with
  | nothing => exact Iff.rfl
  | forgets hq => exact hcancel fun he => hm (Or.inl (he ▸ Move.gives_of_request? hq))
  | starts hq =>
      have hne : field ≠ _ := fun he => hm (Or.inl (he ▸ Move.gives_of_request? hq))
      rw [mem_runs_startRun h.hasScheduler, ← mem_runs_cancel, hcancel hne]
      refine or_iff_left ?_
      intro hr
      obtain ⟨_, rfl⟩ := Prod.mk.inj hr
      exact hne hf.symm
  | cancels => exact hcancel fun he => hm (Or.inr (he ▸ rfl))
  | releases => exact Iff.rfl
  | _ => cases hcall

/-- What a caller does takes no time. -/
theorem now_apply_of_isCall (d : Dispatcher) {m : Move} (hcall : m.isCall = true) :
    (m.apply d).now = d.now := by
  have hdoes := does_apply d m
  generalize m.apply d = e at hdoes ⊢
  cases hdoes with
  | forgets => exact cancel_now ..
  | starts => exact startRun_now ..
  | cancels => exact cancel_now ..
  | passes => cases hcall
  | _ => rfl

/-- Calls for other fields take no time and leave the runs of a field as they are, with
the times that these wait for. -/
theorem others_change_nothing (config : DispatchConfig) (before : List Move)
    {others : List Move} {field : String}
    (hothers : ∀ m ∈ others, m.isCall = true ∧ ¬ m.Withdraws field) :
    ((new config).play (before ++ others)).now = ((new config).play before).now ∧
    ∀ id r, r.ticket.field = field →
      ((id, r) ∈ ((new config).play (before ++ others)).runs ↔
        (id, r) ∈ ((new config).play before).runs) := by
  induction others using List.reverseRecOn with
  | nil => simp
  | append_singleton others m ih =>
      obtain ⟨hothers, hcall, hm⟩ := forall_mem_snoc.mp hothers
      obtain ⟨hnow, hruns⟩ := ih hothers
      rw [← List.append_assoc, play_snoc]
      have hsound := (sound_new config).play (before ++ others)
      refine ⟨(now_apply_of_isCall _ hcall).trans hnow, ?_⟩
      intro id r hf
      exact (hsound.mem_runs_apply_iff hcall hm hf).trans (hruns id r hf)

/-! ## Main statement -/

/-- **Only the value in force is checked.**  Let callers give values, cancel and wait for
the runs of fields, making no move while they wait, and let runs get on and time pass in
any way.  Whenever a validator is asked, it is about the value that its field was given
last, which is not blank, with no cancel since and with the delay of that value over in
full; and for each value that happens once at most.  So among values that come closer
together than their delays only the last one is asked about, and that once at most.
Calls for other fields take no time and touch no run of a field. -/
theorem asked_only_in_force (config : DispatchConfig) (moves : List Move)
    (hwaits : WaitsOut config moves) :
    (∀ before m i, before ++ [m] <+: moves → ((new config).play before).Asks m i →
      ∃ q earlier since, InForce config before i.field q earlier since ∧
        i = ⟨q.validator, i.field, q.value, ((new config).play before).now⟩ ∧
        q.value.isBlank = false ∧
        ((new config).play earlier).now + q.delay ≤ ((new config).play before).now) ∧
    (∀ earlier before before' i i', AsksFor config moves earlier before i →
      AsksFor config moves earlier before' i' → i.field = i'.field → before = before') ∧
    (∀ start burst rest field, moves = start ++ burst ++ rest →
      IsBurst config start field burst →
        ∀ pre x post before i, burst = pre ++ x :: post →
          AsksFor config moves (start ++ pre) before i → i.field = field →
            (∀ y ∈ post, ¬ y.Gives field) ∧
            ∀ pre' x' post' before' i', burst = pre' ++ x' :: post' →
              AsksFor config moves (start ++ pre') before' i' → i'.field = field →
                before' = before) ∧
    ∀ before others field, (∀ m ∈ others, m.isCall = true ∧ ¬ m.Withdraws field) →
      ((new config).play (before ++ others)).now = ((new config).play before).now ∧
      ∀ id r, r.ticket.field = field →
        ((id, r) ∈ ((new config).play (before ++ others)).runs ↔
          (id, r) ∈ ((new config).play before).runs) := by
  refine ⟨?_, ?_, ?_, ?_⟩
  · intro before m i hm hask
    have hbefore := before_of_snoc hm
    obtain ⟨q, earlier, since, hforce, hi, hblank, hdelay, _⟩ :=
      (hwaits.up_to hbefore).of_asks hask
    exact ⟨q, earlier, since, hforce, hi, hblank, hdelay⟩
  · intro earlier before before' i i' hask hask' hfield
    exact hwaits.asks_once hask hask' hfield
  · intro start burst rest field hmoves hburst pre x post before i hx hask hfield
    obtain ⟨hgives, hlast⟩ := hburst.last_of_asksFor hmoves hwaits hx hask hfield
    refine ⟨hlast, ?_⟩
    intro pre' x' post' before' i' hx' hask' hfield'
    obtain ⟨hgives', hlast'⟩ := hburst.last_of_asksFor hmoves hwaits hx' hask' hfield'
    obtain ⟨rfl, _⟩ := last_place_unique (hx'.symm.trans hx) hgives' hlast' hgives hlast
    exact hwaits.asks_once hask' hask (hfield'.trans hfield.symm)
  · intro before others field hothers
    exact others_change_nothing config before hothers

/-- A field with the default delay, and one that is checked sooner. -/
def userField : FormField := { kind := .text, name := some "user", validator := some ⟨0⟩ }

def emailField : FormField :=
  { kind := .text, name := some "email", validator := some ⟨1⟩, debounceMs := some 100 }

def promptly : Validators := fun _ _ => ⟨some 5, some .valid⟩

/-- A name is typed, and an address in between; the caller waits for the check of the
name and then has the next one checked without delay. -/
def typedName : List Move :=
  [.onChange userField (.text "a"), .progress promptly 0, .pass 100,
    .onChange userField (.text "ad"), .progress promptly 1,
    .onChange emailField (.text "e"), .progress promptly 2, .pass 200,
    .release ["user"], .progress promptly 2, .pass 400,
    .progress promptly 1, .pass 405, .progress promptly 1,
    .validateNow userField (.text "ada"), .progress promptly 3, .progress promptly 3]

/-- The validator never sees the name that was replaced. -/
theorem replaced_name_not_asked :
    WaitsOut {} typedName ∧
      ((new {}).play typedName).inquiries =
        [⟨⟨1⟩, "email", .text "e", 200⟩, ⟨⟨0⟩, "user", .text "ad", 400⟩,
          ⟨⟨0⟩, "user", .text "ada", 405⟩] ∧
      ∃ q earlier since, InForce {} (typedName.take 11) "user" q earlier since ∧
        q.value = .text "ad" ∧ ((new {}).play earlier).now + q.delay ≤ 400 := by
  have hwaits : WaitsOut {} typedName := by decide
  have hask : ((new {}).play (typedName.take 11)).Asks (.progress promptly 1)
      ⟨⟨0⟩, "user", .text "ad", 400⟩ := by
    unfold Asks
    decide
  refine ⟨hwaits, by decide, ?_⟩
  obtain ⟨q, earlier, since, hforce, hi, _, hdelay⟩ :=
    (asked_only_in_force {} typedName hwaits).1 _ _ _ ⟨typedName.drop 12, rfl⟩ hask
  exact ⟨q, earlier, since, hforce, (congrArg Inquiry.value hi).symm, hdelay⟩

end Dispatcher

end Formwork
