import Formwork.Proofs.Async.Steps
import Mathlib.Data.List.Induction

/-!
# Runs that callers wait for

A caller that waits for a field lets go of its run: nothing stops the run any more, and
a new value of the field starts another one beside it.  A run that no caller waits for
is still in the hands of its field.  So if callers make no move while they wait, a move
of a caller finds all runs in the hands of their fields.

* `awaited` — all runs that callers began to wait for;
* `WaitsOut` — callers that make no move while they wait;
* `held_or_awaited` — after all moves a run can be stopped through its field, or a
  caller waits for it;
* `WaitsOut.held` — so a caller that makes a move can stop every run through its field.
-/

namespace Formwork

namespace Move

/-- The move is one of a caller. -/
def isCall : Move → Bool
  | .progress .. => false
  | .pass _ => false
  | _ => true

/-- Only callers give values. -/
theorem Gives.isCall {field : String} {m : Move} (h : m.Gives field) : m.isCall = true := by
  cases m with
  | progress => exact h.elim
  | pass => exact h.elim
  | _ => rfl

/-- Only callers take anything away from a field. -/
theorem not_withdraws_of_not_isCall {m : Move} (h : m.isCall = false) (field : String) :
    ¬ m.Withdraws field := by
  intro hw
  rcases hw with hgives | rfl
  · rw [hgives.isCall] at h
    cases h
  · cases h

/-- The runs that a caller waits for from this move on. -/
def letsGo (d : Dispatcher) : Move → List Nat
  | .release fields => (d.release fields).1
  | _ => []

end Move

namespace Dispatcher

/-- All runs that callers began to wait for with these moves. -/
def awaited (d : Dispatcher) : List Move → List Nat
  | [] => []
  | m :: rest => m.letsGo d ++ awaited (m.apply d) rest

/-- The runs that were let go of after one more move are those from before and those of this move.
-/
theorem awaited_snoc (d : Dispatcher) (moves : List Move) (m : Move) :
    d.awaited (moves ++ [m]) = d.awaited moves ++ m.letsGo (d.play moves) := by
  induction moves generalizing d with
  | nil => simp [awaited]
  | cons x rest ih => simp [awaited, ih, play]

/-- No caller makes a move while a run is under way that a caller waits for. -/
def WaitsOut (config : DispatchConfig) (moves : List Move) : Prop :=
  ∀ before m, before ++ [m] <+: moves → m.isCall = true →
    ∀ id ∈ (new config).awaited before, ((new config).play before).isAlive id = false

/-- Callers who make no move while they wait have made none up to any place among the moves. -/
theorem WaitsOut.up_to {config : DispatchConfig} {moves before : List Move}
    (h : WaitsOut config moves) (hbefore : before <+: moves) : WaitsOut config before :=
  fun earlier m hm => h earlier m (hm.trans hbefore)

/-- Each place in the moves is checked on its own. -/
instance (config : DispatchConfig) (moves : List Move) : Decidable (WaitsOut config moves) :=
  decidable_of_iff (∀ k : Fin moves.length, moves[k].isCall = true →
      ∀ id ∈ (new config).awaited (moves.take k),
        ((new config).play (moves.take k)).isAlive id = false) <| by
    constructor
    · intro h before m hpre hm
      obtain ⟨after, rfl⟩ := hpre
      have hk : before.length < (before ++ [m] ++ after).length := by simp
      simpa using h ⟨before.length, hk⟩ (by simpa using hm)
    · intro h k hm
      refine h (moves.take k) moves[k] ?_ hm
      have htake : moves.take k ++ [moves[k]] = moves.take (k + 1) :=
        List.take_append_getElem k.isLt
      rw [htake]
      exact List.take_prefix ..

/-- Every run can be stopped through its field, or it is one of these. -/
def HeldOr (d : Dispatcher) (ids : List Nat) : Prop :=
  ∀ id r, (id, r) ∈ d.runs → d.handles.get? r.ticket.field = some id ∨ id ∈ ids

/-- A run in the hands of its field is not stopped through another. -/
theorem field_ne_of_held {d : Dispatcher} {field : String} {id : Nat} {r : Run}
    (hheld : d.handles.get? r.ticket.field = some id) (hne : some id ≠ d.handles.get? field) :
    r.ticket.field ≠ field := by
  intro he
  rw [← he, hheld] at hne
  exact hne rfl

/-- To cancel a field stops the run that it has in hand and lets go of no other. -/
theorem HeldOr.cancel {d : Dispatcher} {ids : List Nat} (h : d.HeldOr ids) (field : String) :
    (d.cancel field).HeldOr ids := by
  intro id r hr
  obtain ⟨hr, hne⟩ := d.mem_runs_cancel.mp hr
  rcases h id r hr with hheld | hawaited
  · have hf := (field_ne_of_held hheld hne).symm
    exact Or.inl (by rw [get?_handles_cancel, if_neg hf, hheld])
  · exact Or.inr hawaited

/-- A run that is started is in the hands of its field, and the one that it replaces is stopped.
-/
theorem HeldOr.startRun {d : Dispatcher} {ids : List Nat} (h : d.HeldOr ids)
    (hd : d.hasScheduler = true) (field : String) (validator : ValidatorRef) (value : Value)
    (delay : Nat) : (d.startRun field validator value delay).HeldOr ids := by
  intro id r hr
  rw [startRun_handles hd, Entries.get?_put]
  rcases (mem_runs_startRun hd).mp hr with ⟨hr, hne⟩ | hr
  · rcases h id r hr with hheld | hawaited
    · have hf := (field_ne_of_held hheld hne).symm
      exact Or.inl (by rw [if_neg hf, hheld])
    · exact Or.inr hawaited
  · obtain ⟨rfl, rfl⟩ := Prod.mk.inj hr
    exact Or.inl (if_pos rfl)

/-- A run is in the same hands in every phase. -/
theorem HeldOr.setPhase {d : Dispatcher} {ids : List Nat} (h : d.HeldOr ids) (id : Nat)
    (phase : Phase) : (d.setPhase id phase).HeldOr ids := by
  intro j r hr
  obtain ⟨s, hs, rfl⟩ := d.mem_runs_setPhase.mp hr
  have hticket : (if j = id then { s with phase } else s).ticket = s.ticket := by split <;> rfl
  rw [hticket]
  exact h j s hs

/-- Every run is in the hands of its field or was let go of, and no move changes that: only a
release lets go of runs, and it says of which. -/
theorem HeldOr.apply {d : Dispatcher} {ids : List Nat} (h : d.HeldOr ids)
    (hd : d.hasScheduler = true) (m : Move) : (m.apply d).HeldOr (ids ++ m.letsGo d) := by
  have hmore : ∀ {e : Dispatcher}, e.HeldOr ids → e.HeldOr (ids ++ m.letsGo d) := by
    intro e he id r hr
    exact (he id r hr).imp_right (List.mem_append_left _)
  have hdoes := does_apply d m
  generalize m.apply d = e at hdoes ⊢
  cases hdoes with
  | nothing => exact hmore h
  | forgets => exact hmore (h.cancel _)
  | starts => exact hmore (h.startRun hd _ _ _ _)
  | cancels => exact hmore (h.cancel _)
  -- only here does a field lose a run that goes on
  | releases =>
      rename_i fields
      intro id r hr
      show (fields.foldl Entries.erase d.handles).get? r.ticket.field = some id ∨ _
      rw [Entries.get?_foldl_erase]
      rcases h id r hr with hheld | hawaited
      · by_cases hf : r.ticket.field ∈ fields
        · refine Or.inr (List.mem_append_right _ ?_)
          exact List.mem_filterMap.mpr ⟨_, hf, hheld⟩
        · exact Or.inl (by rw [if_neg hf, hheld])
      · exact Or.inr (List.mem_append_left _ hawaited)
  | delays => exact hmore (h.setPhase _ _)
  | asks => exact hmore (h.setPhase _ _)
  | ends => exact hmore fun id r hr => h id r (d.mem_runs_stop.mp hr).1
  | breaksOff => exact hmore fun id r hr => h id r (d.mem_runs_stop.mp hr).1
  | passes => exact hmore h

/-- After all moves, a run that its field has not in hand is one that a caller let go of. -/
theorem held_or_awaited (config : DispatchConfig) (moves : List Move) :
    ((new config).play moves).HeldOr ((new config).awaited moves) := by
  induction moves using List.reverseRecOn with
  | nil => simp [HeldOr, new]
  | append_singleton moves m ih =>
      rw [play_snoc, awaited_snoc]
      exact ih.apply ((sound_new config).play moves).hasScheduler m

/-- When a caller makes a move, every run can be stopped through its field. -/
theorem WaitsOut.held {config : DispatchConfig} {moves : List Move} {m : Move}
    (h : WaitsOut config (moves ++ [m])) (hm : m.isCall = true) :
    ((new config).play moves).HeldOr [] := by
  intro id r hr
  refine (held_or_awaited config moves id r hr).imp_right ?_
  intro hawaited
  have hover := h moves m List.prefix_rfl hm id hawaited
  have halive := ((new config).play moves).isAlive_iff.mpr ⟨r, hr⟩
  rw [hover] at halive
  cases halive

/-- A run that is left after a field was cancelled is of another field. -/
theorem HeldOr.field_ne_of_cancel {d : Dispatcher} (h : d.HeldOr []) {field : String} {id : Nat}
    {r : Run} (hr : (id, r) ∈ d.runs) (hne : some id ≠ d.handles.get? field) :
    r.ticket.field ≠ field :=
  field_ne_of_held ((h id r hr).resolve_right List.not_mem_nil) hne

end Dispatcher

end Formwork
