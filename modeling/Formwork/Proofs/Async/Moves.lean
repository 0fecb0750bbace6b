import Formwork.Async.Waiting

/-!
# Moves of a dispatcher

Whatever happens to a dispatcher is a sequence of **moves**: a caller gives a value,
cancels, or begins to wait; a run gets on once it is due; time passes.  Moves of
different kinds may follow each other in any order, and a run may be overtaken by
any number of moves of others.  What a validator does is told anew with every move
of a run, so nothing ties its answers to the values or to one another.

* `Dispatcher.play` carries out moves in order;
* `Move.IsQuiet` — the moves that no caller makes;
* `waitFor_quiet`, `settleFields_quiet` — to wait is to let go of the runs and then to let
  quiet moves happen;
* `play_settlesTo` — while a caller waits, outcomes come in and nothing else
  happens to the ledger.
-/

namespace Formwork

/-- What can happen to a dispatcher. -/
inductive Move where
  | onChange (f : FormField) (value : Value)
  | validateNow (f : FormField) (value : Value)
  | cancel (field : String)
  | release (fields : List String)
  | progress (validators : Validators) (id : Nat)
  | pass (time : Nat)

namespace Move

/-- Carries out a move.  A run that is not due stays where it is. -/
def apply (d : Dispatcher) : Move → Dispatcher
  | .onChange f value => d.onChange f value
  | .validateNow f value => d.validateNow f value
  | .cancel field => d.cancel field
  | .release fields => (d.release fields).2
  | .progress validators id => d.progressIfDue validators id
  | .pass time => d.passTo time

/-- The move gives the field a value, blank or not, to be checked. -/
def Gives (field : String) : Move → Prop
  | .onChange f _ => f.validator.isSome ∧ f.nameText = field
  | .validateNow f _ => f.validator.isSome ∧ f.nameText = field
  | _ => False

/-- No validator breaks off without an outcome in this move. -/
def Answers : Move → Prop
  | .progress validators _ => ∀ ref value, (validators ref value).outcome.isSome
  | _ => True

/-- The move is one of a run, asking one of these validators, or of the clock. -/
def IsQuiet (validators : Validators) : Move → Prop
  | .progress v _ => v = validators
  | .pass _ => True
  | _ => False

end Move

namespace Dispatcher

/-- A dispatcher without any history. -/
def new (config : DispatchConfig) : Dispatcher := { config }

/-- Carries out moves in order. -/
def play (d : Dispatcher) (moves : List Move) : Dispatcher := moves.foldl Move.apply d

variable (d : Dispatcher)

@[simp] theorem play_nil : d.play [] = d := rfl

theorem play_append (moves more : List Move) :
    d.play (moves ++ more) = (d.play moves).play more := by
  simp [play]

/-- The last move is made in the state that the moves before it lead to. -/
theorem play_snoc (moves : List Move) (m : Move) :
    d.play (moves ++ [m]) = m.apply (d.play moves) := by
  simp [play]

/-! ## Waiting is playing quiet moves -/

variable (validators : Validators)

/-- Quiet moves lead from the one dispatcher to the other. -/
def QuietlyTo (d e : Dispatcher) : Prop :=
  ∃ moves : List Move, (∀ m ∈ moves, m.IsQuiet validators) ∧ e = d.play moves

namespace QuietlyTo

variable {validators} {c d e : Dispatcher}

theorem refl (d : Dispatcher) : QuietlyTo validators d d := ⟨[], by simp, rfl⟩

/-- A wait after a wait is one wait. -/
theorem trans (h : QuietlyTo validators c d) (k : QuietlyTo validators d e) :
    QuietlyTo validators c e := by
  obtain ⟨moves, hquiet, rfl⟩ := h
  obtain ⟨more, hmore, rfl⟩ := k
  refine ⟨moves ++ more, ?_, (play_append ..).symm⟩
  intro m hm
  rcases List.mem_append.mp hm with hm | hm
  · exact hquiet m hm
  · exact hmore m hm

theorem progress (d : Dispatcher) (id : Nat) :
    QuietlyTo validators d (d.progressIfDue validators id) :=
  ⟨[.progress validators id], by simp [Move.IsQuiet], rfl⟩

theorem pass (d : Dispatcher) (time : Nat) : QuietlyTo validators d (d.passTo time) :=
  ⟨[.pass time], by simp [Move.IsQuiet], rfl⟩

end QuietlyTo

theorem catchUpRun_quiet (id : Nat) :
    QuietlyTo validators d (d.catchUpRun validators id) :=
  (QuietlyTo.progress d id).trans ((QuietlyTo.progress _ id).trans (QuietlyTo.progress _ id))

/-- All runs that get on as far as they can make quiet moves, one after the other. -/
theorem catchUp_quiet : QuietlyTo validators d (d.catchUp validators) := by
  unfold catchUp
  generalize d.runs.map Prod.fst = ids
  induction ids generalizing d with
  | nil => exact .refl d
  | cons id rest ih => exact (catchUpRun_quiet d validators id).trans (ih _)

/-- A wait of any number of steps consists of quiet moves. -/
theorem waitThrough_quiet (ids : List Nat) (steps : Nat) :
    QuietlyTo validators d (waitThrough validators ids steps d) := by
  induction steps generalizing d with
  | zero => exact .refl d
  | succ steps ih =>
      have hcaught := catchUp_quiet d validators
      rw [waitThrough]
      split
      · dsimp only
        split
        · cases (d.catchUp validators).nextTime? with
          | none => exact hcaught
          | some t => exact hcaught.trans ((QuietlyTo.pass _ t).trans (ih _))
        · exact hcaught
      · exact .refl d

/-- To wait for some runs is to play quiet moves. -/
theorem waitFor_quiet (ids : List Nat) : QuietlyTo validators d (d.waitFor validators ids) :=
  waitThrough_quiet d validators ids _

/-- Waiting for some fields lets go of their runs; after that no caller has a hand in it. -/
theorem settleFields_quiet (fields : List String) :
    QuietlyTo validators (d.release fields).2 (d.settleFields validators fields) :=
  waitFor_quiet (d.release fields).2 validators _

end Dispatcher

/-! ## What waiting does to the ledger -/

namespace Ledger

/-- Between the two ledgers outcomes came in, and nothing else happened. -/
def SettlesTo (l m : Ledger) : Prop :=
  ∀ field, m.slot field = l.slot field ∨
    ∃ o : Outcome, m.slot field = { l.slot field with status := o.status }

namespace SettlesTo

variable {k l m : Ledger}

theorem refl (l : Ledger) : l.SettlesTo l := fun _ => Or.inl rfl

/-- What settles after it has settled, has settled: the later outcome counts. -/
theorem trans (h : k.SettlesTo l) (h' : l.SettlesTo m) : k.SettlesTo m := by
  intro field
  rcases h' field with hm | ⟨o, hm⟩
  · rw [hm]
    exact h field
  · rcases h field with hl | ⟨_, hl⟩
    · exact Or.inr ⟨o, by rw [hm, hl]⟩
    · exact Or.inr ⟨o, by rw [hm, hl]⟩

/-- An outcome that is entered settles its own field at most. -/
theorem resolve (l : Ledger) (t : Ticket) (o : Outcome) : l.SettlesTo (l.resolve t o).2 := by
  intro field
  rw [slot_resolve]
  split
  · exact Or.inr ⟨o, rfl⟩
  · exact Or.inl rfl

end SettlesTo

end Ledger

namespace Dispatcher

/-- A run that gets on enters one outcome at most. -/
theorem progress_settlesTo (d : Dispatcher) (validators : Validators) (id : Nat) :
    d.ledger.SettlesTo (d.progress validators id).ledger := by
  unfold progress
  cases d.run? id with
  | none => exact .refl _
  | some r =>
      dsimp only
      split
      · exact .refl _
      · exact .refl _
      · split
        · exact .resolve d.ledger r.ticket _
        · exact .refl _

/-- It makes no difference whether it can get on at this time. -/
theorem progressIfDue_settlesTo (d : Dispatcher) (validators : Validators) (id : Nat) :
    d.ledger.SettlesTo (d.progressIfDue validators id).ledger := by
  unfold progressIfDue
  split
  · split
    · exact d.progress_settlesTo validators id
    · exact .refl _
  · exact .refl _

/-- While a caller waits, outcomes come in and nothing else happens to the ledger,
whatever the validators say and whether or not they say the same every time. -/
theorem play_settlesTo (d : Dispatcher) {moves : List Move}
    (hquiet : ∀ m ∈ moves, ∃ validators, m.IsQuiet validators) :
    d.ledger.SettlesTo (d.play moves).ledger := by
  induction moves generalizing d with
  | nil => exact .refl _
  | cons m rest ih =>
      obtain ⟨validators, hm⟩ := hquiet m List.mem_cons_self
      have hstep : d.ledger.SettlesTo (m.apply d).ledger := by
        cases m with
        | progress v id => exact d.progressIfDue_settlesTo v id
        | pass time => exact .refl _
        | _ => exact hm.elim
      exact hstep.trans (ih _ fun x hx => hquiet x (List.mem_cons_of_mem _ hx))

end Dispatcher

end Formwork
