import Formwork.Value.Basic

/-!
# The ledger of outside checks

Some values are checked outside the form, for instance by a server, and the answer
takes its time.  The ledger keeps, for every field, what is known.  Each check of a
value gets a ticket with a number of its own; an answer counts only if its ticket
is the field's last one, so an answer that comes late changes nothing.

* `Ledger.start` gives out a ticket and makes the field pending;
* `Ledger.clear` forgets a field and with it the ticket that is out;
* `Ledger.resolve` enters an answer, if its ticket is current;
* `Ledger.statusFor` is what is known about one particular value;
* `slot_start`, `slot_clear` and `slot_resolve` say what becomes of each field's slot.
-/

namespace Formwork

/-- What a check of a value came to. -/
inductive Outcome where
  | valid
  | invalid (message : String)
  | undecided
deriving DecidableEq, Repr

/-- What is known about the value of a field. -/
inductive AsyncStatus where
  | idle
  | pending
  | valid
  | invalid (message : String)
  | unverified (message : String)
deriving DecidableEq, Repr

/-- What is said about a value that nobody could decide on. -/
def unverifiedMessage : String := "Could not verify this value"

/-- What is known when a check is over. -/
def Outcome.status : Outcome → AsyncStatus
  | .valid => .valid
  | .invalid message => .invalid message
  | .undecided => .unverified unverifiedMessage

/-- The message for a field with this status. -/
def AsyncStatus.message? : AsyncStatus → Option String
  | .invalid message => some message
  | .unverified message => some message
  | _ => none

/-- What to do with a field that nobody could decide on. -/
inductive UnverifiedPolicy where
  | allow
  | block
deriving DecidableEq, Repr

/-- Stands for one check: the field, the number of the check, and the value. -/
structure Ticket where
  field : String
  generation : Nat
  value : Value
deriving DecidableEq, Repr

/-- What is kept about one field. -/
structure Slot where
  generation : Nat
  value : Option Value
  status : AsyncStatus
deriving DecidableEq, Repr

namespace Slot

/-- A field of which nothing is known yet. -/
def fresh : Slot := ⟨0, none, .idle⟩

/-- The value is the one that the slot is about. -/
def isAbout (s : Slot) (v : Value) : Bool := s.value.any fun w => w.same v

/-- The ticket is the last one that was given out for this slot. -/
def accepts (s : Slot) (t : Ticket) : Bool := s.generation = t.generation && s.isAbout t.value

end Slot

/-- What is known about the fields of a form, by their names. -/
abbrev Ledger := Entries Slot

namespace Ledger

variable (l : Ledger)

/-- What is kept about a field. -/
def slot (field : String) : Slot := (l.get? field).getD .fresh

/-- Starts a check of a value; a check that is under way no longer counts. -/
def start (field : String) (value : Value) : Ticket × Ledger :=
  let generation := (l.slot field).generation + 1
  (⟨field, generation, value⟩, l.put field ⟨generation, some value, .pending⟩)

/-- Forgets what is known about a field; a check that is under way no longer counts. -/
def clear (field : String) : Ledger :=
  match l.get? field with
  | some s => l.put field ⟨s.generation + 1, none, .idle⟩
  | none => l

/-- The ticket is the last one given out for its field. -/
def isCurrent (t : Ticket) : Bool :=
  match l.get? t.field with
  | some s => s.accepts t
  | none => false

/-- Enters the outcome of a check if its ticket is current, and tells whether it was. -/
def resolve (t : Ticket) (o : Outcome) : Bool × Ledger :=
  if l.isCurrent t then (true, l.put t.field { l.slot t.field with status := o.status })
  else (false, l)

/-- What is known about a field. -/
def status (field : String) : AsyncStatus := (l.slot field).status

/-- What is known about one value of a field: an answer about another value does not
count, but a check under way does. -/
def statusFor (field : String) (current : Value) : AsyncStatus :=
  let s := l.slot field
  if s.status = .pending then .pending
  else if s.isAbout current then s.status
  else .idle

/-- The message for what is known about a field. -/
def message? (field : String) : Option String := (l.status field).message?

/-! ## What the operations do to the slots -/

/-- What is kept of a field is what was put there last; all other fields keep their slots. -/
theorem slot_put (field : String) (s : Slot) (other : String) :
    Ledger.slot (l.put field s) other = if field = other then s else l.slot other := by
  unfold slot
  rw [Entries.get?_put]
  split <;> rfl

/-- The ticket of a check has the number after the last one, and the value that is checked. -/
theorem start_fst (field : String) (value : Value) :
    (l.start field value).1 = ⟨field, (l.slot field).generation + 1, value⟩ := rfl

/-- A started check makes its field pending, under the next number. -/
theorem slot_start (field : String) (value : Value) (other : String) :
    (l.start field value).2.slot other =
      if field = other then ⟨(l.slot field).generation + 1, some value, .pending⟩
      else l.slot other :=
  slot_put ..

/-- A field of which something is kept loses all of it but its number, which goes on. -/
theorem slot_clear (field other : String) :
    (l.clear field).slot other =
      if field = other ∧ (l.get? field).isSome then ⟨(l.slot field).generation + 1, none, .idle⟩
      else l.slot other := by
  unfold clear
  cases h : l.get? field with
  | none => simp
  | some s =>
    have hs : l.slot field = s := by simp [slot, h]
    simp [slot_put, hs]

/-- An outcome changes one status, and that only if its ticket is current. -/
theorem slot_resolve (t : Ticket) (o : Outcome) (other : String) :
    (l.resolve t o).2.slot other =
      if t.field = other ∧ l.isCurrent t then { l.slot other with status := o.status }
      else l.slot other := by
  unfold resolve
  cases h : l.isCurrent t with
  | false => simp
  | true =>
    by_cases hf : t.field = other
    · subst hf; simp [slot_put]
    · simp [slot_put, hf]

/-- A slot that was never filled accepts no ticket. -/
theorem isCurrent_eq_accepts (t : Ticket) : l.isCurrent t = (l.slot t.field).accepts t := by
  unfold isCurrent slot
  cases l.get? t.field with
  | none => simp [Slot.accepts, Slot.fresh, Slot.isAbout]
  | some s => rfl

/-- A cleared field is idle and about no value, and its number has gone on if it was
about one. -/
theorem slot_clear_self (field : String) :
    ∃ generation, (l.clear field).slot field = ⟨generation, none, .idle⟩ ∧
      (l.slot field).generation ≤ generation ∧
      ((l.slot field).value.isSome → (l.slot field).generation < generation) := by
  rw [slot_clear]
  cases h : l.get? field with
  | none =>
    have hs : l.slot field = .fresh := by simp [slot, h]
    exact ⟨0, by simp [hs, Slot.fresh]⟩
  | some s => exact ⟨(l.slot field).generation + 1, by simp⟩

theorem slot_clear_other {field other : String} (h : field ≠ other) :
    (l.clear field).slot other = l.slot other := by
  simp [slot_clear, h]

/-- An outcome that comes too late changes nothing at all. -/
theorem resolve_eq_self {t : Ticket} {o : Outcome} (h : (l.resolve t o).1 = false) :
    (l.resolve t o).2 = l := by
  unfold resolve at h ⊢
  split at h
  · simp at h
  · rename_i hc
    rw [if_neg hc]

/-- An outcome is taken exactly if the slot of its field accepts the ticket. -/
theorem resolve_fst (t : Ticket) (o : Outcome) :
    (l.resolve t o).1 = (l.slot t.field).accepts t := by
  rw [← isCurrent_eq_accepts]
  unfold resolve
  cases l.isCurrent t <;> rfl

end Ledger

end Formwork
