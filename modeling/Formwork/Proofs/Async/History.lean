import Formwork.Async.Ledger
import Mathlib.Data.List.Basic
import Mathlib.Data.List.Induction

/-!
# A ledger follows its history

A **history** is any sequence of calls to one ledger: checks are started, fields
are forgotten, and outcomes come in for tickets given out before, in any order and
any number of times.  Nothing in a history speaks of generations: a ticket is told
by its place among all tickets, so two checks of one value stay apart.

* `Standing` — a ticket stands if its check is the last one started for its field
  and nothing has cleared the field since;
* `Tracks` — what the ledger keeps, in terms of the history; `tracks_after` says
  that it holds after every history;
* `ledger_follows_history` — an outcome counts exactly if its ticket stands, the
  status of a field is that of its standing ticket, and a call leaves all fields
  but its own alone.
-/

namespace Formwork

/-- A call to a ledger.  An outcome comes for a ticket, told by its place among
the tickets that were given out. -/
inductive LedgerCall where
  | start (field : String) (value : Value)
  | clear (field : String)
  | resolve (ticket : Nat) (outcome : Outcome)
deriving DecidableEq, Repr

namespace LedgerCall

/-- The call takes the field away from the ticket that stands for it. -/
def Renews (field : String) : LedgerCall → Prop
  | .start f _ => f = field
  | .clear f => f = field
  | .resolve .. => False

def isStart : LedgerCall → Bool
  | .start .. => true
  | _ => false

/-- The outcome that the call brings for a ticket. -/
def outcome? (ticket : Nat) : LedgerCall → Option Outcome
  | .resolve k o => if k = ticket then some o else none
  | _ => none

end LedgerCall

/-- A ledger and all the tickets it has given out. -/
structure Desk where
  ledger : Ledger := []
  tickets : List Ticket := []

namespace Desk

variable (d : Desk)

/-- Takes one call.  An outcome for a ticket that was never given out is ignored. -/
def call : LedgerCall → Desk
  | .start field value =>
    ⟨(d.ledger.start field value).2, d.tickets ++ [(d.ledger.start field value).1]⟩
  | .clear field => { d with ledger := d.ledger.clear field }
  | .resolve k o => match d.tickets[k]? with
    | some t => { d with ledger := (d.ledger.resolve t o).2 }
    | none => d

/-- The field that a call is about. -/
def fieldOf? : LedgerCall → Option String
  | .start field _ => some field
  | .clear field => some field
  | .resolve k _ => d.tickets[k]?.map Ticket.field

/-- A new desk after a history. -/
def after (calls : List LedgerCall) : Desk := calls.foldl call {}

theorem after_snoc (calls : List LedgerCall) (c : LedgerCall) :
    after (calls ++ [c]) = (after calls).call c := by
  simp [after]

end Desk

/-! ## Histories -/

/-- The number of tickets that a history gives out. -/
def ticketCount (calls : List LedgerCall) : Nat := calls.countP LedgerCall.isStart

/-- In this history the ticket at place `k` was given out for `value` by the last
start for the field; after it came only the calls `since`, none of which clears
the field. -/
def Standing (calls : List LedgerCall) (field : String) (value : Value) (k : Nat)
    (since : List LedgerCall) : Prop :=
  ∃ before, calls = before ++ .start field value :: since ∧ k = ticketCount before ∧
    ∀ c ∈ since, ¬ c.Renews field

/-- What the last outcome for a ticket among these calls says; pending without one. -/
def latestStatus (k : Nat) (since : List LedgerCall) : AsyncStatus :=
  match (since.filterMap (LedgerCall.outcome? k)).getLast? with
  | some o => o.status
  | none => .pending

/-- The latest status is that of the last call, if it brings one, and else that of the calls
before. -/
theorem latestStatus_snoc (k : Nat) (since : List LedgerCall) (c : LedgerCall) :
    latestStatus k (since ++ [c]) =
      match c.outcome? k with
      | some o => o.status
      | none => latestStatus k since := by
  unfold latestStatus
  rw [List.filterMap_append]
  cases h : c.outcome? k with
  | none => simp [h]
  | some o => simp [h]

/-- An event of a sequence with one more at its end is that last one, or it comes before
it and the last one is among those since. -/
theorem append_cons_eq_snoc_iff {α : Type} {before since events : List α} {x c : α} :
    before ++ x :: since = events ++ [c] ↔
      (before = events ∧ x = c ∧ since = []) ∨
      ∃ earlier, since = earlier ++ [c] ∧ before ++ x :: earlier = events := by
  constructor
  · intro h
    rcases since.eq_nil_or_concat' with rfl | ⟨earlier, last, rfl⟩
    · obtain ⟨hbefore, hx⟩ := List.append_inj' h rfl
      exact Or.inl ⟨hbefore, List.singleton_inj.mp hx, rfl⟩
    · rw [← List.cons_append, ← List.append_assoc] at h
      obtain ⟨hbefore, hlast⟩ := List.append_inj' h rfl
      obtain rfl := List.singleton_inj.mp hlast
      exact Or.inr ⟨earlier, rfl, hbefore⟩
  · intro h
    rcases h with ⟨rfl, rfl, rfl⟩ | ⟨earlier, rfl, rfl⟩
    · rfl
    · simp

theorem forall_mem_snoc {α : Type} {p : α → Prop} {events : List α} {c : α} :
    (∀ x ∈ events ++ [c], p x) ↔ (∀ x ∈ events, p x) ∧ p c := by
  simp only [List.mem_append, List.mem_singleton, or_imp, forall_and, forall_eq]

/-- A ticket stands after one more call if that call gave it out, or if it stood
before and the call leaves its field to it. -/
theorem standing_snoc {calls : List LedgerCall} {c : LedgerCall} {field : String}
    {value : Value} {k : Nat} {since : List LedgerCall} :
    Standing (calls ++ [c]) field value k since ↔
      (c = .start field value ∧ k = ticketCount calls ∧ since = []) ∨
      (¬ c.Renews field ∧ ∃ earlier, since = earlier ++ [c] ∧
        Standing calls field value k earlier) := by
  constructor
  · intro h
    obtain ⟨before, hcalls, hk, hsince⟩ := h
    rcases append_cons_eq_snoc_iff.mp hcalls.symm with ⟨rfl, rfl, rfl⟩ | ⟨earlier, rfl, rfl⟩
    · exact Or.inl ⟨rfl, hk, rfl⟩
    · obtain ⟨hearlier, hc⟩ := forall_mem_snoc.mp hsince
      exact Or.inr ⟨hc, earlier, rfl, before, rfl, hk, hearlier⟩
  · intro h
    rcases h with ⟨rfl, hk, rfl⟩ | ⟨hc, earlier, rfl, before, rfl, hk, hearlier⟩
    · exact ⟨calls, rfl, hk, by simp⟩
    · exact ⟨before, by simp, hk, forall_mem_snoc.mpr ⟨hearlier, hc⟩⟩

/-- A standing ticket goes on standing through a call that leaves its field to it. -/
theorem Standing.snoc {calls : List LedgerCall} {field : String} {value : Value} {k : Nat}
    {since : List LedgerCall} (h : Standing calls field value k since) {c : LedgerCall}
    (hc : ¬ c.Renews field) : Standing (calls ++ [c]) field value k (since ++ [c]) :=
  standing_snoc.mpr (Or.inr ⟨hc, since, rfl, h⟩)

/-- At most one ticket stands for a field. -/
theorem Standing.unique {calls : List LedgerCall} {field : String} {v w : Value}
    {j k : Nat} {s t : List LedgerCall} (hj : Standing calls field v j s)
    (hk : Standing calls field w k t) : j = k := by
  induction calls using List.reverseRecOn generalizing s t with
  | nil =>
      obtain ⟨before, hnil, _⟩ := hj
      simp at hnil
  | append_singleton calls c ih =>
      rcases standing_snoc.mp hj with ⟨hc, hj, _⟩ | ⟨hc, s, _, hj⟩
      · rcases standing_snoc.mp hk with ⟨_, hk, _⟩ | ⟨hc', _⟩
        · exact hj.trans hk.symm
        · exact (hc' (by simp [hc, LedgerCall.Renews])).elim
      · rcases standing_snoc.mp hk with ⟨hc', _, _⟩ | ⟨_, t, _, hk⟩
        · exact (hc (by simp [hc', LedgerCall.Renews])).elim
        · exact ih hj hk

/-! ## What the ledger keeps -/

/-- What a desk keeps after a history: the ticket that stands for a field is the one
that its slot accepts, and the slot holds the last outcome for it; a field without a
standing ticket is idle. -/
structure Tracks (calls : List LedgerCall) (d : Desk) : Prop where
  count : d.tickets.length = ticketCount calls
  standing : ∀ {field value k since}, Standing calls field value k since →
    ∃ generation, d.tickets[k]? = some ⟨field, generation, value⟩ ∧
      d.ledger.slot field = ⟨generation, some value, latestStatus k since⟩
  idle : ∀ {field}, (¬ ∃ value k since, Standing calls field value k since) →
    (d.ledger.slot field).value = none ∧ (d.ledger.slot field).status = .idle
  generation_le : ∀ t ∈ d.tickets, t.generation ≤ (d.ledger.slot t.field).generation
  accepted : ∀ {k t}, d.tickets[k]? = some t → (d.ledger.slot t.field).accepts t = true →
    ∃ since, Standing calls t.field t.value k since

namespace Tracks

variable {calls : List LedgerCall} {d : Desk}

/-- Starting a check gives out the ticket that stands from now on. -/
theorem start (h : Tracks calls d) (field : String) (value : Value) :
    Tracks (calls ++ [.start field value]) (d.call (.start field value)) where
  count := by simp [Desk.call, ticketCount, LedgerCall.isStart, h.count]
  standing := by
    intro f v k since hs
    rcases standing_snoc.mp hs with ⟨hc, rfl, rfl⟩ | ⟨hc, earlier, rfl, hold⟩
    · -- the ticket given out just now
      obtain ⟨rfl, rfl⟩ : field = f ∧ value = v := by simpa using hc
      refine ⟨(d.ledger.slot field).generation + 1, ?_, ?_⟩
      · simp [Desk.call, ← h.count, Ledger.start]
      · simp [Desk.call, Ledger.slot_start, latestStatus]
    · -- a ticket of another field, which the start leaves alone
      obtain ⟨g, hk, hslot⟩ := h.standing hold
      have hne : field ≠ f := hc
      have hlt : k < d.tickets.length := (List.getElem?_eq_some_iff.mp hk).1
      refine ⟨g, ?_, ?_⟩
      · simp [Desk.call, List.getElem?_append_left hlt, hk]
      · simp [Desk.call, Ledger.slot_start, hne, hslot, latestStatus_snoc, LedgerCall.outcome?]
  idle := by
    intro f hf
    have hne : field ≠ f := by
      intro he
      subst he
      exact hf ⟨value, _, [], standing_snoc.mpr (Or.inl ⟨rfl, rfl, rfl⟩)⟩
    have hold : ¬ ∃ v k since, Standing calls f v k since := by
      intro hstanding
      obtain ⟨v, k, since, hs⟩ := hstanding
      exact hf ⟨v, k, _, hs.snoc hne⟩
    simpa [Desk.call, Ledger.slot_start, hne] using h.idle hold
  generation_le := by
    intro t ht
    rcases List.mem_append.mp ht with ht | ht
    · have hle := h.generation_le t ht
      show t.generation ≤ ((d.ledger.start field value).2.slot t.field).generation
      rw [Ledger.slot_start]
      split
      · rename_i hf
        rw [hf]
        exact Nat.le_succ_of_le hle
      · exact hle
    · obtain rfl := List.mem_singleton.mp ht
      show _ ≤ ((d.ledger.start field value).2.slot field).generation
      simp [Ledger.slot_start, Ledger.start_fst]
  accepted := by
    intro k t hk hacc
    -- a ticket from before, or the one that was given out just now
    by_cases hlt : k < d.tickets.length
    · have hold : d.tickets[k]? = some t := by
        simpa [Desk.call, List.getElem?_append_left hlt] using hk
      have hne : field ≠ t.field := by
        intro he
        subst he
        have hle := h.generation_le t (List.mem_of_getElem? hold)
        -- a ticket of this field is behind the number that it has now
        have hgen : (d.ledger.slot t.field).generation + 1 = t.generation := by
          have := hacc
          simp only [Desk.call, Ledger.slot_start, if_true, Slot.accepts, Bool.and_eq_true,
            decide_eq_true_eq] at this
          exact this.1
        omega
      have hacc' : (d.ledger.slot t.field).accepts t = true := by
        simpa [Desk.call, Ledger.slot_start, hne] using hacc
      obtain ⟨since, hs⟩ := h.accepted hold hacc'
      exact ⟨_, hs.snoc hne⟩
    · have hend : k = d.tickets.length := by
        have := (List.getElem?_eq_some_iff.mp hk).1
        simp [Desk.call] at this
        omega
      subst hend
      obtain rfl : (d.ledger.start field value).1 = t := by simpa [Desk.call] using hk
      exact ⟨[], standing_snoc.mpr (Or.inl ⟨rfl, h.count, rfl⟩)⟩

/-- Clearing a field leaves no ticket standing for it. -/
theorem clear (h : Tracks calls d) (field : String) :
    Tracks (calls ++ [.clear field]) (d.call (.clear field)) where
  count := by simp [Desk.call, ticketCount, LedgerCall.isStart, h.count]
  standing := by
    intro f v k since hs
    rcases standing_snoc.mp hs with ⟨hc, _⟩ | ⟨hc, earlier, rfl, hold⟩
    · cases hc
    · obtain ⟨g, hk, hslot⟩ := h.standing hold
      have hne : field ≠ f := hc
      refine ⟨g, hk, ?_⟩
      simp [Desk.call, Ledger.slot_clear_other _ hne, hslot, latestStatus_snoc,
        LedgerCall.outcome?]
  idle := by
    intro f hf
    -- what is cleared is idle, and every other field is as it was
    by_cases hne : field = f
    · subst hne
      obtain ⟨g, hslot, _⟩ := d.ledger.slot_clear_self field
      simp [Desk.call, hslot]
    · have hold : ¬ ∃ v k since, Standing calls f v k since := by
        intro hstanding
        obtain ⟨v, k, since, hs⟩ := hstanding
        exact hf ⟨v, k, _, hs.snoc hne⟩
      simpa [Desk.call, Ledger.slot_clear_other _ hne] using h.idle hold
  generation_le := by
    intro t ht
    have hle := h.generation_le t ht
    by_cases hne : field = t.field
    · subst hne
      obtain ⟨g, hslot, hg, _⟩ := d.ledger.slot_clear_self t.field
      simpa [Desk.call, hslot] using Nat.le_trans hle hg
    · simpa [Desk.call, Ledger.slot_clear_other _ hne] using hle
  accepted := by
    intro k t hk hacc
    -- a cleared slot accepts no ticket
    have hne : field ≠ t.field := by
      intro he
      subst he
      obtain ⟨g, hslot, _⟩ := d.ledger.slot_clear_self t.field
      simp [Desk.call, hslot, Slot.accepts, Slot.isAbout] at hacc
    have hacc' : (d.ledger.slot t.field).accepts t = true := by
      simpa [Desk.call, Ledger.slot_clear_other _ hne] using hacc
    obtain ⟨since, hs⟩ := h.accepted hk hacc'
    exact ⟨_, hs.snoc hne⟩

/-- A ticket that was given out is accepted exactly if it stands. -/
theorem accepts_iff (h : Tracks calls d) {k : Nat} {t : Ticket} (hk : d.tickets[k]? = some t) :
    (d.ledger.slot t.field).accepts t = true ↔
      ∃ since, Standing calls t.field t.value k since := by
  constructor
  · exact h.accepted hk
  · intro hstanding
    obtain ⟨since, hs⟩ := hstanding
    obtain ⟨g, hk', hslot⟩ := h.standing hs
    have ht : t = ⟨t.field, g, t.value⟩ := Option.some.inj (hk.symm.trans hk')
    have hg : t.generation = g := congrArg Ticket.generation ht
    simp [hslot, Slot.accepts, Slot.isAbout, hg]

/-- An outcome for the standing ticket of a field becomes its status. -/
theorem slot_resolve_standing (h : Tracks calls d) {field : String} {value : Value} {k : Nat}
    {since : List LedgerCall} (hs : Standing calls field value k since) (o : Outcome) :
    (d.call (.resolve k o)).ledger.slot field =
      { d.ledger.slot field with status := o.status } := by
  obtain ⟨g, hk, _⟩ := h.standing hs
  have hacc := (h.accepts_iff hk).mpr ⟨since, hs⟩
  simp only [Desk.call, hk]
  rw [Ledger.slot_resolve, Ledger.isCurrent_eq_accepts, if_pos ⟨rfl, hacc⟩]

/-- An outcome for a ticket that does not stand for a field leaves its slot alone. -/
theorem slot_resolve_stale (h : Tracks calls d) {field : String} {k : Nat}
    (hk : ¬ ∃ value since, Standing calls field value k since) (o : Outcome) :
    (d.call (.resolve k o)).ledger.slot field = d.ledger.slot field := by
  cases ht : d.tickets[k]? with
  | none => simp [Desk.call, ht]
  | some t =>
      simp only [Desk.call, ht]
      rw [Ledger.slot_resolve, Ledger.isCurrent_eq_accepts, if_neg]
      intro hmatch
      obtain ⟨rfl, hacc⟩ := hmatch
      obtain ⟨since, hs⟩ := h.accepted ht hacc
      exact hk ⟨t.value, since, hs⟩

/-- An outcome reaches the slot of its field only if its ticket stands. -/
theorem resolve (h : Tracks calls d) (j : Nat) (o : Outcome) :
    Tracks (calls ++ [.resolve j o]) (d.call (.resolve j o)) := by
  have hsnoc : ∀ {f v k since}, Standing (calls ++ [.resolve j o]) f v k since →
      ∃ earlier, since = earlier ++ [.resolve j o] ∧ Standing calls f v k earlier := by
    intro f v k since hs
    rcases standing_snoc.mp hs with ⟨hc, _⟩ | ⟨_, hs⟩
    · cases hc
    · exact hs
  have htickets : (d.call (.resolve j o)).tickets = d.tickets := by
    simp only [Desk.call]
    split <;> rfl
  -- only the status of a slot may change, so what it accepts does not
  have hkeep : ∀ f, ((d.call (.resolve j o)).ledger.slot f).generation =
        (d.ledger.slot f).generation ∧
      ((d.call (.resolve j o)).ledger.slot f).value = (d.ledger.slot f).value := by
    intro f
    by_cases hj : ∃ value since, Standing calls f value j since
    · obtain ⟨value, since, hs⟩ := hj
      simp [h.slot_resolve_standing hs]
    · simp [h.slot_resolve_stale hj]
  constructor
  · rw [htickets, h.count]
    simp [ticketCount, LedgerCall.isStart]
  · intro f v k since hs
    obtain ⟨earlier, rfl, hold⟩ := hsnoc hs
    obtain ⟨g, hk, hslot⟩ := h.standing hold
    refine ⟨g, by rw [htickets, hk], ?_⟩
    by_cases hjk : j = k
    · subst hjk
      simp [h.slot_resolve_standing hold, hslot, latestStatus_snoc, LedgerCall.outcome?]
    · have hj : ¬ ∃ value since, Standing calls f value j since := by
        intro hstanding
        obtain ⟨value, since, hs⟩ := hstanding
        exact hjk (hs.unique hold)
      simp [h.slot_resolve_stale hj, hslot, latestStatus_snoc, LedgerCall.outcome?, hjk]
  · intro f hf
    have hold : ¬ ∃ v k since, Standing calls f v k since := by
      intro hstanding
      obtain ⟨v, k, since, hs⟩ := hstanding
      exact hf ⟨v, k, _, hs.snoc id⟩
    rw [h.slot_resolve_stale fun ⟨value, since, hs⟩ => hold ⟨value, j, since, hs⟩]
    exact h.idle hold
  · intro t ht
    rw [(hkeep t.field).1]
    exact h.generation_le t (htickets ▸ ht)
  · intro k t hk hacc
    have hacc' : (d.ledger.slot t.field).accepts t = true := by
      simpa [Slot.accepts, Slot.isAbout, hkeep] using hacc
    obtain ⟨since, hs⟩ := h.accepted (htickets ▸ hk) hacc'
    exact ⟨_, hs.snoc id⟩

end Tracks

/-- After every history the desk keeps exactly what the history says. -/
theorem tracks_after (calls : List LedgerCall) : Tracks calls (Desk.after calls) := by
  induction calls using List.reverseRecOn with
  | nil =>
      refine ⟨rfl, ?_, fun _ => ⟨rfl, rfl⟩, by simp [Desk.after], by simp [Desk.after]⟩
      intro field value k since h
      obtain ⟨before, hnil, _⟩ := h
      simp at hnil
  | append_singleton calls c ih =>
      rw [Desk.after_snoc]
      cases c with
      | start field value => exact ih.start field value
      | clear field => exact ih.clear field
      | resolve j o => exact ih.resolve j o

/-! ## Main statement -/

/-- A check of the value is over. -/
def AsyncStatus.IsFinished (s : AsyncStatus) : Prop := s ≠ .idle ∧ s ≠ .pending

/-- A finished status is reported only for the value that the slot is about. -/
theorem Ledger.isAbout_of_isFinished {l : Ledger} {field : String} {v : Value}
    (h : (l.statusFor field v).IsFinished) : (l.slot field).isAbout v = true := by
  unfold Ledger.statusFor at h
  by_cases hp : (l.slot field).status = .pending
  · simp [hp, AsyncStatus.IsFinished] at h
  · apply Classical.byContradiction
    intro hv
    simp [hp, hv, AsyncStatus.IsFinished] at h

/-- What is known about a field depends on its slot alone. -/
theorem Ledger.known_congr {l m : Ledger} {field : String} (h : l.slot field = m.slot field) :
    l.status field = m.status field ∧ ∀ v, l.statusFor field v = m.statusFor field v := by
  simp [Ledger.status, Ledger.statusFor, h]

/-- A call leaves the slots of all fields but its own alone. -/
theorem Desk.slot_call_other (d : Desk) {c : LedgerCall} {other : String}
    (h : d.fieldOf? c ≠ some other) : (d.call c).ledger.slot other = d.ledger.slot other := by
  cases c with
  | start field value =>
      have hne : field ≠ other := fun e => h (congrArg some e)
      simp [Desk.call, Ledger.slot_start, hne]
  | clear field =>
      have hne : field ≠ other := fun e => h (congrArg some e)
      simp [Desk.call, Ledger.slot_clear_other _ hne]
  | resolve k o =>
      cases ht : d.tickets[k]? with
      | none => simp [Desk.call, ht]
      | some t =>
          have hne : t.field ≠ other := by simpa [Desk.fieldOf?, ht] using h
          simp [Desk.call, ht, Ledger.slot_resolve, hne]

/-- The numbers of a field's checks grow by at most one with every call. -/
theorem generation_le_length (calls : List LedgerCall) (field : String) :
    ((Desk.after calls).ledger.slot field).generation ≤ calls.length := by
  induction calls using List.reverseRecOn with
  | nil => simp [Desk.after, Ledger.slot, Slot.fresh]
  | append_singleton calls c ih =>
      rw [Desk.after_snoc, List.length_append, List.length_singleton]
      cases c with
      | start f value =>
          simp only [Desk.call, Ledger.slot_start]
          split
          · rename_i hf
            subst hf
            exact Nat.succ_le_succ ih
          · exact Nat.le_succ_of_le ih
      | clear f =>
          simp only [Desk.call, Ledger.slot_clear]
          split
          · rename_i hf
            obtain ⟨rfl, _⟩ := hf
            exact Nat.succ_le_succ ih
          · exact Nat.le_succ_of_le ih
      | resolve k o =>
          by_cases hk : ∃ value since, Standing calls field value k since
          · obtain ⟨value, since, hs⟩ := hk
            rw [(tracks_after calls).slot_resolve_standing hs]
            exact Nat.le_succ_of_le ih
          · rw [(tracks_after calls).slot_resolve_stale hk]
            exact Nat.le_succ_of_le ih

/-- **A ledger follows its history.**  After every sequence of calls: an outcome for a
ticket given out before is accepted exactly if the ticket is that of its field's last
start and nothing has cleared the field since, and changes nothing otherwise; a field is
idle without such a ticket, and with one it has the status of the last outcome for it,
pending before the first; a finished status is reported for a value only if it is the
value of that ticket; and a call leaves what is known about other fields alone.  The
number of a field's checks never exceeds the number of calls, so a counter of 64 bits
holds it for as long as there are fewer than `2 ^ 64` of them. -/
theorem ledger_follows_history (calls : List LedgerCall) :
    (∀ k t o, (Desk.after calls).tickets[k]? = some t →
      (((Desk.after calls).ledger.resolve t o).1 = true ↔
        ∃ since, Standing calls t.field t.value k since) ∧
      (((Desk.after calls).ledger.resolve t o).1 = false →
        ((Desk.after calls).ledger.resolve t o).2 = (Desk.after calls).ledger)) ∧
    (∀ field,
      ((¬ ∃ value k since, Standing calls field value k since) →
        (Desk.after calls).ledger.status field = .idle) ∧
      ∀ value k since, Standing calls field value k since →
        (Desk.after calls).ledger.status field = latestStatus k since) ∧
    (∀ field v, ((Desk.after calls).ledger.statusFor field v).IsFinished →
      ∃ value k since, Standing calls field value k since ∧ value.same v = true) ∧
    (∀ c other, (Desk.after calls).fieldOf? c ≠ some other →
      (Desk.after (calls ++ [c])).ledger.status other = (Desk.after calls).ledger.status other ∧
      ∀ v, (Desk.after (calls ++ [c])).ledger.statusFor other v =
        (Desk.after calls).ledger.statusFor other v) ∧
    (∀ field, ((Desk.after calls).ledger.slot field).generation ≤ calls.length) := by
  have h := tracks_after calls
  refine ⟨?_, ?_, ?_, ?_, generation_le_length calls⟩
  · intro k t o hk
    rw [Ledger.resolve_fst]
    exact ⟨h.accepts_iff hk, fun hf => Ledger.resolve_eq_self _ (by rwa [Ledger.resolve_fst])⟩
  · intro field
    refine ⟨fun hnone => (h.idle hnone).2, ?_⟩
    intro value k since hs
    obtain ⟨g, _, hslot⟩ := h.standing hs
    simp [Ledger.status, hslot]
  · intro field v hv
    have habout := Ledger.isAbout_of_isFinished hv
    by_cases hs : ∃ value k since, Standing calls field value k since
    · obtain ⟨value, k, since, hs⟩ := hs
      obtain ⟨g, _, hslot⟩ := h.standing hs
      exact ⟨value, k, since, hs, by simpa [hslot, Slot.isAbout] using habout⟩
    · simp [Slot.isAbout, (h.idle hs).1] at habout
  · intro c other hc
    rw [Desk.after_snoc]
    exact Ledger.known_congr (Desk.slot_call_other _ hc)

end Formwork
