import Formwork.Schema.Basic

/-!
# Drafts

A form may be left half filled in and taken up again.  Where drafts are kept is
the application's own affair; here a draft only seeds the values that a form
starts from.
-/

namespace Formwork

/-- Why a draft cannot be had. -/
inductive DraftFault where
  | unavailable (why : String)
  | corrupt (formId why : String)
deriving DecidableEq, Repr

def DraftFault.message : DraftFault → String
  | .unavailable why => s!"Draft storage is unavailable: {why}"
  | .corrupt formId why => s!"Stored draft for form '{formId}' is corrupt: {why}"

/-- What a store answers when a draft is asked for. -/
abbrev LoadedDraft := Except DraftFault (Option Snapshot)

/-- The values a form starts from: the defaults, and over them what the fields read
in the draft.  A draft that cannot be had is as good as none. -/
def Schema.initialValues (s : Schema) (draft : LoadedDraft) : Snapshot :=
  match draft with
  | .ok (some values) => s.defaults.putAll (s.retain values)
  | _ => s.defaults

end Formwork
