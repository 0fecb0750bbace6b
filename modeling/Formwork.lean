import Formwork.Compilation.Basic
import Formwork.Component
import Formwork.Condition.Explanation
import Formwork.Definition.Catalog
import Formwork.Draft
import Formwork.Main
import Formwork.Schema.Json
import Formwork.Visibility
import Formwork.Wizard.Awaiting
import Formwork.Proofs.Lists
import Formwork.Proofs.Async.History
import Formwork.Proofs.Async.Moves
import Formwork.Proofs.Async.Pending
import Formwork.Proofs.Async.Soundness
import Formwork.Proofs.Wizard.Report
import Formwork.Proofs.Wizard.Gate
import Formwork.Proofs.Compilation.Faults
import Formwork.Proofs.Compilation.Positions
import Formwork.Proofs.Wizard.Runs
import Formwork.Proofs.Compilation.Flattening
import Formwork.Proofs.Compilation.Guards
import Formwork.Proofs.Compilation.Owner
import Formwork.Proofs.Compilation.Cycle
import Formwork.Proofs.Condition.Parts
import Formwork.Proofs.Compilation.Defects
import Formwork.Proofs.Compilation.WellFormed
import Formwork.Proofs.Value.LooseEquality
import Formwork.Proofs.Value.Path
import Formwork.Proofs.Condition.Reads
import Formwork.Proofs.Wizard.WholeForm
import Formwork.Proofs.Compilation.FieldParts
import Formwork.Proofs.Compilation.OwnValue
import Formwork.Proofs.Json.Numerals
import Formwork.Proofs.Json.Nesting
import Formwork.Proofs.Json.Text
import Formwork.Proofs.Json.Structures
import Formwork.Proofs.Condition.Written
import Formwork.Proofs.Constraint.Written
import Formwork.Proofs.Definition.Written
import Formwork.Proofs.Schema.Written
import Formwork.Proofs.Compilation.ReadBack
import Formwork.Proofs.Condition.Meaning
import Formwork.Proofs.Condition.Reasons
import Formwork.Proofs.Wizard.Policy
import Formwork.Proofs.Condition.Saved
import Formwork.Proofs.Constraint.Saved
import Formwork.Proofs.Definition.Forms
import Formwork.Proofs.Compilation.CycleSearch
import Formwork.Proofs.Wizard.Classification
import Formwork.Proofs.Async.LastValue
import Formwork.Proofs.Async.Awaited
import Formwork.Proofs.Async.Debounce
import Formwork.Proofs.Condition.Absence
import Formwork.Proofs.Wizard.Absence
import Formwork.Proofs.Constraint.Bounds
import Formwork.Proofs.Number.Padded
import Formwork.Proofs.Constraint.CalendarDates
import Formwork.Proofs.Constraint.Moments
import Formwork.Proofs.Json.Closed
import Formwork.Proofs.Condition.Grammar
import Formwork.Proofs.Schema.Restoring
import Formwork.Proofs.Async.CatchUp
import Formwork.Proofs.Async.Duration
import Formwork.Proofs.Wizard.Waiting
import Formwork.Proofs.Compilation.Naming
import Formwork.Proofs.Compilation.FlatForm
import Formwork.Proofs.Constraint.Messages
import Formwork.Proofs.Schema.Visibility
import Formwork.Proofs.Condition.Conjunction
import Formwork.Proofs.Value.Location
import Formwork.Proofs.Text.CharClass
import Formwork.Proofs.Pattern.Matching
import Formwork.Proofs.Pattern.Forward
import Formwork.Proofs.Pattern.Parts
import Formwork.Proofs.Constraint.Shapes
