import ContentLine.Civil.DayNumber
import ContentLine.Session.Run
import ContentLine.Text.DecimalLemmas
import ContentLine.Proofs.Temporal.Grammar
import ContentLine.Proofs.Builder.Registration
import ContentLine.Proofs.Builder.Standard
import ContentLine.Proofs.Property.Consistency
import ContentLine.Proofs.Builder.Conformance
import ContentLine.Proofs.Property.Binding
import ContentLine.Proofs.Property.Soundness
import ContentLine.Proofs.Temporal.RoundTrip
import ContentLine.Proofs.Property.Equality
import ContentLine.Proofs.Zone.Season
import ContentLine.Proofs.Zone.Regular
import ContentLine.Proofs.Text.Escape
import ContentLine.Proofs.Text.Trim
import ContentLine.Proofs.Builder.TextRoundTrip
import ContentLine.Proofs.Temporal.Acceptance
import ContentLine.Proofs.Builder.Rebuilding
import ContentLine.Proofs.Property.Interchange
import ContentLine.Proofs.Session.Scope
import ContentLine.Proofs.Builder.Leniency
import ContentLine.Proofs.Session.AfterBlock
import ContentLine.Proofs.Session.Frame
import ContentLine.Proofs.Session.HandOver
import ContentLine.Proofs.Property.Reading
import ContentLine.Proofs.Temporal.Faults
import ContentLine.Proofs.Builder.Dispatch
import ContentLine.Proofs.Temporal.Views
import ContentLine.Proofs.Property.Lookups
import ContentLine.Proofs.Text.EscapedTexts
import ContentLine.Proofs.Property.Declarations
import ContentLine.Proofs.Property.ParameterEdits
import ContentLine.Proofs.Builder.NormalForm
import ContentLine.Proofs.Text.BackslashRuns
import ContentLine.Proofs.Property.Description
