import MonitorCore.Failure.Context
import MonitorCore.Failure.Format
import MonitorCore.Proofs.Failure.Body
import MonitorCore.Proofs.Failure.Chain
import MonitorCore.Proofs.Failure.Event
import MonitorCore.Proofs.Failure.FieldMap
import MonitorCore.Proofs.Failure.Serial
import MonitorCore.Proofs.Json.ArrayForm
import MonitorCore.Proofs.Json.BothForms
import MonitorCore.Proofs.Json.DeclaredFields
import MonitorCore.Proofs.Json.DeclaredForms
import MonitorCore.Proofs.Json.RoundTrip
import MonitorCore.Proofs.Selection.Events
import MonitorCore.Proofs.Selection.Growth
import MonitorCore.Proofs.Selection.Incidence
import MonitorCore.Proofs.Selection.Narrowed
import MonitorCore.Proofs.Selection.Separate
import MonitorCore.Proofs.Selection.SharedOutput
import MonitorCore.Proofs.Selection.Stages
import MonitorCore.Proofs.Session.Callers
import MonitorCore.Proofs.Session.Decision
import MonitorCore.Proofs.Session.Fruitless
import MonitorCore.Proofs.Session.LogLines
import MonitorCore.Proofs.Session.Once
import MonitorCore.Proofs.Session.Records
import MonitorCore.Proofs.Settings.Effective
import MonitorCore.Proofs.Settings.Reloading
import MonitorCore.Proofs.Settings.WrittenConfig
import MonitorCore.Proofs.Text.ByteOrder
import MonitorCore.Series.Format
import MonitorCore.Series.Pipeline
import MonitorCore.Session.Race
import MonitorCore.Session.Scope
import MonitorCore.Session.Step
import MonitorCore.Text.Literal
