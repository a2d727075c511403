import ChapelServer.Main
import ChapelServer.Session.Report
import ChapelServer.Version
import ChapelServer.Proofs.Session.Outcome
import ChapelServer.Proofs.Session.Serial
import ChapelServer.Proofs.Compilation.Confinement
import ChapelServer.Proofs.Source.Symbol
import ChapelServer.Proofs.Session.Attribution
import ChapelServer.Proofs.Session.Snapshot
import ChapelServer.Proofs.Session.Reconfiguration
import ChapelServer.Proofs.Disk.Works
import ChapelServer.Proofs.Session.Cleanup
import ChapelServer.Proofs.Session.Withdrawal
import ChapelServer.Proofs.Session.Course
import ChapelServer.Proofs.Server.Synchronisation
import ChapelServer.Proofs.Settings.WellFormed
import ChapelServer.Proofs.Settings.Independence
import ChapelServer.Proofs.Settings.Idempotence
import ChapelServer.Proofs.Session.Breakdown
import ChapelServer.Proofs.PassLog.Occurrence
import ChapelServer.Proofs.PassLog.RoundTrip
import ChapelServer.Proofs.PassLog.Linewise
import ChapelServer.Proofs.Source.Cursor
import ChapelServer.Proofs.Source.Lexeme
import ChapelServer.Proofs.Source.Coverage
import ChapelServer.Proofs.Source.Placement
import ChapelServer.Proofs.Source.Composition
import ChapelServer.Proofs.Source.LineEnding
import ChapelServer.Proofs.Source.Literal
import ChapelServer.Proofs.Number.Order
import ChapelServer.Proofs.Server.Pushed
import ChapelServer.Proofs.Settings.Limit
import ChapelServer.Proofs.Settings.Artifact
import ChapelServer.Proofs.Session.StaleLog
import ChapelServer.Proofs.Document.History
import ChapelServer.Proofs.Source.Correspondence
import ChapelServer.Proofs.Compilation.Tail
