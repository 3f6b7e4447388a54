import LintServer.Main
import LintServer.Proofs.Connection.Relay
import LintServer.Proofs.Publisher.Staleness
import LintServer.Proofs.Publisher.Account
import LintServer.Proofs.Server.Agreement
import LintServer.Proofs.Workspace.Closing
import LintServer.Proofs.Text.Utf8
import LintServer.Proofs.Frame.Header
import LintServer.Proofs.Frame.Packet
import LintServer.Proofs.Json.Literal
import LintServer.Proofs.Json.Numeral
import LintServer.Proofs.Json.RoundTrip
import LintServer.Proofs.Frame.RoundTrip
import LintServer.Proofs.Server.Editors
import LintServer.Proofs.Session.Moves
import LintServer.Proofs.Session.Debounce
import LintServer.Proofs.Publisher.Completions
import LintServer.Proofs.Publisher.Isolation
import LintServer.Proofs.Publisher.Abandonment
import LintServer.Proofs.Frame.Stream
import LintServer.Proofs.Session.Requests
import LintServer.Proofs.Connection.Replies
import LintServer.Proofs.Server.Answering
import LintServer.Proofs.Server.Ending
import LintServer.Proofs.Server.Replies
import LintServer.Proofs.Server.Warning
import LintServer.Proofs.Linter.Bookkeeping
import LintServer.Proofs.Workspace.Unseen
import LintServer.Proofs.Server.Garbage
import LintServer.Proofs.Report.Grammar
import LintServer.Proofs.Report.Printed
import LintServer.Proofs.Capture.Lines
import LintServer.Proofs.Workspace.Sharing
import LintServer.Proofs.Frame.Verdict
import LintServer.Proofs.Frame.Cut
import LintServer.Proofs.Config.Template
import LintServer.Proofs.Config.Location
import LintServer.Proofs.Finding
import LintServer.Proofs.Connection.Ranges
import LintServer.Proofs.Config.Load
import LintServer.Proofs.Installation
import LintServer.Proofs.Linter.Installation
import LintServer.Proofs.Server.Settling
