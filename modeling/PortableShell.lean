import PortableShell.Text.Blank
import PortableShell.Text.Case
import PortableShell.Text.Literal
import PortableShell.Text.Utf8
import PortableShell.Number.Integer
import PortableShell.Number.Double.Reader
import PortableShell.Number.Double.Shortest
import PortableShell.Json.Reader
import PortableShell.Json.Printer
import PortableShell.Path.Resolve
import PortableShell.Argument
import PortableShell.Category
import PortableShell.Command.Manual
import PortableShell.Invocation
import PortableShell.Platform
import PortableShell.World
import PortableShell.Session
import PortableShell.Procedure
import PortableShell.Procedure.Transfer
import PortableShell.Procedure.SingleFile
import PortableShell.Procedure.Reading
import PortableShell.Procedure.Search
import PortableShell.Procedure.Counting
import PortableShell.Procedure.Access
import PortableShell.Procedure.Administration
import PortableShell.Procedure.Download
import PortableShell.Plan
import PortableShell.Shell
import PortableShell.Settings
import PortableShell.Settings.Location
import PortableShell.Logging
import PortableShell.Options
import PortableShell.Terminal.Completion
import PortableShell.Program
import PortableShell.Main
import PortableShell.Proofs.Action
import PortableShell.Proofs.Conduct
import PortableShell.Proofs.Course
import PortableShell.Proofs.Files
import PortableShell.Proofs.Preparation
import PortableShell.Proofs.Download
import PortableShell.Proofs.Procedures
import PortableShell.Proofs.Replies
import PortableShell.Proofs.Unforeseen
import PortableShell.Proofs.Runs
import PortableShell.Proofs.Directory
import PortableShell.Proofs.Words
import PortableShell.Proofs.Arguments
import PortableShell.Proofs.History
import PortableShell.Proofs.Platforms
import PortableShell.Proofs.Confinement
import PortableShell.Proofs.HomeDirectory
import PortableShell.Proofs.Dialogue
import PortableShell.Proofs.Rounding
import PortableShell.Proofs.Decimals
import PortableShell.Proofs.JsonNumbers
import PortableShell.Proofs.JsonRoundTrip
import PortableShell.Proofs.Encoding
import PortableShell.Proofs.SavedSettings
import PortableShell.Proofs.CanonicalPaths
import PortableShell.Proofs.CommandLine
import PortableShell.Proofs.SavedDocument
import PortableShell.Proofs.Navigation
import PortableShell.Proofs.LeadingWord
import PortableShell.Proofs.Tokens
import PortableShell.Proofs.Destination
import PortableShell.Proofs.ScriptLiterals
import PortableShell.Proofs.ShownFiles
import PortableShell.Proofs.SearchResults
import PortableShell.Proofs.TextTotals
import PortableShell.Proofs.LineEnds
import PortableShell.Proofs.FirstLines
import PortableShell.Proofs.Modes
import PortableShell.Proofs.Labels
import PortableShell.Proofs.Recall
import PortableShell.Proofs.SettingSources
import PortableShell.Proofs.BegunWord
import PortableShell.Proofs.QuotaDrives
import PortableShell.Proofs.CommandCompletion
