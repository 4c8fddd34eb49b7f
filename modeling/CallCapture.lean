import CallCapture.Call
import CallCapture.Capturer
import CallCapture.Clipboard
import CallCapture.CommandLine.Arguments
import CallCapture.CommandLine.Run
import CallCapture.Disk
import CallCapture.Document
import CallCapture.Expansion
import CallCapture.Journal.Basic
import CallCapture.Journal.Filter
import CallCapture.Journal.Pattern.Class
import CallCapture.Journal.Pattern.Reader
import CallCapture.Json.Text
import CallCapture.Json.Token
import CallCapture.Json.Value
import CallCapture.Main
import CallCapture.Message
import CallCapture.Page
import CallCapture.Proofs.Agreement
import CallCapture.Proofs.Anchor
import CallCapture.Proofs.Balance
import CallCapture.Proofs.Bookkeeping
import CallCapture.Proofs.Budget
import CallCapture.Proofs.Building
import CallCapture.Proofs.Capture
import CallCapture.Proofs.Closing
import CallCapture.Proofs.Collaborators
import CallCapture.Proofs.Containment
import CallCapture.Proofs.Counting
import CallCapture.Proofs.Dispatching
import CallCapture.Proofs.Ending
import CallCapture.Proofs.Expansion
import CallCapture.Proofs.Expiry
import CallCapture.Proofs.Extending
import CallCapture.Proofs.Fields
import CallCapture.Proofs.FirstName
import CallCapture.Proofs.Folders
import CallCapture.Proofs.Framing
import CallCapture.Proofs.Handling
import CallCapture.Proofs.History
import CallCapture.Proofs.Layering
import CallCapture.Proofs.Naming
import CallCapture.Proofs.Numerals
import CallCapture.Proofs.Occurrence
import CallCapture.Proofs.Offsets
import CallCapture.Proofs.Probing
import CallCapture.Proofs.Reduction
import CallCapture.Proofs.Reexpansion
import CallCapture.Proofs.Renaming
import CallCapture.Proofs.Repetition
import CallCapture.Proofs.Routes
import CallCapture.Proofs.Serve
import CallCapture.Proofs.Session
import CallCapture.Proofs.Slice
import CallCapture.Proofs.Spelling
import CallCapture.Proofs.Staging
import CallCapture.Proofs.Stopping
import CallCapture.Proofs.Storing
import CallCapture.Proofs.Surrounding
import CallCapture.Proofs.Usage
import CallCapture.Proofs.Wire
import CallCapture.Report
import CallCapture.Settings
import CallCapture.Tally
import CallCapture.Text.Alphanumeric
import CallCapture.Text.Basic
import CallCapture.Timestamp
import CallCapture.Toml.Number
import CallCapture.Toml.Reader
import CallCapture.Toml.Text
import CallCapture.Toml.Value
