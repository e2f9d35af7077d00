import ExploitReplay.AddressBook
import ExploitReplay.Json.Reader
import ExploitReplay.Main
import ExploitReplay.Sequence.Document
import ExploitReplay.Session.Run
import ExploitReplay.Signature.Reading
import ExploitReplay.TestContract
import ExploitReplay.Proofs.AddressBook
import ExploitReplay.Proofs.GeneratedNames
import ExploitReplay.Proofs.Scope
import ExploitReplay.Proofs.CallStatement
import ExploitReplay.Proofs.Acceptance
import ExploitReplay.Proofs.Accounts
import ExploitReplay.Proofs.History
import ExploitReplay.Proofs.Layout
import ExploitReplay.Proofs.Document
import ExploitReplay.Proofs.Signature.Parameters
import ExploitReplay.Proofs.Text.Cut
import ExploitReplay.Proofs.Signature.Returns
import ExploitReplay.Proofs.Signature.Declaration
import ExploitReplay.Proofs.Callers
import ExploitReplay.Proofs.Signature.Heading
import ExploitReplay.Proofs.Signature.Recognition
import ExploitReplay.Proofs.Captures
import ExploitReplay.Proofs.Console.Terminal
import ExploitReplay.Proofs.RejectedFile
import ExploitReplay.Proofs.Declarations
import ExploitReplay.Proofs.Indentation
import ExploitReplay.Proofs.Extension
import ExploitReplay.Proofs.Grammar
import ExploitReplay.Proofs.Spelling
import ExploitReplay.Proofs.Registrations
import ExploitReplay.Proofs.Session.Writing
import ExploitReplay.Proofs.SentValues
import ExploitReplay.Proofs.Renaming
import ExploitReplay.Proofs.Disk
import ExploitReplay.Proofs.Preferences.Reading
import ExploitReplay.Proofs.Yaml.Writer
import ExploitReplay.Proofs.Reporting
import ExploitReplay.Proofs.Preferences.Saving
import ExploitReplay.Proofs.CompileCommand
import ExploitReplay.Proofs.PrintedTest
import ExploitReplay.Proofs.ReportedFailure
import ExploitReplay.Proofs.ScopeHistory
import ExploitReplay.Proofs.KeptValues
import ExploitReplay.Proofs.Session.Call
import ExploitReplay.Proofs.CallText
import ExploitReplay.Proofs.Preferences.ExitCode
import ExploitReplay.Proofs.Bindings
import ExploitReplay.Proofs.Payable
import ExploitReplay.Proofs.Signature.Written
import ExploitReplay.Proofs.Signature.Positions
import ExploitReplay.Proofs.Signature.Segments
import ExploitReplay.Proofs.Signature.ParameterList
import ExploitReplay.Proofs.Signature.Spacing
import ExploitReplay.Proofs.Signature.Clause
import ExploitReplay.Proofs.Signature.Separators
import ExploitReplay.Proofs.Signature.Chunks
import ExploitReplay.Proofs.Loading
