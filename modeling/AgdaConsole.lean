import AgdaConsole.Backend
import AgdaConsole.CommandLine.Flag
import AgdaConsole.CommandLine.Line
import AgdaConsole.CommandLine.Refusal
import AgdaConsole.CommandLine.Request
import AgdaConsole.CommandLine.Scan
import AgdaConsole.CommandLine.Setting
import AgdaConsole.Completion
import AgdaConsole.Config
import AgdaConsole.Config.Load
import AgdaConsole.Console
import AgdaConsole.Disk
import AgdaConsole.Hint
import AgdaConsole.History
import AgdaConsole.Input
import AgdaConsole.Installation
import AgdaConsole.Interaction
import AgdaConsole.Main
import AgdaConsole.ModuleName
import AgdaConsole.OsError
import AgdaConsole.Outcome
import AgdaConsole.Path
import AgdaConsole.Program
import AgdaConsole.Proofs.Spelling
import AgdaConsole.Proofs.Text.Digits
import AgdaConsole.Proofs.Text.LiteralReader
import AgdaConsole.Proofs.Wire.Reader
import AgdaConsole.Protocol.Command
import AgdaConsole.Protocol.Envelope
import AgdaConsole.Protocol.Range
import AgdaConsole.Protocol.Spelling
import AgdaConsole.Protocol.Verb
import AgdaConsole.Scratch
import AgdaConsole.Session
import AgdaConsole.SessionError
import AgdaConsole.Shell
import AgdaConsole.Text.Backspace
import AgdaConsole.Text.Blank
import AgdaConsole.Text.Bytes
import AgdaConsole.Text.CaseTable
import AgdaConsole.Text.Cluster
import AgdaConsole.Text.ClusterTable
import AgdaConsole.Text.Interval
import AgdaConsole.Text.Literal
import AgdaConsole.Text.Lower
import AgdaConsole.Text.Numeral
import AgdaConsole.Text.Pieces
import AgdaConsole.Text.Plain
import AgdaConsole.Text.Word
import AgdaConsole.Toml.Document
import AgdaConsole.Toml.Moment
import AgdaConsole.Toml.Number
import AgdaConsole.Toml.Quoted
import AgdaConsole.Toml.Table
import AgdaConsole.Toml.Value
import AgdaConsole.Proofs.Wire.RoundTrip
import AgdaConsole.Proofs.Text.Pieces
import AgdaConsole.Proofs.Wire.Decodable
import AgdaConsole.Proofs.Path.Folder
import AgdaConsole.Proofs.Session.Run
import AgdaConsole.Proofs.Session.FolderLoss
import AgdaConsole.Proofs.Range
import AgdaConsole.Proofs.Text.WordGrammar
import AgdaConsole.Proofs.Text.Word
import AgdaConsole.Proofs.CommandLine.Setting
import AgdaConsole.Proofs.CommandLine.Scan
import AgdaConsole.Proofs.CommandLine.Choices
import AgdaConsole.Proofs.CommandLine.Given
import AgdaConsole.Proofs.CommandLine.Line
import AgdaConsole.Proofs.Interaction.Delivery
import AgdaConsole.Proofs.CommandLine.Agreement
import AgdaConsole.Proofs.Session.Includes
import AgdaConsole.Proofs.Disk
import AgdaConsole.Proofs.Text.Blank
import AgdaConsole.Proofs.History
import AgdaConsole.Proofs.Console.Run
import AgdaConsole.Proofs.Console.Sittings
import AgdaConsole.Proofs.Path.Absolute
import AgdaConsole.Proofs.Installation
import AgdaConsole.Proofs.Console.SearchedFolders
import AgdaConsole.Proofs.Interaction.NamedFile
import AgdaConsole.Proofs.Config.Validity
import AgdaConsole.Proofs.Text.LiteralGrammar
import AgdaConsole.Proofs.Range.Grammar
import AgdaConsole.Proofs.Completion
import AgdaConsole.Proofs.Completion.Offers
import AgdaConsole.Proofs.History.Appended
import AgdaConsole.Proofs.Prelude
import AgdaConsole.Proofs.Wire.Construction
import AgdaConsole.Proofs.CommandLine.CommandWord
import AgdaConsole.Proofs.Session.Echo
import AgdaConsole.Proofs.ModuleName
import AgdaConsole.Proofs.Prelude.Import
