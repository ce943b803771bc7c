import PageBuild.ArgumentFile
import PageBuild.ArgumentFile.Reader
import PageBuild.Backend
import PageBuild.Charset
import PageBuild.ClassPath
import PageBuild.Command
import PageBuild.CommandLine
import PageBuild.CommandLine.Flag
import PageBuild.CommandLine.Parsing
import PageBuild.CommandLine.Usage
import PageBuild.CommandLine.Word
import PageBuild.Compilation
import PageBuild.Context
import PageBuild.Diagnostic
import PageBuild.Dispatch
import PageBuild.Documents
import PageBuild.ErrorDetail
import PageBuild.Failure
import PageBuild.FileTree
import PageBuild.Handle
import PageBuild.Json
import PageBuild.Json.Printer
import PageBuild.Json.Reader
import PageBuild.LineMap
import PageBuild.LineMap.Entry
import PageBuild.LineMap.Offset
import PageBuild.LineMap.SourceMap
import PageBuild.Main
import PageBuild.Messages
import PageBuild.Number.Binary64
import PageBuild.Number.Decimal
import PageBuild.Number.Quantity
import PageBuild.Number.Reading
import PageBuild.Options
import PageBuild.PageTree
import PageBuild.PageTree.Position
import PageBuild.PageTree.Sections
import PageBuild.PathName
import PageBuild.Proofs.ArgumentFile.RoundTrip
import PageBuild.Proofs.Backend.Acquiring
import PageBuild.Proofs.Backend.Finding
import PageBuild.Proofs.Charset.Naming
import PageBuild.Proofs.ClassPath.Arguments
import PageBuild.Proofs.CommandLine.ExitCodes
import PageBuild.Proofs.CommandLine.Loading
import PageBuild.Proofs.Compilation.Diagnosis
import PageBuild.Proofs.Compilation.Failure
import PageBuild.Proofs.Compilation.Footprint
import PageBuild.Proofs.Compilation.Phases
import PageBuild.Proofs.Compilation.Policy
import PageBuild.Proofs.Compilation.Protocol
import PageBuild.Proofs.Compilation.Wording
import PageBuild.Proofs.Context.Assignment
import PageBuild.Proofs.Context.Encoding
import PageBuild.Proofs.Context.Fields
import PageBuild.Proofs.Context.Making
import PageBuild.Proofs.Documents.Reporting
import PageBuild.Proofs.FileTree.Changes
import PageBuild.Proofs.FileTree.Growth
import PageBuild.Proofs.FileTree.Names
import PageBuild.Proofs.FileTree.Places
import PageBuild.Proofs.FileTree.Programs
import PageBuild.Proofs.FileTree.Writing
import PageBuild.Proofs.Handle.Directory
import PageBuild.Proofs.Handle.Faults
import PageBuild.Proofs.Handle.Judge
import PageBuild.Proofs.Handle.Lifecycle
import PageBuild.Proofs.Handle.Opening
import PageBuild.Proofs.Handle.Running
import PageBuild.Proofs.Handle.Trust
import PageBuild.Proofs.Json.Limits
import PageBuild.Proofs.LineMap.Assignment
import PageBuild.Proofs.LineMap.ClassName
import PageBuild.Proofs.LineMap.Resolution
import PageBuild.Proofs.LineMap.SourceMap
import PageBuild.Proofs.Messages.Defaults
import PageBuild.Proofs.Messages.Overrides
import PageBuild.Proofs.PageTree.Depth
import PageBuild.Proofs.PageTree.Sections
import PageBuild.Proofs.PathName.Joining
import PageBuild.Proofs.PathName.Normal
import PageBuild.Proofs.Resolution.Conservation
import PageBuild.Proofs.Resolution.Priority
import PageBuild.Proofs.Schema.Assignment
import PageBuild.Proofs.Schema.Fields
import PageBuild.Proofs.Session.Endings
import PageBuild.Proofs.Session.Failures
import PageBuild.Proofs.Session.Run
import PageBuild.Proofs.Session.Steps
import PageBuild.Proofs.Session.Views
import PageBuild.Proofs.SymbolFiles.Containment
import PageBuild.Proofs.SymbolFiles.Failures
import PageBuild.Proofs.SymbolFiles.Installing
import PageBuild.Proofs.SymbolFiles.Steps
import PageBuild.Proofs.Text.Utf8
import PageBuild.Proofs.Transcript.Ecj.RoundTrip
import PageBuild.Proofs.Transcript.Javac.Echo
import PageBuild.Proofs.Transcript.Javac.RoundTrip
import PageBuild.Proofs.Transcript.Numerals
import PageBuild.Proofs.Transcript.Reading
import PageBuild.Proofs.Transcript.Segments
import PageBuild.Proofs.Transcript.Streams
import PageBuild.Resolution
import PageBuild.Resolution.Account
import PageBuild.Resolution.Coverage
import PageBuild.Schema
import PageBuild.Session
import PageBuild.SymbolFiles
import PageBuild.Template
import PageBuild.Template.Layout
import PageBuild.Template.Plain
import PageBuild.Template.Simple
import PageBuild.Template.Spec
import PageBuild.Text.Blank
import PageBuild.Text.Digit
import PageBuild.Text.Lines
import PageBuild.Text.LowerCase
import PageBuild.Text.Printable
import PageBuild.Text.Quoted
import PageBuild.Text.Surrogate
import PageBuild.Text.Utf8
import PageBuild.Transcript
import PageBuild.Transcript.Ecj
import PageBuild.Transcript.Ecj.Pattern
import PageBuild.Transcript.Ecj.Printer
import PageBuild.Transcript.Format
import PageBuild.Transcript.Javac
import PageBuild.Transcript.Javac.Pattern
import PageBuild.Transcript.Javac.Printer
import PageBuild.Transcript.Pattern
import PageBuild.Transcript.Segments
