import EditScript.Cli.Arguments
import EditScript.Cli.Run
import EditScript.Cli.Session
import EditScript.Cli.Usage
import EditScript.Failure
import EditScript.Grammar.Cursor
import EditScript.Grammar.Form
import EditScript.Grammar.Literal
import EditScript.Grammar.Parser
import EditScript.Json.Decimal
import EditScript.Json.Printer
import EditScript.Json.Reader
import EditScript.Json.Value
import EditScript.Log
import EditScript.LogNames
import EditScript.Main
import EditScript.Operation.Basic
import EditScript.Operation.Draft
import EditScript.Operation.Execute
import EditScript.Operation.Load
import EditScript.Operation.Printer
import EditScript.Operation.Range
import EditScript.Operation.Record
import EditScript.Proofs.Alignment
import EditScript.Proofs.Assembly
import EditScript.Proofs.Captures
import EditScript.Proofs.Commands
import EditScript.Proofs.Detection
import EditScript.Proofs.Matching
import EditScript.Proofs.MergedPair
import EditScript.Proofs.Moves
import EditScript.Proofs.Rebuild
import EditScript.Proofs.Regions
import EditScript.Proofs.Relocation
import EditScript.Proofs.Refusals
import EditScript.Proofs.Returned
import EditScript.Proofs.Scanning
import EditScript.Script.Adjust
import EditScript.Script.Apply
import EditScript.Script.Diff
import EditScript.Script.Tags
import EditScript.Settings
import EditScript.Text.Basic
import EditScript.Text.DecimalDigit
import EditScript.Text.Numeral
import EditScript.Text.Printable
import EditScript.Text.Quoted
import EditScript.Text.UpperCase
import EditScript.Text.WholeNumeral
import EditScript.Proofs.Spelling
import EditScript.Proofs.Reading
import EditScript.Proofs.RoundTrip
import EditScript.Proofs.BroughtForward
import EditScript.Proofs.Landing
import EditScript.Proofs.Faults
import EditScript.Proofs.Stability
import EditScript.Proofs.Layout
import EditScript.Proofs.Placement
import EditScript.Proofs.Domain
import EditScript.Proofs.EqualLengths
import EditScript.Proofs.Exchange
import EditScript.Proofs.JsonTokens
import EditScript.Proofs.JsonReading
import EditScript.Proofs.Dump
import EditScript.Proofs.Operands
import EditScript.Proofs.PrintedLines
import EditScript.Proofs.DerivedOperations
import EditScript.Proofs.TwoRuns
import EditScript.Proofs.OwnTarget
import EditScript.Proofs.CommonPrefix
import EditScript.Proofs.Lookahead
import EditScript.Proofs.NormalForm
import EditScript.Proofs.Descriptions
import EditScript.Proofs.Masks
import EditScript.Proofs.MergedTwice
import EditScript.Proofs.LenientReading
import EditScript.Proofs.FaultOffsets
import EditScript.Proofs.FieldChecks
import EditScript.Proofs.Building
import EditScript.Proofs.OwnForm
import EditScript.Proofs.TagCounts
import EditScript.Proofs.Printing
