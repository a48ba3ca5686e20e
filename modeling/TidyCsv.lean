import TidyCsv.Engine.Scripted
import TidyCsv.Main
import TidyCsv.Proofs.Csv.Writing
import TidyCsv.Proofs.Engine.Conformance
import TidyCsv.Proofs.Engine.Pass
import TidyCsv.Proofs.Csv.RoundTrip
import TidyCsv.Proofs.Header.Name
import TidyCsv.Proofs.Text.Utf8
import TidyCsv.Proofs.Storage.FileSystem
import TidyCsv.Proofs.Storage.Frame
import TidyCsv.Proofs.Run.FinalForm
import TidyCsv.Proofs.Csv.Reading
import TidyCsv.Proofs.Engine.BuiltIn
import TidyCsv.Proofs.Input.Reference
import TidyCsv.Proofs.Run.Frame
import TidyCsv.Proofs.Run.InputKept
import TidyCsv.Proofs.Run.Resolution
import TidyCsv.Proofs.Run.Output
import TidyCsv.Proofs.Run.Registration
import TidyCsv.Proofs.Run.Panels
import TidyCsv.Proofs.Run.OutputKept
import TidyCsv.Proofs.Run.Rejections
import TidyCsv.Proofs.Encoding.CodePage
import TidyCsv.Proofs.Encoding.Detection
import TidyCsv.Proofs.Engine.Recount
import TidyCsv.Proofs.Csv.Delimiter
import TidyCsv.Proofs.Engine.Archives
import TidyCsv.Proofs.Engine.Preamble
import TidyCsv.Proofs.Engine.Stability
import TidyCsv.Proofs.Engine.Unquoted
import TidyCsv.Proofs.Engine.Lines
import TidyCsv.Proofs.Engine.Retry
import TidyCsv.Proofs.Mojibake.Mangling
import TidyCsv.Proofs.Text.Decoding
import TidyCsv.Proofs.Run.WorkingFile
import TidyCsv.Proofs.Mojibake.Repair
import TidyCsv.Proofs.Failure.Category
import TidyCsv.Proofs.Unicode.SmallLetters
import TidyCsv.Proofs.Header.Settled
import TidyCsv.Proofs.Header.Numbering
import TidyCsv.Proofs.Run.Recoding
import TidyCsv.Proofs.Run.Prediction
import TidyCsv.Proofs.Run.Check
import TidyCsv.Proofs.Run.Repetition
import TidyCsv.Proofs.Run.Refusal
import TidyCsv.Proofs.Run.Undoing
import TidyCsv.Proofs.Run.Permissive
import TidyCsv.Proofs.Run.Placement
import TidyCsv.Proofs.Run.Conversion
import TidyCsv.Proofs.Run.Delivery
import TidyCsv.Proofs.Run.Renaming
import TidyCsv.Proofs.Csv.Recovery
import TidyCsv.Proofs.Engine.Numbers
import TidyCsv.Proofs.Encoding.Symbols
import TidyCsv.Proofs.Run.RepairedCopy
import TidyCsv.Proofs.Report.Panel
