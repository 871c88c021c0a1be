import EncodingDrill.Assembly.Check
import EncodingDrill.Assembly.Shape
import EncodingDrill.Bench.CoverageRun
import EncodingDrill.Bench.Encodings
import EncodingDrill.Bench.Fingerprint
import EncodingDrill.Bench.Run
import EncodingDrill.Bench.Sessions
import EncodingDrill.Bench.Suite
import EncodingDrill.Bench.Sweeps
import EncodingDrill.Bench.Workload
import EncodingDrill.Binary64
import EncodingDrill.Bits
import EncodingDrill.Columns
import EncodingDrill.Datum.Arith
import EncodingDrill.Datum.Basic
import EncodingDrill.Datum.Record
import EncodingDrill.Datum.Size
import EncodingDrill.Datum.Text
import EncodingDrill.Decimal.Fixed
import EncodingDrill.Decimal.Layout
import EncodingDrill.Decimal.Shortest
import EncodingDrill.Digest.Sha256
import EncodingDrill.Drill.Decoding
import EncodingDrill.Drill.Encoding
import EncodingDrill.Drill.Menu
import EncodingDrill.Drill.Worksheet
import EncodingDrill.Encoding
import EncodingDrill.Engine
import EncodingDrill.Fault
import EncodingDrill.Grading
import EncodingDrill.Immediate
import EncodingDrill.Instruction
import EncodingDrill.Json.Read
import EncodingDrill.Json.Write
import EncodingDrill.Layout
import EncodingDrill.Main
import EncodingDrill.Measure.Coverage
import EncodingDrill.Measure.History
import EncodingDrill.Measure.RepoTime
import EncodingDrill.Measure.Round
import EncodingDrill.Measure.SelfCheck
import EncodingDrill.Numeral
import EncodingDrill.Question
import EncodingDrill.Quiz
import EncodingDrill.Score
import EncodingDrill.Session
import EncodingDrill.Unicode.Blank
import EncodingDrill.Unicode.Case
import EncodingDrill.Unicode.CaseRun
import EncodingDrill.Unicode.Cased
import EncodingDrill.Unicode.Digit
import EncodingDrill.Unicode.Lines
import EncodingDrill.Unicode.Lower
import EncodingDrill.Unicode.Ranges
import EncodingDrill.Unicode.Upper
import EncodingDrill.Unicode.Word
import EncodingDrill.Proofs.BitText
import EncodingDrill.Proofs.Encoder
import EncodingDrill.Proofs.Decoder
import EncodingDrill.Proofs.Numerals
import EncodingDrill.Proofs.PlainText
import EncodingDrill.Proofs.AssemblyReading
import EncodingDrill.Proofs.AssemblyCheck
import EncodingDrill.Proofs.AssemblyAgreement
import EncodingDrill.Proofs.Scores
import EncodingDrill.Proofs.Instructions
import EncodingDrill.Proofs.PositionalCredit
import EncodingDrill.Proofs.Runs
import EncodingDrill.Proofs.Bookkeeping
import EncodingDrill.Proofs.Questions
import EncodingDrill.Proofs.ReferenceTable
import EncodingDrill.Proofs.Rounds
import EncodingDrill.Proofs.Sessions
import EncodingDrill.Proofs.DecodingCredit
import EncodingDrill.Proofs.Scattering
import EncodingDrill.Proofs.CurrentQuestion
import EncodingDrill.Proofs.Radix
import EncodingDrill.Proofs.FixedWidth
import EncodingDrill.Proofs.LayoutGrades
