import BusStatus.Main
import BusStatus.Ring.Cursors
import BusStatus.Summary.Session
import BusStatus.Proofs.Ring.Pending
import BusStatus.Proofs.Ring.OnceAround
import BusStatus.Proofs.Ring.Cursors
import BusStatus.Proofs.Ring.OldestFirst
import BusStatus.Proofs.Ring.Words
import BusStatus.Proofs.Summary.Counts
import BusStatus.Proofs.Summary.History
import BusStatus.Proofs.Summary.Decoded
import BusStatus.Proofs.Summary.Order
import BusStatus.Proofs.Text.Trim
import BusStatus.Proofs.Text.Unsigned
import BusStatus.Proofs.Text.Digits
import BusStatus.Proofs.Text.Lines
import BusStatus.Proofs.Text.OneLine
import BusStatus.Proofs.Json.Reader
import BusStatus.Proofs.Word.Grammar
import BusStatus.Proofs.Word.Literal
import BusStatus.Proofs.Word.Refusal
import BusStatus.Proofs.Text.LetterCase
import BusStatus.Proofs.Word.Respelling
import BusStatus.Proofs.Text.Cut
import BusStatus.Proofs.Word.Conversion
import BusStatus.Proofs.Json.ReadBack
import BusStatus.Proofs.Json.OneLine
import BusStatus.Proofs.Json.Fields
import BusStatus.Proofs.Word.Decimal
import BusStatus.Proofs.Word.Written
import BusStatus.Proofs.Ring.RecordLine
import BusStatus.Proofs.Text.Columns
import BusStatus.Proofs.Summary.Lines
import BusStatus.Proofs.Summary.Overlap
import BusStatus.Proofs.Summary.Names
import BusStatus.Proofs.Cli.Runs
import BusStatus.Proofs.Cli.WordArgument
import BusStatus.Proofs.Log.Lines
import BusStatus.Proofs.Cli.Streams
import BusStatus.Proofs.Cli.Independence
import BusStatus.Proofs.Flag.KnownBits
import BusStatus.Proofs.Flag.Composition
import BusStatus.Proofs.Flag.LayoutName
import BusStatus.Proofs.Ring.Loop
import BusStatus.Proofs.Cli.Readings
import BusStatus.Proofs.Cli.OnceMore
import BusStatus.Proofs.Cli.Verbosity
import BusStatus.Proofs.Ring.CheckedSum
import BusStatus.Proofs.Cli.StartArgument
