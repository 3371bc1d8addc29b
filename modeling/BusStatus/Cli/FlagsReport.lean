import BusStatus.Cli.Report
import BusStatus.Cli.Request
import BusStatus.Json.Encode
import BusStatus.Word.Literal

/-!
# Naming the flags of a word

The run of the tool that takes one status word and names its flags, or shows the whole table of a
layout. Bits without a flag do not fail the run: they are told to the log.
-/

namespace BusStatus.Cli.FlagsReport

/-- The target of the events of this tool. -/
def target : String := "jd_flags"

/-- The line printed when the number of values is wrong. -/
def usageLine : String := "Invalid args, this script expects one number"

/-- The layout that a request means. -/
def layout (request : Request) : Layout :=
  request.layout.getD .decoder

/-- The run has nothing to work on: neither a table is asked for nor is there exactly one value. -/
def lacksValue (request : Request) : Bool :=
  !request.list && request.values.length != 1

/-- The event of a table that is taken up. -/
def loadEvent (layout : Layout) : Log.Event where
  level := .debug
  target := target
  message := "Loaded flag table"
  fields := [("layout", layout.name), ("flags", Text.decimal layout.table.size)]

/-- The event of bits that have no flag, if there are any. -/
def unknownEvents (layout : Layout) (w : Word) : List Log.Event :=
  let unknown := layout.table.unknownBits w
  if unknown = 0 then []
  else
    [{ level := .warn
       target := target
       message := "Bits " ++ unknown.hex ++ " of " ++ w.hex ++ " have no flag in this layout"
       fields := [("layout", layout.name)] }]

def toJson (layout : Layout) (w : Word) : Json :=
  .object [("flags", .names (layout.table.decode w)), ("layout", .text layout.name),
    ("value", w.toJson)]

/-- The lines of the result for a word. -/
def output (json : Bool) (layout : Layout) (w : Word) : List String :=
  if json then [(toJson layout w).render] else layout.table.decode w

/-- The report on a text that should be a word. -/
def ofInput (json : Bool) (layout : Layout) (input : String) : Report :=
  match Word.parse input with
  | .error e => .failed [loadEvent layout] target ("Cannot decode status word: " ++ e.message)
  | .ok w =>
      { output := output json layout w
        events := loadEvent layout :: unknownEvents layout w }

/-- The report on the table of a layout. -/
def ofTable (layout : Layout) : Report where
  output := layout.table.flags.map (·.display)
  events := [loadEvent layout]

/-- The report on a request, which must not lack its value. -/
def ofRequest (request : Request) : Report :=
  if request.list then ofTable (layout request)
  else ofInput request.json (layout request) (request.values.headD "")

end BusStatus.Cli.FlagsReport
