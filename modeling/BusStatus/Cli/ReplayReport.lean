import BusStatus.Cli.Report
import BusStatus.Cli.Request
import BusStatus.Ring.Captured
import BusStatus.Ring.Trace
import BusStatus.Summary.Basic

/-!
# Replaying the captured ring

The run of the tool that replays the captured ring from a slot, shows every record and, if asked,
sums them up.
-/

namespace BusStatus.Cli.ReplayReport

/-- The target of the events of this tool. -/
def target : String := "jd_status_log"

def layout (request : Request) : Layout :=
  request.layout.getD .capture

/-- The ring that a request means: the captured one, to be written next at the slot named. -/
def ring (request : Request) : Ring :=
  { Ring.captured with start := request.start.getD Ring.capturedStart }

/-- The event of the ring that is replayed. -/
def startEvent (layout : Layout) (replay : Replay) : Log.Event where
  level := .info
  target := target
  message := "Replaying captured status ring"
  fields := replay.bounds ++ [("layout", layout.name)]

def recordLine (json : Bool) (record : Record) : String :=
  if json then record.toJson.render else record.display

def summaryLines (json : Bool) (summary : FlagSummary) : List String :=
  if json then [summary.toJson.render] else summary.lines

def ofReplay (request : Request) (replay : Replay) : Report :=
  let records := replay.records
  let summary := (FlagSummary.new replay.table).addRecords records
  { output :=
      records.map (recordLine request.json) ++
        if request.summary then summaryLines request.json summary else []
    events :=
      replay.startEvent :: startEvent (layout request) replay :: records.map (·.event) }

def ofRequest (request : Request) : Report :=
  match (ring request).replay (layout request).table with
  | .error e => .failed [] target ("Cannot replay status ring: " ++ e.message)
  | .ok replay => ofReplay request replay

end BusStatus.Cli.ReplayReport
