import BusStatus.Log.Event
import BusStatus.Ring.Replay
import BusStatus.Text.Quoted

/-!
# Events of a replay

What a replay tells the log: where it starts and ends, and every slot that it decodes.
-/

namespace BusStatus

namespace Replay

/-- The target of the events of a replay. -/
def logTarget : String := "jacdac_status_lib::replay"

/-- The named values that describe a replay: its first slot, its last slot and the capacity. -/
def bounds (replay : Replay) : List (String × String) :=
  [("start", Text.decimal replay.cursor), ("end", Text.decimal replay.last),
    ("capacity", Text.decimal replay.capacity)]

def startEvent (replay : Replay) : Log.Event where
  level := .debug
  target := logTarget
  message := "Replaying status ring"
  fields := replay.bounds

end Replay

/-- The event of a slot that is decoded. -/
def Record.event (record : Record) : Log.Event where
  level := .trace
  target := Replay.logTarget
  message := "Decoded ring slot"
  fields :=
    [("index", Text.decimal record.index), ("raw", record.raw.decimal),
      ("flags", Text.quotedList record.flags)]

end BusStatus
