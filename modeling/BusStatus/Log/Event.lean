import BusStatus.Log.Level
import BusStatus.Text.Column
import BusStatus.Text.Disarmed

/-!
# Log events

An event tells what the program did. It belongs to a part of the program, its target, and carries
named values behind its message. The message may quote what the user wrote, so it is written in its
harmless form.
-/

namespace BusStatus.Log

structure Event where
  level : Level
  /-- The part of the program in which it happened. -/
  target : String
  message : String
  fields : List (String × String) := []
deriving DecidableEq, Repr

namespace Event

def levelWidth : Nat := 5

/-- The names under which an event has values; its message is one of them. -/
def fieldNames (event : Event) : List String :=
  "message" :: event.fields.map (·.1)

def text (event : Event) : String :=
  Text.disarmed event.message ++
    String.join (event.fields.map fun (name, value) => " " ++ name ++ "=" ++ value)

/-- The line that shows an event on a console without colours. In a log file the time stands in front of
the level and the place in the source behind it, which are left out here. -/
def line (event : Event) : String :=
  Text.padLeft levelWidth event.level.name ++ " " ++ event.text

end Event

end BusStatus.Log
