import BusStatus.Log.Event

/-!
# Reports

What a run of a tool amounts to before anything is shown: the lines of its result, the events on the
way, and the failure that ended it, if one did. How much of the events is shown is not decided here.
-/

namespace BusStatus.Cli

/-- What a run amounts to. -/
structure Report where
  output : List String
  events : List Log.Event
  failure : Option String := none
deriving DecidableEq, Repr

namespace Report

/-- The report of a run that failed: no result, and the failure as its last event. -/
def failed (events : List Log.Event) (target failure : String) : Report where
  output := []
  events := events ++ [{ level := .error, target := target, message := failure }]
  failure := some failure

def exitCode (report : Report) : Nat :=
  if report.failure.isSome then 1 else 0

end Report

end BusStatus.Cli
