import BusStatus.Cli.Arguments
import BusStatus.Cli.FileTree
import BusStatus.Cli.FlagsReport
import BusStatus.Cli.Help
import BusStatus.Cli.ReplayReport
import BusStatus.Log.Filter

/-!
# Outcomes

What the user of a tool gets to see: the exit code, the lines on both streams and the events in the
log file. The report of a run is shown through a filter, which decides about events only: results,
failures and the exit code do not pass through it.
-/

namespace BusStatus.Cli

/-- What a tool is given beside its arguments. -/
structure Host where
  /-- The directives for the log; without any the arguments decide. -/
  directives : String := ""
  /-- Why a file cannot be created, if it cannot. -/
  refusal : String → Option OsError

/-- What the user gets to see. -/
structure Outcome where
  /-- Zero for success, one for a failed run, two for a refused command line. -/
  exitCode : Nat
  stdout : List String := []
  stderr : List String := []
  /-- The file that was created for the log, and the events in it. Left out are the time and the place
  in the source that stand in the lines of the file, which is taken to be no standard stream. -/
  log : Option (String × List Log.Event) := none
deriving DecidableEq, Repr

/-! ## The log -/

/-- The target of the events of the log itself. -/
def logTarget : String := "jacdac_status_rs::logging"

/-- The event of a log file that is opened. -/
def logFileEvent (path : String) : Log.Event where
  level := .info
  target := logTarget
  message := "Logging to file: " ++ Text.quoted path

/-- The filter that a request and its host ask for. -/
def Request.filter (request : Request) (host : Host) : Log.Filter :=
  .ofString host.directives request.threshold

/-- The lines that tell about directives that cannot be read. -/
def ignoredLines (host : Host) : List String :=
  (Log.Filter.faulty host.directives).map fun (piece, fault) =>
    "ignoring `" ++ piece ++ "`: " ++ fault.message

/-- The line that tells why there is no log. -/
def refusalLine (path : String) (e : OsError) : String :=
  "Failed to set up logging: Failed to create log file at: " ++ Text.quoted path ++ ": " ++
    e.message

namespace Outcome

/-! ## The outcome of a run -/

/-- The events of a run that are shown, the opening of the log file first. -/
def shownEvents (host : Host) (request : Request) (report : Report) : List Log.Event :=
  (request.logFile.toList.map logFileEvent ++ report.events).filter (request.filter host).admits

/-- The line that tells about a failure, whatever the filter. -/
def failureLine (failure : String) : String :=
  "Error: " ++ failure

def ofReport (host : Host) (request : Request) (report : Report) : Outcome :=
  let shown := shownEvents host request report
  { exitCode := report.exitCode
    stdout := report.output
    stderr := ignoredLines host ++ shown.map (·.line) ++ report.failure.toList.map failureLine
    log := request.logFile.map fun path => (path, shown) }

/-- Opens the log and shows a report; without the log that was asked for nothing is run. -/
def ofRun (host : Host) (request : Request) (report : Report) : Outcome :=
  match request.logFile with
  | none => ofReport host request report
  | some path =>
      match host.refusal path with
      | some e => { exitCode := 1, stderr := [refusalLine path e] }
      | none => ofReport host request report

def ofRequest (tool : Tool) (host : Host) (request : Request) : Outcome :=
  match tool with
  | .flags =>
      if FlagsReport.lacksValue request then { exitCode := 1, stdout := [FlagsReport.usageLine] }
      else ofRun host request (FlagsReport.ofRequest request)
  | .statusLog => ofRun host request (ReplayReport.ofRequest request)

def ofArguments (tool : Tool) (host : Host) (args : List String) : Outcome :=
  match Request.ofArguments tool args with
  | .error (.notice notice) => { exitCode := 0, stdout := tool.notice notice }
  | .error (.usage e) => { exitCode := 2, stderr := e.lines }
  | .ok request => ofRequest tool host request

end Outcome

/-- The file that a command line wants created for its log, if it comes to that. -/
def logPath? (tool : Tool) (args : List String) : Option String :=
  (Outcome.ofArguments tool { refusal := fun _ => none } args).log.map (·.1)

end BusStatus.Cli
