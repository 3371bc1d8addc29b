import BusStatus.Cli.Usage
import BusStatus.Flag.Layout
import BusStatus.Log.Level
import BusStatus.Text.Unsigned

/-!
# Requests

What a command line asks for, once its arguments are understood. A setting or a switch may be given
once; counters count on.
-/

namespace BusStatus.Cli

structure Request where
  layout : Option Layout := none
  /-- The slot to start from, if one was named. -/
  start : Option Nat := none
  /-- The file that takes the log, if one was named. -/
  logFile : Option String := none
  json : Bool := false
  /-- The flag table is shown instead of a word. -/
  list : Bool := false
  summary : Bool := false
  /-- How often a longer log was asked for. -/
  verbose : Nat := 0
  /-- How often a shorter log was asked for. -/
  quiet : Nat := 0
  values : List String := []
deriving DecidableEq, Repr

namespace Request

def has (request : Request) : Setting → Bool
  | .layout => request.layout.isSome
  | .start => request.start.isSome
  | .logFile => request.logFile.isSome

def isOn (request : Request) : Switch → Bool
  | .json => request.json
  | .list => request.list
  | .summary => request.summary

/-- Reads the value of a setting and keeps it. -/
def keep (request : Request) (setting : Setting) (value : String) : Except UsageError Request :=
  match setting with
  | .layout =>
      match Layout.parse value with
      | .ok layout => .ok { request with layout := some layout }
      | .error e => .error (.invalidValue value .layout e.message)
  | .start =>
      match Text.Unsigned.read .decimal value.toList with
      | .ok n => .ok { request with start := some n }
      | .error fault => .error (.invalidValue value .start fault.message)
  | .logFile =>
      if value.isEmpty then .error (.missingValue .logFile)
      else .ok { request with logFile := some value }

/-- Gives a setting its value, which it must not have yet. -/
def store (request : Request) (setting : Setting) (value : String) : Except UsageError Request :=
  if request.has setting then .error (.repeated (.setting setting))
  else request.keep setting value

/-- Turns a switch on, which must not be on yet. -/
def turnOn (request : Request) (switch : Switch) : Except UsageError Request :=
  if request.isOn switch then .error (.repeated (.switch switch))
  else
    match switch with
    | .json => .ok { request with json := true }
    | .list => .ok { request with list := true }
    | .summary => .ok { request with summary := true }

def count (request : Request) : Counter → Request
  | .verbose => { request with verbose := request.verbose + 1 }
  | .quiet => { request with quiet := request.quiet + 1 }

def addValue (request : Request) (value : String) : Request :=
  { request with values := request.values ++ [value] }

def threshold (request : Request) : Log.Threshold :=
  .ofVerbosity request.verbose request.quiet

end Request

end BusStatus.Cli
