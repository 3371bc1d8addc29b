import BusStatus.Cli.Tool
import BusStatus.Text.Split
import BusStatus.Text.Terminal

/-!
# Usage errors

What is wrong with a command line that the tool cannot carry out. A message quotes what the user wrote,
so it is told as a terminal would show it: a control sequence in an argument is left out and reaches no
further than the run of text in which it begins.
-/

namespace BusStatus.Cli

/-- Why a command line was refused. -/
inductive UsageError where
  /-- No option is called so, or the tool takes no values. -/
  | unexpectedArgument (shown : String)
  | unexpectedValue (value : String) (opt : Opt)
  | missingValue (setting : Setting)
  | invalidValue (value : String) (setting : Setting) (reason : String)
  | repeated (opt : Opt)
  | conflict (first second : Counter)
deriving DecidableEq, Repr

namespace UsageError

/-- The last runs of a message, which point to the help. -/
def hinted (last : String) : List String :=
  [last ++ "\n\nFor more information, try '", "--help", "'."]

/-- The runs of a message, told apart by how they stand out: no control sequence goes on from one to
the next. Left out are the tips and the line `Usage:` that stand in front of the hint at the help when an
argument or a value is not expected, an option is repeated or two options exclude each other. -/
def runs : UsageError → List String
  | .unexpectedArgument shown => "error: unexpected argument '" :: shown :: hinted "' found"
  | .unexpectedValue value opt =>
      "error: unexpected value '" :: value :: "' for '" :: opt.label ::
        hinted "' found; no more were expected"
  | .missingValue setting =>
      "error: a value is required for '" :: (Opt.setting setting).label ::
        hinted "' but none was supplied"
  | .invalidValue value setting reason =>
      "error: invalid value '" :: value :: "' for '" :: (Opt.setting setting).label ::
        hinted ("': " ++ reason)
  | .repeated opt =>
      "error: the argument '" :: opt.label :: hinted "' cannot be used multiple times"
  | .conflict first second =>
      "error: the argument '" :: (Opt.counter first).label :: "' cannot be used with '" ::
        (Opt.counter second).label :: hinted "'"

/-- How a usage error is told to the user: what a terminal shows of its runs. -/
def message (e : UsageError) : String :=
  String.join (e.runs.map Text.Terminal.visible)

def lines (e : UsageError) : List String :=
  (Text.split '\n' e.message.toList).map String.ofList

end UsageError

end BusStatus.Cli
