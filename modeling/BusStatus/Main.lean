import BusStatus.Cli.Outcome
import BusStatus.Text.Lines

/-!
# The command line

Runs a tool: the first argument names it and the others are its own. What the tool does is decided by
`Cli.Outcome`; here its log file is created and its lines are written.
-/

namespace BusStatus.Cli

/-- What the operating system says about a file that cannot be created. -/
def OsError.ofIO : IO.Error → OsError
  | .noFileOrDirectory _ code details => .ofText details code.toNat
  | .permissionDenied _ code details => .ofText details code.toNat
  | .inappropriateType _ code details => .ofText details code.toNat
  | .invalidArgument _ code details => .ofText details code.toNat
  | .resourceExhausted _ code details => .ofText details code.toNat
  | e => .ofText (toString e) 0

def createFile (path : String) : IO (Except OsError IO.FS.Handle) := do
  try
    return .ok (← IO.FS.Handle.mk path .write)
  catch e =>
    return .error (.ofIO e)

def runTool (tool : Tool) (args : List String) : IO UInt32 := do
  let directives := (← IO.getEnv "RUST_LOG").getD ""
  let file ← (logPath? tool args).mapM createFile
  let refusal : Option OsError :=
    match file with
    | some (.error e) => some e
    | _ => none
  let outcome := Outcome.ofArguments tool { directives, refusal := fun _ => refusal } args
  (← IO.getStdout).putStr (Text.unlines outcome.stdout)
  (← IO.getStderr).putStr (Text.unlines outcome.stderr)
  match file, outcome.log with
  | some (.ok handle), some (_, events) => handle.putStr (Text.unlines (events.map (·.line)))
  | _, _ => pure ()
  return UInt32.ofNat outcome.exitCode

end BusStatus.Cli

/-- Runs the tool that the first argument names. -/
def main (args : List String) : IO UInt32 := do
  match args with
  | name :: rest =>
      match BusStatus.Cli.Tool.ofName? name with
      | some tool => BusStatus.Cli.runTool tool rest
      | none =>
          (← IO.getStderr).putStr "error: no such tool\n"
          return 2
  | [] =>
      (← IO.getStderr).putStr "error: no tool named\n"
      return 2
