import BusStatus.Cli.Request

/-!
# Arguments

Understanding the arguments of a command line, from left to right. An option is given by its long
name (`--layout`) or by its letter (`-L`), and letters may stand together behind one dash. The value
of a setting stands in the same argument or in the next one; a value in the next argument is read
when another option, another value or the end is met. Behind a `--` every argument is a value.

A request is refused at the first fault, and a notice ends the reading at once.
-/

namespace BusStatus.Cli

/-- Why the reading of arguments ends before their end. -/
inductive Stop where
  /-- A text about the tool is asked for. -/
  | notice (notice : Notice)
  | usage (error : UsageError)
deriving DecidableEq, Repr

/-! ## Single arguments -/

/-- What an argument looks like, wherever it stands. -/
inductive Argument where
  | separator
  /-- A long name and the value behind its equals sign, if there is one. -/
  | long (name : String) (value : Option String)
  /-- Letters behind a single dash. -/
  | letters (cs : List Char)
  | plain
deriving DecidableEq, Repr

namespace Argument

/-- Digits and at most one point, which is not the first character; an exponent may follow. -/
def isMantissa (isFirst pointSeen : Bool) : List Char → Bool
  | [] => true
  | c :: cs =>
      if c.isDigit then isMantissa false pointSeen cs
      else if c = '.' then !isFirst && !pointSeen && isMantissa false true cs
      else (c == 'e' || c == 'E') && !isFirst && !cs.isEmpty && cs.all Char.isDigit

/-- The characters behind a dash look like a number. -/
def isNumber (cs : List Char) : Bool :=
  isMantissa true false cs

/-- The name and the value of a long option. -/
def splitLong (cs : List Char) : Argument :=
  match cs.dropWhile (· != '=') with
  | [] => .long (String.ofList cs) none
  | _ :: value =>
      .long (String.ofList (cs.takeWhile (· != '='))) (some (String.ofList value))

/-- Looks at an argument; a tool that takes values takes a negative number for a value. -/
def ofString (tool : Tool) (arg : String) : Argument :=
  match arg.toList with
  | ['-', '-'] => .separator
  | '-' :: '-' :: cs => splitLong cs
  | '-' :: c :: cs =>
      if tool.takesValues && isNumber (c :: cs) then .plain else .letters (c :: cs)
  | _ => .plain

end Argument

/-! ## The reading of a command line -/

/-- How far the arguments are understood. -/
structure Scan where
  request : Request := {}
  /-- A setting that is not stored yet, with its value if that is known. -/
  waiting : Option (Setting × Option String) := none
  lastCounter : Option Counter := none
  valuesOnly : Bool := false
deriving DecidableEq, Repr

namespace Scan

def store (scan : Scan) (setting : Setting) (value : String) : Except Stop Scan :=
  match scan.request.store setting value with
  | .ok request => .ok { scan with request := request }
  | .error e => .error (.usage e)

/-- Stores the setting that waits. -/
def settle (scan : Scan) : Except Stop Scan :=
  match scan.waiting with
  | none => .ok scan
  | some (setting, none) => .error (.usage (.missingValue setting))
  | some (setting, some value) => { scan with waiting := none }.store setting value

/-- Meets an option without a value of its own; a setting waits for the next argument. -/
def meet (scan : Scan) (opt : Opt) : Except Stop Scan := do
  let scan ← scan.settle
  match opt with
  | .setting setting => .ok { scan with waiting := some (setting, none) }
  | .switch switch =>
      match scan.request.turnOn switch with
      | .ok request => .ok { scan with request := request }
      | .error e => .error (.usage e)
  | .counter counter =>
      .ok { scan with request := scan.request.count counter, lastCounter := some counter }
  | .notice notice => .error (.notice notice)

def meetWith (scan : Scan) (setting : Setting) (value : String) : Except Stop Scan := do
  let scan ← scan.settle
  scan.store setting value

def long (tool : Tool) (scan : Scan) (name : String) (value : Option String) : Except Stop Scan :=
  match tool.ofLong? name, value with
  | none, _ => .error (.usage (.unexpectedArgument ("--" ++ name)))
  | some (.setting setting), some v => scan.meetWith setting v
  | some opt, some v => .error (.usage (.unexpectedValue v opt))
  | some opt, none => scan.meet opt

/-- Meets letters behind one dash; what follows the letter of a setting is its value. -/
def letters (tool : Tool) (scan : Scan) : List Char → Except Stop Scan
  | [] => .ok scan
  | c :: cs =>
      match tool.ofLetter? c, cs with
      | none, _ => .error (.usage (.unexpectedArgument (String.ofList ['-', c])))
      | some (.setting setting), [] => scan.meet (.setting setting)
      | some (.setting setting), '=' :: value => scan.meetWith setting (String.ofList value)
      | some (.setting setting), value => scan.meetWith setting (String.ofList value)
      | some opt, rest => do
          let scan ← scan.meet opt
          letters tool scan rest

/-- Meets an argument that is no option and no value of a setting. -/
def addValue (tool : Tool) (scan : Scan) (arg : String) : Except Stop Scan :=
  if tool.takesValues then do
    let scan ← scan.settle
    .ok { scan with request := scan.request.addValue arg }
  else .error (.usage (.unexpectedArgument arg))

def plain (tool : Tool) (scan : Scan) (arg : String) : Except Stop Scan :=
  match scan.waiting with
  | some (setting, none) => .ok { scan with waiting := some (setting, some arg) }
  | _ => scan.addValue tool arg

def step (tool : Tool) (scan : Scan) (arg : String) : Except Stop Scan :=
  if scan.valuesOnly then scan.addValue tool arg
  else
    match Argument.ofString tool arg with
    | .separator => .ok { scan with valuesOnly := true }
    | .long name value => scan.long tool name value
    | .letters cs => scan.letters tool cs
    | .plain => scan.plain tool arg

/-- Refuses both counters together; the one whose last place comes first is named first. -/
def checkCounters (scan : Scan) : Except Stop Request :=
  if scan.request.verbose ≠ 0 ∧ scan.request.quiet ≠ 0 then
    match scan.lastCounter with
    | some .verbose => .error (.usage (.conflict .quiet .verbose))
    | _ => .error (.usage (.conflict .verbose .quiet))
  else .ok scan.request

def finish (scan : Scan) : Except Stop Request := do
  let scan ← scan.settle
  scan.checkCounters

end Scan

def Request.ofArguments (tool : Tool) (args : List String) : Except Stop Request := do
  let scan ← args.foldlM (Scan.step tool) {}
  scan.finish

end BusStatus.Cli
