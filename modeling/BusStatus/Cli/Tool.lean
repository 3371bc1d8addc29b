/-!
# Tools and their options

The two command line tools and the options that each of them takes. An option is of one of four
kinds: a setting takes a value, a switch is on or off, a counter counts how often it is given, and a
notice asks for a text about the tool instead of a run.
-/

namespace BusStatus.Cli

inductive Tool where
  /-- Names the flags of one status word. -/
  | flags
  /-- Replays the captured ring. -/
  | statusLog
deriving DecidableEq, Repr

/-! ## Options -/

inductive Setting where
  | layout
  | start
  | logFile
deriving DecidableEq, Repr

inductive Switch where
  | json
  | list
  | summary
deriving DecidableEq, Repr

inductive Counter where
  | verbose
  | quiet
deriving DecidableEq, Repr

/-- An option that asks for a text about the tool. -/
inductive Notice where
  | help
  | version
deriving DecidableEq, Repr

inductive Opt where
  | setting (setting : Setting)
  | switch (switch : Switch)
  | counter (counter : Counter)
  | notice (notice : Notice)
deriving DecidableEq, Repr

namespace Opt

def long : Opt → String
  | .setting .layout => "layout"
  | .setting .start => "start"
  | .setting .logFile => "log-file"
  | .switch .json => "json"
  | .switch .list => "list"
  | .switch .summary => "summary"
  | .counter .verbose => "verbose"
  | .counter .quiet => "quiet"
  | .notice .help => "help"
  | .notice .version => "version"

/-- The letter of an option, if it has one. -/
def letter? : Opt → Option Char
  | .setting .layout => some 'L'
  | .setting .start => some 's'
  | .setting .logFile => some 'l'
  | .switch .json => some 'j'
  | .switch .list => none
  | .switch .summary => none
  | .counter .verbose => some 'v'
  | .counter .quiet => some 'q'
  | .notice .help => some 'h'
  | .notice .version => some 'V'

/-- What stands behind the long name of an option where a message shows it. -/
def tail : Opt → String
  | .setting .layout => " <LAYOUT>"
  | .setting .start => " <START>"
  | .setting .logFile => " <LOG_FILE>"
  | .counter _ => "..."
  | .switch _ | .notice _ => ""

def label (opt : Opt) : String :=
  "--" ++ opt.long ++ opt.tail

end Opt

/-! ## Tools -/

namespace Tool

def name : Tool → String
  | .flags => "jd-flags"
  | .statusLog => "jd-status-log"

def ofName? (name : String) : Option Tool :=
  [Tool.flags, Tool.statusLog].find? (·.name == name)

def options : Tool → List Opt
  | .flags =>
      [.setting .layout, .switch .json, .switch .list, .setting .logFile, .counter .verbose,
        .counter .quiet, .notice .help, .notice .version]
  | .statusLog =>
      [.setting .start, .setting .layout, .switch .json, .switch .summary, .setting .logFile,
        .counter .verbose, .counter .quiet, .notice .help, .notice .version]

/-- The option of this long name; names are not shortened. -/
def ofLong? (tool : Tool) (name : String) : Option Opt :=
  tool.options.find? (·.long == name)

def ofLetter? (tool : Tool) (c : Char) : Option Opt :=
  tool.options.find? (·.letter? == some c)

/-- The tool takes values beside its options, of which some are numbers with a sign in front. -/
def takesValues : Tool → Bool
  | .flags => true
  | .statusLog => false

end Tool

end BusStatus.Cli
