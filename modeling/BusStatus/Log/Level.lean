import BusStatus.Text.Unsigned

/-!
# Log levels

How grave an event is, and up to which level events are let through. Each level lets through the
graver ones too; `off` lets nothing through.
-/

namespace BusStatus.Log

inductive Level where
  | error
  | warn
  | info
  | debug
  | trace
deriving DecidableEq, Repr

namespace Level

/-- The place of a level, counted from the gravest. -/
def rank : Level → Nat
  | .error => 1
  | .warn => 2
  | .info => 3
  | .debug => 4
  | .trace => 5

/-- The name of a level in a log line. -/
def name : Level → String
  | .error => "ERROR"
  | .warn => "WARN"
  | .info => "INFO"
  | .debug => "DEBUG"
  | .trace => "TRACE"

end Level

/-- Up to which level events are let through. -/
inductive Threshold where
  | off
  | upTo (level : Level)
deriving DecidableEq, Repr

namespace Threshold

/-- The place of the last level let through. -/
def rank : Threshold → Nat
  | .off => 0
  | .upTo level => level.rank

/-- The threshold of a place; beyond the last level everything is let through. -/
def ofRank : Nat → Threshold
  | 0 => .off
  | 1 => .upTo .error
  | 2 => .upTo .warn
  | 3 => .upTo .info
  | 4 => .upTo .debug
  | _ => .upTo .trace

def admits (threshold : Threshold) (level : Level) : Bool :=
  level.rank ≤ threshold.rank

def all : List Threshold :=
  [.off, .upTo .error, .upTo .warn, .upTo .info, .upTo .debug, .upTo .trace]

def name : Threshold → String
  | .off => "OFF"
  | .upTo level => level.name

/-- The threshold that a text names, by its name in any case or by its place. -/
def ofString? (s : String) : Option Threshold :=
  match Text.Unsigned.read .decimal s.toList with
  | .ok rank => all[rank]?
  | .error _ => all.find? fun threshold => s.toList.map Char.toUpper == threshold.name.toList

/-- The threshold of so many requests for more and for less: warnings are shown unless asked. -/
def ofVerbosity (more less : Nat) : Threshold :=
  ofRank (2 + more - less)

end Threshold

end BusStatus.Log
