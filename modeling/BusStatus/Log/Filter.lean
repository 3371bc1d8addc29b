import BusStatus.Log.Piece
import BusStatus.Text.Split

/-!
# Log filters

Which events are let through. A filter is a list of directives; of those that speak about an event the
one that gives way to no other decides on it, and the last of several such. Without a directive the
event is dropped.

In text a filter is a list of directives with commas between them. Pieces that are no directives are
passed over; a text without any directive leaves the threshold that is given beside it.
-/

namespace BusStatus.Log

/-- Directives in the order in which they were given. -/
structure Filter where
  directives : List Directive
deriving DecidableEq, Repr

namespace Filter

/-- The filter of one threshold for all events. -/
def ofThreshold (threshold : Threshold) : Filter :=
  ⟨[{ threshold }]⟩

/-- The one of a directive found before and one that comes behind it that does not give way. -/
def stronger (found : Option Directive) (directive : Directive) : Option Directive :=
  match found with
  | none => some directive
  | some d => if directive.yieldsTo d then some d else some directive

/-- The directive that decides on an event. -/
def deciding? (filter : Filter) (event : Event) : Option Directive :=
  (filter.directives.filter (·.concerns event)).foldl stronger none

def admits (filter : Filter) (event : Event) : Bool :=
  (filter.deciding? event).any (·.threshold.admits event.level)

/-! ## Reading a filter -/

/-- The pieces between commas that are not empty. -/
def pieces (s : String) : List String :=
  ((Text.split ',' s.toList).filter (· ≠ [])).map String.ofList

/-- The directive of a piece, if it is one. -/
def directive? (piece : String) : Option Directive :=
  (Directive.ofPiece piece).toOption

/-- The piece with its fault, if it is no directive. -/
def faulty? (piece : String) : Option (String × PieceFault) :=
  match Directive.ofPiece piece with
  | .ok _ => none
  | .error fault => some (piece, fault)

/-- The pieces that are no directives, each with its fault. -/
def faulty (s : String) : List (String × PieceFault) :=
  (pieces s).filterMap faulty?

def ofString (s : String) (fallback : Threshold) : Filter :=
  match (pieces s).filterMap directive? with
  | [] => ofThreshold fallback
  | directives => ⟨directives⟩

end Filter

end BusStatus.Log
