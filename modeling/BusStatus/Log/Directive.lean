import BusStatus.Log.Event

/-!
# Directives

A directive says up to which level some of the events are let through. It speaks about all events or
about those of a target; it may ask for a field too, by its name or with a value, and for a span in
which the event has to happen. Spans, and with them the values of fields, are not recorded here: a
directive that speaks about them decides on no event.

Several directives can speak about the same event. Then the one with the longest target decides; of
equal targets one with a field; of those the one whose field comes last by its name.
-/

namespace BusStatus.Log

/-- What a directive asks of the fields of an event. -/
structure Condition where
  field : String
  /-- What the value of the field must be. -/
  value : Option String := none
deriving DecidableEq, Repr

/-- A threshold for some of the events. -/
structure Directive where
  /-- How the targets begin that are meant; none means all. -/
  target : Option String := none
  /-- The span in which the events must happen. -/
  span : Option String := none
  condition : Option Condition := none
  /-- Up to which level the events are let through. -/
  threshold : Threshold := .upTo .trace
deriving DecidableEq, Repr

namespace Condition

/-- The event has the field, and its value is not asked for. -/
def holdsOf (condition : Condition) (event : Event) : Bool :=
  condition.value.isNone && event.fieldNames.contains condition.field

end Condition

namespace Directive

def covers (directive : Directive) (target : String) : Bool :=
  match directive.target with
  | none => true
  | some start => start.toList.isPrefixOf target.toList

def concerns (directive : Directive) (event : Event) : Bool :=
  directive.span.isNone && directive.covers event.target &&
    directive.condition.all (·.holdsOf event)

/-- How narrow the target is: the longer, the narrower. -/
def narrowness (directive : Directive) : Nat :=
  match directive.target with
  | none => 0
  | some start => start.length + 1

/-- The first directive gives way to the second by what they ask of the fields. -/
def asksLess (d e : Directive) : Bool :=
  match d.condition, e.condition with
  | none, some _ => true
  | some c, some c' => c.field < c'.field
  | _, none => false

/-- The first directive gives way to the second wherever both speak about an event. -/
def yieldsTo (d e : Directive) : Bool :=
  d.narrowness < e.narrowness || (d.narrowness == e.narrowness && d.asksLess e)

end Directive

end BusStatus.Log
