import BusStatus.Log.Directive
import BusStatus.Log.Value
import BusStatus.Text.Alphanumeric
import BusStatus.Text.Blank
import BusStatus.Text.Slice

/-!
# Directives in text

A directive is written as a piece of text: a threshold for all events; a target, alone or with a
threshold; or a span in brackets, which may name a field in braces, with a target in front and a
threshold behind or without them.

    warn    bus    bus=debug    bus[session]    [{slot}]=trace    bus[session{slot=7}]=info

What a piece means is told by its text without the blanks around it. Its parts are cut out of the
whole piece, though, at the places that they have in that text, counted in bytes, and its last part
reaches to the end. So blanks in front shift every part, and a piece with such blanks names no target
that an event has.
-/

namespace BusStatus.Log

/-- Why a piece is no directive. -/
inductive PieceFault where
  | malformed
  /-- It has no threshold behind the equals sign. -/
  | level
  /-- Values cannot be compared with the one that it names. -/
  | value (fault : PatternFault)
deriving DecidableEq, Repr

/-- How a fault is told to the user. -/
def PieceFault.message : PieceFault → String
  | .malformed => "invalid filter directive"
  | .level =>
      "error parsing level filter: expected one of \"off\", \"error\", \"warn\", \"info\", " ++
        "\"debug\", \"trace\", or a number 0-5"
  | .value fault => "invalid field filter: " ++ fault.message

namespace Piece

/-! ## Parts -/

/-- The part of a piece between two places. -/
def part (piece : List Char) (start stop : Nat) : String :=
  String.ofList (Text.slice start stop piece)

/-- The last part of a piece, which begins at a place. -/
def lastPart (piece : List Char) (start : Nat) : String :=
  String.ofList (Text.sliceFrom start piece)

/-- Drops what stands in front of the first one of some characters. -/
def toFirst (stops : List Char) (text : List Text.Placed) : List Text.Placed :=
  text.dropWhile fun p => !stops.contains p.char

/-- A character with which a target can begin. -/
def beginsTarget (c : Char) : Bool :=
  Text.isAlphanumeric c || c == '-' || c == ':' || c == '_'

def readCondition (s : String) : Except PieceFault Condition :=
  let field := String.ofList (s.toList.takeWhile (· != '='))
  match s.toList.dropWhile (· != '=') with
  | [] => .ok { field }
  | _ :: cs =>
      let value := String.ofList (cs.takeWhile (· != '='))
      match Value.fault? value with
      | none => .ok { field, value := some value }
      | some fault => .error (.value fault)

/-- Reads a threshold; an empty text lets everything through. -/
def readThreshold (s : String) : Except PieceFault Threshold :=
  if s.isEmpty then .ok (.upTo .trace)
  else
    match Threshold.ofString? s with
    | some threshold => .ok threshold
    | none => .error .level

/-! ## Pieces -/

def readEnd (piece : List Char) (directive : Directive) :
    List Text.Placed → Except PieceFault Directive
  | [] => .ok directive
  | sign :: _ =>
      if sign.char = '=' then do
        let threshold ← readThreshold (lastPart piece sign.behind)
        return { directive with threshold }
      else .error .malformed

/-- Reads what stands behind an opening brace, which ends at a place. -/
def readField (piece : List Char) (directive : Directive) (start : Nat) (text : List Text.Placed) :
    Except PieceFault Directive :=
  match toFirst ['}'] text with
  | [] => .error .malformed
  | stop :: rest =>
      let field := part piece start stop.place
      if field.isEmpty then .error .malformed
      else do
        let condition ← readCondition field
        match rest with
        | [] => .error .malformed
        | sign :: rest =>
            if sign.char = ']' then readEnd piece { directive with condition := some condition } rest
            else .error .malformed

/-- Reads what stands behind an opening bracket, which ends at a place. -/
def readSpan (piece : List Char) (directive : Directive) (start : Nat) (text : List Text.Placed) :
    Except PieceFault Directive :=
  match toFirst [']', '{'] text with
  | [] => .error .malformed
  | stop :: rest =>
      let span := part piece start stop.place
      if stop.char = ']' then readEnd piece { directive with span := some span } rest
      else
        let span := if span.isEmpty then none else some span
        readField piece { directive with span } stop.behind rest

/-- The directive of a piece that is a single word: a threshold if it names one, a target if not. -/
def ofWord (word : String) : Directive :=
  match Threshold.ofString? word with
  | some threshold => { threshold }
  | none => { target := some word }

/-- Reads a piece that begins with a target. -/
def readTarget (piece : List Char) (text : List Text.Placed) : Except PieceFault Directive :=
  match toFirst ['=', '['] text with
  | [] => .ok (ofWord (String.ofList piece))
  | stop :: rest =>
      let directive : Directive := { target := some (part piece 0 stop.place) }
      if stop.char = '=' then readEnd piece directive (stop :: rest)
      else readSpan piece directive stop.behind rest

end Piece

/-- Reads a piece of text as a directive. -/
def Directive.ofPiece (piece : String) : Except PieceFault Directive :=
  let cs := piece.toList
  match Text.placedFrom 0 (Text.trim cs) with
  | [] => .error .malformed
  | first :: rest =>
      if first.char = '[' then Piece.readSpan cs {} first.behind rest
      else if Piece.beginsTarget first.char then Piece.readTarget cs (first :: rest)
      else .error .malformed

end BusStatus.Log
