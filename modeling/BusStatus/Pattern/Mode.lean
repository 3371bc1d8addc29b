/-!
# Modes of a pattern

The switches on how a pattern is read and on what it matches. A pattern turns them on and off by
their letters, those behind a dash off: `i-u` turns the first one on and the second one off. A
letter may stand only once in such a change.
-/

namespace BusStatus.Pattern

/-- A switch on how a pattern is read or on what it matches. -/
inductive Mode where
  /-- A letter matches itself in either case. -/
  | ignoreCase
  /-- The edges of a text are also those of its lines. -/
  | multiLine
  /-- A point matches the end of a line too. -/
  | dotAll
  /-- Lazy repetitions and the others change places. -/
  | swapLazy
  /-- Characters are matched, and not bytes. -/
  | unicode
  /-- A carriage return ends a line too. -/
  | carriageReturn
  /-- Blanks and comments in the pattern have no meaning. -/
  | ignoreBlanks
deriving DecidableEq, Repr

namespace Mode

def all : List Mode :=
  [.ignoreCase, .multiLine, .dotAll, .swapLazy, .unicode, .carriageReturn, .ignoreBlanks]

def letter : Mode → Char
  | .ignoreCase => 'i'
  | .multiLine => 'm'
  | .dotAll => 's'
  | .swapLazy => 'U'
  | .unicode => 'u'
  | .carriageReturn => 'R'
  | .ignoreBlanks => 'x'

def ofLetter? (c : Char) : Option Mode :=
  all.find? (·.letter == c)

end Mode

/-- The modes that a place in a pattern turns on and off. -/
structure ModeChange where
  on : List Mode
  off : List Mode
deriving DecidableEq, Repr

namespace ModeChange

def read? (cs : List Char) : Option ModeChange := do
  let on ← (cs.takeWhile (· != '-')).mapM Mode.ofLetter?
  let off ←
    match cs.dropWhile (· != '-') with
    | [] => some []
    | _ :: [] => none
    | _ :: cs => cs.mapM Mode.ofLetter?
  if (on ++ off).Nodup then some { on, off } else none

/-- A mode behind a change, given what it was in front of it. -/
def state (change : ModeChange) (mode : Mode) (before : Bool) : Bool :=
  change.on.contains mode || before && !change.off.contains mode

end ModeChange

end BusStatus.Pattern
