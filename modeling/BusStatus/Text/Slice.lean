/-!
# Slices

The places of characters in a text, counted in the bytes of its UTF-8 form, and the part of a text
between two places. A character belongs to the part in which it begins, so a place inside of a
character is as good as the one behind it.
-/

namespace BusStatus.Text

/-- How many bytes a text has in UTF-8. -/
def width : List Char → Nat
  | [] => 0
  | c :: cs => c.utf8Size + width cs

/-- A character of a text and the place at which it begins. -/
structure Placed where
  place : Nat
  char : Char
deriving DecidableEq, Repr

def Placed.behind (p : Placed) : Nat :=
  p.place + p.char.utf8Size

/-- The characters of a text that begins at a place. -/
def placedFrom (place : Nat) : List Char → List Placed
  | [] => []
  | c :: cs => ⟨place, c⟩ :: placedFrom (place + c.utf8Size) cs

/-- The part of a text from one place on, up to another one. -/
def slice (start stop : Nat) (cs : List Char) : List Char :=
  ((placedFrom 0 cs).filter fun p => start ≤ p.place ∧ p.place < stop).map (·.char)

/-- The part of a text from a place on. -/
def sliceFrom (start : Nat) (cs : List Char) : List Char :=
  slice start (width cs) cs

end BusStatus.Text
