import BusStatus.Word.Basic

/-!
# Rings

A ring keeps the last status words of a device. Each new word takes the place of the oldest one, at
the slot named by `start`, and `start` moves on by one slot and wraps behind the last.
-/

namespace BusStatus

/-- A ring of status words. -/
structure Ring where
  /-- The words in the order of their slots. -/
  slots : Array Word
  /-- The slot that is written next, which holds the oldest word. -/
  start : Nat
deriving DecidableEq, Repr

namespace Ring

def capacity (ring : Ring) : Nat :=
  ring.slots.size

/-- Puts a new word in the place of the oldest one. -/
def write (ring : Ring) (w : Word) : Ring :=
  ⟨ring.slots.setIfInBounds ring.start w, (ring.start + 1) % ring.capacity⟩

def writeAll (ring : Ring) (ws : List Word) : Ring :=
  ws.foldl write ring

end Ring

end BusStatus
