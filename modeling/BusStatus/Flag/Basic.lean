import BusStatus.Text.Column
import BusStatus.Word.Basic

/-!
# Flags

A flag gives a name to some bits of a status word. It is set in a word when the word has any of its
bits, so a flag over several bits reports that at least one of them is set.
-/

namespace BusStatus

/-- A name for some bits of a status word. -/
structure Flag where
  /-- The name, under which several flags may stand. -/
  name : String
  /-- The bits that the flag looks at. -/
  mask : Word
deriving DecidableEq, Repr

namespace Flag

/-- The flag and the word share a bit. -/
def isSetIn (flag : Flag) (w : Word) : Bool :=
  flag.mask &&& w != 0

def nameWidth : Nat := 30

/-- The line that shows a flag: its name in a column and its bits. -/
def display (flag : Flag) : String :=
  Text.padRight nameWidth flag.name ++ " " ++ flag.mask.hex

end Flag

end BusStatus
