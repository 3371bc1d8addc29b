import BusStatus.Text.Radix

/-!
# Status words

A status word is a set of sixteen bits. It is written in four hexadecimal digits where its bits
matter and in decimal where its value does.
-/

namespace BusStatus

/-- A status word of the bus. -/
abbrev Word := UInt16

namespace Word

def bits : Nat := 16

/-- The bits of a word in four hexadecimal digits. -/
def hex (w : Word) : String :=
  String.ofList ('0' :: 'x' :: Text.Radix.hexadecimal.fixedDigits 4 w.toNat)

/-- The value of a word in decimal digits. -/
def decimal (w : Word) : String :=
  Text.decimal w.toNat

end Word

end BusStatus
