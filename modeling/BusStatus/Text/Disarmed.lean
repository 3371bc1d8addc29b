import BusStatus.Text.Radix

/-!
# Disarmed texts

A text that a terminal cannot take for a command: the control characters with which control sequences
begin, or which move the cursor back, are named by their code point.
-/

namespace BusStatus.Text

/-- The character is a control character of the upper half, each of which is a command of its own. -/
def isUpperControl (c : Char) : Bool :=
  0x80 ≤ c.toNat && c.toNat ≤ 0x9F

/-- The lower control characters that are not left in a text: bell, backspace, form feed, escape and
delete. -/
def armed : List Char :=
  ['\x07', '\x08', '\x0c', '\x1b', '\x7f']

def disarmChar (c : Char) : List Char :=
  if c ∈ armed then '\\' :: 'x' :: Radix.hexadecimal.fixedDigits 2 c.toNat
  else if isUpperControl c then '\\' :: 'u' :: '{' :: (Radix.hexadecimal.digits c.toNat ++ ['}'])
  else [c]

def disarmed (s : String) : String :=
  String.ofList (s.toList.flatMap disarmChar)

end BusStatus.Text
