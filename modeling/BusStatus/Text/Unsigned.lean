import BusStatus.Text.Radix

/-!
# Unsigned 64-bit numbers

Reading an unsigned number of at most 64 bits in a given radix. One `+` may stand in front of the
digits. The characters are read from left to right, and the first fault met is the one reported:
at each place the character is checked first and the size of the number so far second.
-/

namespace BusStatus.Text

/-- Why a text is not an unsigned 64-bit number. -/
inductive IntegerFault where
  | empty
  | invalidDigit
  | tooLarge
deriving DecidableEq, Repr

/-- How a fault is told to the user. -/
def IntegerFault.message : IntegerFault → String
  | .empty => "cannot parse integer from empty string"
  | .invalidDigit => "invalid digit found in string"
  | .tooLarge => "number too large to fit in target type"

namespace Unsigned

/-- The first number that is too large. -/
def limit : Nat := UInt64.size

def readDigits (r : Radix) (value : Nat) : List Char → Except IntegerFault Nat
  | [] => .ok value
  | c :: cs =>
      match r.digit? c with
      | none => .error .invalidDigit
      | some d =>
          if value * r.base + d < limit then readDigits r (value * r.base + d) cs
          else .error .tooLarge

/-- Reads a whole text as an unsigned number; a sign alone has no digit. -/
def read (r : Radix) : List Char → Except IntegerFault Nat
  | [] => .error .empty
  | '+' :: c :: cs => readDigits r 0 (c :: cs)
  | cs => readDigits r 0 cs

end Unsigned

end BusStatus.Text
