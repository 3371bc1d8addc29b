import BusStatus.Text.Radix

/-!
# Errors

What can go wrong when a status word, a ring position or a layout name is taken from outside.
-/

namespace BusStatus

/-- Why a request on status words was refused. -/
inductive StatusError where
  /-- The text is not a status word, for the reason told. -/
  | invalidNumber (input reason : String)
  /-- The start is not a slot of a ring of this capacity. -/
  | startOutOfRange (start capacity : Nat)
  /-- No layout has this name. -/
  | unknownLayout (name : String)
deriving DecidableEq, Repr

/-- How an error is told to the user. -/
def StatusError.message : StatusError → String
  | .invalidNumber input reason => "invalid numeric argument '" ++ input ++ "': " ++ reason
  | .startOutOfRange start capacity =>
      "start index out of range: " ++ Text.decimal start ++ " is not within 0.." ++
        Text.decimal capacity
  | .unknownLayout name =>
      "unknown flag layout '" ++ name ++ "' (expected one of: decoder, capture)"

end BusStatus
