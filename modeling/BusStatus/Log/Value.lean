import BusStatus.Pattern.Fault

/-!
# Values of fields

With which texts the value of a field can be compared: numbers and patterns. A number without a plus
sign is a pattern too, so only those with one are told apart.
-/

namespace BusStatus.Log.Value

/-- Digits and at most one point, with a digit somewhere, and an exponent behind them or none. -/
def isNumber (digitSeen pointSeen : Bool) : List Char → Bool
  | [] => digitSeen
  | c :: cs =>
      if c.isDigit then isNumber true pointSeen cs
      else if c = '.' then !pointSeen && isNumber digitSeen true cs
      else
        (c == 'e' || c == 'E') && digitSeen &&
          match cs with
          | [] => false
          | sign :: ds =>
              if sign = '+' ∨ sign = '-' then !ds.isEmpty && ds.all Char.isDigit
              else (sign :: ds).all Char.isDigit

/-- A number with a plus sign in front, or one of the words for a value beyond the numbers. -/
def isSigned : List Char → Bool
  | '+' :: cs =>
      isNumber false false cs ||
        ["inf", "infinity", "nan"].contains (String.ofList (cs.map Char.toLower))
  | _ => false

/-- Why a value cannot be compared with the text, if it cannot. -/
def fault? (s : String) : Option PatternFault :=
  if isSigned s.toList then none else Pattern.fault? s

end BusStatus.Log.Value
