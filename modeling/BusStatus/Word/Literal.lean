import BusStatus.Error
import BusStatus.Text.Blank
import BusStatus.Text.Unsigned
import BusStatus.Word.Basic

/-!
# Word literals

The text form of a status word: decimal digits, or a radix prefix `0x`, `0o` or `0b` in either case
and digits of that radix. One `+` may stand in front, one `_` between any two digits, and blanks
around the whole. The checks run in a fixed order, and the first that fails names the fault.
-/

namespace BusStatus

open Text (Radix IntegerFault)

/-- Why a text is not a status word. -/
inductive LiteralFault where
  | negative
  | noDigits
  | unexpectedSign
  | misplacedSeparator
  | integer (fault : IntegerFault)
  | tooWide (value : Nat)
deriving DecidableEq, Repr

/-- How a fault is told to the user. -/
def LiteralFault.reason : LiteralFault → String
  | .negative => "status words cannot be negative"
  | .noDigits => "no digits"
  | .unexpectedSign => "unexpected sign"
  | .misplacedSeparator => "misplaced '_' separator"
  | .integer fault => fault.message
  | .tooWide value =>
      Text.decimal value ++ " does not fit in a " ++ Text.decimal Word.bits ++ "-bit status word"

namespace Literal

/-! ## The parts of a literal -/

def dropPlus : List Char → List Char
  | '+' :: cs => cs
  | cs => cs

/-- The radix that a letter behind a leading zero chooses. -/
def radixOfLetter? (c : Char) : Option Radix :=
  if c = 'x' ∨ c = 'X' then some .hexadecimal
  else if c = 'o' ∨ c = 'O' then some .octal
  else if c = 'b' ∨ c = 'B' then some .binary
  else none

/-- Takes the radix prefix off; a literal without one is decimal. -/
def splitRadix : List Char → Radix × List Char
  | '0' :: c :: cs =>
      match radixOfLetter? c with
      | some r => (r, cs)
      | none => (.decimal, '0' :: c :: cs)
  | cs => (.decimal, cs)

def isSign (c : Char) : Bool :=
  c == '+' || c == '-'

/-- Two separators stand side by side. -/
def hasDoubleSeparator : List Char → Bool
  | '_' :: '_' :: _ => true
  | _ :: cs => hasDoubleSeparator cs
  | [] => false

/-- Drops the separators from the digits, which must not stand at an end or side by side. -/
def dropSeparators (cs : List Char) : Except LiteralFault (List Char) :=
  if cs.isEmpty then .error .noDigits
  else if cs.head?.any isSign then .error .unexpectedSign
  else if cs.head? == some '_' || cs.getLast? == some '_' || hasDoubleSeparator cs then
    .error .misplacedSeparator
  else .ok (cs.filter (· != '_'))

/-- Narrows a number to the width of a word. -/
def narrow (n : Nat) : Except LiteralFault Word :=
  if n < UInt16.size then .ok (UInt16.ofNat n) else .error (.tooWide n)

/-! ## The whole literal -/

/-- Reads the digits behind the sign and the radix prefix. -/
def readDigits (r : Radix) (cs : List Char) : Except LiteralFault Word := do
  let digits ← dropSeparators cs
  match Text.Unsigned.read r digits with
  | .error fault => .error (.integer fault)
  | .ok n => narrow n

def readUnsigned (cs : List Char) : Except LiteralFault Word :=
  if cs.head? == some '-' then .error .negative
  else
    let (radix, digits) := splitRadix cs
    readDigits radix digits

def read (cs : List Char) : Except LiteralFault Word :=
  readUnsigned (dropPlus (Text.trim cs))

end Literal

/-- Reads a status word; a refusal names the whole text as it was given. -/
def Word.parse (input : String) : Except StatusError Word :=
  match Literal.read input.toList with
  | .ok w => .ok w
  | .error fault => .error (.invalidNumber input fault.reason)

end BusStatus
