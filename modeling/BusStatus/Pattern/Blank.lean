import BusStatus.Text.Blank

/-!
# Blanks in a pattern

Where blanks have no meaning in a pattern, comments have none either: a comment begins with a number
sign and takes the rest of its line.
-/

namespace BusStatus.Pattern

/-- Drops the blanks and comments in front of a text that begins in a comment or outside. -/
def dropBlanks (inComment : Bool) : List Char → List Char
  | [] => []
  | c :: cs =>
      if inComment then dropBlanks (c != '\n') cs
      else if c = '#' then dropBlanks true cs
      else if Text.isBlank c then dropBlanks false cs
      else c :: cs

theorem length_dropBlanks_le (inComment : Bool) (cs : List Char) :
    (dropBlanks inComment cs).length ≤ cs.length := by
  induction cs generalizing inComment with
  | nil => exact Nat.le_refl _
  | cons c cs ih =>
      have hbehind (inComment : Bool) : (dropBlanks inComment cs).length ≤ (c :: cs).length :=
        Nat.le_succ_of_le (ih inComment)
      unfold dropBlanks
      split
      · exact hbehind _
      split
      · exact hbehind true
      split
      · exact hbehind false
      · exact Nat.le_refl _

/-- Drops the blanks and comments in front of a text if they have no meaning. -/
def skipBlanks (ignoreBlanks : Bool) (cs : List Char) : List Char :=
  if ignoreBlanks then dropBlanks false cs else cs

theorem length_skipBlanks_le (ignoreBlanks : Bool) (cs : List Char) :
    (skipBlanks ignoreBlanks cs).length ≤ cs.length := by
  cases ignoreBlanks with
  | false => exact Nat.le_refl _
  | true => exact length_dropBlanks_le false cs

/-- The character at which a look ahead stops: it passes blanks, and one number sign at most. -/
def aheadOf? (ignoreBlanks : Bool) (cs : List Char) : Option Char :=
  if ignoreBlanks then
    match cs.dropWhile Text.isBlank with
    | '#' :: cs => (cs.dropWhile Text.isBlank).head?
    | cs => cs.head?
  else cs.head?

end BusStatus.Pattern
