/-!
# Splitting

The pieces of a text between the places where a separator stands. There is always one piece more than
there are separators, so a text without any is its only piece.
-/

namespace BusStatus.Text

/-- The pieces between the separators. -/
def split (separator : Char) : List Char → List (List Char)
  | [] => [[]]
  | c :: cs =>
      if c = separator then [] :: split separator cs
      else
        match split separator cs with
        | [] => [[c]]
        | piece :: pieces => (c :: piece) :: pieces

/-- There is one piece more than there are separators. -/
theorem length_split (separator : Char) (cs : List Char) :
    (split separator cs).length = cs.count separator + 1 := by
  induction cs with
  | nil => rfl
  | cons c cs ih =>
      by_cases h : c = separator
      · simp [split, h, ih]
      · have hc : ¬(c == separator) := by simpa using h
        cases hs : split separator cs with
        | nil => simp [hs] at ih
        | cons piece pieces =>
            rw [hs] at ih
            simpa [split, h, hs, List.count_cons, hc] using ih

end BusStatus.Text
