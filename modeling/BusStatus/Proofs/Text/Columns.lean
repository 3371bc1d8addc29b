import BusStatus.Proofs.Text.Trim
import BusStatus.Text.Column

/-!
# Columns are told apart

Two columns are found again from the right end, however wide they are.
-/

namespace BusStatus.Text

theorem toList_padRight (width : Nat) (s : String) :
    (padRight width s).toList = s.toList ++ List.replicate (width - s.length) ' ' := by
  rw [padRight, String.toList_append, gap, String.toList_ofList]

theorem toList_padLeft (width : Nat) (s : String) :
    (padLeft width s).toList = List.replicate (width - s.length) ' ' ++ s.toList := by
  rw [padLeft, String.toList_append, gap, String.toList_ofList]

/-- Two columns with at least one space between them. -/
def columns (first : List Char) (spaces : Nat) (last : List Char) : List Char :=
  first ++ (List.replicate (spaces + 1) ' ' ++ last)

variable {first last first' last' : List Char} {spaces spaces' : Nat}

theorem rdropWhile_spaces (h : first.getLast? ≠ some ' ') (spaces : Nat) :
    (first ++ List.replicate spaces ' ').rdropWhile (· == ' ') = first := by
  rw [rdropWhile_append_of_pos, rdropWhile_eq_self]
  · intro c hc
    rw [beq_eq_false_iff_ne]
    rintro rfl
    exact h hc
  · intro c hc
    exact beq_iff_eq.mpr (List.eq_of_mem_replicate hc)

/-- What stands before the last column ends with a space, and the last column holds none. -/
theorem rdropWhile_last (h : ' ' ∉ last) :
    (columns first spaces last).rdropWhile (· != ' ') = first ++ List.replicate (spaces + 1) ' ' := by
  rw [columns, ← List.append_assoc, rdropWhile_append_of_pos, rdropWhile_eq_self]
  · intro c hc
    rw [List.getLast?_append_of_ne_nil _ (by simp), List.getLast?_replicate, if_neg (by omega)] at hc
    obtain rfl := Option.some.inj hc
    decide
  · intro c hc
    rw [bne_iff_ne]
    rintro rfl
    exact h hc

theorem columns_inj (hfirst : first.getLast? ≠ some ' ') (hfirst' : first'.getLast? ≠ some ' ')
    (hlast : ' ' ∉ last) (hlast' : ' ' ∉ last')
    (h : columns first spaces last = columns first' spaces' last') : first = first' ∧ last = last' := by
  have hfront : first ++ List.replicate (spaces + 1) ' ' =
      first' ++ List.replicate (spaces' + 1) ' ' := by
    rw [← rdropWhile_last hlast, h, rdropWhile_last hlast']
  constructor
  · rw [← rdropWhile_spaces hfirst (spaces + 1), hfront, rdropWhile_spaces hfirst']
  · rw [columns, columns, ← List.append_assoc, ← List.append_assoc, hfront] at h
    exact List.append_cancel_left h

end BusStatus.Text
