import BusStatus.Text.Lines
import BusStatus.Text.Split
import Mathlib.Data.List.Basic

/-!
# Splitting a text into its lines

Lines written one below the other come apart again as long as none holds a line feed.
-/

namespace BusStatus.Text

theorem split_ne_nil (separator : Char) (cs : List Char) : split separator cs ≠ [] := by
  intro h
  have hlength := length_split separator cs
  rw [h] at hlength
  cases hlength

theorem split_cons_self (separator : Char) (cs : List Char) :
    split separator (separator :: cs) = [] :: split separator cs := by
  rw [split, if_pos rfl]

theorem split_cons_of_ne {separator c : Char} (h : c ≠ separator) {cs piece : List Char}
    {pieces : List (List Char)} (hcs : split separator cs = piece :: pieces) :
    split separator (c :: cs) = (c :: piece) :: pieces := by
  rw [split, if_neg h, hcs]

theorem exists_split_eq_cons (separator : Char) (cs : List Char) :
    ∃ piece pieces, split separator cs = piece :: pieces :=
  List.exists_cons_of_ne_nil (split_ne_nil separator cs)

theorem split_append_separator (separator : Char) (front back : List Char) :
    split separator (front ++ separator :: back) =
      split separator front ++ split separator back := by
  induction front with
  | nil => exact split_cons_self separator back
  | cons c front ih =>
      by_cases hc : c = separator
      · subst hc
        rw [List.cons_append, split_cons_self, ih, split_cons_self, List.cons_append]
      · obtain ⟨piece, pieces, hfront⟩ := exists_split_eq_cons separator front
        rw [hfront, List.cons_append] at ih
        rw [List.cons_append, split_cons_of_ne hc ih, split_cons_of_ne hc hfront, List.cons_append]

theorem split_of_not_mem {separator : Char} {cs : List Char} (h : separator ∉ cs) :
    split separator cs = [cs] := by
  induction cs with
  | nil => rfl
  | cons c cs ih =>
      rw [List.mem_cons, not_or] at h
      exact split_cons_of_ne (Ne.symm h.1) (ih h.2)

theorem split_append_of_not_mem {separator : Char} {front : List Char} (h : separator ∉ front)
    (back : List Char) :
    ∃ piece pieces, split separator (front ++ back) = (front ++ piece) :: pieces := by
  induction front with
  | nil => exact exists_split_eq_cons separator back
  | cons c front ih =>
      rw [List.mem_cons, not_or] at h
      obtain ⟨piece, pieces, hfront⟩ := ih h.2
      exact ⟨piece, pieces, split_cons_of_ne (Ne.symm h.1) hfront⟩

theorem split_flatMap_ended {separator : Char} {pieces : List (List Char)}
    (h : ∀ piece ∈ pieces, separator ∉ piece) :
    split separator (pieces.flatMap (· ++ [separator])) = pieces ++ [[]] := by
  induction pieces with
  | nil => rfl
  | cons piece pieces ih =>
      have hpiece := split_of_not_mem (h piece (List.mem_cons_self ..))
      have hpieces := ih fun other hother => h other (List.mem_cons_of_mem piece hother)
      rw [List.flatMap_cons, List.append_assoc, List.singleton_append, split_append_separator, hpiece,
        hpieces, List.singleton_append, List.cons_append]

/-! ## Lines -/

theorem toList_unlines (lines : List String) :
    (unlines lines).toList = (lines.map (·.toList)).flatMap (· ++ ['\n']) := by
  induction lines with
  | nil => rfl
  | cons line lines ih =>
      rw [unlines, String.toList_append, String.toList_append, ih, List.map_cons, List.flatMap_cons]
      rfl

theorem toList_unlines_cons (line : String) (lines : List String) :
    (unlines (line :: lines)).toList = line.toList ++ '\n' :: (unlines lines).toList := by
  rw [unlines, String.toList_append, String.toList_append, List.append_assoc]
  rfl

theorem split_unlines (lines : List String) :
    split '\n' (unlines lines).toList =
      lines.flatMap (fun line => split '\n' line.toList) ++ [[]] := by
  induction lines with
  | nil => rfl
  | cons line lines ih =>
      rw [toList_unlines_cons, split_append_separator, ih, List.flatMap_cons, List.append_assoc]

theorem split_unlines_eq_map {lines : List String} (h : ∀ line ∈ lines, '\n' ∉ line.toList) :
    split '\n' (unlines lines).toList = lines.map (·.toList) ++ [[]] := by
  rw [toList_unlines, split_flatMap_ended]
  intro piece hpiece
  obtain ⟨line, hline, rfl⟩ := List.mem_map.mp hpiece
  exact h line hline

end BusStatus.Text
