import BusStatus.Proofs.Text.Digits
import BusStatus.Text.Column
import BusStatus.Text.Disarmed
import BusStatus.Text.Quoted

/-!
# Texts on one line

What is written without a line feed stays on one line.
-/

namespace BusStatus.Text

def OneLine (s : String) : Prop :=
  '\n' ∉ s.toList

instance (s : String) : Decidable (OneLine s) :=
  inferInstanceAs (Decidable ('\n' ∉ s.toList))

theorem oneLine_ofList {cs : List Char} : OneLine (String.ofList cs) ↔ '\n' ∉ cs := by
  rw [OneLine, String.toList_ofList]

theorem OneLine.append {s t : String} (hs : OneLine s) (ht : OneLine t) : OneLine (s ++ t) := by
  rw [OneLine, String.toList_append, List.mem_append, not_or]
  exact ⟨hs, ht⟩

theorem OneLine.join {texts : List String} (h : ∀ s ∈ texts, OneLine s) :
    OneLine (String.join texts) := by
  induction texts with
  | nil => decide
  | cons s texts ih =>
      rw [String.join_cons]
      exact (h s (List.mem_cons_self ..)).append (ih fun t ht => h t (List.mem_cons_of_mem s ht))

theorem oneLine_gap (width : Nat) (s : String) : OneLine (gap width s) := by
  refine oneLine_ofList.mpr fun hmem => ?_
  exact absurd (List.eq_of_mem_replicate hmem) (by decide)

theorem OneLine.padLeft {s : String} (h : OneLine s) (width : Nat) : OneLine (padLeft width s) :=
  (oneLine_gap width s).append h

theorem OneLine.padRight {s : String} (h : OneLine s) (width : Nat) : OneLine (padRight width s) :=
  h.append (oneLine_gap width s)

/-! ## Digits -/

theorem newline_not_mem_digits (r : Radix) (n : Nat) : '\n' ∉ r.digits n :=
  r.not_mem_digits (by cases r <;> rfl) n

theorem newline_not_mem_fixedDigits (r : Radix) (width n : Nat) : '\n' ∉ r.fixedDigits width n :=
  r.not_mem_fixedDigits (by cases r <;> rfl) width n

theorem oneLine_decimal (n : Nat) : OneLine (decimal n) :=
  oneLine_ofList.mpr (newline_not_mem_digits .decimal n)

/-! ## Quotes and harmless forms -/

theorem newline_not_mem_showChar (c : Char) : '\n' ∉ showChar c := by
  unfold showChar
  split; · decide
  split; · decide
  split; · decide
  split; · decide
  split; · decide
  split; · decide
  split
  · rename_i hnewline _ _ _ _
    rw [List.mem_singleton]
    exact Ne.symm hnewline
  · simp only [List.mem_cons, List.mem_append, newline_not_mem_digits, false_or]
    decide

theorem oneLine_quoted (s : String) : OneLine (quoted s) := by
  rw [quoted, oneLine_ofList]
  simp only [List.mem_cons, List.mem_append, List.mem_flatMap, newline_not_mem_showChar, and_false,
    exists_false, false_or]
  decide

theorem newline_not_mem_disarmChar {c : Char} (h : c ≠ '\n') : '\n' ∉ disarmChar c := by
  unfold disarmChar
  split
  · simp only [List.mem_cons, newline_not_mem_fixedDigits, or_false]
    decide
  split
  · simp only [List.mem_cons, List.mem_append, newline_not_mem_digits, false_or]
    decide
  · rw [List.mem_singleton]
    exact Ne.symm h

theorem OneLine.disarmed {s : String} (h : OneLine s) : OneLine (disarmed s) := by
  rw [Text.disarmed, oneLine_ofList, List.mem_flatMap]
  rintro ⟨c, hc, hmem⟩
  refine newline_not_mem_disarmChar ?_ hmem
  rintro rfl
  exact h hc

end BusStatus.Text
