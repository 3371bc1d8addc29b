import BusStatus.Text.Blank
import Mathlib.Data.List.DropRight
import Mathlib.Data.List.TakeWhile

/-!
# Trimming takes blanks off both ends

Blanks at the ends do not matter to trimming, and nothing else is taken away.
-/

namespace BusStatus.Text

theorem trimLeft_append {front : List Char} (h : ∀ c ∈ front, isBlank c) (cs : List Char) :
    trimLeft (front ++ cs) = trimLeft cs :=
  List.dropWhile_append_of_pos h

theorem rdropWhile_append_of_pos {p : Char → Bool} {back : List Char} (h : ∀ c ∈ back, p c)
    (cs : List Char) : (cs ++ back).rdropWhile p = cs.rdropWhile p := by
  rw [List.rdropWhile, List.reverse_append, List.dropWhile_append_of_pos, List.rdropWhile]
  intro c hc
  exact h c (List.mem_reverse.mp hc)

theorem trimRight_append {back : List Char} (h : ∀ c ∈ back, isBlank c) (cs : List Char) :
    trimRight (cs ++ back) = trimRight cs :=
  rdropWhile_append_of_pos h cs

theorem trim_append_left {front : List Char} (h : ∀ c ∈ front, isBlank c) (cs : List Char) :
    trim (front ++ cs) = trim cs := by
  rw [trim, trimLeft_append h, trim]

theorem trim_append_right {back : List Char} (h : ∀ c ∈ back, isBlank c) (cs : List Char) :
    trim (cs ++ back) = trim cs := by
  rw [trim, trimLeft, List.dropWhile_append]
  split
  · rename_i hempty
    have hback : back.dropWhile isBlank = [] := by
      rw [← List.append_nil back, List.dropWhile_append_of_pos h, List.dropWhile_nil]
    rw [hback, trim, trimLeft, List.isEmpty_iff.mp hempty]
  · rw [trimRight_append h, trim, trimLeft]

theorem dropWhile_eq_self {p : Char → Bool} {cs : List Char}
    (h : ∀ c, cs.head? = some c → p c = false) : cs.dropWhile p = cs := by
  cases cs with
  | nil => rfl
  | cons c cs => exact List.dropWhile_cons_of_neg (by simp [h c rfl])

theorem rdropWhile_eq_self {p : Char → Bool} {cs : List Char}
    (h : ∀ c, cs.getLast? = some c → p c = false) : cs.rdropWhile p = cs := by
  rw [List.rdropWhile, dropWhile_eq_self, List.reverse_reverse]
  rw [List.head?_reverse]
  exact h

theorem rdropWhile_cons_of_neg {p : Char → Bool} {c : Char} (h : ¬ p c) (cs : List Char) :
    (c :: cs).rdropWhile p = c :: cs.rdropWhile p := by
  induction cs using List.reverseRecOn with
  | nil => rw [List.rdropWhile_singleton, if_neg h, List.rdropWhile_nil]
  | append_singleton cs last ih =>
      rw [← List.cons_append]
      by_cases hlast : p last
      · rw [List.rdropWhile_concat_pos _ _ _ hlast, List.rdropWhile_concat_pos _ _ _ hlast, ih]
      · rw [List.rdropWhile_concat_neg _ _ _ hlast, List.rdropWhile_concat_neg _ _ _ hlast,
          List.cons_append]

theorem trim_eq_self {cs : List Char} (hfirst : ∀ c, cs.head? = some c → isBlank c = false)
    (hlast : ∀ c, cs.getLast? = some c → isBlank c = false) : trim cs = cs := by
  rw [trim, trimLeft, dropWhile_eq_self hfirst]
  exact rdropWhile_eq_self hlast

theorem exists_eq_append_trim (cs : List Char) :
    ∃ front back, cs = front ++ trim cs ++ back ∧ (∀ c ∈ front, isBlank c) ∧
      ∀ c ∈ back, isBlank c := by
  refine ⟨cs.takeWhile isBlank, ((trimLeft cs).reverse.takeWhile isBlank).reverse, ?_, ?_, ?_⟩
  · have hback : trimRight (trimLeft cs) ++ ((trimLeft cs).reverse.takeWhile isBlank).reverse =
        trimLeft cs := by
      rw [trimRight, ← List.reverse_append, List.takeWhile_append_dropWhile, List.reverse_reverse]
    rw [trim, List.append_assoc, hback, trimLeft, List.takeWhile_append_dropWhile]
  · exact fun c hc => List.mem_takeWhile_imp hc
  · exact fun c hc => List.mem_takeWhile_imp (List.mem_reverse.mp hc)

/-! ## What trimming leaves -/

/-- Between two runs of blanks stands this text, neither end of which is a blank. -/
inductive Trimmed : List Char → List Char → Prop where
  | intro {front middle back} (hfront : ∀ c ∈ front, isBlank c) (hback : ∀ c ∈ back, isBlank c)
      (hfirst : ∀ c, middle.head? = some c → isBlank c = false)
      (hlast : ∀ c, middle.getLast? = some c → isBlank c = false) :
      Trimmed (front ++ middle ++ back) middle

theorem isBlank_of_head?_dropWhile {cs : List Char} {c : Char}
    (h : (cs.dropWhile isBlank).head? = some c) : isBlank c = false := by
  have hnot := List.head?_dropWhile_not isBlank cs
  rw [h] at hnot
  exact hnot

theorem isBlank_of_getLast?_trim {cs : List Char} {c : Char} (h : (trim cs).getLast? = some c) :
    isBlank c = false := by
  rw [trim, trimRight, List.getLast?_reverse] at h
  exact isBlank_of_head?_dropWhile h

theorem isBlank_of_head?_trim {cs : List Char} {c : Char} (h : (trim cs).head? = some c) :
    isBlank c = false := by
  obtain ⟨rest, htrim⟩ := List.head?_eq_some_iff.mp h
  obtain ⟨back, hleft⟩ : trim cs <+: trimLeft cs := List.rdropWhile_prefix isBlank _
  rw [htrim] at hleft
  have hhead : (cs.dropWhile isBlank).head? = some c := by
    rw [← trimLeft, ← hleft, List.cons_append, List.head?_cons]
  exact isBlank_of_head?_dropWhile hhead

theorem trim_eq_iff {cs middle : List Char} : trim cs = middle ↔ Trimmed cs middle := by
  constructor
  · rintro rfl
    obtain ⟨front, back, hcs, hfront, hback⟩ := exists_eq_append_trim cs
    have htrimmed : Trimmed (front ++ trim cs ++ back) (trim cs) :=
      .intro hfront hback (fun _ => isBlank_of_head?_trim) (fun _ => isBlank_of_getLast?_trim)
    rwa [← hcs] at htrimmed
  · rintro ⟨hfront, hback, hfirst, hlast⟩
    rw [trim_append_right hback, trim_append_left hfront, trim_eq_self hfirst hlast]

end BusStatus.Text
