import BusStatus.Word.Basic

/-!
# Sets of words

A set of words is its list in ascending order, so two sets with the same words are equal.
-/

namespace BusStatus

structure WordSet where
  toList : List Word
  /-- No word stands twice or out of order. -/
  ascending : toList.Pairwise (· < ·) := by simp
deriving DecidableEq, Repr

namespace WordSet

/-- Puts a word at its place in an ascending list, unless it is there already. -/
def place (w : Word) : List Word → List Word
  | [] => [w]
  | x :: xs => if w < x then w :: x :: xs else if w = x then x :: xs else x :: place w xs

theorem mem_place {w x : Word} {xs : List Word} : x ∈ place w xs ↔ x = w ∨ x ∈ xs := by
  induction xs with
  | nil => simp [place]
  | cons y ys ih =>
      simp only [place]
      split
      · simp
      · split
        · next h =>
          subst h
          simp
        · rw [List.mem_cons, List.mem_cons, ih]
          exact or_left_comm

theorem pairwise_place {w : Word} {xs : List Word} (h : xs.Pairwise (· < ·)) :
    (place w xs).Pairwise (· < ·) := by
  induction xs with
  | nil => simp [place]
  | cons y ys ih =>
      rw [List.pairwise_cons] at h
      simp only [place]
      split
      · next hlt =>
        refine List.pairwise_cons.mpr ⟨?_, List.pairwise_cons.mpr h⟩
        intro z hz
        cases List.mem_cons.mp hz with
        | inl heq => exact heq ▸ hlt
        | inr hmem => exact UInt16.lt_trans hlt (h.1 z hmem)
      · next hge =>
        split
        · exact List.pairwise_cons.mpr h
        · next hne =>
          have hyw : y < w := by
            cases UInt16.le_total w y with
            | inl hle => exact absurd (UInt16.lt_of_le_of_ne hle hne) hge
            | inr hle => exact UInt16.lt_of_le_of_ne hle (Ne.symm hne)
          refine List.pairwise_cons.mpr ⟨?_, ih h.2⟩
          intro z hz
          cases mem_place.mp hz with
          | inl heq => exact heq ▸ hyw
          | inr hmem => exact h.1 z hmem

def empty : WordSet := { toList := [] }

def insert (s : WordSet) (w : Word) : WordSet :=
  ⟨place w s.toList, pairwise_place s.ascending⟩

def size (s : WordSet) : Nat :=
  s.toList.length

end WordSet

end BusStatus
