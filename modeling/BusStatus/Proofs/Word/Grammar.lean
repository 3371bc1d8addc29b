import BusStatus.Proofs.Text.Unsigned
import BusStatus.Word.Literal
import Mathlib.Data.List.Forall2

/-!
# The grammar of word literals

A literal is a decimal numeral, or a radix prefix and a numeral of that radix.
-/

namespace BusStatus.Literal

open Text (Radix isBlank)

/-! ## Numerals -/

/-- The text writes these digits of the radix, highest first. -/
inductive Numeral (r : Radix) : List Char → List Nat → Prop where
  | single {c d} (hd : r.IsDigit c d) : Numeral r [c] [d]
  | cons {c d cs ds} (hd : r.IsDigit c d) (rest : Numeral r cs ds) : Numeral r (c :: cs) (d :: ds)
  | separated {c d cs ds} (hd : r.IsDigit c d) (rest : Numeral r cs ds) :
      Numeral r (c :: '_' :: cs) (d :: ds)

/-- The letters that choose a radix behind a zero; decimal digits need none. -/
def radixLetters : Radix → List Char
  | .hexadecimal => ['x', 'X']
  | .octal => ['o', 'O']
  | .binary => ['b', 'B']
  | .decimal => []

/-- The text without sign and blanks spells this number. -/
inductive Spells : List Char → Nat → Prop where
  | decimal {cs ds} (digits : Numeral .decimal cs ds) : Spells cs (Radix.decimal.positional ds)
  | prefixed {r letter cs ds} (hletter : letter ∈ radixLetters r) (digits : Numeral r cs ds) :
      Spells ('0' :: letter :: cs) (r.positional ds)

def Denotes (cs : List Char) (n : Nat) : Prop :=
  ∃ front sign literal back, cs = front ++ (sign ++ literal) ++ back ∧
    (∀ c ∈ front, isBlank c) ∧ (∀ c ∈ back, isBlank c) ∧ (sign = [] ∨ sign = ['+']) ∧
    Spells literal n

/-! ## The ends of a numeral -/

theorem not_isBlank_of_isDigit {r : Radix} {c : Char} {d : Nat} (h : r.IsDigit c d) :
    isBlank c = false := by
  simpa using h.all (p := fun c => !isBlank c) (by decide)

theorem not_isSign_of_isDigit {r : Radix} {c : Char} {d : Nat} (h : r.IsDigit c d) :
    isSign c = false := by
  simpa using h.all (p := fun c => !isSign c) (by decide)

theorem ne_separator_of_isDigit {r : Radix} {c : Char} {d : Nat} (h : r.IsDigit c d) : c ≠ '_' := by
  simpa using h.all (p := (· != '_')) (by decide)

theorem Numeral.head {r : Radix} {cs : List Char} {ds : List Nat} (h : Numeral r cs ds) :
    ∃ c rest d, cs = c :: rest ∧ r.IsDigit c d := by
  cases h with
  | single hd => exact ⟨_, _, _, rfl, hd⟩
  | cons hd _ => exact ⟨_, _, _, rfl, hd⟩
  | separated hd _ => exact ⟨_, _, _, rfl, hd⟩

theorem Numeral.ne_nil {r : Radix} {cs : List Char} {ds : List Nat} (h : Numeral r cs ds) :
    cs ≠ [] := by
  obtain ⟨c, rest, d, rfl, -⟩ := h.head
  exact List.cons_ne_nil c rest

theorem Numeral.getLast {r : Radix} {cs : List Char} {ds : List Nat} (h : Numeral r cs ds) :
    ∃ c d, cs.getLast? = some c ∧ r.IsDigit c d := by
  induction h with
  | single hd => exact ⟨_, _, rfl, hd⟩
  | cons _ rest ih =>
      obtain ⟨c, d, hlast, hd⟩ := ih
      refine ⟨c, d, ?_, hd⟩
      rw [List.getLast?_cons_of_ne_nil rest.ne_nil, hlast]
  | separated _ rest ih =>
      obtain ⟨c, d, hlast, hd⟩ := ih
      refine ⟨c, d, ?_, hd⟩
      rw [List.getLast?_cons_of_ne_nil (List.cons_ne_nil _ _),
        List.getLast?_cons_of_ne_nil rest.ne_nil, hlast]

theorem Spells.head {cs : List Char} {n : Nat} (h : Spells cs n) :
    ∃ c rest d, cs = c :: rest ∧ Radix.decimal.IsDigit c d := by
  cases h with
  | decimal digits => exact digits.head
  | prefixed _ _ => exact ⟨_, _, 0, rfl, by decide, .inl rfl⟩

theorem Spells.getLast {cs : List Char} {n : Nat} (h : Spells cs n) :
    ∃ r c d, cs.getLast? = some c ∧ Radix.IsDigit r c d := by
  cases h with
  | decimal digits => exact ⟨_, digits.getLast⟩
  | prefixed _ digits =>
      obtain ⟨c, d, hlast, hd⟩ := digits.getLast
      refine ⟨_, c, d, ?_, hd⟩
      rw [List.getLast?_cons_of_ne_nil (List.cons_ne_nil _ _),
        List.getLast?_cons_of_ne_nil digits.ne_nil, hlast]

/-! ## Separators between digits -/

/-- No separator stands at an end or beside another one. -/
structure Separated (cs : List Char) : Prop where
  ne_nil : cs ≠ []
  head_ne : cs.head? ≠ some '_'
  last_ne : cs.getLast? ≠ some '_'
  no_double : hasDoubleSeparator cs = false

theorem hasDoubleSeparator_cons {c : Char} {cs : List Char}
    (h : c ≠ '_' ∨ cs.head? ≠ some '_') :
    hasDoubleSeparator (c :: cs) = hasDoubleSeparator cs := by
  rw [hasDoubleSeparator]
  rintro rest rfl rfl
  rcases h with h | h
  · exact h rfl
  · exact h rfl

/-- A separator in front matters only if another one follows. -/
theorem hasDoubleSeparator_cons_eq (c : Char) (cs : List Char) :
    hasDoubleSeparator (c :: cs) = (c == '_' && cs.head? == some '_' || hasDoubleSeparator cs) := by
  by_cases hc : c = '_'
  · by_cases hcs : cs.head? = some '_'
    · obtain ⟨rest, rfl⟩ := List.head?_eq_some_iff.mp hcs
      subst hc
      rfl
    · rw [hasDoubleSeparator_cons (.inr hcs), beq_eq_false_iff_ne.mpr hcs, Bool.and_false,
        Bool.false_or]
  · rw [hasDoubleSeparator_cons (.inl hc), beq_eq_false_iff_ne.mpr hc, Bool.false_and,
      Bool.false_or]

theorem filter_cons_of_ne {c : Char} (hc : c ≠ '_') (cs : List Char) :
    (c :: cs).filter (· != '_') = c :: cs.filter (· != '_') :=
  List.filter_cons_of_pos (by simpa using hc)

theorem filter_separator_cons (cs : List Char) :
    ('_' :: cs).filter (· != '_') = cs.filter (· != '_') :=
  List.filter_cons_of_neg (by simp)

theorem Separated.single {c : Char} (hc : c ≠ '_') : Separated [c] where
  ne_nil := List.cons_ne_nil c []
  head_ne := by simpa using hc
  last_ne := by simpa using hc
  no_double := by rw [hasDoubleSeparator_cons (.inl hc), hasDoubleSeparator]

theorem Separated.cons {c : Char} (hc : c ≠ '_') {cs : List Char} (h : Separated cs) :
    Separated (c :: cs) where
  ne_nil := List.cons_ne_nil c cs
  head_ne := by simpa using hc
  last_ne := by rw [List.getLast?_cons_of_ne_nil h.ne_nil]; exact h.last_ne
  no_double := by rw [hasDoubleSeparator_cons (.inl hc)]; exact h.no_double

theorem Separated.cons_separator {c : Char} (hc : c ≠ '_') {cs : List Char} (h : Separated cs) :
    Separated (c :: '_' :: cs) where
  ne_nil := List.cons_ne_nil c _
  head_ne := by simpa using hc
  last_ne := by
    rw [List.getLast?_cons_of_ne_nil (List.cons_ne_nil _ _), List.getLast?_cons_of_ne_nil h.ne_nil]
    exact h.last_ne
  no_double := by
    rw [hasDoubleSeparator_cons (.inl hc), hasDoubleSeparator_cons (.inr h.head_ne)]
    exact h.no_double

theorem Separated.uncons {c : Char} {cs : List Char} (h : Separated (c :: cs)) :
    c ≠ '_' ∧ (cs = [] ∨ Separated cs ∨ ∃ rest, cs = '_' :: rest ∧ Separated rest) := by
  obtain ⟨-, hhead, hlast, hdouble⟩ := h
  have hc : c ≠ '_' := by simpa using hhead
  refine ⟨hc, ?_⟩
  rw [hasDoubleSeparator_cons (.inl hc)] at hdouble
  cases cs with
  | nil => exact .inl rfl
  | cons second rest =>
      right
      rw [List.getLast?_cons_cons] at hlast
      by_cases hsecond : second = '_'
      · obtain rfl := hsecond
        refine .inr ⟨rest, rfl, ?_⟩
        have hrest : rest ≠ [] := by
          rintro rfl
          exact hlast rfl
        have hfirst : rest.head? ≠ some '_' := by
          intro hrest
          obtain ⟨tail, rfl⟩ := List.head?_eq_some_iff.mp hrest
          cases hdouble
        rw [List.getLast?_cons_of_ne_nil hrest] at hlast
        rw [hasDoubleSeparator_cons (.inr hfirst)] at hdouble
        exact ⟨hrest, hfirst, hlast, hdouble⟩
      · exact .inl ⟨List.cons_ne_nil second rest, by simpa using hsecond, hlast, hdouble⟩

theorem Numeral.separated_and_digits {r : Radix} {cs : List Char} {ds : List Nat}
    (h : Numeral r cs ds) :
    Separated cs ∧ List.Forall₂ r.IsDigit (cs.filter (· != '_')) ds := by
  induction h with
  | single hd =>
      have hc := ne_separator_of_isDigit hd
      rw [filter_cons_of_ne hc]
      exact ⟨.single hc, .cons hd .nil⟩
  | cons hd _ ih =>
      have hc := ne_separator_of_isDigit hd
      rw [filter_cons_of_ne hc]
      exact ⟨ih.1.cons hc, .cons hd ih.2⟩
  | separated hd _ ih =>
      have hc := ne_separator_of_isDigit hd
      rw [filter_cons_of_ne hc, filter_separator_cons]
      exact ⟨ih.1.cons_separator hc, .cons hd ih.2⟩

theorem Separated.numeral {r : Radix} {cs : List Char} {ds : List Nat} (h : Separated cs)
    (hds : List.Forall₂ r.IsDigit (cs.filter (· != '_')) ds) : Numeral r cs ds := by
  cases cs with
  | nil => exact absurd rfl h.ne_nil
  | cons c cs =>
      obtain ⟨hc, hcs⟩ := h.uncons
      rw [filter_cons_of_ne hc] at hds
      obtain ⟨d, rest, hd, hrest, rfl⟩ := List.forall₂_cons_left_iff.mp hds
      rcases hcs with rfl | hcs | ⟨tail, rfl, htail⟩
      · cases hrest
        exact .single hd
      · exact .cons hd (hcs.numeral hrest)
      · rw [filter_separator_cons] at hrest
        exact .separated hd (htail.numeral hrest)
termination_by cs.length

theorem numeral_iff {r : Radix} {cs : List Char} {ds : List Nat} :
    Numeral r cs ds ↔
      Separated cs ∧ List.Forall₂ r.IsDigit (cs.filter (· != '_')) ds :=
  ⟨Numeral.separated_and_digits, fun h => h.1.numeral h.2⟩

end BusStatus.Literal
