import BusStatus.Proofs.Text.Trim
import BusStatus.Proofs.Word.Grammar

/-!
# Reading a literal follows its grammar

The checks of the reader, one behind the other, accept the texts of the grammar and no others.
-/

namespace BusStatus

open Text (Radix isBlank trim)
open Text.Unsigned (limit)

namespace Literal

/-! ## Separators and digits -/

theorem separated_iff {cs : List Char} (hcs : cs ≠ []) :
    Separated cs ↔
      (cs.head? == some '_' || cs.getLast? == some '_' || hasDoubleSeparator cs) = false := by
  simp only [Bool.or_eq_false_iff, beq_eq_false_iff_ne]
  constructor
  · rintro ⟨-, hhead, hlast, hdouble⟩
    exact ⟨⟨hhead, hlast⟩, hdouble⟩
  · rintro ⟨⟨hhead, hlast⟩, hdouble⟩
    exact ⟨hcs, hhead, hlast, hdouble⟩

theorem dropSeparators_eq_ok_iff {cs digits : List Char} :
    dropSeparators cs = .ok digits ↔
      Separated cs ∧ cs.head?.any isSign = false ∧ cs.filter (· != '_') = digits := by
  unfold dropSeparators
  split
  · rename_i hempty
    constructor
    · intro h; cases h
    · rintro ⟨hcs, -⟩
      exact absurd (List.isEmpty_iff.mp hempty) hcs.ne_nil
  rename_i hempty
  have hcs := separated_iff (List.isEmpty_iff.not.mp hempty)
  split
  · rename_i hsign
    constructor
    · intro h; cases h
    · rintro ⟨-, hnone, -⟩
      rw [hsign] at hnone
      cases hnone
  rename_i hsign
  split
  · rename_i hplaces
    constructor
    · intro h; cases h
    · rintro ⟨h, -⟩
      rw [hcs.mp h] at hplaces
      cases hplaces
  · rename_i hplaces
    rw [hcs, Except.ok.injEq, eq_false_of_ne_true hplaces, eq_false_of_ne_true hsign]
    exact ⟨fun h => ⟨rfl, rfl, h⟩, fun h => h.2.2⟩

theorem narrow_eq_ok_iff {n : Nat} {w : Word} : narrow n = .ok w ↔ w.toNat = n := by
  unfold narrow
  split
  · rename_i hn
    constructor
    · intro h
      obtain rfl := Except.ok.inj h
      exact UInt16.toNat_ofNat_of_lt' hn
    · rintro rfl
      rw [UInt16.ofNat_toNat]
  · rename_i hn
    constructor
    · intro h; cases h
    · rintro rfl
      exact absurd w.toNat_lt hn

theorem readDigits_of_separated (r : Radix) {cs : List Char} (hcs : Separated cs)
    (hsign : cs.head?.any isSign = false) :
    readDigits r cs =
      match Text.Unsigned.readDigits r 0 (cs.filter (· != '_')) with
      | .error fault => .error (.integer fault)
      | .ok n => narrow n := by
  have hdrop : dropSeparators cs = .ok (cs.filter (· != '_')) :=
    dropSeparators_eq_ok_iff.mpr ⟨hcs, hsign, rfl⟩
  cases cs with
  | nil => exact absurd rfl hcs.ne_nil
  | cons c cs =>
      have hplus : c ≠ '+' := by
        rintro rfl
        cases hsign
      rw [filter_cons_of_ne hcs.uncons.1] at hdrop ⊢
      rw [← Text.Unsigned.read_cons hplus, readDigits, hdrop]
      rfl

theorem separated_of_readDigits {r : Radix} {cs : List Char} {w : Word}
    (h : readDigits r cs = .ok w) : Separated cs ∧ cs.head?.any isSign = false := by
  cases hdrop : dropSeparators cs with
  | error fault => rw [readDigits, hdrop] at h; cases h
  | ok digits =>
      obtain ⟨hcs, hsign, -⟩ := dropSeparators_eq_ok_iff.mp hdrop
      exact ⟨hcs, hsign⟩

theorem Numeral.head?_any_isSign {r : Radix} {cs : List Char} {ds : List Nat}
    (h : Numeral r cs ds) : cs.head?.any isSign = false := by
  obtain ⟨c, rest, d, rfl, hd⟩ := h.head
  exact not_isSign_of_isDigit hd

theorem readDigits_eq_ok_iff {r : Radix} {cs : List Char} {w : Word} :
    readDigits r cs = .ok w ↔ ∃ ds, Numeral r cs ds ∧ w.toNat = r.positional ds := by
  constructor
  · intro h
    obtain ⟨hcs, hsign⟩ := separated_of_readDigits h
    rw [readDigits_of_separated r hcs hsign] at h
    split at h
    · cases h
    · rename_i n hn
      obtain ⟨ds, hds, hvalue, -⟩ := Text.Unsigned.readDigits_zero_eq_ok_iff.mp hn
      exact ⟨ds, numeral_iff.mpr ⟨hcs, hds⟩, (narrow_eq_ok_iff.mp h).trans hvalue⟩
  · rintro ⟨ds, hnumeral, hvalue⟩
    obtain ⟨hcs, hds⟩ := numeral_iff.mp hnumeral
    have hlimit : w.toNat < limit := Nat.lt_trans w.toNat_lt (by decide)
    have hread : Text.Unsigned.readDigits r 0 (cs.filter (· != '_')) = .ok w.toNat :=
      Text.Unsigned.readDigits_zero_eq_ok_iff.mpr ⟨ds, hds, hvalue, hlimit⟩
    rw [readDigits_of_separated r hcs hnumeral.head?_any_isSign, hread]
    exact narrow_eq_ok_iff.mpr rfl

/-! ## The radix prefix -/

theorem radixOfLetter?_eq_some_iff {c : Char} {r : Radix} :
    radixOfLetter? c = some r ↔ c ∈ radixLetters r := by
  constructor
  · intro h
    unfold radixOfLetter? at h
    split at h
    · rename_i hc
      obtain rfl := Option.some.inj h
      simpa [radixLetters] using hc
    split at h
    · rename_i hc
      obtain rfl := Option.some.inj h
      simpa [radixLetters] using hc
    split at h
    · rename_i hc
      obtain rfl := Option.some.inj h
      simpa [radixLetters] using hc
    · cases h
  · intro h
    have every : (radixLetters r).all (radixOfLetter? · == some r) = true := by cases r <;> decide
    simpa using List.all_eq_true.mp every c h

theorem splitRadix_of_letter {r : Radix} {letter : Char} (h : letter ∈ radixLetters r)
    (cs : List Char) : splitRadix ('0' :: letter :: cs) = (r, cs) := by
  rw [splitRadix, radixOfLetter?_eq_some_iff.mpr h]

theorem splitRadix_cases (cs : List Char) :
    (∃ r letter digits, cs = '0' :: letter :: digits ∧ letter ∈ radixLetters r ∧
      splitRadix cs = (r, digits)) ∨ splitRadix cs = (.decimal, cs) := by
  unfold splitRadix
  split
  · rename_i letter digits
    split
    · rename_i r hr
      exact .inl ⟨r, letter, digits, rfl, radixOfLetter?_eq_some_iff.mp hr, rfl⟩
    · exact .inr rfl
  · exact .inr rfl

theorem not_numeral_of_letter {r : Radix} {first letter : Char} {cs : List Char} {ds : List Nat}
    (h : letter ∈ radixLetters r) : ¬ Numeral .decimal (first :: letter :: cs) ds := by
  have hletter : letter ≠ '_' ∧ Radix.decimal.digit? letter = none := by
    have every : (radixLetters r).all
        (fun c => c != '_' && Radix.decimal.digit? c == none) = true := by
      cases r <;> decide
    simpa using List.all_eq_true.mp every letter h
  intro hnumeral
  cases hnumeral with
  | cons _ rest =>
      obtain ⟨c, tail, d, hcons, hd⟩ := rest.head
      obtain ⟨rfl, -⟩ := List.cons.inj hcons
      rw [hd.digit?_eq] at hletter
      cases hletter.2
  | separated _ _ => exact hletter.1 rfl

theorem splitRadix_of_numeral {cs : List Char} {ds : List Nat} (h : Numeral .decimal cs ds) :
    splitRadix cs = (.decimal, cs) := by
  rcases splitRadix_cases cs with ⟨r, letter, digits, rfl, hletter, -⟩ | hsplit
  · exact absurd h (not_numeral_of_letter hletter)
  · exact hsplit

/-! ## Sign and blanks -/

theorem readUnsigned_of_splitRadix {cs digits : List Char} {r : Radix}
    (hminus : cs.head? ≠ some '-') (hsplit : splitRadix cs = (r, digits)) :
    readUnsigned cs = readDigits r digits := by
  rw [readUnsigned, if_neg (by simpa using hminus), hsplit]

theorem Spells.head?_ne_of_isSign {cs : List Char} {n : Nat} (h : Spells cs n) {c : Char}
    (hc : isSign c = true) : cs.head? ≠ some c := by
  obtain ⟨first, rest, d, rfl, hd⟩ := h.head
  intro hfirst
  obtain rfl := Option.some.inj hfirst
  rw [not_isSign_of_isDigit hd] at hc
  cases hc

theorem readUnsigned_eq_ok_iff {cs : List Char} {w : Word} :
    readUnsigned cs = .ok w ↔ Spells cs w.toNat := by
  constructor
  · intro h
    have hminus : cs.head? ≠ some '-' := by
      intro hminus
      rw [readUnsigned, if_pos (by simpa using hminus)] at h
      cases h
    rcases splitRadix_cases cs with ⟨r, letter, digits, rfl, hletter, hsplit⟩ | hsplit
    · rw [readUnsigned_of_splitRadix hminus hsplit] at h
      obtain ⟨ds, hnumeral, hvalue⟩ := readDigits_eq_ok_iff.mp h
      rw [hvalue]
      exact .prefixed hletter hnumeral
    · rw [readUnsigned_of_splitRadix hminus hsplit] at h
      obtain ⟨ds, hnumeral, hvalue⟩ := readDigits_eq_ok_iff.mp h
      rw [hvalue]
      exact .decimal hnumeral
  · intro h
    have hminus := h.head?_ne_of_isSign (c := '-') rfl
    generalize hn : w.toNat = n at h
    cases h with
    | decimal hnumeral =>
        rw [readUnsigned_of_splitRadix hminus (splitRadix_of_numeral hnumeral)]
        exact readDigits_eq_ok_iff.mpr ⟨_, hnumeral, hn⟩
    | prefixed hletter hnumeral =>
        rw [readUnsigned_of_splitRadix hminus (splitRadix_of_letter hletter _)]
        exact readDigits_eq_ok_iff.mpr ⟨_, hnumeral, hn⟩

theorem dropPlus_spec (cs : List Char) :
    ∃ sign, cs = sign ++ dropPlus cs ∧ (sign = [] ∨ sign = ['+']) := by
  unfold dropPlus
  split
  · exact ⟨['+'], rfl, .inr rfl⟩
  · exact ⟨[], rfl, .inl rfl⟩

theorem Spells.dropPlus_eq {cs sign : List Char} {n : Nat} (h : Spells cs n)
    (hsign : sign = [] ∨ sign = ['+']) : dropPlus (sign ++ cs) = cs := by
  rcases hsign with rfl | rfl
  · rw [List.nil_append]
    unfold dropPlus
    split
    · exact absurd rfl (h.head?_ne_of_isSign (c := '+') rfl)
    · rfl
  · rfl

theorem Spells.trim_eq {cs sign : List Char} {n : Nat} (h : Spells cs n)
    (hsign : sign = [] ∨ sign = ['+']) : trim (sign ++ cs) = sign ++ cs := by
  apply Text.trim_eq_self
  · intro c hc
    rcases hsign with rfl | rfl
    · obtain ⟨first, rest, d, rfl, hd⟩ := h.head
      obtain rfl := Option.some.inj hc
      exact not_isBlank_of_isDigit hd
    · obtain rfl := Option.some.inj hc
      decide
  · intro c hc
    obtain ⟨r, last, d, hlast, hd⟩ := h.getLast
    rw [List.getLast?_append, hlast] at hc
    obtain rfl := Option.some.inj hc
    exact not_isBlank_of_isDigit hd

theorem read_eq_ok_iff {cs : List Char} {w : Word} : read cs = .ok w ↔ Denotes cs w.toNat := by
  rw [read, readUnsigned_eq_ok_iff]
  constructor
  · intro h
    obtain ⟨front, back, hcs, hfront, hback⟩ := Text.exists_eq_append_trim cs
    obtain ⟨sign, htrim, hsign⟩ := dropPlus_spec (trim cs)
    rw [htrim] at hcs
    exact ⟨front, sign, _, back, hcs, hfront, hback, hsign, h⟩
  · rintro ⟨front, sign, literal, back, rfl, hfront, hback, hsign, h⟩
    rw [Text.trim_append_right hback, Text.trim_append_left hfront, h.trim_eq hsign,
      h.dropPlus_eq hsign]
    exact h

end Literal

/-- The words read are the numbers denoted, as far as they fit into a word. -/
theorem Word.parse_eq_ok_iff (input : String) (w : Word) :
    Word.parse input = .ok w ↔
      ∃ n, Literal.Denotes input.toList n ∧ n ≤ 65535 ∧ w.toNat = n := by
  have hparse : Word.parse input = .ok w ↔ Literal.read input.toList = .ok w := by
    unfold Word.parse
    split
    · rename_i read hread
      rw [hread, Except.ok.injEq, Except.ok.injEq]
    · rename_i fault hread
      rw [hread]
      constructor
      · intro h; cases h
      · intro h; cases h
  rw [hparse, Literal.read_eq_ok_iff]
  constructor
  · intro h
    exact ⟨w.toNat, h, Nat.le_of_lt_succ w.toNat_lt, rfl⟩
  · rintro ⟨n, h, -, rfl⟩
    exact h

example : Word.parse " +0X0_1f\u00A0" = .ok 31 := by decide

end BusStatus
