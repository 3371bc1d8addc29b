import BusStatus.Proofs.Text.Digits
import BusStatus.Proofs.Word.Literal

/-!
# Reading an integer in plain decimal

An integer in plain decimal is read as a word exactly when it is the value of one.
-/

namespace BusStatus

open Text (Radix)

theorem Word.parse_eq_ok_iff_read {input : String} {w : Word} :
    Word.parse input = .ok w ↔ Literal.read input.toList = .ok w := by
  unfold Word.parse
  split
  · rename_i read hread
    rw [hread, Except.ok.injEq, Except.ok.injEq]
  · rename_i fault hread
    rw [hread]
    constructor
    · intro h; cases h
    · intro h; cases h

namespace Literal

/-! ## Numerals without separators -/

theorem Numeral.of_digits {r : Radix} {cs : List Char} {ds : List Nat}
    (h : List.Forall₂ r.IsDigit cs ds) (hcs : cs ≠ []) : Numeral r cs ds := by
  induction h with
  | nil => exact absurd rfl hcs
  | cons hd hds ih =>
      cases hds with
      | nil => exact .single hd
      | cons hsecond hrest => exact .cons hd (ih (List.cons_ne_nil _ _))

theorem Numeral.unique {r : Radix} {cs : List Char} {ds es : List Nat} (hds : Numeral r cs ds)
    (hes : Numeral r cs es) : ds = es := by
  have hfirst := r.mapM_digit? (numeral_iff.mp hds).2
  have hsecond := r.mapM_digit? (numeral_iff.mp hes).2
  exact Option.some.inj (hfirst.symm.trans hsecond)

theorem exists_numeral_digits (r : Radix) (n : Nat) :
    ∃ ds, Numeral r (r.digits n) ds ∧ r.positional ds = n := by
  obtain ⟨ds, hds, hvalue⟩ := r.exists_digits n
  obtain ⟨c, cs, hcons, -⟩ := r.exists_digits_eq_cons n
  exact ⟨ds, .of_digits hds (by rw [hcons]; exact List.cons_ne_nil c cs), hvalue⟩

/-! ## Plain decimal -/

theorem read_digits_eq_ok_iff {n : Nat} {w : Word} :
    read (Radix.decimal.digits n) = .ok w ↔ w.toNat = n := by
  obtain ⟨ds, hnumeral, rfl⟩ := exists_numeral_digits .decimal n
  have hspells : Spells (Radix.decimal.digits (Radix.decimal.positional ds)) _ := .decimal hnumeral
  have htrim := hspells.trim_eq (.inl rfl)
  have hplus := hspells.dropPlus_eq (.inl rfl)
  rw [List.nil_append] at htrim hplus
  rw [read, htrim, hplus, readUnsigned_of_splitRadix (hspells.head?_ne_of_isSign rfl)
    (splitRadix_of_numeral hnumeral), readDigits_eq_ok_iff]
  constructor
  · rintro ⟨es, hes, hw⟩
    rw [hw, hes.unique hnumeral]
  · intro hw
    exact ⟨ds, hnumeral, hw⟩

theorem read_minus_digits (n : Nat) : read ('-' :: Radix.decimal.digits n) = .error .negative := by
  obtain ⟨ds, hnumeral, -⟩ := exists_numeral_digits .decimal n
  have htrim : Text.trim ('-' :: Radix.decimal.digits n) = '-' :: Radix.decimal.digits n := by
    apply Text.trim_eq_self
    · intro c hc
      obtain rfl := Option.some.inj hc
      decide
    · intro c hc
      obtain ⟨last, d, hlast, hd⟩ := hnumeral.getLast
      rw [List.getLast?_cons_of_ne_nil hnumeral.ne_nil, hlast] at hc
      obtain rfl := Option.some.inj hc
      exact not_isBlank_of_isDigit hd
  rw [read, htrim]
  rfl

end Literal

/-! ## Integers -/

namespace Text

theorem toList_toString_ofNat (n : Nat) :
    (toString (Int.ofNat n)).toList = Radix.decimal.digits n := by
  rw [Radix.digits_eq_toDigits]
  exact String.toList_ofList

theorem toList_toString_negSucc (n : Nat) :
    (toString (Int.negSucc n)).toList = '-' :: Radix.decimal.digits (n + 1) := by
  have hsign : toString (Int.negSucc n) = "-" ++ String.ofList (Nat.toDigits 10 (n + 1)) := rfl
  rw [hsign, Radix.digits_eq_toDigits, String.toList_append]
  exact congrArg (List.cons '-') String.toList_ofList

end Text

theorem Word.parse_toString_eq_ok_iff (z : Int) (w : Word) :
    Word.parse (toString z) = .ok w ↔ (w.toNat : Int) = z := by
  cases z with
  | ofNat n =>
      have hread := Literal.read_digits_eq_ok_iff (n := n) (w := w)
      rw [← Text.toList_toString_ofNat] at hread
      rw [Word.parse_eq_ok_iff_read, hread]
      exact Int.ofNat_inj.symm
  | negSucc n =>
      rw [Word.parse_eq_ok_iff_read, Text.toList_toString_negSucc, Literal.read_minus_digits]
      constructor
      · intro h; cases h
      · intro h
        have hnegative := Int.negSucc_lt_zero n
        omega

theorem Word.exists_parse_toString_iff (z : Int) :
    (∃ w, Word.parse (toString z) = .ok w) ↔ 0 ≤ z ∧ z ≤ 65535 := by
  simp only [Word.parse_toString_eq_ok_iff]
  constructor
  · rintro ⟨w, rfl⟩
    have hlt : w.toNat < 65536 := w.toNat_lt
    omega
  · rintro ⟨hlow, hhigh⟩
    have hlt : z.toNat < UInt16.size := by
      rw [UInt16.size]
      omega
    exact ⟨UInt16.ofNat z.toNat, by rw [UInt16.toNat_ofNat_of_lt' hlt, Int.toNat_of_nonneg hlow]⟩

end BusStatus
