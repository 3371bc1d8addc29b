import BusStatus.Proofs.Text.OneLine
import BusStatus.Proofs.Word.Decimal

/-!
# Written words are read back

Both written forms of a word are literals of it, and neither holds a space.
-/

namespace BusStatus

open Text (Radix)

namespace Word

/-! ## Decimal -/

theorem toList_decimal (w : Word) : w.decimal.toList = Radix.decimal.digits w.toNat :=
  String.toList_ofList

theorem parse_decimal (w : Word) : Word.parse w.decimal = .ok w := by
  rw [parse_eq_ok_iff_read, toList_decimal, Literal.read_digits_eq_ok_iff]

theorem space_not_mem_decimal (w : Word) : ' ' ∉ w.decimal.toList := by
  rw [toList_decimal]
  exact Radix.decimal.not_mem_digits rfl w.toNat

/-! ## Hexadecimal -/

theorem toList_hex (w : Word) :
    w.hex.toList = '0' :: 'x' :: Radix.hexadecimal.fixedDigits 4 w.toNat :=
  String.toList_ofList

theorem length_toList_hex (w : Word) : w.hex.toList.length = 6 := by
  rw [toList_hex, List.length_cons, List.length_cons, Radix.length_fixedDigits]

theorem spells_hex (w : Word) : Literal.Spells w.hex.toList w.toNat := by
  obtain ⟨ds, hds, hvalue⟩ := Radix.hexadecimal.exists_fixedDigits 4 w.toNat
  have hne : Radix.hexadecimal.fixedDigits 4 w.toNat ≠ [] := by
    rw [← List.length_pos_iff, Radix.length_fixedDigits]
    exact Nat.zero_lt_succ 3
  have hfits : w.toNat % Radix.hexadecimal.base ^ 4 = w.toNat := Nat.mod_eq_of_lt w.toNat_lt
  have hspells : Literal.Spells (_ :: 'x' :: _) (Radix.hexadecimal.positional ds) :=
    .prefixed (r := .hexadecimal) (by decide) (.of_digits hds hne)
  rwa [hvalue, hfits, ← toList_hex] at hspells

theorem parse_hex (w : Word) : Word.parse w.hex = .ok w := by
  rw [parse_eq_ok_iff_read, Literal.read_eq_ok_iff]
  refine ⟨[], [], w.hex.toList, [], ?_, by simp, by simp, .inl rfl, w.spells_hex⟩
  rw [List.nil_append, List.nil_append, List.append_nil]

theorem not_mem_hex {c : Char} (hx : c ≠ 'x') (hc : Radix.hexadecimal.digit? c = none) (w : Word) :
    c ∉ w.hex.toList := by
  have hzero : c ≠ '0' := by
    rintro rfl
    cases hc
  rw [toList_hex, List.mem_cons, List.mem_cons, not_or, not_or]
  exact ⟨hzero, hx, Radix.hexadecimal.not_mem_fixedDigits hc 4 w.toNat⟩

theorem space_not_mem_hex (w : Word) : ' ' ∉ w.hex.toList :=
  w.not_mem_hex (by decide) rfl

theorem oneLine_hex (w : Word) : Text.OneLine w.hex :=
  w.not_mem_hex (by decide) rfl

end Word

end BusStatus
