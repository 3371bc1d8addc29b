/-!
# Digits of a radix

The four radices in which a number may be written. A digit is read in either case and written in
lower case. `digits` writes a number without leading zeros, `fixedDigits` writes its lowest places.
-/

namespace BusStatus.Text

/-- A radix in which numbers are read or written. -/
inductive Radix where
  | binary
  | octal
  | decimal
  | hexadecimal
deriving DecidableEq, Repr

namespace Radix

def base : Radix → Nat
  | .binary => 2
  | .octal => 8
  | .decimal => 10
  | .hexadecimal => 16

theorem two_le_base (r : Radix) : 2 ≤ r.base := by
  cases r <;> decide

theorem base_pos (r : Radix) : 0 < r.base :=
  Nat.lt_of_lt_of_le Nat.two_pos r.two_le_base

theorem mod_base_lt (r : Radix) (n : Nat) : n % r.base < r.base :=
  Nat.mod_lt n r.base_pos

theorem base_le (r : Radix) : r.base ≤ 16 := by
  cases r <;> decide

/-! ## Single digits -/

/-- The value of a character as a hexadecimal digit. -/
def digitValue? (c : Char) : Option Nat :=
  if '0' ≤ c ∧ c ≤ '9' then some (c.toNat - 48)
  else if 'a' ≤ c ∧ c ≤ 'f' then some (c.toNat - 87)
  else if 'A' ≤ c ∧ c ≤ 'F' then some (c.toNat - 55)
  else none

/-- The value of a character as a digit of this radix. -/
def digit? (r : Radix) (c : Char) : Option Nat :=
  (digitValue? c).filter (· < r.base)

/-- The character that writes a digit below sixteen. -/
def digitChar (d : Nat) : Char :=
  if d < 10 then Char.ofNat (d + 48) else Char.ofNat (d + 87)

/-- A written digit is read back, in every radix that has it. -/
theorem digit?_digitChar (r : Radix) {d : Nat} (h : d < r.base) : r.digit? (digitChar d) = some d := by
  have every : ∀ e ∈ List.range 16, digitValue? (digitChar e) = some e := by decide
  have hd : d < 16 := Nat.lt_of_lt_of_le h r.base_le
  simp [digit?, every d (List.mem_range.mpr hd), h]

/-! ## Numbers -/

/-- The digits of a number, highest first and without leading zeros. -/
def digits (r : Radix) (n : Nat) : List Char :=
  if n < r.base then [digitChar n] else digits r (n / r.base) ++ [digitChar (n % r.base)]
termination_by n
decreasing_by
  have hbase := r.two_le_base
  exact Nat.div_lt_self (by omega) hbase

/-- The lowest places of a number, exactly as many as the width says. -/
def fixedDigits (r : Radix) : Nat → Nat → List Char
  | 0, _ => []
  | width + 1, n => fixedDigits r width (n / r.base) ++ [digitChar (n % r.base)]

theorem length_fixedDigits (r : Radix) (width n : Nat) : (r.fixedDigits width n).length = width := by
  induction width generalizing n with
  | zero => rfl
  | succ width ih => simp [fixedDigits, ih]

/-- Every place of a number holds a digit of the radix. -/
theorem exists_of_mem_fixedDigits {r : Radix} {width n : Nat} {c : Char}
    (h : c ∈ r.fixedDigits width n) : ∃ d < r.base, c = digitChar d := by
  induction width generalizing n with
  | zero => simp [fixedDigits] at h
  | succ width ih =>
      rw [fixedDigits, List.mem_append, List.mem_singleton] at h
      rcases h with h | h
      · exact ih h
      · exact ⟨n % r.base, r.mod_base_lt n, h⟩

theorem exists_of_mem_digits {r : Radix} {n : Nat} {c : Char} (h : c ∈ r.digits n) :
    ∃ d < r.base, c = digitChar d := by
  induction n using digits.induct (r := r) with
  | case1 n hn =>
      rw [digits, if_pos hn, List.mem_singleton] at h
      exact ⟨n, hn, h⟩
  | case2 n hn ih =>
      rw [digits, if_neg hn, List.mem_append, List.mem_singleton] at h
      rcases h with h | h
      · exact ih h
      · exact ⟨n % r.base, r.mod_base_lt n, h⟩

end Radix

def decimal (n : Nat) : String :=
  String.ofList (Radix.decimal.digits n)

end BusStatus.Text
