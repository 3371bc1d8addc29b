import BusStatus.Proofs.Text.Unsigned
import Mathlib.Data.List.Forall2

/-!
# What the written digits of a number stand for

The digits in which a number is written stand for the number again.
-/

namespace BusStatus.Text.Radix

variable (r : Radix)

theorem isDigit_digitChar {d : Nat} (h : d < r.base) : r.IsDigit (digitChar d) d :=
  digit?_eq_some_iff.mp (r.digit?_digitChar h)

theorem positional_concat (ds : List Nat) (d : Nat) :
    r.positional (ds ++ [d]) = r.base * r.positional ds + d := by
  rw [positional, List.reverse_append, List.reverse_singleton, List.singleton_append,
    Nat.ofDigits_cons, Nat.add_comm, positional]

theorem IsDigit.ne {r : Radix} {c e : Char} {d : Nat} (h : r.IsDigit c d) (he : r.digit? e = none) :
    c ≠ e := by
  rintro rfl
  rw [h.digit?_eq] at he
  cases he

theorem not_mem_digits {e : Char} (he : r.digit? e = none) (n : Nat) : e ∉ r.digits n := by
  intro h
  obtain ⟨d, hd, rfl⟩ := exists_of_mem_digits h
  exact (r.isDigit_digitChar hd).ne he rfl

theorem not_mem_fixedDigits {e : Char} (he : r.digit? e = none) (width n : Nat) :
    e ∉ r.fixedDigits width n := by
  intro h
  obtain ⟨d, hd, rfl⟩ := exists_of_mem_fixedDigits h
  exact (r.isDigit_digitChar hd).ne he rfl

theorem mapM_digit? {cs : List Char} {ds : List Nat} (h : List.Forall₂ r.IsDigit cs ds) :
    cs.mapM r.digit? = some ds := by
  induction h with
  | nil => rfl
  | cons hd _ ih => rw [List.mapM_cons, hd.digit?_eq, ih]; rfl

/-! ## All digits of a number -/

theorem exists_digits (n : Nat) :
    ∃ ds, List.Forall₂ r.IsDigit (r.digits n) ds ∧ r.positional ds = n := by
  induction n using digits.induct (r := r) with
  | case1 n hn =>
      rw [digits, if_pos hn]
      exact ⟨[n], .cons (r.isDigit_digitChar hn) .nil, by simp [positional_cons, positional_nil]⟩
  | case2 n hn ih =>
      obtain ⟨ds, hds, hvalue⟩ := ih
      rw [digits, if_neg hn]
      refine ⟨ds ++ [n % r.base], ?_, ?_⟩
      · exact List.rel_append hds (.cons (r.isDigit_digitChar (r.mod_base_lt n)) .nil)
      · rw [positional_concat, hvalue, Nat.div_add_mod]

theorem digits_injective {m n : Nat} (h : r.digits m = r.digits n) : m = n := by
  obtain ⟨ds, hds, rfl⟩ := r.exists_digits m
  obtain ⟨es, hes, rfl⟩ := r.exists_digits n
  have hsame : some ds = some es := by
    rw [← r.mapM_digit? hds, ← r.mapM_digit? hes, h]
  rw [Option.some.inj hsame]

theorem digit?_zero : r.digit? '0' = some 0 := by
  cases r <;> rfl

theorem exists_digits_eq_cons (n : Nat) :
    ∃ c cs, r.digits n = c :: cs ∧ (c = '0' → n = 0) := by
  induction n using digits.induct (r := r) with
  | case1 n hn =>
      rw [digits, if_pos hn]
      refine ⟨_, _, rfl, fun hzero => ?_⟩
      have hread := r.digit?_digitChar hn
      rw [hzero, digit?_zero] at hread
      exact (Option.some.inj hread).symm
  | case2 n hn ih =>
      obtain ⟨c, cs, hcons, hzero⟩ := ih
      rw [digits, if_neg hn, hcons]
      refine ⟨c, _, rfl, fun hc => ?_⟩
      have hquotient : n / r.base = 0 := hzero hc
      exact absurd ((Nat.div_eq_zero_iff_lt r.base_pos).mp hquotient) hn

theorem IsDigit.eq_zero {r : Radix} {c : Char} (h : r.IsDigit c 0) : c = '0' := by
  obtain ⟨-, hlower | hupper⟩ := h
  · exact (Option.some.inj hlower).symm
  · exact (Option.some.inj hupper).symm

theorem digits_zero : r.digits 0 = ['0'] := by
  rw [digits, if_pos r.base_pos]
  rfl

theorem exists_padded (zeros n : Nat) :
    ∃ ds, List.Forall₂ r.IsDigit (List.replicate zeros '0' ++ r.digits n) ds ∧
      r.positional ds = n := by
  induction zeros with
  | zero => exact r.exists_digits n
  | succ zeros ih =>
      obtain ⟨ds, hds, hvalue⟩ := ih
      refine ⟨0 :: ds, .cons (digit?_eq_some_iff.mp r.digit?_zero) hds, ?_⟩
      rw [positional_cons, Nat.zero_mul, Nat.zero_add, hvalue]

/-! ## The digits of the standard library -/

theorem digitChar_eq {d : Nat} (h : d < 16) : digitChar d = Nat.digitChar d := by
  have every : ∀ e ∈ List.range 16, digitChar e = Nat.digitChar e := by decide
  exact every d (List.mem_range.mpr h)

theorem digits_eq_toDigits (n : Nat) : r.digits n = Nat.toDigits r.base n := by
  have hbase : 1 < r.base := r.two_le_base
  induction n using digits.induct (r := r) with
  | case1 n hn =>
      rw [digits, if_pos hn, Nat.toDigits_of_lt_base hn,
        digitChar_eq (Nat.lt_of_lt_of_le hn r.base_le)]
  | case2 n hn ih =>
      rw [digits, if_neg hn, ih, Nat.toDigits_of_base_le hbase (Nat.le_of_not_lt hn),
        digitChar_eq (Nat.lt_of_lt_of_le (r.mod_base_lt n) r.base_le)]

theorem isDigit_of_mem_digits {n : Nat} {c : Char} (h : c ∈ decimal.digits n) : c.isDigit := by
  rw [digits_eq_toDigits] at h
  exact Nat.isDigit_of_mem_toDigits (by decide) (by decide) h

/-! ## The lowest places of a number -/

theorem exists_fixedDigits (width n : Nat) :
    ∃ ds, List.Forall₂ r.IsDigit (r.fixedDigits width n) ds ∧
      r.positional ds = n % r.base ^ width := by
  induction width generalizing n with
  | zero => exact ⟨[], .nil, by rw [positional_nil, Nat.pow_zero, Nat.mod_one]⟩
  | succ width ih =>
      obtain ⟨ds, hds, hvalue⟩ := ih (n / r.base)
      refine ⟨ds ++ [n % r.base], ?_, ?_⟩
      · exact List.rel_append hds (.cons (r.isDigit_digitChar (r.mod_base_lt n)) .nil)
      · rw [positional_concat, hvalue, Nat.pow_succ', Nat.mod_mul, Nat.add_comm]

end BusStatus.Text.Radix
