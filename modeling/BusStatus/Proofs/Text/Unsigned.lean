import BusStatus.Text.Unsigned
import Mathlib.Data.Nat.Digits.Defs

/-!
# What the digits of a number mean

A value once too large stays too large, so it does not matter that the size is checked at each digit.
-/

namespace BusStatus.Text

namespace Radix

/-! ## Digits -/

def lowerDigits : List Char :=
  ['0', '1', '2', '3', '4', '5', '6', '7', '8', '9', 'a', 'b', 'c', 'd', 'e', 'f']

def upperDigits : List Char :=
  ['0', '1', '2', '3', '4', '5', '6', '7', '8', '9', 'A', 'B', 'C', 'D', 'E', 'F']

/-- The character is a digit of the radix with this value. -/
def IsDigit (r : Radix) (c : Char) (d : Nat) : Prop :=
  d < r.base ∧ (lowerDigits[d]? = some c ∨ upperDigits[d]? = some c)

theorem IsDigit.mem {r : Radix} {c : Char} {d : Nat} (h : r.IsDigit c d) :
    c ∈ lowerDigits ++ upperDigits := by
  obtain ⟨-, hlower | hupper⟩ := h
  · exact List.mem_append_left _ (List.mem_of_getElem? hlower)
  · exact List.mem_append_right _ (List.mem_of_getElem? hupper)

theorem IsDigit.all {r : Radix} {c : Char} {d : Nat} (h : r.IsDigit c d) {p : Char → Bool}
    (every : (lowerDigits ++ upperDigits).all p = true) : p c = true :=
  List.all_eq_true.mp every c h.mem

theorem digitValue?_of_lowerDigits {c : Char} {d : Nat} (h : lowerDigits[d]? = some c) :
    digitValue? c = some d := by
  have every : ∀ p ∈ lowerDigits.zipIdx, digitValue? p.1 = some p.2 := by decide
  exact every (c, d) (List.mem_zipIdx_iff_getElem?.mpr h)

theorem digitValue?_of_upperDigits {c : Char} {d : Nat} (h : upperDigits[d]? = some c) :
    digitValue? c = some d := by
  have every : ∀ p ∈ upperDigits.zipIdx, digitValue? p.1 = some p.2 := by decide
  exact every (c, d) (List.mem_zipIdx_iff_getElem?.mpr h)

theorem getElem?_of_run (xs : List Char) (place width : Nat) {code : Nat}
    (every : ∀ k < width, xs[place + k]? = some (Char.ofNat (code + k))) {c : Char} {d : Nat}
    (hfrom : code ≤ c.toNat) (hto : c.toNat < code + width) (hd : c.toNat + place = d + code) :
    xs[d]? = some c := by
  have hplace : d = place + (c.toNat - code) := by omega
  rw [hplace, every _ (by omega), Nat.add_sub_cancel' hfrom, Char.ofNat_toNat]

theorem lowerDigits_or_upperDigits {c : Char} {d : Nat} (h : digitValue? c = some d) :
    lowerDigits[d]? = some c ∨ upperDigits[d]? = some c := by
  have toNat_le {a b : Char} (hab : a ≤ b) : a.toNat ≤ b.toNat := hab
  unfold digitValue? at h
  split at h
  · rename_i hc
    have hfrom : 48 ≤ c.toNat := toNat_le hc.1
    have hto : c.toNat ≤ 57 := toNat_le hc.2
    have hd := Option.some.inj h
    exact .inl (getElem?_of_run lowerDigits 0 10 (by decide) hfrom (by omega) (by omega))
  split at h
  · rename_i hc
    have hfrom : 97 ≤ c.toNat := toNat_le hc.1
    have hto : c.toNat ≤ 102 := toNat_le hc.2
    have hd := Option.some.inj h
    exact .inl (getElem?_of_run lowerDigits 10 6 (by decide) hfrom (by omega) (by omega))
  split at h
  · rename_i hc
    have hfrom : 65 ≤ c.toNat := toNat_le hc.1
    have hto : c.toNat ≤ 70 := toNat_le hc.2
    have hd := Option.some.inj h
    exact .inr (getElem?_of_run upperDigits 10 6 (by decide) hfrom (by omega) (by omega))
  · cases h

theorem digit?_eq_some_iff {r : Radix} {c : Char} {d : Nat} :
    r.digit? c = some d ↔ r.IsDigit c d := by
  rw [digit?, Option.filter_eq_some_iff, IsDigit, and_comm, decide_eq_true_iff]
  refine and_congr_right fun _ => ⟨lowerDigits_or_upperDigits, ?_⟩
  rintro (hlower | hupper)
  · exact digitValue?_of_lowerDigits hlower
  · exact digitValue?_of_upperDigits hupper

theorem IsDigit.digit?_eq {r : Radix} {c : Char} {d : Nat} (h : r.IsDigit c d) :
    r.digit? c = some d :=
  digit?_eq_some_iff.mpr h

/-! ## The value of digits -/

/-- The value of a list of digits, highest first. -/
def positional (r : Radix) (ds : List Nat) : Nat :=
  Nat.ofDigits r.base ds.reverse

theorem positional_nil (r : Radix) : r.positional [] = 0 := rfl

theorem positional_cons (r : Radix) (d : Nat) (ds : List Nat) :
    r.positional (d :: ds) = d * r.base ^ ds.length + r.positional ds := by
  rw [positional, List.reverse_cons, Nat.ofDigits_append, Nat.ofDigits_singleton, List.length_reverse,
    Nat.mul_comm, Nat.add_comm, positional]

end Radix

namespace Unsigned

/-! ## Reading the digits -/

theorem value_behind (r : Radix) (value d : Nat) (ds : List Nat) :
    value * r.base ^ (d :: ds).length + r.positional (d :: ds) =
      (value * r.base + d) * r.base ^ ds.length + r.positional ds := by
  rw [Radix.positional_cons, List.length_cons, Nat.pow_succ', ← Nat.mul_assoc, ← Nat.add_assoc,
    ← Nat.add_mul]

theorem le_value_behind (r : Radix) (value : Nat) (ds : List Nat) :
    value ≤ value * r.base ^ ds.length + r.positional ds := by
  have hbase := r.two_le_base
  have hpow : 0 < r.base ^ ds.length := Nat.pow_pos (by omega)
  exact Nat.le_trans (Nat.le_mul_of_pos_right value hpow) (Nat.le_add_right _ _)

theorem readDigits_cons_of_isDigit {r : Radix} {c : Char} {d : Nat} (h : r.IsDigit c d)
    (value : Nat) (cs : List Char) :
    readDigits r value (c :: cs) =
      if value * r.base + d < limit then readDigits r (value * r.base + d) cs
      else .error .tooLarge := by
  rw [readDigits, h.digit?_eq]

theorem readDigits_eq_ok_iff {r : Radix} {value : Nat} {cs : List Char} {n : Nat}
    (hvalue : value < limit) :
    readDigits r value cs = .ok n ↔ ∃ ds, List.Forall₂ r.IsDigit cs ds ∧
      n = value * r.base ^ ds.length + r.positional ds ∧ n < limit := by
  induction cs generalizing value with
  | nil =>
      constructor
      · intro h
        obtain rfl := Except.ok.inj h
        exact ⟨[], .nil, by simp [Radix.positional_nil], hvalue⟩
      · rintro ⟨ds, hds, rfl, -⟩
        cases hds
        simp [readDigits, Radix.positional_nil]
  | cons c cs ih =>
      constructor
      · intro h
        cases hc : r.digit? c with
        | none => rw [readDigits, hc] at h; cases h
        | some d =>
            have hd := Radix.digit?_eq_some_iff.mp hc
            rw [readDigits_cons_of_isDigit hd] at h
            split at h
            · rename_i hlt
              obtain ⟨ds, hds, hn, hlimit⟩ := (ih hlt).mp h
              exact ⟨d :: ds, .cons hd hds, by rw [value_behind, hn], hlimit⟩
            · cases h
      · rintro ⟨ds, hds, hn, hlimit⟩
        cases hds with
        | @cons _ d _ ds hd hds =>
            rw [value_behind] at hn
            have hle := le_value_behind r (value * r.base + d) ds
            have hlt : value * r.base + d < limit := by omega
            rw [readDigits_cons_of_isDigit hd, if_pos hlt]
            exact (ih hlt).mpr ⟨ds, hds, hn, hlimit⟩

theorem readDigits_zero_eq_ok_iff {r : Radix} {cs : List Char} {n : Nat} :
    readDigits r 0 cs = .ok n ↔
      ∃ ds, List.Forall₂ r.IsDigit cs ds ∧ n = r.positional ds ∧ n < limit := by
  have hzero : 0 < limit := by decide
  simp only [readDigits_eq_ok_iff hzero, Nat.zero_mul, Nat.zero_add]

/-! ## Refusing digits -/

theorem limit_pos : 0 < limit := by decide

/-- The first digits push the value beyond what 64 bits hold. -/
def Overflows (r : Radix) (value : Nat) (cs : List Char) : Prop :=
  ∃ front ds, front <+: cs ∧ List.Forall₂ r.IsDigit front ds ∧
    limit ≤ value * r.base ^ ds.length + r.positional ds

theorem overflows_of_le {r : Radix} {value : Nat} (h : limit ≤ value) (cs : List Char) :
    Overflows r value cs :=
  ⟨[], [], List.nil_prefix, .nil, by simpa [Radix.positional_nil] using h⟩

theorem Overflows.exists_cons {r : Radix} {value : Nat} {cs : List Char} (h : Overflows r value cs)
    (hvalue : value < limit) :
    ∃ c rest d, cs = c :: rest ∧ r.IsDigit c d ∧ Overflows r (value * r.base + d) rest := by
  obtain ⟨front, ds, hfront, hds, hlimit⟩ := h
  cases hds with
  | nil =>
      rw [List.length_nil, Nat.pow_zero, Nat.mul_one, Radix.positional_nil, Nat.add_zero] at hlimit
      omega
  | @cons c d front ds hd hds =>
      obtain ⟨back, rfl⟩ := hfront
      rw [value_behind] at hlimit
      exact ⟨c, front ++ back, d, rfl, hd, front, ds, List.prefix_append front back, hds, hlimit⟩

theorem overflows_cons_iff {r : Radix} {value : Nat} (hvalue : value < limit) {c : Char} {d : Nat}
    (h : r.IsDigit c d) (cs : List Char) :
    Overflows r value (c :: cs) ↔ Overflows r (value * r.base + d) cs := by
  constructor
  · intro hover
    obtain ⟨c', rest, d', hcons, hd', hrest⟩ := hover.exists_cons hvalue
    obtain ⟨rfl, rfl⟩ := List.cons.inj hcons
    obtain rfl : d = d' := Option.some.inj (h.digit?_eq.symm.trans hd'.digit?_eq)
    exact hrest
  · rintro ⟨front, ds, hfront, hds, hlimit⟩
    refine ⟨c :: front, d :: ds, List.cons_prefix_cons.mpr ⟨rfl, hfront⟩, .cons h hds, ?_⟩
    rwa [value_behind]

theorem readDigits_eq_tooLarge_iff {r : Radix} {value : Nat} {cs : List Char}
    (hvalue : value < limit) :
    readDigits r value cs = .error .tooLarge ↔ Overflows r value cs := by
  induction cs generalizing value with
  | nil =>
      constructor
      · intro h; cases h
      · intro h
        obtain ⟨c, rest, d, hcons, -⟩ := h.exists_cons hvalue
        cases hcons
  | cons c cs ih =>
      cases hc : r.digit? c with
      | none =>
          constructor
          · intro h; rw [readDigits, hc] at h; cases h
          · intro h
            obtain ⟨c', rest, d, hcons, hd, -⟩ := h.exists_cons hvalue
            obtain ⟨rfl, -⟩ := List.cons.inj hcons
            rw [hd.digit?_eq] at hc
            cases hc
      | some d =>
          have hd := Radix.digit?_eq_some_iff.mp hc
          rw [readDigits_cons_of_isDigit hd, overflows_cons_iff hvalue hd]
          split
          · rename_i hlt
            exact ih hlt
          · rename_i hge
            exact ⟨fun _ => overflows_of_le (Nat.le_of_not_lt hge) cs, fun _ => rfl⟩

theorem readDigits_eq_invalidDigit_iff {r : Radix} {value : Nat} {cs : List Char}
    (hvalue : value < limit) :
    readDigits r value cs = .error .invalidDigit ↔
      ¬ Overflows r value cs ∧ ∃ c ∈ cs, ∀ d, ¬ r.IsDigit c d := by
  rw [← readDigits_eq_tooLarge_iff hvalue]
  induction cs generalizing value with
  | nil => simp [readDigits]
  | cons c cs ih =>
      cases hc : r.digit? c with
      | none =>
          have hread : readDigits r value (c :: cs) = .error .invalidDigit := by rw [readDigits, hc]
          refine iff_of_true hread ⟨by simp [hread], c, List.mem_cons_self .., fun d hd => ?_⟩
          rw [hd.digit?_eq] at hc
          cases hc
      | some d =>
          have hd := Radix.digit?_eq_some_iff.mp hc
          rw [readDigits_cons_of_isDigit hd]
          split
          · rename_i hlt
            simp only [ih hlt, List.mem_cons, exists_eq_or_imp]
            rw [or_iff_right fun h => h d hd]
          · simp

theorem readDigits_ne_empty (r : Radix) (value : Nat) (cs : List Char) :
    readDigits r value cs ≠ .error .empty := by
  induction cs generalizing value with
  | nil => simp [readDigits]
  | cons c cs ih =>
      rw [readDigits]
      split
      · simp
      · split
        · exact ih _
        · simp

theorem readDigits_of_digits {r : Radix} {cs : List Char} {ds : List Nat}
    (h : List.Forall₂ r.IsDigit cs ds) :
    readDigits r 0 cs =
      if r.positional ds < limit then .ok (r.positional ds) else .error .tooLarge := by
  split
  · rename_i hlt
    exact readDigits_zero_eq_ok_iff.mpr ⟨ds, h, rfl, hlt⟩
  · rename_i hge
    apply (readDigits_eq_tooLarge_iff limit_pos).mpr
    refine ⟨cs, ds, List.prefix_rfl, h, ?_⟩
    rw [Nat.zero_mul, Nat.zero_add]
    exact Nat.le_of_not_lt hge

/-! ## The whole text -/

theorem read_cons {c : Char} (hc : c ≠ '+') (r : Radix) (cs : List Char) :
    read r (c :: cs) = readDigits r 0 (c :: cs) := by
  unfold read
  split
  · rename_i h; cases h
  · rename_i h; exact absurd (List.cons.inj h).1 hc
  · rfl

end Unsigned

end BusStatus.Text
