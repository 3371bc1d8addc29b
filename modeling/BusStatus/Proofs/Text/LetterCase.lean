import BusStatus.Proofs.Text.Unsigned
import BusStatus.Text.Blank
import Mathlib.Data.List.Forall2

/-!
# The case of ASCII letters

Only the letters from `A` to `Z` have another form in lower case.
-/

namespace BusStatus.Text

theorem toLower_eq_self_or (c : Char) : c.toLower = c ∨ ∃ k < 26, c = Char.ofNat (65 + k) := by
  by_cases h : c.val ≥ 'A'.val ∧ c.val ≤ 'Z'.val
  · right
    have hfrom : 65 ≤ c.toNat := h.1
    have hto : c.toNat ≤ 90 := h.2
    refine ⟨c.toNat - 65, by omega, ?_⟩
    rw [Nat.add_sub_cancel' hfrom, Char.ofNat_toNat]
  · exact .inl (dif_neg h)

/-- What can be checked on the capital letters holds of every character. -/
theorem apply_toLower {α : Type} {f : Char → α}
    (every : ∀ k < 26, f (Char.ofNat (65 + k)).toLower = f (Char.ofNat (65 + k))) (c : Char) :
    f c.toLower = f c := by
  rcases toLower_eq_self_or c with h | ⟨k, hk, rfl⟩
  · rw [h]
  · exact every k hk

theorem toLower_beq {e : Char}
    (every : ∀ k < 26, ((Char.ofNat (65 + k)).toLower == e) = (Char.ofNat (65 + k) == e)) (c : Char) :
    (c.toLower == e) = (c == e) :=
  apply_toLower (f := (· == e)) every c

theorem toLower_eq_iff {e : Char}
    (every : ∀ k < 26, ((Char.ofNat (65 + k)).toLower == e) = (Char.ofNat (65 + k) == e)) (c : Char) :
    c.toLower = e ↔ c = e := by
  rw [← beq_iff_eq, toLower_beq every, beq_iff_eq]

theorem map_toLower_beq {e : Char}
    (every : ∀ k < 26, ((Char.ofNat (65 + k)).toLower == e) = (Char.ofNat (65 + k) == e))
    (c : Option Char) : (c.map Char.toLower == some e) = (c == some e) := by
  cases c with
  | none => rfl
  | some c => exact toLower_beq every c

theorem isBlank_toLower (c : Char) : isBlank c.toLower = isBlank c :=
  apply_toLower (by decide) c

theorem Radix.digit?_toLower (r : Radix) (c : Char) : r.digit? c.toLower = r.digit? c := by
  apply apply_toLower
  cases r <;> decide

/-! ## Letters of another case -/

/-- The characters are the same, or the two cases of one ASCII letter. -/
inductive SameLetter : Char → Char → Prop where
  | refl (c) : SameLetter c c
  | small {k : Nat} (h : k < 26) : SameLetter (Char.ofNat (65 + k)) (Char.ofNat (97 + k))
  | capital {k : Nat} (h : k < 26) : SameLetter (Char.ofNat (97 + k)) (Char.ofNat (65 + k))

theorem toLower_capital : ∀ k < 26, (Char.ofNat (65 + k)).toLower = Char.ofNat (97 + k) := by
  decide

theorem toLower_small : ∀ k < 26, (Char.ofNat (97 + k)).toLower = Char.ofNat (97 + k) := by
  decide

theorem small_injective {j k : Nat} (hj : j < 26) (hk : k < 26)
    (h : Char.ofNat (97 + j) = Char.ofNat (97 + k)) : j = k := by
  have every : ∀ i < 26, (Char.ofNat (97 + i)).toNat = 97 + i := by decide
  have hcodes := congrArg Char.toNat h
  rw [every j hj, every k hk] at hcodes
  omega

theorem toLower_eq_toLower_iff {c d : Char} : c.toLower = d.toLower ↔ SameLetter c d := by
  constructor
  · intro h
    rcases toLower_eq_self_or c with hc | ⟨j, hj, rfl⟩
    · rcases toLower_eq_self_or d with hd | ⟨k, hk, rfl⟩
      · rw [hc, hd] at h
        exact h ▸ .refl c
      · rw [hc, toLower_capital k hk] at h
        exact h ▸ .capital hk
    · rcases toLower_eq_self_or d with hd | ⟨k, hk, rfl⟩
      · rw [hd, toLower_capital j hj] at h
        exact h ▸ .small hj
      · rw [toLower_capital j hj, toLower_capital k hk] at h
        exact small_injective hj hk h ▸ .refl _
  · intro h
    cases h with
    | refl => rfl
    | small hk => rw [toLower_capital _ hk, toLower_small _ hk]
    | capital hk => rw [toLower_capital _ hk, toLower_small _ hk]

theorem map_toLower_eq_iff {cs ds : List Char} :
    cs.map Char.toLower = ds.map Char.toLower ↔ List.Forall₂ SameLetter cs ds := by
  rw [← List.forall₂_eq_eq_eq, List.forall₂_map_left_iff, List.forall₂_map_right_iff]
  simp only [toLower_eq_toLower_iff]

/-! ## Blanks -/

theorem dropWhile_isBlank_map_toLower (cs : List Char) :
    (cs.map Char.toLower).dropWhile isBlank = (cs.dropWhile isBlank).map Char.toLower := by
  rw [List.dropWhile_map]
  congr 2
  exact funext isBlank_toLower

theorem trim_map_toLower (cs : List Char) :
    trim (cs.map Char.toLower) = (trim cs).map Char.toLower := by
  rw [trim, trimLeft, dropWhile_isBlank_map_toLower, trimRight, ← List.map_reverse,
    dropWhile_isBlank_map_toLower, ← List.map_reverse, trim, trimRight, trimLeft]

/-! ## Digits -/

theorem Unsigned.readDigits_map_toLower (r : Radix) (value : Nat) (cs : List Char) :
    readDigits r value (cs.map Char.toLower) = readDigits r value cs := by
  induction cs generalizing value with
  | nil => rfl
  | cons c cs ih => simp only [List.map_cons, readDigits, r.digit?_toLower, ih]

theorem Unsigned.read_map_toLower (r : Radix) (cs : List Char) :
    read r (cs.map Char.toLower) = read r cs := by
  match cs with
  | [] => rfl
  | c :: cs =>
      by_cases hc : c = '+'
      · subst hc
        cases cs with
        | nil => rfl
        | cons d cs => exact readDigits_map_toLower r 0 (d :: cs)
      · have hlower : c.toLower ≠ '+' := (toLower_eq_iff (by decide) c).not.mpr hc
        rw [read_cons hc, List.map_cons, read_cons hlower]
        exact readDigits_map_toLower r 0 (c :: cs)

end BusStatus.Text
