import BusStatus.Flag.Table
import Mathlib.Logic.Basic

/-!
# Known and unknown bits

Each bit of a word is in the mask of an entry that is set in it, or it is unknown, and never both.
-/

namespace BusStatus

/-! ## Words as sets of bits -/

namespace Word

def HasBit (w : Word) (i : Nat) : Prop :=
  w.toBitVec.getLsbD i = true

instance (w : Word) (i : Nat) : Decidable (w.HasBit i) :=
  inferInstanceAs (Decidable (_ = true))

/-- The result is the same, and what the first outcome tells is told by the second in the same order. -/
def Within (u w : Word) : Prop :=
  u &&& w = u

instance (u w : Word) : Decidable (u.Within w) :=
  inferInstanceAs (Decidable (_ = _))

variable {u v w : Word} {i : Nat}

@[simp] theorem hasBit_and : (u &&& v).HasBit i ↔ u.HasBit i ∧ v.HasBit i := by
  simp only [HasBit, UInt16.toBitVec_and, BitVec.getLsbD_and, Bool.and_eq_true]

@[simp] theorem hasBit_or : (u ||| v).HasBit i ↔ u.HasBit i ∨ v.HasBit i := by
  simp only [HasBit, UInt16.toBitVec_or, BitVec.getLsbD_or, Bool.or_eq_true]

@[simp] theorem not_hasBit_zero : ¬ HasBit 0 i := by
  simp [HasBit]

theorem HasBit.lt (h : w.HasBit i) : i < bits :=
  BitVec.lt_of_getLsbD h

theorem hasBit_not : (~~~w).HasBit i ↔ i < bits ∧ ¬ w.HasBit i := by
  simp only [HasBit, UInt16.toBitVec_not, BitVec.getLsbD_not, Bool.and_eq_true, decide_eq_true_eq,
    Bool.not_eq_true', Bool.not_eq_true, bits]

theorem hasBit_and_not : (u &&& ~~~v).HasBit i ↔ u.HasBit i ∧ ¬ v.HasBit i := by
  rw [hasBit_and, hasBit_not]
  constructor
  · rintro ⟨hu, -, hv⟩
    exact ⟨hu, hv⟩
  · rintro ⟨hu, hv⟩
    exact ⟨hu, hu.lt, hv⟩

theorem eq_of_hasBit_iff (h : ∀ i, u.HasBit i ↔ v.HasBit i) : u = v := by
  apply UInt16.toBitVec_inj.mp
  apply BitVec.eq_of_getLsbD_eq
  intro i _
  exact Bool.eq_iff_iff.mpr (h i)

theorem and_eq_and {mask : Word} (h : ∀ i, mask.HasBit i → (u.HasBit i ↔ v.HasBit i)) :
    u &&& mask = v &&& mask := by
  apply eq_of_hasBit_iff
  intro i
  rw [hasBit_and, hasBit_and]
  exact and_congr_left (h i)

theorem eq_zero_iff : w = 0 ↔ ∀ i, ¬ w.HasBit i := by
  constructor
  · rintro rfl i
    exact not_hasBit_zero
  · intro h
    apply eq_of_hasBit_iff
    intro i
    exact iff_of_false (h i) not_hasBit_zero

theorem within_iff : u.Within w ↔ ∀ i, u.HasBit i → w.HasBit i := by
  constructor
  · intro h i hu
    rw [← h, hasBit_and] at hu
    exact hu.2
  · intro h
    apply eq_of_hasBit_iff
    intro i
    rw [hasBit_and, and_iff_left_of_imp (h i)]

end Word

/-! ## Flags -/

theorem Flag.isSetIn_iff {flag : Flag} {w : Word} :
    flag.isSetIn w ↔ ∃ i, flag.mask.HasBit i ∧ w.HasBit i := by
  simp only [Flag.isSetIn, bne_iff_ne, ne_eq, Word.eq_zero_iff, Word.hasBit_and, not_forall, not_not]

/-! ## Tables -/

namespace FlagTable

variable {table : FlagTable} {u v w : Word} {i : Nat}

theorem hasBit_foldl (known : Word) (flags : List Flag) :
    (flags.foldl (fun known flag => known ||| flag.mask) known).HasBit i ↔
      known.HasBit i ∨ ∃ flag ∈ flags, flag.mask.HasBit i := by
  induction flags generalizing known with
  | nil => simp
  | cons flag flags ih => simp [ih, or_assoc]

theorem hasBit_knownMask :
    table.knownMask.HasBit i ↔ ∃ flag ∈ table.flags, flag.mask.HasBit i := by
  rw [knownMask, hasBit_foldl, or_iff_right Word.not_hasBit_zero]

theorem hasBit_unknownBits :
    (table.unknownBits w).HasBit i ↔ w.HasBit i ∧ ¬ table.knownMask.HasBit i := by
  rw [unknownBits, Word.hasBit_and_not]

theorem mem_decode_of_isSetIn {flag : Flag} (hm : flag ∈ table.flags) (h : flag.isSetIn w) :
    flag.name ∈ table.decode w :=
  List.mem_map_of_mem (List.mem_filter.mpr ⟨hm, h⟩)

theorem hasBit_and_knownMask :
    (w &&& table.knownMask).HasBit i ↔ w.HasBit i ∧
      ∃ flag ∈ table.flags, flag.isSetIn w ∧ flag.mask.HasBit i ∧ flag.name ∈ table.decode w := by
  rw [Word.hasBit_and, hasBit_knownMask]
  apply and_congr_right
  intro hw
  constructor
  · rintro ⟨flag, hm, hmask⟩
    have hset : flag.isSetIn w := Flag.isSetIn_iff.mpr ⟨i, hmask, hw⟩
    exact ⟨flag, hm, hset, hmask, mem_decode_of_isSetIn hm hset⟩
  · rintro ⟨flag, hm, -, hmask, -⟩
    exact ⟨flag, hm, hmask⟩

theorem decode_eq_nil_iff : table.decode w = [] ↔ ∀ i, w.HasBit i → ¬ table.knownMask.HasBit i := by
  rw [decode, List.map_eq_nil_iff, List.filter_eq_nil_iff]
  simp only [Flag.isSetIn_iff, hasBit_knownMask]
  constructor
  · rintro h i hw ⟨flag, hm, hmask⟩
    exact h flag hm ⟨i, hmask, hw⟩
  · rintro h flag hm ⟨i, hmask, hw⟩
    exact h i hw ⟨flag, hm, hmask⟩

theorem decode_eq_nil_iff_unknownBits : table.decode w = [] ↔ table.unknownBits w = w := by
  rw [decode_eq_nil_iff]
  constructor
  · intro h
    apply Word.eq_of_hasBit_iff
    intro i
    rw [hasBit_unknownBits, and_iff_left_of_imp (h i)]
  · intro h i hw
    rw [← h, hasBit_unknownBits] at hw
    exact hw.2

theorem isSetIn_and_knownMask {flag : Flag} (hm : flag ∈ table.flags) :
    flag.isSetIn (w &&& table.knownMask) = flag.isSetIn w := by
  rw [Bool.eq_iff_iff, Flag.isSetIn_iff, Flag.isSetIn_iff]
  apply exists_congr
  intro i
  apply and_congr_right
  intro hmask
  rw [Word.hasBit_and, and_iff_left]
  exact hasBit_knownMask.mpr ⟨flag, hm, hmask⟩

theorem decode_and_knownMask : table.decode (w &&& table.knownMask) = table.decode w := by
  rw [decode, decode, List.filter_congr fun flag hm => isSetIn_and_knownMask hm]

theorem decode_eq_of_and_knownMask (h : u &&& table.knownMask = v &&& table.knownMask) :
    table.decode u = table.decode v := by
  rw [← decode_and_knownMask, h, decode_and_knownMask]

theorem decode_or_and_not (h : v &&& table.knownMask = 0) :
    table.decode (w ||| v) = table.decode w ∧ table.decode (w &&& ~~~v) = table.decode w := by
  have hfree : ∀ i, table.knownMask.HasBit i → ¬ v.HasBit i := by
    intro i hknown hv
    exact Word.eq_zero_iff.mp h i (Word.hasBit_and.mpr ⟨hv, hknown⟩)
  constructor
  · apply decode_eq_of_and_knownMask
    apply Word.and_eq_and
    intro i hknown
    rw [Word.hasBit_or, or_iff_left (hfree i hknown)]
  · apply decode_eq_of_and_knownMask
    apply Word.and_eq_and
    intro i hknown
    rw [Word.hasBit_and_not, and_iff_left (hfree i hknown)]

/-- Each bit of a word is told of once: by the name of an entry that looks at it, or as unknown. -/
theorem each_bit_told_once (table : FlagTable) (w : Word) :
    (∀ i, w.HasBit i →
      Xor (∃ flag ∈ table.flags, flag.isSetIn w ∧ flag.mask.HasBit i ∧ flag.name ∈ table.decode w)
        ((table.unknownBits w).HasBit i)) ∧
    ((table.unknownBits w).Within w ∧ table.decode (table.unknownBits w) = [] ∧
      ∀ u : Word, u.Within w → table.decode u = [] → u.Within (table.unknownBits w)) ∧
    (table.decode w = [] ↔ table.unknownBits w = w) ∧
    (∀ v, w &&& table.knownMask = v &&& table.knownMask → table.decode w = table.decode v) ∧
    ∀ v, v &&& table.knownMask = 0 →
      table.decode (w ||| v) = table.decode w ∧ table.decode (w &&& ~~~v) = table.decode w := by
  refine ⟨fun i hw => ?_, ⟨?_, ?_, fun u hu hnone => ?_⟩, decode_eq_nil_iff_unknownBits,
    fun v => decode_eq_of_and_knownMask, fun v => decode_or_and_not⟩
  · have hknown : (w &&& table.knownMask).HasBit i ↔ _ := hasBit_and_knownMask
    rw [Word.hasBit_and, and_iff_right hw, and_iff_right hw] at hknown
    rw [← hknown, hasBit_unknownBits, and_iff_right hw]
    exact xor_not_right.mpr Iff.rfl
  · rw [Word.within_iff]
    intro i h
    exact (hasBit_unknownBits.mp h).1
  · rw [decode_eq_nil_iff]
    intro i h
    exact (hasBit_unknownBits.mp h).2
  · rw [Word.within_iff] at hu ⊢
    intro i h
    exact hasBit_unknownBits.mpr ⟨hu i h, decode_eq_nil_iff.mp hnone i h⟩

/-- A mask that covers another one and an empty one. -/
theorem each_bit_told_once_overlapping :
    let table := ofList [("A", 1), ("B", 3), ("C", 0)]
    (Word.HasBit 14 1 ∧ Xor
      (∃ flag ∈ table.flags, flag.isSetIn 14 ∧ flag.mask.HasBit 1 ∧ flag.name ∈ table.decode 14)
      ((table.unknownBits 14).HasBit 1)) ∧
    (Word.Within 4 14 ∧ table.decode 4 = [] ∧ Word.Within 4 (table.unknownBits 14)) ∧
    ((14 : Word) &&& table.knownMask = 2 &&& table.knownMask ∧
      table.decode 14 = table.decode 2) ∧
    ((12 : Word) &&& table.knownMask = 0 ∧ table.decode (14 &&& ~~~12) = table.decode 14) := by
  intro table
  obtain ⟨hbit, ⟨-, -, hlargest⟩, -, hknown, hfree⟩ := each_bit_told_once table 14
  have hset : Word.HasBit 14 1 := by decide
  have hwithin : Word.Within 4 14 := rfl
  have hnone : table.decode 4 = [] := rfl
  have hsame : (14 : Word) &&& table.knownMask = 2 &&& table.knownMask := by decide
  have hunknown : (12 : Word) &&& table.knownMask = 0 := by decide
  exact ⟨⟨hset, hbit 1 hset⟩, ⟨hwithin, hnone, hlargest 4 hwithin hnone⟩,
    ⟨hsame, hknown 2 hsame⟩, hunknown, (hfree 12 hunknown).2⟩

end FlagTable

end BusStatus
