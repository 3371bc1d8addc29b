import BusStatus.Flag.Layout
import BusStatus.Proofs.Flag.KnownBits
import BusStatus.Proofs.Summary.Counts
import Mathlib.Algebra.Order.BigOperators.Group.Finset
import Mathlib.Algebra.Order.Ring.Nat
import Mathlib.Algebra.Ring.Nat
import Mathlib.Order.Lattice.Nat

/-!
# Counts of masks that overlap

A word that has a bit of a mask has a bit of every mask around it, and of at least one of several masks
that cover it together.
-/

namespace BusStatus

/-! ## The union of some masks -/

namespace Word

variable {n : Nat} {mask : Fin n → Word} {chosen : Finset (Fin n)} {i : Nat}

def union (mask : Fin n → Word) (chosen : Finset (Fin n)) : Word :=
  chosen.fold (· ||| ·) 0 mask

theorem hasBit_union : (union mask chosen).HasBit i ↔ ∃ k ∈ chosen, (mask k).HasBit i := by
  induction chosen using Finset.induction_on with
  | empty => simp [union]
  | insert k chosen hk ih =>
      rw [union, Finset.fold_insert hk, hasBit_or, Finset.exists_mem_insert, ← ih, union]

end Word

/-! ## Flags that are set together -/

def FlagTable.mask (table : FlagTable) (i : Fin table.flags.length) : Word :=
  (table.flags.get i).mask

namespace Flag

theorem isSetIn_of_within {flag other : Flag} (h : flag.mask.Within other.mask) {w : Word}
    (hset : flag.isSetIn w) : other.isSetIn w := by
  obtain ⟨i, hmask, hw⟩ := isSetIn_iff.mp hset
  exact isSetIn_iff.mpr ⟨i, Word.within_iff.mp h i hmask, hw⟩

theorem exists_isSetIn_of_within_union {flag : Flag} {table : FlagTable}
    {chosen : Finset (Fin table.flags.length)} (h : flag.mask.Within (Word.union table.mask chosen))
    {w : Word} (hset : flag.isSetIn w) : ∃ k ∈ chosen, (table.flags.get k).isSetIn w := by
  obtain ⟨i, hmask, hw⟩ := isSetIn_iff.mp hset
  obtain ⟨k, hk, hbit⟩ := Word.hasBit_union.mp (Word.within_iff.mp h i hmask)
  exact ⟨k, hk, isSetIn_iff.mpr ⟨i, hbit, hw⟩⟩

end Flag

/-! ## Counts -/

theorem countP_le_sum_countP {α ι : Type} {p : α → Bool} {q : ι → α → Bool} {chosen : Finset ι}
    (h : ∀ x, p x → ∃ k ∈ chosen, q k x) (xs : List α) :
    xs.countP p ≤ ∑ k ∈ chosen, xs.countP (q k) := by
  induction xs with
  | nil => simp
  | cons x xs ih =>
      simp only [List.countP_cons, Finset.sum_add_distrib]
      refine Nat.add_le_add ih ?_
      split
      · rename_i hx
        obtain ⟨k, hk, hkx⟩ := h x hx
        have hone := Finset.single_le_sum (f := fun k => if q k x then 1 else 0)
          (fun _ _ => Nat.zero_le _) hk
        rwa [if_pos hkx] at hone
      · exact Nat.zero_le _

namespace FlagSummary

/-- A count lies between those of the entries within its mask and the sum of those that cover it. -/
theorem counts_of_overlapping_masks (table : FlagTable) (ws : List Word) :
    ∃ count : Fin table.flags.length → Nat,
      ((new table).addAll ws).counts = List.ofFn (fun i => ⟨table.flags.get i, count i⟩) ∧
      (∀ i chosen, (table.mask i).Within (Word.union table.mask chosen) →
        count i ≤ ∑ k ∈ chosen, count k) ∧
      (∀ i k, (table.mask k).Within (table.mask i) → count k ≤ count i) ∧
      (∀ i, count i ≤ ((new table).addAll ws).records) ∧
      ∀ i chosen, table.mask i = Word.union table.mask chosen →
        chosen.sup count ≤ count i ∧ count i ≤ ∑ k ∈ chosen, count k := by
  have hcover : ∀ i chosen, (table.mask i).Within (Word.union table.mask chosen) →
      ws.countP (table.flags.get i).isSetIn ≤
        ∑ k ∈ chosen, ws.countP (table.flags.get k).isSetIn := by
    intro i chosen h
    exact countP_le_sum_countP (fun w => Flag.exists_isSetIn_of_within_union h) ws
  have hwithin : ∀ i k, (table.mask k).Within (table.mask i) →
      ws.countP (table.flags.get k).isSetIn ≤ ws.countP (table.flags.get i).isSetIn := by
    intro i k h
    exact List.countP_mono_left fun w _ => Flag.isSetIn_of_within h
  refine ⟨fun i => ws.countP (table.flags.get i).isSetIn, ?_, hcover, hwithin, fun i => ?_,
    fun i chosen hunion => ⟨Finset.sup_le fun k hk => hwithin i k ?_, hcover i chosen ?_⟩⟩
  · rw [counts_addAll_new]
    exact (List.ofFn_getElem_eq_map table.flags _).symm
  · rw [records_addAll]
    exact Nat.le_trans List.countP_le_length (Nat.le_add_left _ _)
  · rw [hunion, Word.within_iff]
    intro bit hbit
    exact Word.hasBit_union.mpr ⟨k, hk, hbit⟩
  · rw [← hunion]
    exact Word.within_iff.mpr fun _ hbit => hbit

/-- The error mask of the decoder layout over the masks of the three errors. -/
theorem counts_of_overlapping_masks_error :
    let table := Layout.decoder.table
    let error : Fin table.flags.length := ⟨8, by decide⟩
    let causes : Finset (Fin table.flags.length) :=
      {⟨5, by decide⟩, ⟨6, by decide⟩, ⟨7, by decide⟩}
    table.mask error = Word.union table.mask causes ∧
      (table.mask ⟨5, by decide⟩).Within (table.mask error) ∧
      ∃ count : Fin table.flags.length → Nat,
        ((new table).addAll [0x20, 0x60, 0x01, 0xC0]).counts =
          List.ofFn (fun i => ⟨table.flags.get i, count i⟩) ∧
        count error = 3 ∧ count ⟨5, by decide⟩ ≤ count error ∧
        causes.sup count ≤ count error ∧ count error ≤ ∑ k ∈ causes, count k := by
  intro table error causes
  have hunion : table.mask error = Word.union table.mask causes := by decide
  have hwithin : (table.mask ⟨5, by decide⟩).Within (table.mask error) := by decide
  obtain ⟨count, hcounts, -, hinside, -, hbetween⟩ :=
    counts_of_overlapping_masks table [0x20, 0x60, 0x01, 0xC0]
  have herror : count error = 3 := by
    have hshown : ((new table).addAll [0x20, 0x60, 0x01, 0xC0]).counts[8]? =
        some ⟨⟨"JD_SERIAL_ERR_MSK", 0xE0⟩, 3⟩ := by decide
    rw [hcounts, List.getElem?_ofFn, dif_pos error.isLt] at hshown
    exact (FlagCount.mk.inj (Option.some.inj hshown)).2
  exact ⟨hunion, hwithin, count, hcounts, herror, hinside error _ hwithin,
    hbetween error causes hunion⟩

end FlagSummary

end BusStatus
