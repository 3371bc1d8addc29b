import BusStatus.Summary.Basic
import Mathlib.Data.Finset.Card
import Mathlib.Data.List.Nodup

/-!
# What a summary counts

Every part of a summary is settled by the words that were counted.
-/

namespace BusStatus

/-! ## Sets of words -/

namespace WordSet

theorem mem_insert {s : WordSet} {w x : Word} :
    x ∈ (s.insert w).toList ↔ x = w ∨ x ∈ s.toList :=
  mem_place

theorem nodup (s : WordSet) : s.toList.Nodup :=
  s.ascending.imp fun h => UInt16.ne_of_lt h

theorem eq_of_mem_iff {s t : WordSet} (h : ∀ w, w ∈ s.toList ↔ w ∈ t.toList) : s = t := by
  have hperm : s.toList.Perm t.toList := (List.perm_ext_iff_of_nodup s.nodup t.nodup).mpr h
  have hlist : s.toList = t.toList := by
    refine hperm.eq_of_pairwise (fun a b _ _ hab hba => ?_) s.ascending t.ascending
    exact absurd hab (UInt16.lt_asymm hba)
  cases s
  cases t
  cases hlist
  rfl

theorem size_eq_card {s : WordSet} {ws : List Word} (h : ∀ w, w ∈ s.toList ↔ w ∈ ws) :
    s.size = ws.toFinset.card := by
  have hset : s.toList.toFinset = ws.toFinset := by
    ext w
    rw [List.mem_toFinset, List.mem_toFinset, h]
  rw [← hset, List.toFinset_card_of_nodup s.nodup, size]

end WordSet

/-! ## Counting words one after the other -/

theorem FlagCount.add_eq (entry : FlagCount) (w : Word) :
    entry.add w =
      ⟨entry.flag, entry.count + if entry.flag.isSetIn w then 1 else 0⟩ := by
  unfold add
  split <;> rfl

namespace FlagSummary

variable (summary : FlagSummary)

theorem records_add (w : Word) : (summary.add w).records = summary.records + 1 := rfl

theorem seen_add (w : Word) : (summary.add w).seen = summary.seen.insert w := rfl

theorem counts_add (w : Word) : (summary.add w).counts = summary.counts.map (·.add w) := rfl

theorem addAll_cons (w : Word) (ws : List Word) :
    summary.addAll (w :: ws) = (summary.add w).addAll ws := rfl

theorem addAll_append (us vs : List Word) :
    summary.addAll (us ++ vs) = (summary.addAll us).addAll vs :=
  List.foldl_append

theorem records_addAll (ws : List Word) :
    (summary.addAll ws).records = summary.records + ws.length := by
  induction ws generalizing summary with
  | nil => rfl
  | cons w ws ih =>
      rw [addAll_cons, ih, records_add, List.length_cons]
      omega

theorem mem_seen_addAll (ws : List Word) (w : Word) :
    w ∈ (summary.addAll ws).seen.toList ↔ w ∈ ws ∨ w ∈ summary.seen.toList := by
  induction ws generalizing summary with
  | nil => simp [addAll]
  | cons x ws ih =>
      rw [addAll_cons, ih, seen_add, WordSet.mem_insert, List.mem_cons, or_left_comm, or_assoc]

theorem counts_addAll (ws : List Word) :
    (summary.addAll ws).counts = summary.counts.map fun entry =>
      ⟨entry.flag, entry.count + ws.countP entry.flag.isSetIn⟩ := by
  induction ws generalizing summary with
  | nil => simp [addAll]
  | cons w ws ih =>
      rw [addAll_cons, ih, counts_add, List.map_map]
      refine List.map_congr_left fun entry _ => ?_
      rw [Function.comp_apply, FlagCount.add_eq, List.countP_cons]
      simp only [FlagCount.mk.injEq, true_and]
      omega

/-! ## From nothing -/

theorem mem_seen_addAll_new (table : FlagTable) (ws : List Word) (w : Word) :
    w ∈ ((new table).addAll ws).seen.toList ↔ w ∈ ws := by
  rw [mem_seen_addAll]
  simp [new, WordSet.empty]

theorem distinctValues_addAll_new (table : FlagTable) (ws : List Word) :
    ((new table).addAll ws).distinctValues = ws.toFinset.card :=
  WordSet.size_eq_card (mem_seen_addAll_new table ws)

theorem counts_addAll_new (table : FlagTable) (ws : List Word) :
    ((new table).addAll ws).counts =
      table.flags.map fun flag => ⟨flag, ws.countP flag.isSetIn⟩ := by
  rw [counts_addAll, new, List.map_map]
  refine List.map_congr_left fun flag _ => ?_
  rw [Function.comp_apply, Nat.zero_add]

end FlagSummary

end BusStatus
