import BusStatus.Proofs.Ring.Words
import BusStatus.Proofs.Summary.Counts
import Mathlib.Algebra.BigOperators.Group.List.Basic
import Mathlib.Algebra.Ring.Nat

/-!
# The counts agree with the records

A summary counts pairs of a flag and a word flag by flag, the records count them word by word.
-/

namespace BusStatus

/-! ## Counting pairs in two ways -/

theorem sum_map_ite_eq_countP {α : Type} (p : α → Bool) (xs : List α) :
    (xs.map fun x => if p x then 1 else 0).sum = xs.countP p := by
  induction xs with
  | nil => rfl
  | cons x xs ih => rw [List.map_cons, List.sum_cons, ih, List.countP_cons, Nat.add_comm]

/-- Related pairs are counted along the one list or along the other. -/
theorem sum_countP_comm {α β : Type} (r : α → β → Bool) (xs : List α) (ys : List β) :
    (xs.map fun x => ys.countP (r x)).sum = (ys.map fun y => xs.countP (r · y)).sum := by
  induction ys with
  | nil => simp
  | cons y ys ih =>
      simp only [List.countP_cons, List.sum_map_add, ih, sum_map_ite_eq_countP, List.map_cons,
        List.sum_cons]
      exact Nat.add_comm _ _

/-! ## The names decoded from a word -/

namespace FlagTable

variable (table : FlagTable)

theorem count_decode (name : String) (w : Word) :
    (table.decode w).count name =
      (table.flags.filter (·.name == name)).countP (·.isSetIn w) := by
  rw [decode, List.count_eq_countP, List.countP_map, List.countP_filter, List.countP_filter]
  refine List.countP_congr fun flag _ => ?_
  simp [and_comm]

theorem length_decode (w : Word) :
    (table.decode w).length = table.flags.countP (·.isSetIn w) := by
  rw [decode, List.length_map, List.countP_eq_length_filter]

theorem mem_decode_iff {table : FlagTable} (h : (table.flags.map (·.name)).Nodup) {flag : Flag}
    (hm : flag ∈ table.flags) {w : Word} : flag.name ∈ table.decode w ↔ flag.isSetIn w := by
  simp only [decode, List.mem_map, List.mem_filter]
  constructor
  · rintro ⟨other, ⟨hother, hset⟩, hname⟩
    rwa [← List.inj_on_of_nodup_map h hother hm hname]
  · intro hset
    exact ⟨flag, ⟨hm, hset⟩, rfl⟩

end FlagTable

/-! ## Counts and names -/

namespace FlagSummary

variable {table : FlagTable} {records : List Record}

theorem flags_addRecords_new (table : FlagTable) (records : List Record) :
    ((new table).addRecords records).counts.map (·.flag) = table.flags := by
  rw [addRecords, counts_addAll_new, List.map_map]
  exact List.map_id _

theorem sum_counts_filter (table : FlagTable) (chosen : Flag → Bool) (ws : List Word) :
    ((((new table).addAll ws).counts.filter (chosen ·.flag)).map (·.count)).sum =
      (ws.map fun w => (table.flags.filter chosen).countP (·.isSetIn w)).sum := by
  rw [counts_addAll_new, List.filter_map, List.map_map]
  exact sum_countP_comm Flag.isSetIn _ _

theorem sum_counts_named (hflags : ∀ record ∈ records, record.flags = table.decode record.raw)
    (name : String) :
    ((((new table).addRecords records).counts.filter (·.flag.name == name)).map (·.count)).sum =
      (records.flatMap (·.flags)).count name := by
  rw [addRecords, sum_counts_filter table (·.name == name), List.map_map, List.count_flatMap]
  refine congrArg List.sum (List.map_congr_left fun record hm => ?_)
  rw [Function.comp_apply, Function.comp_apply, hflags record hm, FlagTable.count_decode]

theorem sum_counts (hflags : ∀ record ∈ records, record.flags = table.decode record.raw) :
    (((new table).addRecords records).counts.map (·.count)).sum =
      (records.flatMap (·.flags)).length := by
  have hall := sum_counts_filter table (fun _ => true) (records.map (·.raw))
  simp only [List.filter_true] at hall
  rw [addRecords, hall, List.map_map, List.length_flatMap]
  refine congrArg List.sum (List.map_congr_left fun record hm => ?_)
  rw [Function.comp_apply, hflags record hm, FlagTable.length_decode]

theorem count_eq_countP_of_nodup (hnames : (table.flags.map (·.name)).Nodup)
    (hflags : ∀ record ∈ records, record.flags = table.decode record.raw) {entry : FlagCount}
    (hm : entry ∈ ((new table).addRecords records).counts) :
    entry.count = records.countP (·.flags.contains entry.flag.name) := by
  rw [addRecords, counts_addAll_new, List.mem_map] at hm
  obtain ⟨flag, hflag, rfl⟩ := hm
  rw [List.countP_map]
  refine List.countP_congr fun record hrecord => ?_
  rw [Function.comp_apply, List.contains_iff_mem, hflags record hrecord,
    FlagTable.mem_decode_iff hnames hflag]

/-- The counts of the entries of a name add up to the places where the records name it. -/
theorem counts_agree_with_records (ring : Ring) (table : FlagTable) (limit : Nat)
    (h : ring.start < ring.capacity) :
    ∃ replay records counts, ring.replay table = .ok replay ∧
      (replay.take limit).1 = records ∧
      records = replay.records.take limit ∧ records.length = min limit ring.capacity ∧
      ((new table).addRecords records).counts = counts ∧
      counts.map (·.flag) = table.flags ∧
      (∀ name, ((counts.filter (·.flag.name == name)).map (·.count)).sum =
        (records.flatMap (·.flags)).count name) ∧
      (counts.map (·.count)).sum = (records.flatMap (·.flags)).length ∧
      ((table.flags.map (·.name)).Nodup → ∀ entry ∈ counts,
        entry.count = records.countP (·.flags.contains entry.flag.name)) := by
  obtain ⟨replay, shown, hreplay, hshows, hraw, hflags⟩ := Ring.replay_shows_words h table
  obtain ⟨left, htake, -⟩ := hshows.take limit
  have hlength : shown.length = ring.capacity := by
    rw [← ring.length_words, ← hraw, List.length_map]
  have hfirst : ∀ record ∈ shown.take limit, record.flags = table.decode record.raw :=
    fun record hm => hflags record (List.mem_of_mem_take hm)
  refine ⟨replay, shown.take limit, _, hreplay, by rw [htake], by rw [hshows.records_eq], ?_, rfl,
    flags_addRecords_new table _, sum_counts_named hfirst, sum_counts hfirst, ?_⟩
  · rw [List.length_take, hlength]
  · exact fun hnames entry hm => count_eq_countP_of_nodup hnames hfirst hm

theorem counts_agree_with_records_overlapping :
    1 < 3 ∧ ["A", "B", "C"].Nodup ∧
      ∃ records counts,
        (Ring.replay ⟨#[3, 1, 2], 1⟩ (.ofList [("A", 1), ("B", 3), ("C", 0)])).map
          (fun replay => (replay.take 2).1) = .ok records ∧
        records = [⟨1, 1, ["A", "B"]⟩, ⟨2, 2, ["B"]⟩] ∧
        ((new (.ofList [("A", 1), ("B", 3), ("C", 0)])).addRecords records).counts = counts ∧
        counts.map (·.count) = [1, 2, 0] ∧
        (counts.map (·.count)).sum = (records.flatMap (·.flags)).length ∧
        ∀ entry ∈ counts, entry.count = records.countP (·.flags.contains entry.flag.name) := by
  obtain ⟨replay, records, counts, hreplay, htake, -, -, hcounts, -, -, hsum, hnames⟩ :=
    counts_agree_with_records ⟨#[3, 1, 2], 1⟩ (.ofList [("A", 1), ("B", 3), ("C", 0)]) 2 (by decide)
  cases hreplay
  cases htake
  cases hcounts
  exact ⟨by decide, by decide, _, _, rfl, by decide, rfl, by decide, hsum, hnames (by decide)⟩

end FlagSummary

end BusStatus
