import BusStatus.Proofs.Flag.KnownBits
import Mathlib.Data.List.FinRange
import Mathlib.Data.List.Perm.Basic

/-!
# Decoding composed words and tables

Words put together of others, tables put together of others, and tables in another order. Names may
repeat, so entries are followed by their places.
-/

namespace BusStatus

theorem Flag.isSetIn_or {flag : Flag} {u v : Word} :
    flag.isSetIn (u ||| v) ↔ flag.isSetIn u ∨ flag.isSetIn v := by
  simp only [isSetIn_iff, Word.hasBit_or, and_or_left, exists_or]

namespace FlagTable

variable {table first second other : FlagTable} {u v w : Word}

/-! ## Places of entries -/

def nameAt (table : FlagTable) (i : Fin table.flags.length) : String :=
  (table.flags.get i).name

def places (table : FlagTable) (w : Word) : List (Fin table.flags.length) :=
  (List.finRange table.flags.length).filter fun i => (table.flags.get i).isSetIn w

/-- The table of the entries at these places, one after the other. -/
def pick (table : FlagTable) (order : List (Fin table.flags.length)) : FlagTable :=
  ⟨order.map table.flags.get⟩

theorem mem_places {i : Fin table.flags.length} :
    i ∈ table.places w ↔ (table.flags.get i).isSetIn w := by
  rw [places, List.mem_filter, and_iff_right (List.mem_finRange i)]

theorem pick_finRange (table : FlagTable) :
    table.pick (List.finRange table.flags.length) = table := by
  rw [pick, List.map_get_finRange]

theorem decode_pick (table : FlagTable) (order : List (Fin table.flags.length)) (w : Word) :
    (table.pick order).decode w = (order.filter (· ∈ table.places w)).map table.nameAt := by
  rw [decode, pick, List.filter_map, List.map_map]
  refine congrArg (List.map table.nameAt) (List.filter_congr fun i _ => ?_)
  rw [Function.comp_apply, Bool.eq_iff_iff, decide_eq_true_iff, mem_places]

theorem decode_eq_map_places (table : FlagTable) (w : Word) :
    table.decode w = (table.places w).map table.nameAt := by
  have hplaces : (List.finRange table.flags.length).filter (· ∈ table.places w) = table.places w := by
    rw [places]
    exact List.filter_congr fun i hi => by simp [hi]
  rw [← hplaces, ← decode_pick, pick_finRange]

/-! ## Composed words -/

theorem mem_places_or {i : Fin table.flags.length} :
    i ∈ table.places (u ||| v) ↔ i ∈ table.places u ∨ i ∈ table.places v := by
  simp only [mem_places, Flag.isSetIn_or]

theorem decode_sublist_or (table : FlagTable) (u v : Word) :
    (table.decode u).Sublist (table.decode (u ||| v)) := by
  refine List.Sublist.map _ (List.monotone_filter_right _ fun flag hset => ?_)
  exact Flag.isSetIn_or.mpr (.inl hset)

theorem unknownBits_or (table : FlagTable) (u v : Word) :
    table.unknownBits (u ||| v) = table.unknownBits u ||| table.unknownBits v := by
  apply Word.eq_of_hasBit_iff
  intro i
  simp only [hasBit_unknownBits, Word.hasBit_or, or_and_right]

/-! ## Composed tables -/

theorem flags_append (first second : FlagTable) :
    (first ++ second).flags = first.flags ++ second.flags := rfl

theorem ofList_toList (table : FlagTable) : ofList table.toList = table := by
  rw [ofList, toList, List.map_map]
  exact congrArg mk (List.map_id _)

theorem append_eq_ofList (first second : FlagTable) :
    first ++ second = ofList (first.toList ++ second.toList) := by
  rw [← ofList_toList (first ++ second), toList, flags_append, List.map_append, toList, toList]

theorem decode_append (first second : FlagTable) (w : Word) :
    (first ++ second).decode w = first.decode w ++ second.decode w := by
  rw [decode, flags_append, List.filter_append, List.map_append, decode, decode]

theorem knownMask_append (first second : FlagTable) :
    (first ++ second).knownMask = first.knownMask ||| second.knownMask := by
  apply Word.eq_of_hasBit_iff
  intro i
  simp only [Word.hasBit_or, hasBit_knownMask, flags_append, List.mem_append, or_and_right, exists_or]

theorem unknownBits_append (first second : FlagTable) (w : Word) :
    (first ++ second).unknownBits w = second.unknownBits (first.unknownBits w) := by
  apply Word.eq_of_hasBit_iff
  intro i
  simp only [hasBit_unknownBits, knownMask_append, Word.hasBit_or, not_or, and_assoc]

theorem unknownBits_comm (first second : FlagTable) (w : Word) :
    second.unknownBits (first.unknownBits w) = first.unknownBits (second.unknownBits w) := by
  apply Word.eq_of_hasBit_iff
  intro i
  simp only [hasBit_unknownBits, and_right_comm]

/-! ## Reordered tables -/

theorem knownMask_of_perm (h : other.flags.Perm table.flags) : other.knownMask = table.knownMask := by
  apply Word.eq_of_hasBit_iff
  intro i
  simp only [hasBit_knownMask, h.mem_iff]

theorem unknownBits_of_perm (h : other.flags.Perm table.flags) (w : Word) :
    other.unknownBits w = table.unknownBits w := by
  rw [unknownBits, knownMask_of_perm h, unknownBits]

theorem decode_perm (h : other.flags.Perm table.flags) (w : Word) :
    (other.decode w).Perm (table.decode w) :=
  (h.filter _).map _

theorem perm_pick {order : List (Fin table.flags.length)}
    (h : order.Perm (List.finRange table.flags.length)) : (table.pick order).flags.Perm table.flags := by
  have hperm := h.map table.flags.get
  rwa [List.map_get_finRange] at hperm

theorem perm_iff_exists_pick :
    other.flags.Perm table.flags ↔
      ∃ order, order.Perm (List.finRange table.flags.length) ∧ other = table.pick order := by
  constructor
  · intro h
    rw [← List.map_get_finRange table.flags] at h
    have hlift := congrFun₂ (List.eq_map_comp_perm table.flags.get) other.flags
    obtain ⟨order, hflags, hperm⟩ := (hlift _).mpr h
    exact ⟨order, hperm, congrArg mk hflags⟩
  · rintro ⟨order, hperm, rfl⟩
    exact perm_pick hperm

/-- Tables one behind the other, words put together bit by bit, and tables in another order. -/
theorem composed_words_and_tables :
    (∀ (first second : FlagTable) (w : Word),
      first ++ second = ofList (first.toList ++ second.toList) ∧
      (first ++ second).decode w = first.decode w ++ second.decode w ∧
      (first ++ second).knownMask = first.knownMask ||| second.knownMask ∧
      (first ++ second).unknownBits w = second.unknownBits (first.unknownBits w) ∧
      (first ++ second).unknownBits w = first.unknownBits (second.unknownBits w)) ∧
    (∀ (table : FlagTable) (u v : Word),
      table.decode u = (table.places u).map table.nameAt ∧
      (table.decode u).Sublist (table.decode (u ||| v)) ∧
      (∀ i, i ∈ table.places (u ||| v) ↔ i ∈ table.places u ∨ i ∈ table.places v) ∧
      table.unknownBits (u ||| v) = table.unknownBits u ||| table.unknownBits v) ∧
    ∀ table : FlagTable,
      (∀ other : FlagTable, other.flags.Perm table.flags ↔
        ∃ order, order.Perm (List.finRange table.flags.length) ∧ other = table.pick order) ∧
      ∀ order, order.Perm (List.finRange table.flags.length) →
        (table.pick order).knownMask = table.knownMask ∧
        ∀ w, (table.pick order).unknownBits w = table.unknownBits w ∧
          (table.pick order).decode w = (order.filter (· ∈ table.places w)).map table.nameAt ∧
          ((table.pick order).decode w).Perm (table.decode w) := by
  refine ⟨fun first second w => ⟨append_eq_ofList first second, decode_append first second w,
      knownMask_append first second, unknownBits_append first second w, ?_⟩,
    fun table u v => ⟨table.decode_eq_map_places u, table.decode_sublist_or u v,
      fun i => mem_places_or, table.unknownBits_or u v⟩,
    fun table => ⟨fun other => perm_iff_exists_pick, fun order horder => ?_⟩⟩
  · rw [unknownBits_append, unknownBits_comm]
  · have hperm := perm_pick horder
    exact ⟨knownMask_of_perm hperm, fun w => ⟨unknownBits_of_perm hperm w,
      table.decode_pick order w, decode_perm hperm w⟩⟩

/-- Three entries of two names, turned by one place. -/
theorem composed_words_and_tables_repeated :
    let table := FlagTable.ofList [("A", 1), ("B", 2), ("A", 6)]
    let order : List (Fin table.flags.length) := [⟨1, by decide⟩, ⟨2, by decide⟩, ⟨0, by decide⟩]
    order.Perm (List.finRange table.flags.length) ∧
      table.pick order = ofList [("B", 2), ("A", 6), ("A", 1)] ∧
      table.places 13 = [⟨0, by decide⟩, ⟨2, by decide⟩] ∧
      (table.pick order).unknownBits 13 = table.unknownBits 13 ∧
      (table.pick order).decode 13 = (order.filter (· ∈ table.places 13)).map table.nameAt ∧
      ((table.pick order).decode 13).Perm (table.decode 13) := by
  intro table order
  have horder : order.Perm (List.finRange table.flags.length) := by decide
  obtain ⟨-, -, hreordered⟩ := composed_words_and_tables
  obtain ⟨-, hwords⟩ := (hreordered table).2 order horder
  exact ⟨horder, rfl, by decide, hwords 13⟩

end FlagTable

end BusStatus
