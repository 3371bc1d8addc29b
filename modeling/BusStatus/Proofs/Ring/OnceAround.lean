import BusStatus.Proofs.Ring.Pending

/-!
# A replay goes once around the ring

A replay shows every slot of its ring once, from its start to the slot before it.
-/

namespace BusStatus

/-! ## The records in the order of the ring -/

theorem Record.map_index_bySlot (slots : Array Word) (table : FlagTable) :
    (Record.bySlot slots table).map (·.index) = List.range slots.size := by
  apply List.ext_getElem
  · simp
  · intro slot h _
    simp [Record.bySlot]

theorem Record.getElem?_rotate_bySlot {slots : Array Word} (table : FlagTable) (start : Nat) {i : Nat}
    (h : i < slots.size) :
    ∃ raw, slots[(start + i) % slots.size]? = some raw ∧
      ((Record.bySlot slots table).rotate start)[i]? =
        some ⟨(start + i) % slots.size, raw, table.decode raw⟩ := by
  have hmod : (start + i) % slots.size < slots.size := Nat.mod_lt _ (Nat.zero_lt_of_lt h)
  have hraw := Array.getElem?_eq_getElem hmod
  refine ⟨_, hraw, ?_⟩
  rw [List.getElem?_rotate (by simpa using h), Record.length_bySlot, Nat.add_comm i start,
    Record.getElem?_bySlot, hraw, Option.map_some]

theorem Record.perm_index_rotate_bySlot (slots : Array Word) (table : FlagTable) (start : Nat) :
    (((Record.bySlot slots table).rotate start).map (·.index)).Perm (List.range slots.size) := by
  rw [← Record.map_index_bySlot slots table]
  exact (List.rotate_perm _ _).map _

theorem Record.head?_rotate_bySlot {slots : Array Word} (table : FlagTable) {start : Nat}
    (h : start < slots.size) :
    ((Record.bySlot slots table).rotate start).head?.map (·.index) = some start := by
  obtain ⟨raw, -, hfirst⟩ := Record.getElem?_rotate_bySlot table start (Nat.zero_lt_of_lt h)
  rw [List.head?_eq_getElem?, hfirst, Option.map_some, Nat.add_zero, Nat.mod_eq_of_lt h]

theorem Record.getLast?_rotate_bySlot {slots : Array Word} (table : FlagTable) {start : Nat}
    (h : start < slots.size) :
    ((Record.bySlot slots table).rotate start).getLast?.map (·.index) =
      some ((start + slots.size - 1) % slots.size) := by
  have hi : slots.size - 1 < slots.size := by omega
  have hsum : start + (slots.size - 1) = start + slots.size - 1 := by omega
  obtain ⟨raw, -, hlast⟩ := Record.getElem?_rotate_bySlot table start hi
  rw [List.getLast?_eq_getElem?, List.length_rotate, Record.length_bySlot, hlast, Option.map_some,
    hsum]

/-- The slot before another one around the ring, counted with and without sign. -/
theorem slot_before_eq_emod {start capacity : Nat} (h : start < capacity) :
    (((start + capacity - 1) % capacity : Nat) : Int) = ((start : Int) - 1) % (capacity : Int) := by
  have hsum : ((start + capacity - 1 : Nat) : Int) = ((start : Int) - 1) + capacity := by omega
  rw [Int.natCast_emod, hsum, Int.add_emod_right]

/-! ## The replay of a ring -/

/-- A replay starts exactly at the slots of its ring and shows each of them once. -/
theorem Ring.replay_once_around (ring : Ring) (table : FlagTable) :
    (∀ fault, ring.replay table = .error fault ↔
      ring.capacity ≤ ring.start ∧ fault = .startOutOfRange ring.start ring.capacity) ∧
    (ring.start < ring.capacity → ∃ replay left,
      ring.replay table = .ok replay ∧
      replay.Drains replay.records left ∧ left.next = (none, left) ∧
      replay.records.length = ring.capacity ∧
      (∀ i < ring.capacity, ∃ raw, ring.slots[(ring.start + i) % ring.capacity]? = some raw ∧
        replay.records[i]? = some ⟨(ring.start + i) % ring.capacity, raw, table.decode raw⟩) ∧
      replay.records = (Record.bySlot ring.slots table).drop ring.start ++
        (Record.bySlot ring.slots table).take ring.start ∧
      (replay.records.map (·.index)).Perm (List.range ring.capacity) ∧
      replay.records.head?.map (·.index) = some ring.start ∧
      replay.records.getLast?.map (·.index) = some replay.last ∧
      (replay.last : Int) = ((ring.start : Int) - 1) % (ring.capacity : Int)) := by
  refine ⟨fun fault => Ring.replay_eq_error_iff, fun hlt => ?_⟩
  obtain ⟨replay, hreplay, hlast, hshows⟩ := Ring.replay_shows hlt table
  obtain ⟨left, hrest, hleft⟩ := hshows.rest
  have hdrains := replay.drains_rest
  rw [hrest] at hdrains
  refine ⟨replay, left, hreplay, ?_⟩
  rw [hshows.records_eq, hlast]
  exact ⟨hdrains, hleft.next_nil, by simp [capacity],
    fun i hi => Record.getElem?_rotate_bySlot table ring.start hi,
    List.rotate_eq_drop_append_take (by simpa [capacity] using Nat.le_of_lt hlt),
    Record.perm_index_rotate_bySlot ring.slots table ring.start,
    Record.head?_rotate_bySlot table hlt, Record.getLast?_rotate_bySlot table hlt,
    slot_before_eq_emod hlt⟩

theorem Ring.replay_once_around_wrapped :
    2 < 3 ∧ ∃ replay left,
      Ring.replay ⟨#[1, 3, 0], 2⟩ (.ofList [("A", 1), ("B", 2)]) = .ok replay ∧
      replay.Drains [⟨2, 0, []⟩, ⟨0, 1, ["A"]⟩, ⟨1, 3, ["A", "B"]⟩] left ∧
      left.next = (none, left) := by
  obtain ⟨-, hok⟩ := Ring.replay_once_around ⟨#[1, 3, 0], 2⟩ (.ofList [("A", 1), ("B", 2)])
  obtain ⟨replay, left, hreplay, hdrains, hnext, -, -, hrecords, -⟩ := hok (by decide)
  have hshown : replay.records = [⟨2, 0, []⟩, ⟨0, 1, ["A"]⟩, ⟨1, 3, ["A", "B"]⟩] := by
    rw [hrecords]
    decide
  exact ⟨by decide, replay, left, hreplay, hshown ▸ hdrains, hnext⟩

end BusStatus
