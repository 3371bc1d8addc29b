import BusStatus.Proofs.Ring.Pending

/-!
# The words that a replay shows

The start of a ring decides about the order of its words only.
-/

namespace BusStatus

def Ring.words (ring : Ring) : List Word :=
  ring.slots.toList.rotate ring.start

theorem Record.map_raw_bySlot (slots : Array Word) (table : FlagTable) :
    (Record.bySlot slots table).map (·.raw) = slots.toList := by
  apply List.ext_getElem
  · simp
  · intro slot h _
    simp [Record.bySlot]

theorem Record.flags_of_mem_bySlot {slots : Array Word} {table : FlagTable} {record : Record}
    (h : record ∈ Record.bySlot slots table) : record.flags = table.decode record.raw := by
  rw [Record.bySlot, List.mem_mapIdx] at h
  obtain ⟨slot, _, rfl⟩ := h
  rfl

theorem Ring.replay_shows_words {ring : Ring} (h : ring.start < ring.capacity) (table : FlagTable) :
    ∃ replay records, ring.replay table = .ok replay ∧ replay.Shows records ∧
      records.map (·.raw) = ring.words ∧
      ∀ record ∈ records, record.flags = table.decode record.raw := by
  obtain ⟨replay, hreplay, -, hshows⟩ := Ring.replay_shows h table
  refine ⟨replay, _, hreplay, hshows, ?_, fun record hm => ?_⟩
  · rw [List.map_rotate, Record.map_raw_bySlot, Ring.words]
  · exact Record.flags_of_mem_bySlot (List.mem_rotate.mp hm)

theorem Ring.words_perm (ring : Ring) : ring.words.Perm ring.slots.toList :=
  List.rotate_perm _ _

theorem Ring.length_words (ring : Ring) : ring.words.length = ring.capacity := by
  rw [Ring.words_perm ring |>.length_eq, Array.length_toList, Ring.capacity]

end BusStatus
