import BusStatus.Proofs.Ring.Pending
import Mathlib.Data.List.DropRight

/-!
# A replay shows the words oldest first

A write takes the first record from what a replay shows and puts the new one behind the others.
-/

namespace BusStatus.Ring

variable {ring : Ring} {table : FlagTable}

def oldestFirst (ring : Ring) (table : FlagTable) : List Record :=
  (Record.bySlot ring.slots table).rotate ring.start

/-- The records of words that are written one after the other, each in the slot that it takes. -/
def written (ring : Ring) (table : FlagTable) (ws : List Word) : List Record :=
  ws.mapIdx fun i w => ⟨(ring.start + i) % ring.capacity, w, table.decode w⟩

theorem length_oldestFirst (ring : Ring) (table : FlagTable) :
    (ring.oldestFirst table).length = ring.capacity := by
  simp [oldestFirst, capacity]

theorem exists_oldestFirst_eq_cons (h : ring.start < ring.capacity) (table : FlagTable) :
    ∃ oldest kept, ring.oldestFirst table = oldest :: kept := by
  refine List.exists_cons_of_length_pos ?_
  rw [length_oldestFirst]
  exact Nat.zero_lt_of_lt h

theorem map_records_replay (h : ring.start < ring.capacity) (table : FlagTable) :
    (ring.replay table).map Replay.records = .ok (ring.oldestFirst table) := by
  obtain ⟨replay, hreplay, -, hshows⟩ := replay_shows h table
  rw [hreplay, oldestFirst, ← hshows.records_eq]
  rfl

theorem slot_of_mem_oldestFirst {record : Record} (h : record ∈ ring.oldestFirst table) :
    ring.slots[record.index]? = some record.raw ∧ record.flags = table.decode record.raw := by
  rw [oldestFirst, List.mem_rotate, Record.bySlot, List.mem_mapIdx] at h
  obtain ⟨slot, hslot, rfl⟩ := h
  exact ⟨by simp, rfl⟩

/-! ## One write -/

theorem capacity_write (ring : Ring) (w : Word) : (ring.write w).capacity = ring.capacity := by
  simp [write, capacity]

theorem start_write_lt (h : ring.start < ring.capacity) (w : Word) :
    (ring.write w).start < (ring.write w).capacity := by
  rw [capacity_write]
  exact Nat.mod_lt _ (Nat.zero_lt_of_lt h)

theorem bySlot_write (ring : Ring) (w : Word) (table : FlagTable) :
    Record.bySlot (ring.write w).slots table =
      (Record.bySlot ring.slots table).set ring.start ⟨ring.start, w, table.decode w⟩ := by
  simp [Record.bySlot, write, List.mapIdx_set]

/-- Behind the first item, a turned list does not show what has become of that item. -/
theorem tail_rotate_set {α : Type} {xs : List α} {n : Nat} (h : n < xs.length) (x : α) :
    ((xs.set n x).rotate n).tail = (xs.rotate n).tail := by
  rw [rotate_eq_cons (by rwa [List.length_set]), rotate_eq_cons h, List.tail_cons, List.tail_cons,
    List.drop_set_of_lt (Nat.lt_succ_self n), List.take_set_of_le (Nat.le_refl n)]

theorem oldestFirst_write (h : ring.start < ring.capacity) (w : Word) (table : FlagTable) :
    (ring.write w).oldestFirst table =
      (ring.oldestFirst table).tail ++ [⟨ring.start, w, table.decode w⟩] := by
  have hold : ring.start < (Record.bySlot ring.slots table).length := by
    rw [Record.length_bySlot]
    exact h
  have hnew : ring.start <
      ((Record.bySlot ring.slots table).set ring.start ⟨ring.start, w, table.decode w⟩).length := by
    rw [List.length_set]
    exact hold
  calc (ring.write w).oldestFirst table
      = ((Record.bySlot ring.slots table).set ring.start
          ⟨ring.start, w, table.decode w⟩).rotate (ring.start + 1) := by
        rw [oldestFirst, bySlot_write, ← List.rotate_mod _ (ring.start + 1), List.length_set,
          Record.length_bySlot]
        rfl
    _ = (ring.oldestFirst table).tail ++ [⟨ring.start, w, table.decode w⟩] := by
        rw [rotate_succ_eq hnew, tail_rotate_set hold, List.getElem_set_self, oldestFirst]

/-! ## Many writes -/

theorem written_cons (h : ring.start < ring.capacity) (w : Word) (ws : List Word)
    (table : FlagTable) :
    ring.written table (w :: ws) =
      ⟨ring.start, w, table.decode w⟩ :: (ring.write w).written table ws := by
  rw [written, List.mapIdx_cons, Nat.add_zero, Nat.mod_eq_of_lt h, written, capacity_write]
  congr 2
  funext i w
  change Record.mk _ w _ = Record.mk (((ring.start + 1) % ring.capacity + i) % ring.capacity) w _
  rw [Nat.mod_add_mod, Nat.add_assoc, Nat.add_comm i 1]

theorem map_raw_written (ring : Ring) (table : FlagTable) (ws : List Word) :
    (ring.written table ws).map (·.raw) = ws := by
  apply List.ext_getElem
  · simp [written]
  · intro i h _
    simp [written]

theorem start_writeAll_lt (h : ring.start < ring.capacity) (ws : List Word) :
    (ring.writeAll ws).start < (ring.writeAll ws).capacity := by
  induction ws generalizing ring with
  | nil => exact h
  | cons w ws ih => exact ih (start_write_lt h w)

theorem oldestFirst_writeAll (h : ring.start < ring.capacity) (ws : List Word)
    (table : FlagTable) :
    (ring.writeAll ws).oldestFirst table =
      (ring.oldestFirst table ++ ring.written table ws).drop ws.length := by
  induction ws generalizing ring with
  | nil => simp [writeAll, written]
  | cons w ws ih =>
      obtain ⟨oldest, kept, hcons⟩ := exists_oldestFirst_eq_cons h table
      calc (ring.writeAll (w :: ws)).oldestFirst table
          = ((ring.write w).oldestFirst table ++ (ring.write w).written table ws).drop ws.length :=
            ih (start_write_lt h w)
        _ = (ring.oldestFirst table ++ ring.written table (w :: ws)).drop (w :: ws).length := by
            rw [oldestFirst_write h, written_cons h, hcons]
            simp

/-- The records that are left are the last of all, as many as there are slots. -/
theorem oldestFirst_writeAll_eq_rtake (h : ring.start < ring.capacity) (ws : List Word)
    (table : FlagTable) :
    (ring.writeAll ws).oldestFirst table =
      (ring.oldestFirst table ++ ring.written table ws).rtake ring.capacity := by
  have hlen : (ring.oldestFirst table ++ ring.written table ws).length - ring.capacity =
      ws.length := by
    rw [List.length_append, length_oldestFirst, Nat.add_sub_cancel_left, written,
      List.length_mapIdx]
  rw [oldestFirst_writeAll h, List.rtake, hlen]

/-! ## What a replay shows after writes -/

/-- After any writes a replay shows the last of all words, oldest first, each in its slot. -/
theorem replay_oldest_first (ring : Ring) (table : FlagTable) (h : ring.start < ring.capacity) :
    ∃ oldest kept, (ring.replay table).map Replay.records = .ok (oldest :: kept) ∧
      (∀ w, ((ring.write w).replay table).map Replay.records =
        .ok (kept ++ [⟨ring.start, w, table.decode w⟩])) ∧
      ∀ ws, ∃ shown, ((ring.writeAll ws).replay table).map Replay.records = .ok shown ∧
        shown = (oldest :: kept ++ ring.written table ws).rtake ring.capacity ∧
        shown.map (·.raw) = ((oldest :: kept).map (·.raw) ++ ws).rtake ring.capacity ∧
        ∀ record ∈ shown, (ring.writeAll ws).slots[record.index]? = some record.raw ∧
          record.flags = table.decode record.raw := by
  obtain ⟨oldest, kept, hcons⟩ := exists_oldestFirst_eq_cons h table
  refine ⟨oldest, kept, hcons ▸ map_records_replay h table, fun w => ?_, fun ws => ?_⟩
  · rw [map_records_replay (start_write_lt h w), oldestFirst_write h, hcons, List.tail_cons]
  · have hshown := oldestFirst_writeAll_eq_rtake h ws table
    refine ⟨_, map_records_replay (start_writeAll_lt h ws) table, hcons ▸ hshown, ?_,
      fun record hm => slot_of_mem_oldestFirst hm⟩
    rw [hshown, hcons, List.rtake, List.rtake, List.map_drop, List.map_append, map_raw_written]
    simp [written]

theorem replay_oldest_first_overwritten :
    1 < 3 ∧ ∃ shown, ((Ring.writeAll ⟨#[10, 20, 30], 1⟩ [40, 50, 60, 70]).replay .empty).map
        Replay.records = .ok shown ∧ shown.map (·.raw) = [50, 60, 70] := by
  obtain ⟨oldest, kept, hbefore, -, hafter⟩ :=
    replay_oldest_first ⟨#[10, 20, 30], 1⟩ .empty (by decide)
  obtain ⟨shown, hshown, -, hraw, -⟩ := hafter [40, 50, 60, 70]
  have hold : [⟨1, 20, []⟩, ⟨2, 30, []⟩, ⟨0, 10, []⟩] = oldest :: kept := Except.ok.inj hbefore
  rw [← hold] at hraw
  exact ⟨by decide, shown, hshown, hraw⟩

end BusStatus.Ring
