import BusStatus.Ring.Replay
import Mathlib.Data.List.Rotate

/-!
# The records that a replay has still to show

A replay stands for the records of its ring, turned to its cursor and cut to its count. One invariant
ties cursor, last slot and count together.
-/

namespace BusStatus

/-- The records of all slots in the order of the slots. -/
def Record.bySlot (slots : Array Word) (table : FlagTable) : List Record :=
  slots.toList.mapIdx fun slot raw => ⟨slot, raw, table.decode raw⟩

@[simp] theorem Record.length_bySlot (slots : Array Word) (table : FlagTable) :
    (Record.bySlot slots table).length = slots.size := by
  simp [Record.bySlot]

@[simp] theorem Record.getElem?_bySlot (slots : Array Word) (table : FlagTable) (slot : Nat) :
    (Record.bySlot slots table)[slot]? =
      slots[slot]?.map fun raw => ⟨slot, raw, table.decode raw⟩ := by
  simp [Record.bySlot]

/-! ## Turning a list by one place -/

theorem rotate_eq_cons {α : Type} {xs : List α} {n : Nat} (h : n < xs.length) :
    xs.rotate n = xs[n] :: (xs.drop (n + 1) ++ xs.take n) := by
  rw [List.rotate_eq_drop_append_take (Nat.le_of_lt h), List.drop_eq_getElem_cons h, List.cons_append]

theorem rotate_succ_eq {α : Type} {xs : List α} {n : Nat} (h : n < xs.length) :
    xs.rotate (n + 1) = (xs.rotate n).tail ++ [xs[n]] := by
  rw [← List.rotate_rotate, rotate_eq_cons h]
  simp

namespace Replay

/-! ## The list and the invariant -/

/-- The records still to come, read off the ring. -/
def pending (replay : Replay) : List Record :=
  ((Record.bySlot replay.slots replay.table).rotate replay.cursor).take replay.remaining

/-- The cursor is a slot, and as many slots are left as lie between it and the last one. -/
structure Sound (replay : Replay) : Prop where
  cursor_lt : replay.cursor < replay.capacity
  remaining_le : replay.remaining ≤ replay.capacity
  last_eq : 0 < replay.remaining →
    replay.last = (replay.cursor + replay.remaining - 1) % replay.capacity

/-- The replay has exactly these records to show. -/
structure Shows (replay : Replay) (records : List Record) : Prop where
  sound : replay.Sound
  pending_eq : replay.pending = records

theorem Sound.cursor_lt_length {replay : Replay} (h : replay.Sound) :
    replay.cursor < (Record.bySlot replay.slots replay.table).length := by
  rw [Record.length_bySlot]
  exact h.cursor_lt

theorem Sound.length_pending {replay : Replay} (h : replay.Sound) :
    replay.pending.length = replay.remaining := by
  rw [pending, List.length_take, List.length_rotate, Record.length_bySlot]
  exact Nat.min_eq_left h.remaining_le

theorem Shows.remaining_eq {replay : Replay} {records : List Record} (h : replay.Shows records) :
    replay.remaining = records.length := by
  rw [← h.sound.length_pending, h.pending_eq]

theorem Shows.sizeHint_eq {replay : Replay} {records : List Record} (h : replay.Shows records) :
    replay.sizeHint = (records.length, some records.length) := by
  rw [sizeHint, h.remaining_eq]

/-- The two signs of the end agree: the cursor reaches the last slot with the last record. -/
theorem Sound.cursor_eq_last_iff {replay : Replay} (h : replay.Sound) (hr : 0 < replay.remaining) :
    replay.cursor = replay.last ↔ replay.remaining = 1 := by
  have hc := h.cursor_lt
  have hle := h.remaining_le
  rw [h.last_eq hr]
  by_cases hwrap : replay.cursor + replay.remaining - 1 < replay.capacity
  · rw [Nat.mod_eq_of_lt hwrap]; omega
  · rw [Nat.mod_eq_sub_mod (by omega), Nat.mod_eq_of_lt (by omega)]; omega

/-! ## One record -/

theorem Sound.advance {replay : Replay} (h : replay.Sound) (hr : 0 < replay.remaining) :
    replay.advance.Sound := by
  have hc := h.cursor_lt
  have hle := h.remaining_le
  unfold Replay.advance
  split
  · exact ⟨hc, Nat.zero_le _, fun h0 => absurd h0 (Nat.lt_irrefl 0)⟩
  · rename_i hne
    have hr1 : replay.remaining ≠ 1 := fun h1 => hne ((h.cursor_eq_last_iff hr).mpr h1)
    refine ⟨Nat.mod_lt _ (Nat.zero_lt_of_lt hc), Nat.le_trans (Nat.sub_le _ _) hle, fun _ => ?_⟩
    change replay.last =
      ((replay.cursor + 1) % replay.capacity + (replay.remaining - 1) - 1) % replay.capacity
    rw [h.last_eq hr]
    -- Only behind the last slot of the ring does the cursor go back to the first one.
    by_cases hwrap : replay.cursor + 1 < replay.capacity
    · rw [Nat.mod_eq_of_lt hwrap]
      congr 1; omega
    · have hcap : replay.cursor + 1 = replay.capacity := by omega
      have hsum : replay.cursor + replay.remaining - 1 =
          replay.capacity + (0 + (replay.remaining - 1) - 1) := by omega
      rw [hcap, Nat.mod_self, hsum, Nat.add_mod_left]

theorem Sound.pending_advance {replay : Replay} (h : replay.Sound) (hr : 0 < replay.remaining) :
    replay.advance.pending =
      ((Record.bySlot replay.slots replay.table).rotate replay.cursor).tail.take
        (replay.remaining - 1) := by
  have hle := h.remaining_le
  unfold Replay.advance
  split
  · rename_i heq
    simp [pending, (h.cursor_eq_last_iff hr).mp heq]
  · have hmod : (Record.bySlot replay.slots replay.table).rotate
        ((replay.cursor + 1) % replay.capacity) =
          (Record.bySlot replay.slots replay.table).rotate (replay.cursor + 1) := by
      rw [← List.rotate_mod _ (replay.cursor + 1), Record.length_bySlot, capacity]
    simp only [pending, hmod]
    rw [rotate_succ_eq h.cursor_lt_length, List.take_append_of_le_length]
    rw [List.length_tail, List.length_rotate, Record.length_bySlot]
    exact Nat.sub_le_sub_right hle 1

theorem Sound.pending_eq_cons {replay : Replay} (h : replay.Sound) (hr : 0 < replay.remaining) :
    ∃ raw, replay.slots[replay.cursor]? = some raw ∧
      replay.pending = ⟨replay.cursor, raw, replay.table.decode raw⟩ :: replay.advance.pending := by
  have hraw := Array.getElem?_eq_getElem h.cursor_lt
  have hfirst := Record.getElem?_bySlot replay.slots replay.table replay.cursor
  rw [hraw, List.getElem?_eq_getElem h.cursor_lt_length, Option.map_some, Option.some.injEq] at hfirst
  obtain ⟨n, hn⟩ : ∃ n, replay.remaining = n + 1 := ⟨replay.remaining - 1, by omega⟩
  refine ⟨_, hraw, ?_⟩
  rw [h.pending_advance hr, pending, rotate_eq_cons h.cursor_lt_length, hn, List.take_succ_cons,
    hfirst]
  rfl

theorem next_of_remaining_eq_zero {replay : Replay} (h : replay.remaining = 0) :
    replay.next = (none, replay) := by
  rw [next, if_pos h]

theorem Sound.next_eq {replay : Replay} (h : replay.Sound) (hr : 0 < replay.remaining) :
    replay.next = (replay.pending.head?, replay.advance) := by
  have hne : replay.remaining ≠ 0 := by omega
  obtain ⟨raw, hraw, hpending⟩ := h.pending_eq_cons hr
  rw [hpending, next, if_neg hne, hraw]
  rfl

theorem Shows.next_nil {replay : Replay} (h : replay.Shows []) : replay.next = (none, replay) :=
  next_of_remaining_eq_zero h.remaining_eq

theorem Shows.next_cons {replay : Replay} {record : Record} {records : List Record}
    (h : replay.Shows (record :: records)) :
    ∃ left, replay.next = (some record, left) ∧ left.Shows records := by
  have hr : 0 < replay.remaining := by rw [h.remaining_eq]; exact Nat.succ_pos _
  obtain ⟨raw, -, hpending⟩ := h.sound.pending_eq_cons hr
  rw [h.pending_eq] at hpending
  refine ⟨replay.advance, ?_, h.sound.advance hr, (List.tail_eq_of_cons_eq hpending).symm⟩
  rw [h.sound.next_eq hr, h.pending_eq, List.head?_cons]

theorem Shows.next {replay : Replay} {records : List Record} (h : replay.Shows records) :
    ∃ left, replay.next = (records.head?, left) ∧ left.Shows records.tail := by
  cases records with
  | nil => exact ⟨replay, h.next_nil, h⟩
  | cons record records => exact h.next_cons

/-! ## Several records -/

theorem Shows.nth {replay : Replay} {records : List Record} (h : replay.Shows records) (n : Nat) :
    ∃ left, replay.nth n = (records[n]?, left) ∧ left.Shows (records.drop (n + 1)) := by
  induction n generalizing replay records with
  | zero =>
      rw [← List.head?_eq_getElem?, List.drop_one]
      exact h.next
  | succ n ih =>
      cases records with
      | nil => exact ⟨replay, by simp [Replay.nth, h.next_nil], h⟩
      | cons record records =>
          obtain ⟨left, hnext, hleft⟩ := h.next_cons
          simpa [Replay.nth, hnext] using ih hleft

theorem Shows.take {replay : Replay} {records : List Record} (h : replay.Shows records) (n : Nat) :
    ∃ left, replay.take n = (records.take n, left) ∧ left.Shows (records.drop n) := by
  induction n generalizing replay records with
  | zero => exact ⟨replay, rfl, h⟩
  | succ n ih =>
      cases records with
      | nil => exact ⟨replay, by simp [Replay.take, h.next_nil], h⟩
      | cons record records =>
          obtain ⟨left, hnext, hleft⟩ := h.next_cons
          obtain ⟨final, htake, hfinal⟩ := ih hleft
          exact ⟨final, by simp [Replay.take, hnext, htake], hfinal⟩

theorem Shows.rest {replay : Replay} {records : List Record} (h : replay.Shows records) :
    ∃ left, replay.rest = (records, left) ∧ left.Shows [] := by
  obtain ⟨left, htake, hleft⟩ := h.take replay.remaining
  rw [h.remaining_eq] at htake hleft
  rw [List.take_length] at htake
  rw [List.drop_length] at hleft
  exact ⟨left, by rw [Replay.rest, h.remaining_eq, htake], hleft⟩

theorem Shows.records_eq {replay : Replay} {records : List Record} (h : replay.Shows records) :
    replay.records = records := by
  obtain ⟨left, hrest, -⟩ := h.rest
  rw [Replay.records, hrest]

/-! ## The walk until nothing comes -/

/-- Taking one record after the other gives these, and then nothing comes and this replay is left. -/
inductive Drains : Replay → List Record → Replay → Prop where
  | done {replay left : Replay} : replay.next = (none, left) → Drains replay [] left
  | more {replay left final : Replay} {record : Record} {records : List Record} :
      replay.next = (some record, left) → Drains left records final →
      Drains replay (record :: records) final

theorem remaining_lt_of_next {replay left : Replay} {record : Record}
    (h : replay.next = (some record, left)) : left.remaining < replay.remaining := by
  unfold Replay.next at h
  split at h
  · simp at h
  · split at h
    · simp at h
    · simp only [Prod.mk.injEq] at h
      obtain ⟨-, rfl⟩ := h
      unfold Replay.advance
      split <;> simp only <;> omega

theorem drains_take {replay : Replay} {n : Nat} (h : replay.remaining ≤ n) :
    Drains replay (replay.take n).1 (replay.take n).2 := by
  induction n generalizing replay with
  | zero => exact .done (next_of_remaining_eq_zero (Nat.le_zero.mp h))
  | succ n ih =>
      cases hnext : replay.next with
      | mk item left =>
          cases item with
          | none => simpa [Replay.take, hnext] using Drains.done hnext
          | some record =>
              have hlt := remaining_lt_of_next hnext
              simpa [Replay.take, hnext] using Drains.more hnext (ih (by omega))

theorem drains_rest (replay : Replay) : Drains replay replay.rest.1 replay.rest.2 :=
  drains_take (Nat.le_refl _)

end Replay

/-! ## The replay that starts -/

theorem Ring.replay_eq_error_iff {ring : Ring} {table : FlagTable} {fault : StatusError} :
    ring.replay table = .error fault ↔
      ring.capacity ≤ ring.start ∧ fault = .startOutOfRange ring.start ring.capacity := by
  unfold Ring.replay
  split
  · rename_i hlt
    constructor
    · intro h; cases h
    · intro h; exact absurd h.1 (Nat.not_le.mpr hlt)
  · rename_i hge
    constructor
    · intro h; cases h; exact ⟨Nat.le_of_not_lt hge, rfl⟩
    · rintro ⟨-, rfl⟩; rfl

theorem Ring.replay_shows {ring : Ring} (h : ring.start < ring.capacity) (table : FlagTable) :
    ∃ replay, ring.replay table = .ok replay ∧
      replay.last = (ring.start + ring.capacity - 1) % ring.capacity ∧
      replay.Shows ((Record.bySlot ring.slots table).rotate ring.start) := by
  refine ⟨_, by rw [Ring.replay, if_pos h], rfl, ⟨h, Nat.le_refl _, fun _ => rfl⟩, ?_⟩
  have hlen : ((Record.bySlot ring.slots table).rotate ring.start).length = ring.capacity := by
    simp [capacity]
  rw [Replay.pending, ← hlen]
  exact List.take_length

theorem Ring.last_eq_of_fits {ring : Ring} {table : FlagTable} {replay : Replay}
    (hfits : ring.start + ring.capacity < UInt64.size) (h : ring.replay table = .ok replay) :
    replay.last = ((UInt64.ofNat ring.start + UInt64.ofNat ring.capacity - 1) %
      UInt64.ofNat ring.capacity).toNat := by
  unfold Ring.replay at h
  split at h
  · rename_i hlt
    cases h
    have hstart : (UInt64.ofNat ring.start).toNat = ring.start := UInt64.toNat_ofNat_of_lt (by omega)
    have hcapacity : (UInt64.ofNat ring.capacity).toNat = ring.capacity :=
      UInt64.toNat_ofNat_of_lt (by omega)
    have hsum : (UInt64.ofNat ring.start + UInt64.ofNat ring.capacity).toNat =
        ring.start + ring.capacity := by
      rw [UInt64.toNat_add, hstart, hcapacity]
      exact Nat.mod_eq_of_lt hfits
    have hone : (1 : UInt64) ≤ UInt64.ofNat ring.start + UInt64.ofNat ring.capacity := by
      rw [UInt64.le_iff_toNat_le, hsum]
      exact Nat.le_trans (Nat.succ_le_of_lt (Nat.zero_lt_of_lt hlt)) (Nat.le_add_left _ _)
    rw [UInt64.toNat_mod, UInt64.toNat_sub_of_le _ _ hone, hsum, hcapacity]
    rfl
  · cases h

end BusStatus
