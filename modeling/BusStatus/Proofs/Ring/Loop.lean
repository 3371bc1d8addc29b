import BusStatus.Proofs.Ring.Pending
import Mathlib.Logic.Function.Iterate

/-!
# A replay is a loop that ends at the last slot

The loop stops behind the last slot and counts nothing; a replay counts its records as well, and the two
signs of its end agree.
-/

namespace BusStatus

/-! ## The loop -/

/-- From this cursor the loop shows these records and stops behind the last slot. -/
inductive Ring.Loop (slots : Array Word) (table : FlagTable) (last : Nat) : Nat → List Record → Prop where
  | stop {cursor : Nat} {raw : Word} : slots[cursor]? = some raw → cursor = last →
      Loop slots table last cursor [⟨cursor, raw, table.decode raw⟩]
  | turn {cursor : Nat} {raw : Word} {records : List Record} : slots[cursor]? = some raw →
      cursor ≠ last → Loop slots table last ((cursor + 1) % slots.size) records →
      Loop slots table last cursor (⟨cursor, raw, table.decode raw⟩ :: records)

theorem Ring.Loop.unique {slots : Array Word} {table : FlagTable} {last cursor : Nat}
    {records others : List Record} (h : Loop slots table last cursor records)
    (hother : Loop slots table last cursor others) : records = others := by
  induction h generalizing others with
  | stop hraw hlast =>
      cases hother with
      | stop hraw' => simp_all
      | turn _ hne => exact absurd hlast hne
  | turn hraw hne _ ih =>
      cases hother with
      | stop _ hlast => exact absurd hlast hne
      | turn hraw' _ hrest =>
          rw [hraw, Option.some.injEq] at hraw'
          rw [hraw', ih hrest]

namespace Replay

variable {replay : Replay}

theorem advance_of_eq (h : replay.cursor = replay.last) :
    replay.advance = { replay with remaining := 0 } := by
  rw [advance, if_pos h]

theorem advance_of_ne (h : replay.cursor ≠ replay.last) :
    replay.advance = { replay with
      cursor := (replay.cursor + 1) % replay.capacity, remaining := replay.remaining - 1 } := by
  rw [advance, if_neg h]

theorem pending_of_remaining_eq_zero (h : replay.remaining = 0) : replay.pending = [] := by
  rw [pending, h, List.take_zero]

theorem Sound.loop (h : replay.Sound) (hr : 0 < replay.remaining) :
    Ring.Loop replay.slots replay.table replay.last replay.cursor replay.pending := by
  obtain ⟨n, hn⟩ : ∃ n, replay.remaining = n + 1 := ⟨replay.remaining - 1, by omega⟩
  induction n generalizing replay with
  | zero =>
      have hlast := (h.cursor_eq_last_iff hr).mpr hn
      obtain ⟨raw, hraw, hpending⟩ := h.pending_eq_cons hr
      rw [hpending, advance_of_eq hlast, pending_of_remaining_eq_zero rfl]
      exact .stop hraw hlast
  | succ n ih =>
      have hne : replay.cursor ≠ replay.last := by
        intro hlast
        have hone := (h.cursor_eq_last_iff hr).mp hlast
        omega
      obtain ⟨raw, hraw, hpending⟩ := h.pending_eq_cons hr
      have hsound := h.advance hr
      rw [hpending]
      rw [advance_of_ne hne] at hsound ⊢
      have hleft : replay.remaining - 1 = n + 1 := by omega
      apply Ring.Loop.turn hraw hne
      exact ih hsound (Nat.lt_of_lt_of_eq n.succ_pos hleft.symm) hleft

/-! ## One record -/

@[simp] theorem slots_advance (replay : Replay) : replay.advance.slots = replay.slots := by
  unfold advance; split <;> rfl

@[simp] theorem table_advance (replay : Replay) : replay.advance.table = replay.table := by
  unfold advance; split <;> rfl

@[simp] theorem last_advance (replay : Replay) : replay.advance.last = replay.last := by
  unfold advance; split <;> rfl

theorem Sound.reads (h : replay.Sound) (hr : 0 < replay.remaining) :
    ∃ raw, replay.slots[replay.cursor]? = some raw ∧
      replay.next.1 = some ⟨replay.cursor, raw, replay.table.decode raw⟩ := by
  obtain ⟨raw, hraw, hpending⟩ := h.pending_eq_cons hr
  refine ⟨raw, hraw, ?_⟩
  rw [h.next_eq hr, hpending, List.head?_cons]

theorem Sound.counts (h : replay.Sound) (hr : 0 < replay.remaining) :
    replay.next.2.remaining + 1 = replay.remaining := by
  rw [h.next_eq hr]
  by_cases hlast : replay.cursor = replay.last
  · have hone := (h.cursor_eq_last_iff hr).mp hlast
    rw [advance_of_eq hlast, hone]
  · rw [advance_of_ne hlast]
    exact Nat.sub_add_cancel hr

/-! ## The states of a replay -/

def after (k : Nat) (replay : Replay) : Replay :=
  (fun state : Replay => state.next.2)^[k] replay

/-- The replay is a state of the walk around this ring. -/
structure Walks (replay : Replay) (ring : Ring) (table : FlagTable) : Prop where
  sound : replay.Sound
  slots_eq : replay.slots = ring.slots
  table_eq : replay.table = table
  last_eq : replay.last = (ring.start + ring.capacity - 1) % ring.capacity

variable {ring : Ring} {table : FlagTable}

theorem Walks.next (h : replay.Walks ring table) : replay.next.2.Walks ring table := by
  rcases Nat.eq_zero_or_pos replay.remaining with hr | hr
  · rw [next_of_remaining_eq_zero hr]
    exact h
  · rw [h.sound.next_eq hr]
    exact ⟨h.sound.advance hr, by simp [h.slots_eq], by simp [h.table_eq], by simp [h.last_eq]⟩

theorem Walks.after (h : replay.Walks ring table) (k : Nat) :
    (replay.after k).Walks ring table := by
  induction k with
  | zero => exact h
  | succ k ih =>
      rw [Replay.after, Function.iterate_succ_apply']
      exact ih.next

theorem Walks.capacity_eq (h : replay.Walks ring table) : replay.capacity = ring.capacity := by
  rw [capacity, h.slots_eq, Ring.capacity]

end Replay

/-! ## The replay of a ring -/

theorem Ring.replay_walks {ring : Ring} (h : ring.start < ring.capacity) (table : FlagTable) :
    ∃ replay, ring.replay table = .ok replay ∧ replay.Walks ring table ∧
      replay.cursor = ring.start ∧ 0 < replay.remaining := by
  refine ⟨_, by rw [Ring.replay, if_pos h], ⟨⟨h, Nat.le_refl _, fun _ => rfl⟩, rfl, rfl, rfl⟩, rfl, ?_⟩
  exact Nat.zero_lt_of_lt h

/-- The loop shows the very records of the replay, of which the last one stands in the last slot. -/
theorem Ring.loop_iff_records (ring : Ring) (table : FlagTable) (h : ring.start < ring.capacity) :
    ∃ replay, ring.replay table = .ok replay ∧
      (∃ left, replay.Drains replay.records left ∧ left.next = (none, left)) ∧
      (∀ records, Ring.Loop ring.slots table ((ring.start + ring.capacity - 1) % ring.capacity)
        ring.start records ↔ records = replay.records) ∧
      ∀ k, let state := replay.after k
        state.cursor < ring.capacity ∧ state.remaining ≤ ring.capacity ∧ 0 < ring.capacity ∧
        (0 < state.remaining →
          (state.cursor + state.remaining - 1) % ring.capacity =
            (ring.start + ring.capacity - 1) % ring.capacity ∧
          (state.cursor = state.last ↔ state.remaining = 1) ∧
          (∃ raw, ring.slots[state.cursor]? = some raw ∧
            state.next.1 = some ⟨state.cursor, raw, table.decode raw⟩) ∧
          state.next.2.remaining + 1 = state.remaining) := by
  obtain ⟨replay, hreplay, hwalks, hcursor, hr⟩ := Ring.replay_walks h table
  have hsound := hwalks.sound
  obtain ⟨left, hrest, hleft⟩ := Replay.Shows.rest ⟨hsound, rfl⟩
  have hrecords : replay.records = replay.pending := Replay.Shows.records_eq ⟨hsound, rfl⟩
  have hdrains := replay.drains_rest
  have hloop := hsound.loop hr
  rw [hwalks.slots_eq, hwalks.table_eq, hwalks.last_eq, hcursor] at hloop
  rw [hrest] at hdrains
  refine ⟨replay, hreplay, ⟨left, hrecords ▸ hdrains, hleft.next_nil⟩, fun records => ?_, fun k => ?_⟩
  · rw [hrecords]
    constructor
    · intro hother
      exact hother.unique hloop
    · rintro rfl
      exact hloop
  · have hstate := hwalks.after k
    have hbelow := hstate.sound.cursor_lt
    have hcount := hstate.sound.remaining_le
    rw [hstate.capacity_eq] at hbelow hcount
    refine ⟨hbelow, hcount, Nat.zero_lt_of_lt h, fun hleft => ?_⟩
    have hlast := hstate.sound.last_eq hleft
    have hreads := hstate.sound.reads hleft
    rw [hstate.capacity_eq, hstate.last_eq] at hlast
    rw [hstate.slots_eq, hstate.table_eq] at hreads
    exact ⟨hlast.symm, hstate.sound.cursor_eq_last_iff hleft, hreads, hstate.sound.counts hleft⟩

theorem Ring.loop_iff_records_wrapped :
    2 < 3 ∧ ∃ replay, Ring.replay ⟨#[1, 3, 0], 2⟩ (.ofList [("A", 1), ("B", 2)]) = .ok replay ∧
      Ring.Loop #[1, 3, 0] (.ofList [("A", 1), ("B", 2)]) 1 2
        [⟨2, 0, []⟩, ⟨0, 1, ["A"]⟩, ⟨1, 3, ["A", "B"]⟩] ∧
      0 < (replay.after 2).remaining ∧
      (replay.after 2).next.2.remaining + 1 = (replay.after 2).remaining := by
  obtain ⟨replay, hreplay, -, hloop, hstates⟩ :=
    Ring.loop_iff_records ⟨#[1, 3, 0], 2⟩ (.ofList [("A", 1), ("B", 2)]) (by decide)
  have hleft : 0 < (replay.after 2).remaining := by
    cases hreplay
    decide
  refine ⟨by decide, replay, hreplay, (hloop _).mpr ?_, hleft, ((hstates 2).2.2.2 hleft).2.2.2⟩
  cases hreplay
  decide

end BusStatus
