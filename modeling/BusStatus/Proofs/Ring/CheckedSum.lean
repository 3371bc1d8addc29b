import BusStatus.Proofs.Ring.Pending

/-!
# The last slot in 64 bits

The start of a replay is checked before it is added to the capacity, so the sum fits where it is formed.
-/

namespace BusStatus

/-! ## Checked numbers -/

/-- The sum of two numbers, if 64 bits can hold it. -/
def checkedAdd? (m n : Nat) : Option Nat :=
  if m + n < UInt64.size then some (m + n) else none

def checkedSub? (m n : Nat) : Option Nat :=
  if n ≤ m then some (m - n) else none

def checkedMod? (m n : Nat) : Option Nat :=
  if n = 0 then none else some (m % n)

namespace Ring

/-- The slot before the start, computed step by step with checked numbers. -/
def lastSlot? (ring : Ring) : Option Nat := do
  let sum ← checkedAdd? ring.start ring.capacity
  let before ← checkedSub? sum 1
  checkedMod? before ring.capacity

/-- Starts a replay with checked numbers: the start is checked first, the last slot is computed behind. -/
def replayChecked? (ring : Ring) (table : FlagTable) : Option (Except StatusError Replay) :=
  if ring.capacity ≤ ring.start then some (.error (.startOutOfRange ring.start ring.capacity))
  else do
    let last ← ring.lastSlot?
    return .ok
      { slots := ring.slots
        table := table
        cursor := ring.start
        last := last
        remaining := ring.capacity }

variable {ring : Ring}

theorem lastSlot?_eq_none (h : UInt64.size ≤ ring.start + ring.capacity) : ring.lastSlot? = none := by
  rw [lastSlot?, checkedAdd?, if_neg (Nat.not_lt.mpr h)]
  rfl

theorem lastSlot?_eq_some (hcapacity : 0 < ring.capacity)
    (hsum : ring.start + ring.capacity < UInt64.size) :
    ring.lastSlot? = some ((ring.start + ring.capacity - 1) % ring.capacity) := by
  have hone : 1 ≤ ring.start + ring.capacity := Nat.le_add_left_of_le hcapacity
  simp only [lastSlot?, checkedAdd?, if_pos hsum, Option.bind_eq_bind, Option.bind_some, checkedSub?,
    if_pos hone, checkedMod?, if_neg (Nat.ne_of_gt hcapacity)]

/-- Every ring of at most half the numbers of 64 bits is replayed, or refused, without an overflow. -/
theorem replayChecked?_eq (h : 2 * ring.capacity ≤ UInt64.size) (table : FlagTable) :
    ring.replayChecked? table = some (ring.replay table) := by
  unfold replayChecked? Ring.replay
  by_cases hlt : ring.start < ring.capacity
  · have hsum : ring.start + ring.capacity < UInt64.size := by omega
    rw [if_neg (Nat.not_le.mpr hlt), if_pos hlt, lastSlot?_eq_some (Nat.zero_lt_of_lt hlt) hsum]
    rfl
  · rw [if_pos (Nat.not_lt.mp hlt), if_neg hlt]

end Ring

end BusStatus
