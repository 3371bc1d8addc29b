import BusStatus.Error
import BusStatus.Ring.Basic
import BusStatus.Ring.Record

/-!
# Replays

A replay walks a ring once around, from the slot to be written next to the slot before it, so it
shows the words oldest first. It is a value: taking a record returns the record and the replay that
is left, and a replay may be kept and walked again.
-/

namespace BusStatus

/-- A walk around a ring, with the records still to come. -/
structure Replay where
  slots : Array Word
  table : FlagTable
  /-- The slot shown next. -/
  cursor : Nat
  /-- The slot shown last. -/
  last : Nat
  /-- How many records are still to come. -/
  remaining : Nat
deriving DecidableEq, Repr

/-- Starts a replay at the slot to be written next, which must be a slot of the ring. -/
def Ring.replay (ring : Ring) (table : FlagTable) : Except StatusError Replay :=
  if ring.start < ring.capacity then
    .ok
      { slots := ring.slots
        table := table
        cursor := ring.start
        last := (ring.start + ring.capacity - 1) % ring.capacity
        remaining := ring.capacity }
  else .error (.startOutOfRange ring.start ring.capacity)

namespace Replay

def capacity (replay : Replay) : Nat :=
  replay.slots.size

/-- The least and the greatest number of records that may still come: both are the count. -/
def sizeHint (replay : Replay) : Nat × Option Nat :=
  (replay.remaining, some replay.remaining)

/-- The replay after its slot has been shown: behind the last slot nothing is to come. -/
def advance (replay : Replay) : Replay :=
  if replay.cursor = replay.last then { replay with remaining := 0 }
  else
    { replay with
      cursor := (replay.cursor + 1) % replay.capacity
      remaining := replay.remaining - 1 }

/-- Takes the next record, if one is to come. -/
def next (replay : Replay) : Option Record × Replay :=
  if replay.remaining = 0 then (none, replay)
  else
    match replay.slots[replay.cursor]? with
    | none => (none, replay)
    | some raw => (some ⟨replay.cursor, raw, replay.table.decode raw⟩, replay.advance)

/-- Passes over some records and takes the one behind them. -/
def nth : Nat → Replay → Option Record × Replay
  | 0, replay => replay.next
  | n + 1, replay =>
      match replay.next with
      | (none, left) => (none, left)
      | (some _, left) => nth n left

/-- Takes records up to a number of them. -/
def take : Nat → Replay → List Record × Replay
  | 0, replay => ([], replay)
  | n + 1, replay =>
      match replay.next with
      | (none, left) => ([], left)
      | (some record, left) =>
          let (records, left) := take n left
          (record :: records, left)

def rest (replay : Replay) : List Record × Replay :=
  replay.take replay.remaining

def records (replay : Replay) : List Record :=
  replay.rest.1

end Replay

end BusStatus
