import BusStatus.Ring.Replay

/-!
# Cursors

Several replays side by side, numbered in the order in which they were made. A move works on one of
them; forking copies one and puts the copy behind the others.
-/

namespace BusStatus

structure Cursors where
  /-- The replays in the order in which they were made. -/
  replays : List Replay
deriving DecidableEq, Repr

namespace Cursors

/-- What can be asked of a replay. -/
inductive Move where
  | next
  | nth (n : Nat)
  | take (n : Nat)
  | rest
  | fork
deriving DecidableEq, Repr

inductive Answer where
  | record (record : Option Record)
  | records (records : List Record)
  /-- The number of a new replay. -/
  | number (n : Nat)
deriving DecidableEq, Repr

def single (replay : Replay) : Cursors := ⟨[replay]⟩

def get? (cursors : Cursors) (number : Nat) : Option Replay :=
  cursors.replays[number]?

/-- Puts a replay in the place of the one of this number. -/
def set (cursors : Cursors) (number : Nat) (replay : Replay) : Cursors :=
  ⟨cursors.replays.set number replay⟩

/-- Makes a move on the replay of this number, if there is one. -/
def step? (cursors : Cursors) (number : Nat) (move : Move) : Option (Answer × Cursors) :=
  match cursors.get? number with
  | none => none
  | some replay =>
      match move with
      | .next =>
          let (record, left) := replay.next
          some (.record record, cursors.set number left)
      | .nth n =>
          let (record, left) := replay.nth n
          some (.record record, cursors.set number left)
      | .take n =>
          let (records, left) := replay.take n
          some (.records records, cursors.set number left)
      | .rest =>
          let (records, left) := replay.rest
          some (.records records, cursors.set number left)
      | .fork => some (.number cursors.replays.length, ⟨cursors.replays ++ [replay]⟩)

end Cursors

end BusStatus
