import BusStatus.Ring.Replay
import BusStatus.Summary.Basic

/-!
# Summary sessions

A summary that grows step by step, with one copy kept aside to which it can go back.
-/

namespace BusStatus

/-- A summary and the copy kept of it. -/
structure SummarySession where
  current : FlagSummary
  /-- The copy kept last. -/
  saved : FlagSummary
deriving DecidableEq, Repr

namespace SummarySession

/-- What can be done with a summary. -/
inductive Step where
  | add (w : Word)
  /-- Counts the words of a replay of this ring, all or at most as many as the limit says. -/
  | replay (ring : Ring) (table : FlagTable) (limit : Option Nat)
  | save
  | restore
deriving DecidableEq, Repr

/-- The session of an empty summary, which is also the first copy. -/
def new (table : FlagTable) : SummarySession :=
  ⟨.new table, .new table⟩

/-- The records of a replay that a limit leaves. -/
def limited (replay : Replay) : Option Nat → List Record
  | none => replay.records
  | some n => (replay.take n).1

/-- Does a step; a replay that cannot start changes nothing and tells why. -/
def step (session : SummarySession) : Step → Option StatusError × SummarySession
  | .add w => (none, { session with current := session.current.add w })
  | .replay ring table limit =>
      match ring.replay table with
      | .error e => (some e, session)
      | .ok replay =>
          (none, { session with current := session.current.addRecords (limited replay limit) })
  | .save => (none, { session with saved := session.current })
  | .restore => (none, { session with current := session.saved })

end SummarySession

end BusStatus
