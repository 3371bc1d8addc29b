import BusStatus.Ring.Record
import BusStatus.Summary.WordSet
import BusStatus.Text.Lines

/-!
# Summaries

A summary counts words and, for every flag of a table, the words in which the flag is set. Counts
stand in table order, and a flag that was never set keeps its count of zero.
-/

namespace BusStatus

structure FlagCount where
  flag : Flag
  /-- In how many words it was set. -/
  count : Nat
deriving DecidableEq, Repr

/-- Counts over the words seen so far. -/
structure FlagSummary where
  records : Nat
  seen : WordSet
  counts : List FlagCount
deriving DecidableEq, Repr

namespace FlagCount

def width : Nat := 5

/-- Counts a word if the flag is set in it. -/
def add (entry : FlagCount) (w : Word) : FlagCount :=
  if entry.flag.isSetIn w then { entry with count := entry.count + 1 } else entry

/-- The line that shows a count behind its flag. -/
def display (entry : FlagCount) : String :=
  "  " ++ entry.flag.display ++ " " ++ Text.padLeft width (Text.decimal entry.count)

def toJson (entry : FlagCount) : Json :=
  .object [("name", .text entry.flag.name), ("mask", entry.flag.mask.toJson),
    ("count", .number entry.count)]

end FlagCount

namespace FlagSummary

/-- The summary of no words over a table. -/
def new (table : FlagTable) : FlagSummary :=
  ⟨0, .empty, table.flags.map fun flag => ⟨flag, 0⟩⟩

def add (summary : FlagSummary) (w : Word) : FlagSummary :=
  ⟨summary.records + 1, summary.seen.insert w, summary.counts.map (·.add w)⟩

def addAll (summary : FlagSummary) (ws : List Word) : FlagSummary :=
  ws.foldl add summary

def addRecords (summary : FlagSummary) (records : List Record) : FlagSummary :=
  summary.addAll (records.map (·.raw))

/-- How many different words were seen. -/
def distinctValues (summary : FlagSummary) : Nat :=
  summary.seen.size

/-- The count of the first flag of this name. -/
def countOf? (summary : FlagSummary) (name : String) : Option Nat :=
  (summary.counts.find? (·.flag.name == name)).map (·.count)

def lines (summary : FlagSummary) : List String :=
  (Text.decimal summary.records ++ " records, " ++ Text.decimal summary.distinctValues ++
    " distinct values") :: summary.counts.map (·.display)

def display (summary : FlagSummary) : String :=
  Text.unlines summary.lines

/-- A summary as JSON, which tells only how many different words were seen. -/
def toJson (summary : FlagSummary) : Json :=
  .object [("records", .number summary.records),
    ("distinct_values", .number summary.distinctValues),
    ("flags", .list (summary.counts.map (·.toJson)))]

end FlagSummary

end BusStatus
