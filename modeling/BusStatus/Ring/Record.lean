import BusStatus.Json.Encode

/-!
# Records

One slot of a ring as a replay shows it: where it stands, its word, and the flags set in the word.
-/

namespace BusStatus

/-- A decoded slot of a ring. -/
structure Record where
  /-- The position of the slot in the ring. -/
  index : Nat
  raw : Word
  /-- The names of the flags set in the word. -/
  flags : List String
deriving DecidableEq, Repr

namespace Record

/-- The line that shows a record: the word and the names, a space behind each. -/
def display (record : Record) : String :=
  record.raw.decimal ++ " " ++ String.join (record.flags.map (· ++ " "))

def toJson (record : Record) : Json :=
  .object [("index", .number record.index), ("raw", record.raw.toJson),
    ("flags", .names record.flags)]

end Record

end BusStatus
