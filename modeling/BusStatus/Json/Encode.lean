import BusStatus.Flag.Table
import BusStatus.Json.Basic

/-!
# Words and flags as JSON

The JSON values of words, flags and tables. Members stand in the order in which the fields are named.
-/

namespace BusStatus

def Word.toJson (w : Word) : Json :=
  .number w.toNat

def Json.names (names : List String) : Json :=
  .list (names.map .text)

def Flag.toJson (flag : Flag) : Json :=
  .object [("name", .text flag.name), ("mask", flag.mask.toJson)]

def FlagTable.toJson (table : FlagTable) : Json :=
  .object [("flags", .list (table.flags.map Flag.toJson))]

end BusStatus
