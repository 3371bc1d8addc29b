/-!
# Columns

Padding of a text to a column of a fixed width, counted in characters. A text that is wider than its
column is written whole.
-/

namespace BusStatus.Text

/-- As many spaces as a text lacks to fill its column. -/
def gap (width : Nat) (s : String) : String :=
  String.ofList (List.replicate (width - s.length) ' ')

def padRight (width : Nat) (s : String) : String :=
  s ++ gap width s

def padLeft (width : Nat) (s : String) : String :=
  gap width s ++ s

end BusStatus.Text
