/-!
# Lines

A text made of lines, each ended by a line feed.
-/

namespace BusStatus.Text

def unlines : List String → String
  | [] => ""
  | line :: lines => line ++ "\n" ++ unlines lines

end BusStatus.Text
