import BusStatus.Log.Event
import BusStatus.Proofs.Text.Lines
import BusStatus.Proofs.Text.OneLine

/-!
# The lines of events

The line of an event begins with its level, so it never looks like the line about a failure.
-/

namespace BusStatus

open Text (OneLine)

/-! ## Lines about failures -/

/-- The line begins as one that tells about a failure. -/
def IsErrorLine (line : List Char) : Prop :=
  "Error:".toList <+: line

instance (line : List Char) : Decidable (IsErrorLine line) :=
  inferInstanceAs (Decidable ("Error:".toList <+: line))

/-- What stands in front decides, if it is long enough to leave no room for another beginning. -/
theorem not_isErrorLine_append {front : String} (hlength : "Error:".length ≤ front.length)
    (hfront : ¬ IsErrorLine front.toList) (back : String) :
    ¬ IsErrorLine (front ++ back).toList := by
  intro h
  rw [IsErrorLine, String.toList_append] at h
  exact hfront (List.prefix_of_prefix_length_le h (List.prefix_append _ _) hlength)

/-- A line about a failure is seen among these lines, each split at its line feeds. -/
def ShowsError (lines : List String) : Prop :=
  ∃ piece ∈ Text.split '\n' (Text.unlines lines).toList, IsErrorLine piece

instance (lines : List String) : Decidable (ShowsError lines) :=
  inferInstanceAs
    (Decidable (∃ piece ∈ Text.split '\n' (Text.unlines lines).toList, IsErrorLine piece))

theorem showsError_iff {lines : List String} :
    ShowsError lines ↔ ∃ line ∈ lines, ∃ piece ∈ Text.split '\n' line.toList, IsErrorLine piece := by
  have hend : ¬ IsErrorLine [] := by decide
  rw [ShowsError, Text.split_unlines]
  simp only [List.mem_append, List.mem_flatMap, List.mem_singleton]
  constructor
  · rintro ⟨piece, ⟨line, hline, hpiece⟩ | rfl, herror⟩
    · exact ⟨line, hline, piece, hpiece, herror⟩
    · exact absurd herror hend
  · rintro ⟨line, hline, piece, hpiece, herror⟩
    exact ⟨piece, .inl ⟨line, hline, hpiece⟩, herror⟩

theorem not_showsError_nil : ¬ ShowsError [] := by
  decide

theorem showsError_append {lines others : List String} :
    ShowsError (lines ++ others) ↔ ShowsError lines ∨ ShowsError others := by
  simp only [showsError_iff, List.mem_append, or_and_right, exists_or]

theorem ShowsError.of_mem {line : String} {lines : List String} (hline : line ∈ lines)
    (h : IsErrorLine line.toList) : ShowsError lines := by
  obtain ⟨back, hback⟩ := h
  obtain ⟨piece, pieces, hsplit⟩ :=
    Text.split_append_of_not_mem (show '\n' ∉ "Error:".toList by decide) back
  refine showsError_iff.mpr ⟨line, hline, "Error:".toList ++ piece, ?_, List.prefix_append _ piece⟩
  rw [← hback, hsplit]
  exact List.mem_cons_self ..

theorem not_showsError_of_oneLine {lines : List String} (hone : ∀ line ∈ lines, OneLine line)
    (h : ∀ line ∈ lines, ¬ IsErrorLine line.toList) : ¬ ShowsError lines := by
  rw [showsError_iff]
  rintro ⟨line, hline, piece, hpiece, herror⟩
  rw [Text.split_of_not_mem (hone line hline), List.mem_singleton] at hpiece
  exact h line hline (hpiece ▸ herror)

namespace Log.Event

theorem not_isErrorLine_line (event : Event) : ¬ IsErrorLine event.line.toList := by
  have hlevel (level : Level) :
      "Error:".length ≤ (Text.padLeft levelWidth level.name ++ " ").length ∧
        ¬ IsErrorLine (Text.padLeft levelWidth level.name ++ " ").toList := by
    cases level <;> decide
  obtain ⟨hlength, hfront⟩ := hlevel event.level
  exact not_isErrorLine_append hlength hfront event.text

/-! ## Events on one line -/

structure OneLine (event : Event) : Prop where
  message : Text.OneLine event.message
  fields : ∀ field ∈ event.fields, Text.OneLine field.1 ∧ Text.OneLine field.2

theorem OneLine.line {event : Event} (h : event.OneLine) : Text.OneLine event.line := by
  have hlevel : Text.OneLine event.level.name := by cases event.level <;> decide
  have hspace : Text.OneLine " " := by decide
  have hequals : Text.OneLine "=" := by decide
  refine ((hlevel.padLeft levelWidth).append hspace).append
    (h.message.disarmed.append (.join fun s hs => ?_))
  obtain ⟨field, hfield, rfl⟩ := List.mem_map.mp hs
  obtain ⟨hname, hvalue⟩ := h.fields field hfield
  exact ((hspace.append hname).append hequals).append hvalue

end Log.Event

end BusStatus
