import BusStatus.Cli.Usage
import BusStatus.Proofs.Text.Lines

/-!
# The lines of a usage error

A usage error that quotes nothing but plain text is shown whole.
-/

namespace BusStatus.Cli

/-- The text holds nothing that a terminal would not show or a line would not hold. -/
def Plain (s : String) : Prop :=
  ∀ c ∈ s.toList, ' ' ≤ c ∧ c ≤ '~'

instance (s : String) : Decidable (Plain s) :=
  List.decidableBAll _ s.toList

theorem Plain.shows {s : String} (h : Plain s) {c : Char} (hc : c ∈ s.toList) :
    Text.Terminal.Place.ground.shows c := by
  simp [Text.Terminal.Place.shows, h c hc]

theorem Plain.visible_eq {s : String} (h : Plain s) : Text.Terminal.visible s = s :=
  Text.Terminal.visible_eq_self fun _ hc => h.shows hc

theorem Plain.append {s t : String} (hs : Plain s) (ht : Plain t) : Plain (s ++ t) := by
  intro c hc
  rw [String.toList_append, List.mem_append] at hc
  exact hc.elim (hs c) (ht c)

theorem Plain.join {texts : List String} (h : ∀ s ∈ texts, Plain s) : Plain (String.join texts) := by
  induction texts with
  | nil => decide
  | cons s texts ih =>
      rw [String.join_cons]
      exact (h s (List.mem_cons_self ..)).append (ih fun t ht => h t (List.mem_cons_of_mem s ht))

theorem Plain.newline_not_mem {s : String} (h : Plain s) : '\n' ∉ s.toList := by
  intro hmem
  exact absurd (h '\n' hmem).1 (by decide)

namespace UsageError

theorem visible_hinted {last : String} (h : Plain last) :
    String.join ((hinted last).map Text.Terminal.visible) =
      last ++ "\n\nFor more information, try '--help'." := by
  have hhint : "\n\nFor more information, try '".toList.all Text.Terminal.Place.ground.shows := by
    decide
  have hlast : Text.Terminal.visible (last ++ "\n\nFor more information, try '") =
      last ++ "\n\nFor more information, try '" := by
    apply Text.Terminal.visible_eq_self
    intro c hc
    rw [String.toList_append, List.mem_append] at hc
    exact hc.elim h.shows (List.all_eq_true.mp hhint c)
  have hhelp : Text.Terminal.visible "--help" = "--help" := by decide
  have hend : Text.Terminal.visible "'." = "'." := by decide
  simp only [hinted, List.map_cons, List.map_nil, hlast, hhelp, hend, String.join_cons]
  rw [String.append_assoc]
  rfl

theorem lines_of_runs {e : UsageError} {front : List String} {last : String}
    (hruns : e.runs = front ++ hinted last) (hfront : ∀ run ∈ front, Plain run)
    (hlast : Plain last) :
    e.lines = [String.join front ++ last, "", "For more information, try '--help'."] := by
  have hvisible : front.map Text.Terminal.visible = front := by
    rw [List.map_congr_left fun run hrun => (hfront run hrun).visible_eq, List.map_id']
  have hmessage : e.message.toList = (String.join front ++ last).toList ++
      '\n' :: '\n' :: "For more information, try '--help'.".toList := by
    rw [message, hruns, List.map_append, hvisible, String.join_append, visible_hinted hlast,
      ← String.append_assoc, String.toList_append]
    rfl
  rw [lines, hmessage, Text.split_append_separator, Text.split_cons_self,
    Text.split_of_not_mem ((Plain.join hfront).append hlast).newline_not_mem,
    Text.split_of_not_mem (by decide)]
  simp only [List.cons_append, List.nil_append, List.map_cons, List.map_nil, String.ofList_toList]

theorem lines_invalidValue {value reason : String} (hvalue : Plain value) (hreason : Plain reason)
    (setting : Setting) :
    (UsageError.invalidValue value setting reason).lines =
      ["error: invalid value '" ++ value ++ "' for '" ++ (Opt.setting setting).label ++ "': " ++ reason,
        "", "For more information, try '--help'."] := by
  have hlabel : Plain (Opt.setting setting).label := by cases setting <;> decide
  have hfront : ∀ run ∈ ["error: invalid value '", value, "' for '", (Opt.setting setting).label],
      Plain run := by
    simp only [List.forall_mem_cons]
    exact ⟨by decide, hvalue, by decide, hlabel, nofun⟩
  have hclose : Plain ("': " ++ reason) := .append (by decide) hreason
  rw [lines_of_runs rfl hfront hclose]
  simp [String.append_assoc]

end UsageError

end BusStatus.Cli
