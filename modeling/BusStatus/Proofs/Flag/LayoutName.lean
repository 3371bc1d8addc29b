import BusStatus.Flag.Layout
import BusStatus.Proofs.Text.LetterCase
import BusStatus.Proofs.Text.Trim

/-!
# Layouts are found by their names

A text spells the name of a layout between blanks and with its ASCII letters in any case.
-/

namespace BusStatus.Layout

open Text (SameLetter isBlank trim)

/-- The text is the name of the layout, but for the case of ASCII letters and blanks around it. -/
def SpelledBy (layout : Layout) (cs : List Char) : Prop :=
  ∃ front name back, cs = front ++ name ++ back ∧ (∀ c ∈ front, isBlank c) ∧ (∀ c ∈ back, isBlank c) ∧
    List.Forall₂ SameLetter layout.name.toList name

theorem sameLetters_iff {cs ds : List Char} :
    sameLetters cs ds = true ↔ List.Forall₂ SameLetter cs ds := by
  rw [sameLetters, beq_iff_eq, Text.map_toLower_eq_iff]

/-! ## Names -/

theorem not_isBlank_of_mem {layout : Layout} {name : List Char}
    (h : List.Forall₂ SameLetter layout.name.toList name) {c : Char} (hc : c ∈ name) :
    isBlank c = false := by
  have every : (layout.name.toList.map Char.toLower).all (fun c => !isBlank c) = true := by
    cases layout <;> decide
  have hlower : c.toLower ∈ layout.name.toList.map Char.toLower := by
    rw [Text.map_toLower_eq_iff.mpr h]
    exact List.mem_map_of_mem hc
  rw [← Text.isBlank_toLower]
  simpa using List.all_eq_true.mp every _ hlower

theorem trim_eq_self_of_name {layout : Layout} {name : List Char}
    (h : List.Forall₂ SameLetter layout.name.toList name) : trim name = name :=
  Text.trim_eq_self (fun _ hc => not_isBlank_of_mem h (List.mem_of_head? hc))
    fun _ hc => not_isBlank_of_mem h (List.mem_of_getLast? hc)

theorem eq_of_forall₂ {layout other : Layout} {name : List Char}
    (h : List.Forall₂ SameLetter layout.name.toList name)
    (hother : List.Forall₂ SameLetter other.name.toList name) : layout = other := by
  have hlower := (Text.map_toLower_eq_iff.mpr h).trans (Text.map_toLower_eq_iff.mpr hother).symm
  cases layout with
  | decoder =>
      cases other with
      | decoder => rfl
      | capture => exact absurd hlower (by decide)
  | capture =>
      cases other with
      | decoder => exact absurd hlower (by decide)
      | capture => rfl

theorem spelledBy_iff {layout : Layout} {cs : List Char} :
    layout.SpelledBy cs ↔ List.Forall₂ SameLetter layout.name.toList (trim cs) := by
  constructor
  · rintro ⟨front, name, back, rfl, hfront, hback, hname⟩
    rwa [Text.trim_append_right hback, Text.trim_append_left hfront, trim_eq_self_of_name hname]
  · intro h
    obtain ⟨front, back, hcs, hfront, hback⟩ := Text.exists_eq_append_trim cs
    exact ⟨front, trim cs, back, hcs, hfront, hback, h⟩

/-! ## Finding a layout -/

theorem mem_all (layout : Layout) : layout ∈ all := by
  cases layout <;> decide

theorem sameLetters_of_ofString? {s : String} {layout : Layout} (h : ofString? s = some layout) :
    sameLetters layout.name.toList (trim s.toList) = true := by
  have hfound := List.find?_some h
  exact hfound

theorem ofString?_eq_some_iff {s : String} {layout : Layout} :
    ofString? s = some layout ↔ layout.SpelledBy s.toList := by
  rw [spelledBy_iff]
  constructor
  · intro h
    exact sameLetters_iff.mp (sameLetters_of_ofString? h)
  · intro h
    cases hfind : ofString? s with
    | none =>
        have hnone := List.find?_eq_none.mp hfind layout (mem_all layout)
        exact absurd (sameLetters_iff.mpr h) hnone
    | some other =>
        have hother := sameLetters_iff.mp (sameLetters_of_ofString? hfind)
        rw [eq_of_forall₂ hother h]

theorem ofString?_eq_none_iff {s : String} :
    ofString? s = none ↔ ∀ layout : Layout, ¬ layout.SpelledBy s.toList := by
  simp only [Option.eq_none_iff_forall_ne_some, ne_eq, ofString?_eq_some_iff]

/-- A layout is found by the texts that spell its name, and any other text is given back. -/
theorem found_by_name (s : String) :
    (∀ layout, Layout.parse s = .ok layout ↔ layout.SpelledBy s.toList) ∧
    (∀ layout : Layout, layout.SpelledBy s.toList →
      ∀ other : Layout, other.SpelledBy s.toList ↔ other = layout) ∧
    ∀ fault, Layout.parse s = .error fault ↔
      (∀ layout : Layout, ¬ layout.SpelledBy s.toList) ∧ fault = .unknownLayout s := by
  refine ⟨fun layout => ?_, fun layout h other => ⟨fun hother => ?_, fun heq => heq ▸ h⟩,
    fun fault => ?_⟩
  · rw [← ofString?_eq_some_iff]
    unfold parse
    split
    · rename_i found hfound
      rw [hfound, Except.ok.injEq, Option.some.injEq]
    · rename_i hnone
      rw [hnone]
      exact iff_of_false nofun nofun
  · exact eq_of_forall₂ (spelledBy_iff.mp hother) (spelledBy_iff.mp h)
  · rw [← ofString?_eq_none_iff]
    unfold parse
    split
    · rename_i found hfound
      rw [hfound]
      exact iff_of_false nofun fun h => nomatch h.1
    · rename_i hnone
      rw [and_iff_right hnone, Except.error.injEq, eq_comm]

theorem found_by_name_mixed :
    Layout.capture.SpelledBy "\u00A0CaPtUrE\t".toList ∧
      Layout.parse "\u00A0CaPtUrE\t" = .ok .capture ∧
      ¬ Layout.decoder.SpelledBy "\u00A0CaPtUrE\t".toList := by
  obtain ⟨hfound, honly, -⟩ := found_by_name "\u00A0CaPtUrE\t"
  have hparse : Layout.parse "\u00A0CaPtUrE\t" = .ok .capture := by decide
  have hspelled := (hfound .capture).mp hparse
  have hother := honly .capture hspelled .decoder
  exact ⟨hspelled, hparse, fun h => nomatch hother.mp h⟩

example : Layout.parse " de coder" = .error (.unknownLayout " de coder") := by decide

end BusStatus.Layout
