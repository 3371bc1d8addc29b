import BusStatus.Proofs.Json.ReadBack
import BusStatus.Proofs.Text.Lines

/-!
# A written value stays on one line

Control characters are escaped in texts, and nothing else brings one in.
-/

namespace BusStatus.Json

open Text (Radix)

/-- The character is no control character below the space. -/
def isShown (c : Char) : Bool :=
  0x20 ≤ c.toNat

theorem isShown_digitChar (r : Radix) {d : Nat} (h : d < r.base) : isShown (Radix.digitChar d) :=
  (r.isDigit_digitChar h).all (by decide)

theorem isShown_of_mem_digits {n : Nat} {c : Char} (h : c ∈ Radix.decimal.digits n) : isShown c := by
  obtain ⟨d, hd, rfl⟩ := Radix.exists_of_mem_digits h
  exact isShown_digitChar _ hd

theorem isShown_of_mem_escape {c d : Char} (h : d ∈ escape c) : isShown d := by
  rcases escape_cases c with ⟨letter, hc, hshown, -⟩ | ⟨-, hc⟩ | ⟨-, -, hlow, hc⟩
  · rw [hc, List.mem_cons, List.mem_singleton] at h
    rcases h with rfl | rfl
    · decide
    · exact decide_eq_true hshown
  · rw [hc, List.mem_cons, List.mem_cons] at h
    rcases h with rfl | rfl | h
    · decide
    · decide
    · obtain ⟨e, he, rfl⟩ := Radix.exists_of_mem_fixedDigits h
      exact isShown_digitChar _ he
  · rw [hc, List.mem_singleton] at h
    subst h
    exact decide_eq_true (Nat.le_of_not_lt hlow)

theorem isShown_of_mem_quote {s : String} {c : Char} (h : c ∈ quote s) : isShown c := by
  rw [quote, List.mem_cons, List.mem_append, List.mem_flatMap, List.mem_singleton] at h
  rcases h with rfl | ⟨d, -, h⟩ | rfl
  · decide
  · exact isShown_of_mem_escape h
  · decide

mutual

theorem isShown_of_mem_toChars (v : Json) {c : Char} (h : c ∈ v.toChars) : isShown c := by
  cases v with
  | number n =>
      rw [toChars] at h
      exact isShown_of_mem_digits h
  | text s =>
      rw [toChars] at h
      exact isShown_of_mem_quote h
  | list items =>
      rw [toChars, List.mem_cons, List.mem_append, List.mem_singleton] at h
      rcases h with rfl | h | rfl
      · decide
      · exact isShown_of_mem_items items h
      · decide
  | object members =>
      rw [toChars, List.mem_cons, List.mem_append, List.mem_singleton] at h
      rcases h with rfl | h | rfl
      · decide
      · exact isShown_of_mem_members members h
      · decide

theorem isShown_of_mem_items (items : List Json) {c : Char} (h : c ∈ itemsToChars items) :
    isShown c := by
  cases items with
  | nil => cases h
  | cons v vs =>
      rw [itemsToChars, List.mem_append] at h
      rcases h with h | h
      · exact isShown_of_mem_toChars v h
      · exact isShown_of_mem_moreItems vs h

theorem isShown_of_mem_moreItems (vs : List Json) {c : Char} (h : c ∈ moreItemsToChars vs) :
    isShown c := by
  cases vs with
  | nil => cases h
  | cons v vs =>
      rw [moreItemsToChars, List.mem_cons, List.mem_append] at h
      rcases h with rfl | h | h
      · decide
      · exact isShown_of_mem_toChars v h
      · exact isShown_of_mem_moreItems vs h

theorem isShown_of_mem_member (m : String × Json) {c : Char} (h : c ∈ memberToChars m) :
    isShown c := by
  obtain ⟨key, v⟩ := m
  rw [memberToChars, List.mem_append, List.mem_cons] at h
  rcases h with h | rfl | h
  · exact isShown_of_mem_quote h
  · decide
  · exact isShown_of_mem_toChars v h

theorem isShown_of_mem_members (members : List (String × Json)) {c : Char}
    (h : c ∈ membersToChars members) : isShown c := by
  cases members with
  | nil => cases h
  | cons m ms =>
      rw [membersToChars, List.mem_append] at h
      rcases h with h | h
      · exact isShown_of_mem_member m h
      · exact isShown_of_mem_moreMembers ms h

theorem isShown_of_mem_moreMembers (ms : List (String × Json)) {c : Char}
    (h : c ∈ moreMembersToChars ms) : isShown c := by
  cases ms with
  | nil => cases h
  | cons m ms =>
      rw [moreMembersToChars, List.mem_cons, List.mem_append] at h
      rcases h with rfl | h | h
      · decide
      · exact isShown_of_mem_member m h
      · exact isShown_of_mem_moreMembers ms h

end

theorem isShown_of_mem_render {v : Json} {c : Char} (h : c ∈ v.render.toList) : isShown c := by
  rw [render, String.toList_ofList] at h
  exact isShown_of_mem_toChars v h

theorem split_unlines_render (vs : List Json) :
    Text.split '\n' (Text.unlines (vs.map render)).toList =
      vs.map (fun v => v.render.toList) ++ [[]] := by
  rw [Text.split_unlines_eq_map, List.map_map]
  · rfl
  · intro line hline hfeed
    obtain ⟨v, -, rfl⟩ := List.mem_map.mp hline
    exact absurd (isShown_of_mem_render hfeed) (by decide)

end BusStatus.Json
