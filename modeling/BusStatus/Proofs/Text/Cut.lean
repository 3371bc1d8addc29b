/-!
# Cutting a text at a byte

A text in UTF-8 can be cut where a character begins and at its end.
-/

namespace BusStatus.Text

/-- The parts of a text in front of a byte and from it on, if it can be cut there. -/
def cut? (s : String) (place : Nat) : Option (String × String) :=
  if h : (⟨place⟩ : String.Pos.Raw).IsValid s then
    some ((s.sliceTo (s.pos ⟨place⟩ h)).copy, (s.sliceFrom (s.pos ⟨place⟩ h)).copy)
  else none

theorem isValid_of_cut? {s : String} {place : Nat} {parts : String × String}
    (h : cut? s place = some parts) : (⟨place⟩ : String.Pos.Raw).IsValid s := by
  unfold cut? at h
  split at h
  · rename_i hvalid
    exact hvalid
  · cases h

theorem cut?_eq_some_iff {s front back : String} {place : Nat} :
    cut? s place = some (front, back) ↔ s = front ++ back ∧ front.utf8ByteSize = place := by
  constructor
  · intro h
    have hvalid := isValid_of_cut? h
    rw [cut?, dif_pos hvalid] at h
    obtain ⟨rfl, rfl⟩ := Prod.mk.inj (Option.some.inj h)
    obtain ⟨hparts, hplace⟩ := (s.pos ⟨place⟩ hvalid).splits
    exact ⟨hparts, (congrArg String.Pos.Raw.byteIdx hplace).symm⟩
  · rintro ⟨rfl, rfl⟩
    have hvalid : (⟨front.utf8ByteSize⟩ : String.Pos.Raw).IsValid (front ++ back) :=
      String.Pos.Raw.isValid_iff_exists_append.mpr ⟨front, back, rfl, rfl⟩
    obtain ⟨hfront, hback⟩ := ((front ++ back).pos _ hvalid).splits.eq ⟨rfl, rfl⟩
    rw [cut?, dif_pos hvalid, hfront, hback]

-- The place lies inside of the second character, which takes two bytes.
example : cut? "0\u00E9" 2 = none := by decide +kernel

end BusStatus.Text
