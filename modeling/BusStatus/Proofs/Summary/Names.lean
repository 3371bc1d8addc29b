import BusStatus.Flag.Layout
import BusStatus.Proofs.Flag.KnownBits
import BusStatus.Proofs.Summary.Decoded

/-!
# Looking a name up

A table gives the mask of the first entry of a name and a summary its count, each out of a list of its
own, while the decoding of a word names every entry that is set.
-/

namespace BusStatus

namespace Word

variable {u w : Word}

def Meets (u w : Word) : Prop :=
  ∃ i, u.HasBit i ∧ w.HasBit i

theorem meets_iff : u.Meets w ↔ u &&& w ≠ 0 := by
  simp only [Meets, ne_eq, eq_zero_iff, hasBit_and, not_forall, not_not]

instance (u w : Word) : Decidable (u.Meets w) :=
  decidable_of_iff (u &&& w ≠ 0) meets_iff.symm

end Word

theorem Flag.isSetIn_iff_meets {flag : Flag} {w : Word} : flag.isSetIn w ↔ flag.mask.Meets w :=
  isSetIn_iff

/-! ## The first entry of a name -/

namespace FlagTable

variable {table : FlagTable} {name : String} {m w : Word}

theorem exists_of_maskOf? (h : table.maskOf? name = some m) :
    ∃ flag ∈ table.flags, flag.name = name ∧ flag.mask = m := by
  obtain ⟨flag, hfind, hmask⟩ := Option.map_eq_some_iff.mp h
  exact ⟨flag, List.mem_of_find?_eq_some hfind, by simpa using List.find?_some hfind, hmask⟩

theorem maskOf?_eq_none_iff : table.maskOf? name = none ↔ name ∉ table.flags.map (·.name) := by
  simp [maskOf?]

theorem maskOf?_of_mem (h : (table.flags.map (·.name)).Nodup) {flag : Flag} (hm : flag ∈ table.flags) :
    table.maskOf? flag.name = some flag.mask := by
  cases hmask : table.maskOf? flag.name with
  | none => exact absurd (List.mem_map_of_mem hm) (maskOf?_eq_none_iff.mp hmask)
  | some m =>
      obtain ⟨other, hother, hname, rfl⟩ := exists_of_maskOf? hmask
      rw [List.inj_on_of_nodup_map h hother hm hname]

/-! ## Names in the decoding -/

theorem count_decode_eq_countP (table : FlagTable) (name : String) (w : Word) :
    (table.decode w).count name =
      table.flags.countP fun flag => flag.name = name ∧ flag.mask.Meets w := by
  rw [count_decode, List.countP_filter]
  refine List.countP_congr fun flag _ => ?_
  simp [Flag.isSetIn_iff_meets, and_comm]

theorem mem_decode_of_maskOf? (h : table.maskOf? name = some m) (hmeets : m &&& w ≠ 0) :
    name ∈ table.decode w := by
  obtain ⟨flag, hm, rfl, rfl⟩ := exists_of_maskOf? h
  exact mem_decode_of_isSetIn hm (Flag.isSetIn_iff_meets.mpr (Word.meets_iff.mpr hmeets))

theorem mem_decode_iff_maskOf? (h : (table.flags.map (·.name)).Nodup) :
    name ∈ table.decode w ↔ ∃ m, table.maskOf? name = some m ∧ m &&& w ≠ 0 := by
  constructor
  · intro hname
    obtain ⟨flag, hflag, rfl⟩ := List.mem_map.mp hname
    obtain ⟨hm, hset⟩ := List.mem_filter.mp hflag
    exact ⟨flag.mask, maskOf?_of_mem h hm, Word.meets_iff.mp (Flag.isSetIn_iff_meets.mp hset)⟩
  · rintro ⟨m, hmask, hmeets⟩
    exact mem_decode_of_maskOf? hmask hmeets

end FlagTable

/-! ## The count of a name -/

namespace FlagSummary

theorem countOf?_addAll_new (table : FlagTable) (name : String) (ws : List Word) :
    ((new table).addAll ws).countOf? name =
      (table.maskOf? name).map fun m => ws.countP (m.Meets ·) := by
  rw [countOf?, counts_addAll_new, List.find?_map, FlagTable.maskOf?, Option.map_map, Option.map_map]
  refine congrArg (fun count => Option.map count _) (funext fun flag => ?_)
  refine List.countP_congr fun w _ => ?_
  rw [decide_eq_true_iff, Flag.isSetIn_iff_meets]

/-- The first entry of a name has its mask and its count; each entry that is set is decoded. -/
theorem lookups_agree (table : FlagTable) (name : String) (w : Word) (ws : List Word) :
    (table.decode w).count name =
      table.flags.countP (fun flag => flag.name = name ∧ flag.mask.Meets w) ∧
    (∀ m, table.maskOf? name = some m → m &&& w ≠ 0 → name ∈ table.decode w) ∧
    (((new table).addAll ws).countOf? name = none ↔ table.maskOf? name = none) ∧
    (table.maskOf? name = none ↔ name ∉ table.flags.map (·.name)) ∧
    (∀ m, table.maskOf? name = some m →
      ((new table).addAll ws).countOf? name = some (ws.countP (m.Meets ·))) ∧
    ((table.flags.map (·.name)).Nodup →
      (name ∈ table.decode w ↔ ∃ m, table.maskOf? name = some m ∧ m &&& w ≠ 0)) := by
  refine ⟨table.count_decode_eq_countP name w, fun m => FlagTable.mem_decode_of_maskOf?, ?_,
    FlagTable.maskOf?_eq_none_iff, fun m hmask => ?_, FlagTable.mem_decode_iff_maskOf?⟩
  · rw [countOf?_addAll_new, Option.map_eq_none_iff]
  · rw [countOf?_addAll_new, hmask, Option.map_some]

/-- A name that stands twice, in a word with a bit of the second mask only. -/
theorem lookups_agree_repeated :
    let table := FlagTable.ofList [("A", 3), ("B", 6), ("A", 4)]
    (table.maskOf? "A" = some 3 ∧ (table.decode 4).count "A" = 1 ∧
      (table.decode 5).count "A" = 2 ∧ "A" ∈ table.decode 5 ∧
      ((new table).addAll [4, 5, 2]).countOf? "A" = some 2) ∧
    ((Layout.decoder.table.flags.map (·.name)).Nodup ∧
      ("JD_SERIAL_ERR_MSK" ∈ Layout.decoder.table.decode 0x40 ↔
        ∃ m, Layout.decoder.table.maskOf? "JD_SERIAL_ERR_MSK" = some m ∧ m &&& 0x40 ≠ 0)) := by
  intro table
  have hmask : table.maskOf? "A" = some 3 := by decide
  obtain ⟨hone, -⟩ := lookups_agree table "A" 4 []
  obtain ⟨htwo, hnamed, -, -, hcount, -⟩ := lookups_agree table "A" 5 [4, 5, 2]
  have hnames : (Layout.decoder.table.flags.map (·.name)).Nodup := by decide
  obtain ⟨-, -, -, -, -, hdecoded⟩ :=
    lookups_agree Layout.decoder.table "JD_SERIAL_ERR_MSK" 0x40 []
  exact ⟨⟨hmask, by rw [hone]; decide, by rw [htwo]; decide, hnamed 3 hmask (by decide),
    by rw [hcount 3 hmask]; decide⟩, hnames, hdecoded hnames⟩

end FlagSummary

end BusStatus
