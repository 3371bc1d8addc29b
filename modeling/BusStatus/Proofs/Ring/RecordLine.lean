import BusStatus.Flag.Layout
import BusStatus.Proofs.Ring.Words
import BusStatus.Proofs.Text.Lines
import BusStatus.Proofs.Word.Written

/-!
# The line of a record is read back

A space stands behind the word and behind every name, so a line without other spaces comes apart there.
-/

namespace BusStatus

def FlagTable.SpaceFree (table : FlagTable) : Prop :=
  ∀ flag ∈ table.flags, ' ' ∉ flag.name.toList

instance (table : FlagTable) : Decidable table.SpaceFree :=
  inferInstanceAs (Decidable (∀ flag ∈ table.flags, ' ' ∉ flag.name.toList))

theorem Layout.spaceFree_table (layout : Layout) : layout.table.SpaceFree := by
  cases layout <;> decide

theorem FlagTable.SpaceFree.space_not_mem {table : FlagTable} (h : table.SpaceFree) {w : Word}
    {name : String} (hm : name ∈ table.decode w) : ' ' ∉ name.toList := by
  obtain ⟨flag, hflag, rfl⟩ := List.mem_map.mp hm
  exact h flag (List.mem_filter.mp hflag).1

namespace Record

variable {record other : Record}

/-- The parts of a line: the word and the names. -/
def parts (record : Record) : List (List Char) :=
  record.raw.decimal.toList :: record.flags.map (·.toList)

theorem toList_display (record : Record) :
    record.display.toList = record.parts.flatMap (· ++ [' ']) := by
  rw [display, String.toList_append, String.toList_append, String.toList_join, parts,
    List.flatMap_cons, List.flatMap_map, List.flatMap_map]
  simp only [String.toList_append]
  rfl

theorem split_display (h : ∀ name ∈ record.flags, ' ' ∉ name.toList) :
    Text.split ' ' record.display.toList = record.parts ++ [[]] := by
  rw [toList_display, Text.split_flatMap_ended]
  intro part hpart
  rcases List.mem_cons.mp hpart with rfl | hpart
  · exact record.raw.space_not_mem_decimal
  · obtain ⟨name, hname, rfl⟩ := List.mem_map.mp hpart
    exact h name hname

theorem raw_and_flags_of_display_eq (h : ∀ name ∈ record.flags, ' ' ∉ name.toList)
    (hother : ∀ name ∈ other.flags, ' ' ∉ name.toList) (heq : other.display = record.display) :
    other.raw = record.raw ∧ other.flags = record.flags := by
  have hsplit : other.parts ++ [[]] = record.parts ++ [[]] := by
    rw [← split_display hother, ← split_display h, heq]
  obtain ⟨hword, hnames⟩ := List.cons.inj (List.append_cancel_right hsplit)
  constructor
  · have hread := record.raw.parse_decimal
    rw [← String.toList_inj.mp hword, other.raw.parse_decimal] at hread
    exact Except.ok.inj hread
  · exact List.map_injective_iff.mpr (fun _ _ => String.toList_inj.mp) hnames

end Record

/-- The line of a record gives back its word and its flags, whatever table decoded it. -/
theorem Ring.replay_lines_read_back (ring : Ring) (table : FlagTable)
    (hstart : ring.start < ring.capacity) (hnames : table.SpaceFree) :
    (∃ replay, ring.replay table = .ok replay ∧ replay.records.length = ring.capacity ∧
      ∀ record ∈ replay.records, ∃ word names,
        Text.split ' ' record.display.toList = word :: (names ++ [[]]) ∧
        word = (toString record.raw.toNat).toList ∧ names = record.flags.map (·.toList) ∧
        Word.parse (String.ofList word) = .ok record.raw ∧
        table.decode record.raw = record.flags ∧
        ∀ other : Record, (∀ name ∈ other.flags, ' ' ∉ name.toList) →
          other.display = record.display →
          other.raw = record.raw ∧ other.flags = record.flags) ∧
    ∀ layout : Layout, layout.table.SpaceFree := by
  obtain ⟨replay, records, hreplay, hshows, hraw, hflags⟩ := Ring.replay_shows_words hstart table
  refine ⟨⟨replay, hreplay, ?_, fun record hm => ?_⟩, Layout.spaceFree_table⟩
  · rw [hshows.records_eq, ← ring.length_words, ← hraw, List.length_map]
  · rw [hshows.records_eq] at hm
    have hdecode : table.decode record.raw = record.flags := (hflags record hm).symm
    have hfree : ∀ name ∈ record.flags, ' ' ∉ name.toList := by
      intro name hname
      rw [← hdecode] at hname
      exact hnames.space_not_mem hname
    refine ⟨_, _, Record.split_display hfree, ?_, rfl, ?_, hdecode, fun other hother heq => ?_⟩
    · rw [record.raw.toList_decimal]
      exact (Text.toList_toString_ofNat record.raw.toNat).symm
    · rw [String.ofList_toList]
      exact record.raw.parse_decimal
    · exact Record.raw_and_flags_of_display_eq hfree hother heq

theorem Ring.replay_lines_read_back_empty :
    let table := FlagTable.ofList [("A", 1), ("", 2), ("B", 3)]
    1 < 2 ∧ table.SpaceFree ∧ ∃ replay first second,
      Ring.replay ⟨#[4, 3], 1⟩ table = .ok replay ∧ replay.records = [first, second] ∧
      first.display = "3 A  B " ∧ second.display = "4 " ∧
      (∃ word names, Text.split ' ' first.display.toList = word :: (names ++ [[]]) ∧
        names = [['A'], [], ['B']] ∧ Word.parse (String.ofList word) = .ok 3) ∧
      ∃ word, Text.split ' ' second.display.toList = word :: ([] ++ [[]]) ∧
        Word.parse (String.ofList word) = .ok 4 := by
  intro table
  have hfree : table.SpaceFree := by decide
  obtain ⟨⟨replay, hreplay, -, hrecords⟩, -⟩ :=
    Ring.replay_lines_read_back ⟨#[4, 3], 1⟩ table (by decide) hfree
  have hshown : replay.records = [⟨1, 3, ["A", "", "B"]⟩, ⟨0, 4, []⟩] := by
    cases hreplay
    decide
  obtain ⟨word, names, hsplit, -, hnames, hword, -⟩ :=
    hrecords ⟨1, 3, ["A", "", "B"]⟩ (by rw [hshown]; exact List.mem_cons_self ..)
  obtain ⟨word', names', hsplit', -, rfl, hword', -⟩ :=
    hrecords ⟨0, 4, []⟩ (by rw [hshown]; simp)
  refine ⟨by decide, hfree, replay, _, _, hreplay, hshown, ?_, ?_, ⟨word, names, hsplit, hnames, hword⟩,
    word', hsplit', hword'⟩
  all_goals decide +kernel

end BusStatus
