import BusStatus.Flag.Layout
import BusStatus.Proofs.Summary.Counts
import BusStatus.Proofs.Text.Columns
import BusStatus.Proofs.Text.Lines
import BusStatus.Proofs.Word.Written

/-!
# The printed tables are read back

Columns are never cut, so a table is read from the right end: numbers hold no space, and the name does
not end with one.
-/

namespace BusStatus

open Text (Radix OneLine columns)

namespace Flag

def EndsVisibly (flag : Flag) : Prop :=
  flag.name.toList.getLast? ≠ some ' '

instance (flag : Flag) : Decidable flag.EndsVisibly :=
  inferInstanceAs (Decidable (_ ≠ _))

variable {flag other : Flag}

theorem toList_display (flag : Flag) :
    flag.display.toList =
      columns flag.name.toList (nameWidth - flag.name.length) flag.mask.hex.toList := by
  rw [display, String.toList_append, String.toList_append, Text.toList_padRight, columns,
    List.replicate_succ']
  simp only [List.append_assoc]
  rfl

theorem exists_display_eq (h : flag.EndsVisibly) :
    ∃ front mask, flag.display.toList = front ++ ' ' :: mask ∧ mask.length = 6 ∧
      Word.parse (String.ofList mask) = .ok flag.mask ∧
      front.rdropWhile (· == ' ') = flag.name.toList := by
  refine ⟨_, flag.mask.hex.toList, ?_, flag.mask.length_toList_hex, ?_,
    Text.rdropWhile_spaces h (nameWidth - flag.name.length)⟩
  · rw [toList_display, columns, List.replicate_succ']
    simp only [List.append_assoc, List.singleton_append]
  · rw [String.ofList_toList]
    exact flag.mask.parse_hex

theorem eq_of_display_eq (h : flag.EndsVisibly) (hother : other.EndsVisibly)
    (heq : flag.display = other.display) : flag = other := by
  have htext := congrArg String.toList heq
  rw [toList_display, toList_display] at htext
  obtain ⟨hname, hmask⟩ := Text.columns_inj h hother flag.mask.space_not_mem_hex
    other.mask.space_not_mem_hex htext
  have hread := flag.mask.parse_hex
  rw [String.toList_inj.mp hmask, other.mask.parse_hex] at hread
  cases flag
  cases other
  rw [Flag.mk.injEq]
  exact ⟨String.toList_inj.mp hname, (Except.ok.inj hread).symm⟩

theorem getLast?_append_display (front : List Char) (flag : Flag) :
    (front ++ flag.display.toList).getLast? ≠ some ' ' := by
  have hne : flag.mask.hex.toList ≠ [] := by
    rw [← List.length_pos_iff, flag.mask.length_toList_hex]
    exact Nat.zero_lt_succ 5
  rw [toList_display, columns, ← List.append_assoc, ← List.append_assoc,
    List.getLast?_append_of_ne_nil _ hne]
  intro hlast
  exact flag.mask.space_not_mem_hex (List.mem_of_getLast? hlast)

end Flag

namespace FlagCount

variable {entry other : FlagCount}

theorem toList_display (entry : FlagCount) :
    entry.display.toList =
      columns ([' ', ' '] ++ entry.flag.display.toList)
        (width - (Text.decimal entry.count).length) (Radix.decimal.digits entry.count) := by
  have hdigits : (Text.decimal entry.count).toList = Radix.decimal.digits entry.count :=
    String.toList_ofList
  rw [display, String.toList_append, String.toList_append, String.toList_append, Text.toList_padLeft,
    hdigits, columns, List.replicate_succ]
  simp only [List.append_assoc]
  rfl

theorem eq_of_display_eq (h : entry.flag.EndsVisibly) (hother : other.flag.EndsVisibly)
    (heq : entry.display = other.display) : entry = other := by
  have htext := congrArg String.toList heq
  rw [toList_display, toList_display] at htext
  obtain ⟨hflags, hdigits⟩ := Text.columns_inj (entry.flag.getLast?_append_display _)
    (other.flag.getLast?_append_display _) (Radix.decimal.not_mem_digits rfl entry.count)
    (Radix.decimal.not_mem_digits rfl other.count) htext
  have hflag : entry.flag = other.flag :=
    Flag.eq_of_display_eq h hother (String.toList_inj.mp (List.append_cancel_left hflags))
  cases entry
  cases other
  rw [FlagCount.mk.injEq]
  exact ⟨hflag, Radix.decimal.digits_injective hdigits⟩

theorem oneLine_display (h : OneLine entry.flag.name) : OneLine entry.display := by
  have hflag : OneLine entry.flag.display :=
    ((h.padRight _).append (by decide)).append entry.flag.mask.oneLine_hex
  exact ((OneLine.append (by decide) hflag).append (by decide)).append
    ((Text.oneLine_decimal entry.count).padLeft _)

theorem eq_of_map_display_eq {entries others : List FlagCount}
    (h : ∀ entry ∈ entries, entry.flag.EndsVisibly) (hothers : ∀ entry ∈ others, entry.flag.EndsVisibly)
    (heq : entries.map (·.display) = others.map (·.display)) : entries = others := by
  induction entries generalizing others with
  | nil => exact (List.map_eq_nil_iff.mp heq.symm).symm
  | cons entry entries ih =>
      cases others with
      | nil => cases heq
      | cons other others =>
          rw [List.forall_mem_cons] at h hothers
          obtain ⟨hfirst, hrest⟩ := List.cons.inj heq
          rw [eq_of_display_eq h.1 hothers.1 hfirst, ih h.2 hothers.2 hrest]

end FlagCount

/-! ## Summaries -/

/-- Every name stays on its line and does not end with a space. -/
def FlagTable.Legible (table : FlagTable) : Prop :=
  ∀ flag ∈ table.flags, OneLine flag.name ∧ flag.EndsVisibly

instance (table : FlagTable) : Decidable table.Legible :=
  inferInstanceAs (Decidable (∀ flag ∈ table.flags, _ ∧ _))

theorem Layout.legible_table (layout : Layout) : layout.table.Legible := by
  cases layout <;> decide

namespace FlagSummary

variable {summary other : FlagSummary}

theorem split_header (records distinct : Nat) :
    Text.split ' ' (Text.decimal records ++ " records, " ++ Text.decimal distinct ++
      " distinct values").toList =
        [Radix.decimal.digits records, "records,".toList, Radix.decimal.digits distinct,
          "distinct".toList, "values".toList] := by
  have hpieces : (Text.decimal records ++ " records, " ++ Text.decimal distinct ++
      " distinct values").toList =
        Radix.decimal.digits records ++ ' ' :: ("records,".toList ++ ' ' ::
          (Radix.decimal.digits distinct ++ ' ' :: ("distinct".toList ++ ' ' :: "values".toList))) := by
    simp only [String.toList_append, Text.decimal, String.toList_ofList, List.append_assoc]
    rfl
  have hdigits (n : Nat) : Text.split ' ' (Radix.decimal.digits n) = [Radix.decimal.digits n] :=
    Text.split_of_not_mem (Radix.decimal.not_mem_digits rfl n)
  rw [hpieces]
  simp only [Text.split_append_separator, hdigits]
  rfl

theorem oneLine_of_mem_lines (h : ∀ entry ∈ summary.counts, OneLine entry.flag.name) :
    ∀ line ∈ summary.lines, OneLine line := by
  intro line hline
  rcases List.mem_cons.mp hline with rfl | hline
  · exact (((Text.oneLine_decimal _).append (by decide)).append (Text.oneLine_decimal _)).append
      (by decide)
  · obtain ⟨entry, hentry, rfl⟩ := List.mem_map.mp hline
    exact entry.oneLine_display (h entry hentry)

theorem content_eq_of_display_eq
    (h : ∀ entry ∈ summary.counts, OneLine entry.flag.name ∧ entry.flag.EndsVisibly)
    (hother : ∀ entry ∈ other.counts, OneLine entry.flag.name ∧ entry.flag.EndsVisibly)
    (heq : summary.display = other.display) :
    summary.records = other.records ∧ summary.distinctValues = other.distinctValues ∧
      summary.counts = other.counts := by
  have hsplit := congrArg (fun text : String => Text.split '\n' text.toList) heq
  simp only [display] at hsplit
  rw [Text.split_unlines_eq_map (oneLine_of_mem_lines fun entry hm => (h entry hm).1),
    Text.split_unlines_eq_map (oneLine_of_mem_lines fun entry hm => (hother entry hm).1)] at hsplit
  have hlines : summary.lines = other.lines :=
    List.map_injective_iff.mpr (fun _ _ => String.toList_inj.mp) (List.append_cancel_right hsplit)
  obtain ⟨hheader, hcounts⟩ := List.cons.inj hlines
  have hpieces := congrArg (fun text : String => Text.split ' ' text.toList) hheader
  simp only [split_header, List.cons.injEq, and_true, true_and] at hpieces
  exact ⟨Radix.decimal.digits_injective hpieces.1, Radix.decimal.digits_injective hpieces.2,
    FlagCount.eq_of_map_display_eq (fun entry hm => (h entry hm).2)
      (fun entry hm => (hother entry hm).2) hcounts⟩

theorem legible_addAll_new {table : FlagTable} (h : table.Legible) (ws : List Word) :
    ∀ entry ∈ ((new table).addAll ws).counts, OneLine entry.flag.name ∧ entry.flag.EndsVisibly := by
  intro entry hentry
  rw [counts_addAll_new] at hentry
  obtain ⟨flag, hflag, rfl⟩ := List.mem_map.mp hentry
  exact h flag hflag

/-- The line of a flag tells the flag, and the text of a summary every number in it. -/
theorem tables_read_back :
    (∀ flag : Flag, flag.EndsVisibly →
      (∃ front mask, flag.display.toList = front ++ ' ' :: mask ∧ mask.length = 6 ∧
        Word.parse (String.ofList mask) = .ok flag.mask ∧
        front.rdropWhile (· == ' ') = flag.name.toList) ∧
      ∀ other : Flag, other.EndsVisibly → other.display = flag.display → other = flag) ∧
    (∀ table other : FlagTable, table.Legible → other.Legible → ∀ us vs : List Word,
      ((new table).addAll us).display = ((new other).addAll vs).display →
      ((new table).addAll us).records = ((new other).addAll vs).records ∧
      ((new table).addAll us).distinctValues = ((new other).addAll vs).distinctValues ∧
      ((new table).addAll us).counts = ((new other).addAll vs).counts) ∧
    ∀ layout : Layout, layout.table.Legible := by
  refine ⟨fun flag h => ⟨flag.exists_display_eq h, fun other hother => ?_⟩, ?_,
    Layout.legible_table⟩
  · exact Flag.eq_of_display_eq hother h
  · intro table other htable hother us vs heq
    exact content_eq_of_display_eq (legible_addAll_new htable us) (legible_addAll_new hother vs) heq

/-- A name of 32 characters that looks like a line itself. -/
theorem tables_read_back_wide :
    let flag : Flag := ⟨"A                         0x0001", 0xE0⟩
    let table := FlagTable.ofList [("A  0x0001", 1), ("", 0)]
    (flag.EndsVisibly ∧ flag.display = "A                         0x0001 0x00e0" ∧
      ∃ front mask, flag.display.toList = front ++ ' ' :: mask ∧ mask.length = 6 ∧
        Word.parse (String.ofList mask) = .ok 0xE0 ∧
        front.rdropWhile (· == ' ') = flag.name.toList) ∧
    (table.Legible ∧ ((new table).addAll [1, 1]).display = ((new table).addAll [3, 3]).display ∧
      ((new table).addAll [1, 1]).counts = ((new table).addAll [3, 3]).counts) := by
  intro flag table
  obtain ⟨hflag, htable, -⟩ := tables_read_back
  have hvisible : flag.EndsVisibly := by decide
  have hlegible : table.Legible := by decide
  have hsame : ((new table).addAll [1, 1]).display = ((new table).addAll [3, 3]).display := by
    decide +kernel
  exact ⟨⟨hvisible, by decide +kernel, (hflag flag hvisible).1⟩, hlegible, hsame,
    (htable table table hlegible hlegible _ _ hsame).2.2⟩

end FlagSummary

end BusStatus
