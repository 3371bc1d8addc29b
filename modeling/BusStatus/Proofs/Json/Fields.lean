import BusStatus.Json.Encode
import BusStatus.Proofs.Json.OneLine
import BusStatus.Proofs.Summary.Counts
import BusStatus.Ring.Record

/-!
# Tables, records and summaries are read back field by field

The text of a table or a record settles it; that of a summary settles all but which words were seen.
-/

namespace BusStatus

namespace Json

theorem natural_inj {m n : Nat} : Value.natural m = Value.natural n ↔ m = n := by
  simp [Value.natural]

theorem value_eq_of_render_eq {v w : Json} (h : v.render = w.render) : v.value = w.value := by
  have hv := read_render v
  rw [h, read_render w] at hv
  exact (Option.some.inj hv).symm

theorem value_names (names : List String) : (Json.names names).value = .list (names.map .text) := by
  rw [Json.names, value, values_eq_map, List.map_map]
  rfl

end Json

open Json (Value)

/-! ## What the written forms say -/

theorem Flag.value_toJson (flag : Flag) :
    flag.toJson.value =
      .object [("name", .text flag.name), ("mask", .natural flag.mask.toNat)] := rfl

theorem FlagTable.value_toJson (table : FlagTable) :
    table.toJson.value = .object [("flags", .list (table.flags.map (·.toJson.value)))] := by
  rw [toJson, Json.value, Json.memberValues, Json.value, Json.values_eq_map, List.map_map]
  rfl

theorem Record.value_toJson (record : Record) :
    record.toJson.value = .object [("index", .natural record.index),
      ("raw", .natural record.raw.toNat), ("flags", .list (record.flags.map .text))] := by
  simp only [toJson, Json.value, Json.memberValues, Json.value_names]
  rfl

theorem FlagCount.value_toJson (entry : FlagCount) :
    entry.toJson.value = .object [("name", .text entry.flag.name),
      ("mask", .natural entry.flag.mask.toNat), ("count", .natural entry.count)] := rfl

theorem FlagSummary.value_toJson (summary : FlagSummary) :
    summary.toJson.value = .object [("records", .natural summary.records),
      ("distinct_values", .natural summary.distinctValues),
      ("flags", .list (summary.counts.map (·.toJson.value)))] := by
  simp only [toJson, Json.value, Json.memberValues, Json.values_eq_map, List.map_map]
  rfl

/-! ## What they settle -/

theorem Flag.value_toJson_injective : Function.Injective fun flag : Flag => flag.toJson.value := by
  rintro ⟨name, mask⟩ ⟨name', mask'⟩ h
  simp only [value_toJson, Value.object.injEq, List.cons.injEq, Prod.mk.injEq, Value.text.injEq,
    Json.natural_inj, UInt16.toNat_inj, true_and, and_true] at h
  obtain ⟨rfl, rfl⟩ := h
  rfl

theorem FlagCount.value_toJson_injective :
    Function.Injective fun entry : FlagCount => entry.toJson.value := by
  rintro ⟨⟨name, mask⟩, count⟩ ⟨⟨name', mask'⟩, count'⟩ h
  simp only [value_toJson, Value.object.injEq, List.cons.injEq, Prod.mk.injEq, Value.text.injEq,
    Json.natural_inj, UInt16.toNat_inj, true_and, and_true] at h
  obtain ⟨rfl, rfl, rfl⟩ := h
  rfl

theorem FlagTable.render_toJson_inj {table table' : FlagTable} :
    table.toJson.render = table'.toJson.render ↔ table = table' := by
  refine ⟨fun h => ?_, fun h => h ▸ rfl⟩
  have hvalue := Json.value_eq_of_render_eq h
  simp only [value_toJson, Value.object.injEq, List.cons.injEq, Prod.mk.injEq, Value.list.injEq,
    true_and, and_true] at hvalue
  have hflags : table.flags = table'.flags := Flag.value_toJson_injective.list_map hvalue
  cases table
  cases table'
  cases hflags
  rfl

theorem Record.render_toJson_inj {record record' : Record} :
    record.toJson.render = record'.toJson.render ↔ record = record' := by
  refine ⟨fun h => ?_, fun h => h ▸ rfl⟩
  have hvalue := Json.value_eq_of_render_eq h
  simp only [value_toJson, Value.object.injEq, List.cons.injEq, Prod.mk.injEq, Value.list.injEq,
    Json.natural_inj, UInt16.toNat_inj, true_and, and_true] at hvalue
  obtain ⟨hindex, hraw, hflags⟩ := hvalue
  have hinjective : Function.Injective Value.text := fun _ _ => Value.text.inj
  have hnames := hinjective.list_map hflags
  cases record
  cases record'
  cases hindex
  cases hraw
  cases hnames
  rfl

theorem FlagSummary.render_toJson_eq_iff {summary summary' : FlagSummary} :
    summary.toJson.render = summary'.toJson.render ↔
      summary.records = summary'.records ∧ summary.distinctValues = summary'.distinctValues ∧
        summary.counts = summary'.counts := by
  constructor
  · intro h
    have hvalue := Json.value_eq_of_render_eq h
    simp only [value_toJson, Value.object.injEq, List.cons.injEq, Prod.mk.injEq, Value.list.injEq,
      Json.natural_inj, true_and, and_true] at hvalue
    obtain ⟨hrecords, hdistinct, hcounts⟩ := hvalue
    exact ⟨hrecords, hdistinct, FlagCount.value_toJson_injective.list_map hcounts⟩
  · rintro ⟨hrecords, hdistinct, hcounts⟩
    rw [toJson, toJson, hrecords, hdistinct, hcounts]

/-- What is written is read to its end and says each field under its name, in order. -/
theorem Json.read_back_by_fields (table table' : FlagTable) (record record' : Record)
    (summary summary' : FlagSummary) (stream : List Json) :
    Value.read table.toJson.render =
      some (.object [("flags", .list (table.flags.map fun flag =>
        .object [("name", .text flag.name), ("mask", .natural flag.mask.toNat)]))]) ∧
    Value.read record.toJson.render =
      some (.object [("index", .natural record.index), ("raw", .natural record.raw.toNat),
        ("flags", .list (record.flags.map .text))]) ∧
    Value.read summary.toJson.render =
      some (.object [("records", .natural summary.records),
        ("distinct_values", .natural summary.seen.toList.toFinset.card),
        ("flags", .list (summary.counts.map fun entry =>
          .object [("name", .text entry.flag.name), ("mask", .natural entry.flag.mask.toNat),
            ("count", .natural entry.count)]))]) ∧
    (table.toJson.render = table'.toJson.render ↔ table = table') ∧
    (record.toJson.render = record'.toJson.render ↔ record = record') ∧
    (summary.toJson.render = summary'.toJson.render ↔
      summary.records = summary'.records ∧ summary.distinctValues = summary'.distinctValues ∧
        summary.counts = summary'.counts) ∧
    (∀ v ∈ stream, ∀ c ∈ v.render.toList, 0x20 ≤ c.toNat) ∧
    Text.split '\n' (Text.unlines (stream.map render)).toList =
      stream.map (fun v => v.render.toList) ++ [[]] := by
  refine ⟨?_, ?_, ?_, FlagTable.render_toJson_inj, Record.render_toJson_inj,
    FlagSummary.render_toJson_eq_iff, ?_, split_unlines_render stream⟩
  · rw [read_render, FlagTable.value_toJson]
    rfl
  · rw [read_render, Record.value_toJson]
  · rw [read_render, FlagSummary.value_toJson, FlagSummary.distinctValues,
      WordSet.size_eq_card fun _ => Iff.rfl]
    rfl
  · intro v _ c hc
    exact of_decide_eq_true (isShown_of_mem_render hc)

/-- A name with characters to escape and an empty name. -/
theorem Json.read_back_by_fields_escaped :
    ∃ text, (FlagTable.ofList [("\"\\\n\x7f", 300), ("", 0)]).toJson.render = text ∧
      text = "\x7b\"flags\":[\x7b\"name\":\"\\\"\\\\\\n\x7f\",\"mask\":300\x7d," ++
        "\x7b\"name\":\"\",\"mask\":0\x7d]\x7d" ∧
      Value.read text = some (.object [("flags", .list
        [.object [("name", .text "\"\\\n\x7f"), ("mask", .natural 300)],
          .object [("name", .text ""), ("mask", .natural 0)]])]) ∧
      '\x7f' ∈ text.toList ∧ (∀ c ∈ text.toList, 0x20 ≤ c.toNat) ∧
      Text.split '\n' (Text.unlines [text, text]).toList = [text.toList, text.toList, []] := by
  have htext : (FlagTable.ofList [("\"\\\n\x7f", 300), ("", 0)]).toJson.render =
      "\x7b\"flags\":[\x7b\"name\":\"\\\"\\\\\\n\x7f\",\"mask\":300\x7d," ++
        "\x7b\"name\":\"\",\"mask\":0\x7d]\x7d" := by decide +kernel
  obtain ⟨htable, -, -, -, -, -, hshown, hsplit⟩ :=
    read_back_by_fields (.ofList [("\"\\\n\x7f", 300), ("", 0)]) .empty ⟨0, 0, []⟩ ⟨0, 0, []⟩
      (.new .empty) (.new .empty)
      [(FlagTable.ofList [("\"\\\n\x7f", 300), ("", 0)]).toJson,
        (FlagTable.ofList [("\"\\\n\x7f", 300), ("", 0)]).toJson]
  refine ⟨_, rfl, htext, htable, ?_, hshown _ (List.mem_cons_self ..), hsplit⟩
  rw [htext]
  decide

end BusStatus
