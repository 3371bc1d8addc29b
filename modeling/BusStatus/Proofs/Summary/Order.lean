import BusStatus.Proofs.Ring.Words
import BusStatus.Proofs.Summary.Counts

/-!
# The order of the words does not matter to a summary

A summary counts the same words in any order with the same result.
-/

namespace BusStatus

namespace FlagSummary

theorem addAll_eq_of_perm (summary : FlagSummary) {us vs : List Word} (h : us.Perm vs) :
    summary.addAll us = summary.addAll vs := by
  have hrecords : (summary.addAll us).records = (summary.addAll vs).records := by
    rw [records_addAll, records_addAll, h.length_eq]
  have hseen : (summary.addAll us).seen = (summary.addAll vs).seen := by
    refine WordSet.eq_of_mem_iff fun w => ?_
    rw [mem_seen_addAll, mem_seen_addAll, h.mem_iff]
  have hcounts : (summary.addAll us).counts = (summary.addAll vs).counts := by
    rw [counts_addAll, counts_addAll]
    refine List.map_congr_left fun entry _ => ?_
    rw [h.countP_eq]
  calc summary.addAll us
      = ⟨(summary.addAll us).records, (summary.addAll us).seen, (summary.addAll us).counts⟩ := rfl
    _ = summary.addAll vs := by rw [hrecords, hseen, hcounts]

theorem addRecords_replay (ring : Ring) (h : ring.start < ring.capacity) (table : FlagTable)
    (summary : FlagSummary) :
    ∃ replay, ring.replay table = .ok replay ∧
      (replay.records.map (·.raw)).Perm ring.slots.toList ∧
      summary.addRecords replay.records = summary.addAll ring.slots.toList := by
  obtain ⟨replay, records, hreplay, hshows, hraw, -⟩ := Ring.replay_shows_words h table
  have hperm : (replay.records.map (·.raw)).Perm ring.slots.toList := by
    rw [hshows.records_eq, hraw]
    exact ring.words_perm
  exact ⟨replay, hreplay, hperm, summary.addAll_eq_of_perm hperm⟩

/-- Every full replay of a ring, and every order of the same words, is counted alike. -/
theorem start_does_not_matter (slots : Array Word) (first second : Nat)
    (hfirst : first < slots.size) (hsecond : second < slots.size) (table other : FlagTable)
    (summary : FlagSummary) :
    (∃ replay replay', Ring.replay ⟨slots, first⟩ table = .ok replay ∧
      Ring.replay ⟨slots, second⟩ other = .ok replay' ∧
      (replay.records.map (·.raw)).Perm (replay'.records.map (·.raw)) ∧
      (summary.addRecords replay.records).records = summary.records + slots.size ∧
      summary.addRecords replay.records = summary.addRecords replay'.records ∧
      (summary.addRecords replay.records).display =
        (summary.addRecords replay'.records).display ∧
      (summary.addRecords replay.records).toJson.render =
        (summary.addRecords replay'.records).toJson.render) ∧
    ∀ us vs : List Word, us.Perm vs → summary.addAll us = summary.addAll vs := by
  obtain ⟨replay, hreplay, hwords, hsummary⟩ :=
    addRecords_replay ⟨slots, first⟩ hfirst table summary
  obtain ⟨replay', hreplay', hwords', hsummary'⟩ :=
    addRecords_replay ⟨slots, second⟩ hsecond other summary
  refine ⟨⟨replay, replay', hreplay, hreplay', hwords.trans hwords'.symm, ?_, ?_, ?_, ?_⟩,
    fun us vs h => summary.addAll_eq_of_perm h⟩
  · rw [hsummary, records_addAll, Array.length_toList]
  all_goals rw [hsummary, hsummary']

/-- Three words from the first and from the last slot. -/
theorem start_does_not_matter_from_last :
    0 < 3 ∧ 2 < 3 ∧ List.Perm [1, 3, 3] [3, 1, 3] ∧
      ∃ replay replay', Ring.replay ⟨#[3, 1, 0], 0⟩ .empty = .ok replay ∧
        Ring.replay ⟨#[3, 1, 0], 2⟩ (.ofList [("A", 1)]) = .ok replay' ∧
        replay'.records = [⟨2, 0, []⟩, ⟨0, 3, ["A"]⟩, ⟨1, 1, ["A"]⟩] ∧
        (((new (.ofList [("B", 2)])).add 1).addRecords replay.records).display =
          (((new (.ofList [("B", 2)])).add 1).addRecords replay'.records).display ∧
        ((new (.ofList [("B", 2)])).add 1).addAll [1, 3, 3] =
          ((new (.ofList [("B", 2)])).add 1).addAll [3, 1, 3] := by
  obtain ⟨⟨replay, replay', hreplay, hreplay', -, -, -, hdisplay, -⟩, hperm⟩ :=
    start_does_not_matter #[3, 1, 0] 0 2 (by decide) (by decide) .empty (.ofList [("A", 1)])
      ((new (.ofList [("B", 2)])).add 1)
  refine ⟨by decide, by decide, by decide, replay, replay', hreplay, hreplay', ?_, hdisplay,
    hperm _ _ (by decide)⟩
  cases hreplay'
  decide

end FlagSummary

end BusStatus
