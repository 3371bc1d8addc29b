import BusStatus.Proofs.Ring.Pending
import BusStatus.Ring.Cursors

/-!
# Replays behave as lists of records

Along every sequence of moves, replays and their copies answer as plain lists of records do.
-/

namespace BusStatus

open Cursors (Move Answer)

/-! ## The machine on lists -/

abbrev RecordLists := List (List Record)

def RecordLists.step? (lists : RecordLists) (number : Nat) (move : Move) :
    Option (Answer × RecordLists) :=
  match lists[number]? with
  | none => none
  | some records =>
      match move with
      | .next => some (.record records.head?, lists.set number records.tail)
      | .nth n => some (.record records[n]?, lists.set number (records.drop (n + 1)))
      | .take n => some (.records (records.take n), lists.set number (records.drop n))
      | .rest => some (.records records, lists.set number [])
      | .fork => some (.number lists.length, lists ++ [records])

/-- Makes moves under their numbers and collects the answers, up to one that has none. -/
def Cursors.run? {σ : Type} (step? : σ → Nat → Move → Option (Answer × σ)) :
    σ → List (Nat × Move) → Option (List Answer × σ)
  | state, [] => some ([], state)
  | state, (number, move) :: moves =>
      match step? state number move with
      | none => none
      | some (answer, next) => (run? step? next moves).map fun (answers, final) =>
          (answer :: answers, final)

theorem Cursors.run?_induction {σ : Type} {step? : σ → Nat → Move → Option (Answer × σ)}
    (Keeps : σ → σ → Prop) (refl : ∀ s, Keeps s s)
    (trans : ∀ {s t u}, Keeps s t → Keeps t u → Keeps s u)
    {moves : List (Nat × Move)}
    (step : ∀ s t number move answer, (number, move) ∈ moves →
      step? s number move = some (answer, t) → Keeps s t)
    {s t : σ} {answers : List Answer} (h : run? step? s moves = some (answers, t)) : Keeps s t := by
  induction moves generalizing s answers with
  | nil =>
      simp only [run?, Option.some.injEq, Prod.mk.injEq] at h
      exact h.2 ▸ refl s
  | cons m moves ih =>
      obtain ⟨number, move⟩ := m
      simp only [run?] at h
      split at h
      · cases h
      · rename_i answer next hstep
        simp only [Option.map_eq_some_iff, Prod.mk.injEq] at h
        obtain ⟨⟨answers', final⟩, hrun, -, rfl⟩ := h
        refine trans (step s next number move answer (List.mem_cons_self ..) hstep) (ih ?_ hrun)
        intro s t number move answer hm
        exact step s t number move answer (List.mem_cons_of_mem _ hm)

/-! ## What a move changes -/

theorem RecordLists.step?_cases {lists next : RecordLists} {number : Nat} {move : Move}
    {answer : Answer} (h : lists.step? number move = some (answer, next)) :
    ∃ own, lists[number]? = some own ∧
      ((∃ left, left <:+ own ∧ next = lists.set number left) ∨ next = lists ++ [own]) := by
  unfold RecordLists.step? at h
  split at h
  · cases h
  · rename_i own hown
    refine ⟨own, hown, ?_⟩
    cases move with
    | next => cases h; exact .inl ⟨_, List.tail_suffix _, rfl⟩
    | nth n => cases h; exact .inl ⟨_, List.drop_suffix _ _, rfl⟩
    | take n => cases h; exact .inl ⟨_, List.drop_suffix _ _, rfl⟩
    | rest => cases h; exact .inl ⟨_, List.nil_suffix, rfl⟩
    | fork => cases h; exact .inr rfl

theorem RecordLists.suffix_of_step? {lists next : RecordLists} {number : Nat} {move : Move}
    {answer : Answer} (h : lists.step? number move = some (answer, next)) {k : Nat}
    {records : List Record} (hk : lists[k]? = some records) :
    ∃ left, next[k]? = some left ∧ left <:+ records := by
  have hlt : k < lists.length := (List.getElem?_eq_some_iff.mp hk).1
  obtain ⟨own, hown, ⟨left, hleft, rfl⟩ | rfl⟩ := step?_cases h
  · by_cases hne : number = k
    · subst hne
      rw [hown, Option.some.injEq] at hk
      exact ⟨left, List.getElem?_set_self hlt, hk ▸ hleft⟩
    · exact ⟨records, by rw [List.getElem?_set_ne hne, hk], List.suffix_refl _⟩
  · exact ⟨records, by rw [List.getElem?_append_left hlt, hk], List.suffix_refl _⟩

theorem RecordLists.mem_suffix_of_step? {lists next : RecordLists} {number : Nat} {move : Move}
    {answer : Answer} (h : lists.step? number move = some (answer, next)) {whole : List Record}
    (hall : ∀ records ∈ lists, records <:+ whole) : ∀ records ∈ next, records <:+ whole := by
  obtain ⟨own, hown, ⟨left, hleft, rfl⟩ | rfl⟩ := step?_cases h
  · intro records hm
    rcases List.mem_or_eq_of_mem_set hm with hm | rfl
    · exact hall records hm
    · exact hleft.trans (hall own (List.mem_of_getElem? hown))
  · intro records hm
    rcases List.mem_append.mp hm with hm | hm
    · exact hall records hm
    · exact List.mem_singleton.mp hm ▸ hall own (List.mem_of_getElem? hown)

theorem Cursors.step?_cases {cursors next : Cursors} {number : Nat} {move : Move} {answer : Answer}
    (h : cursors.step? number move = some (answer, next)) :
    ∃ own, cursors.get? number = some own ∧
      ((∃ left, next = cursors.set number left) ∨ next = ⟨cursors.replays ++ [own]⟩) := by
  unfold Cursors.step? at h
  split at h
  · cases h
  · rename_i own hown
    refine ⟨own, hown, ?_⟩
    cases move with
    | fork => cases h; exact .inr rfl
    | _ => cases h; exact .inl ⟨_, rfl⟩

theorem Cursors.get?_of_step? {cursors next : Cursors} {number : Nat} {move : Move} {answer : Answer}
    (h : cursors.step? number move = some (answer, next)) {k : Nat} (hne : number ≠ k)
    {replay : Replay} (hk : cursors.get? k = some replay) : next.get? k = some replay := by
  have hlt : k < cursors.replays.length := (List.getElem?_eq_some_iff.mp hk).1
  obtain ⟨own, -, ⟨left, rfl⟩ | rfl⟩ := step?_cases h
  · rw [get?, set, List.getElem?_set_ne hne]
    exact hk
  · rw [get?, List.getElem?_append_left hlt]
    exact hk

theorem Cursors.step?_isSome {cursors : Cursors} {number : Nat} {replay : Replay}
    (h : cursors.get? number = some replay) (move : Move) :
    (cursors.step? number move).isSome := by
  cases move <;> simp [step?, h]

/-! ## The cursors seen as lists -/

namespace Cursors

/-- What each replay has still to show. -/
def pending (cursors : Cursors) : RecordLists :=
  cursors.replays.map (·.pending)

/-- The replays have exactly these records to show, each those of the list of its number. -/
structure Shows (cursors : Cursors) (lists : RecordLists) : Prop where
  sound : ∀ replay ∈ cursors.replays, replay.Sound
  pending_eq : cursors.pending = lists

variable {cursors : Cursors} {lists : RecordLists}

theorem Shows.getElem? (h : cursors.Shows lists) (number : Nat) :
    lists[number]? = (cursors.get? number).map (·.pending) := by
  rw [← h.pending_eq, pending, List.getElem?_map, get?]

theorem Shows.get? (h : cursors.Shows lists) {number : Nat} {replay : Replay}
    (hget : cursors.get? number = some replay) :
    ∃ records, lists[number]? = some records ∧ replay.Shows records :=
  ⟨replay.pending, by rw [h.getElem?, hget, Option.map_some],
    h.sound replay (List.mem_of_getElem? hget), rfl⟩

theorem Shows.set (h : cursors.Shows lists) (number : Nat) {left : Replay} {records : List Record}
    (hleft : left.Shows records) : (cursors.set number left).Shows (lists.set number records) := by
  refine ⟨fun replay hm => ?_, ?_⟩
  · rcases List.mem_or_eq_of_mem_set hm with hm | rfl
    · exact h.sound replay hm
    · exact hleft.sound
  · rw [← h.pending_eq, ← hleft.pending_eq, pending, Cursors.set, List.map_set]
    rfl

theorem Shows.append (h : cursors.Shows lists) {replay : Replay} {records : List Record}
    (hreplay : replay.Shows records) :
    Shows ⟨cursors.replays ++ [replay]⟩ (lists ++ [records]) := by
  refine ⟨fun other hm => ?_, ?_⟩
  · rcases List.mem_append.mp hm with hm | hm
    · exact h.sound other hm
    · exact List.mem_singleton.mp hm ▸ hreplay.sound
  · rw [← h.pending_eq, ← hreplay.pending_eq, pending, List.map_append]
    rfl

theorem Shows.length_eq (h : cursors.Shows lists) : cursors.replays.length = lists.length := by
  rw [← h.pending_eq, pending, List.length_map]

/-- A move on the cursors is the same move on the lists. -/
theorem Shows.step? (h : cursors.Shows lists) (number : Nat) (move : Move) :
    (cursors.step? number move = none ∧ lists.step? number move = none) ∨
      ∃ answer next left, cursors.step? number move = some (answer, next) ∧
        lists.step? number move = some (answer, left) ∧ next.Shows left := by
  cases hget : cursors.get? number with
  | none =>
      have hlist : lists[number]? = none := by rw [h.getElem?, hget, Option.map_none]
      exact .inl ⟨by simp [Cursors.step?, hget], by simp [RecordLists.step?, hlist]⟩
  | some replay =>
      obtain ⟨records, hlist, hshows⟩ := h.get? hget
      right
      cases move with
      | next =>
          obtain ⟨left, hmove, hleft⟩ := hshows.next
          exact ⟨_, _, _, by simp [Cursors.step?, hget, hmove]; rfl,
            by simp [RecordLists.step?, hlist], h.set number hleft⟩
      | nth n =>
          obtain ⟨left, hmove, hleft⟩ := hshows.nth n
          exact ⟨_, _, _, by simp [Cursors.step?, hget, hmove]; rfl,
            by simp [RecordLists.step?, hlist], h.set number hleft⟩
      | take n =>
          obtain ⟨left, hmove, hleft⟩ := hshows.take n
          exact ⟨_, _, _, by simp [Cursors.step?, hget, hmove]; rfl,
            by simp [RecordLists.step?, hlist], h.set number hleft⟩
      | rest =>
          obtain ⟨left, hmove, hleft⟩ := hshows.rest
          exact ⟨_, _, _, by simp [Cursors.step?, hget, hmove]; rfl,
            by simp [RecordLists.step?, hlist], h.set number hleft⟩
      | fork =>
          exact ⟨_, _, _, by simp [Cursors.step?, hget]; rfl,
            by simp [RecordLists.step?, hlist, h.length_eq], h.append hshows⟩

theorem Shows.run? (h : cursors.Shows lists) (moves : List (Nat × Move)) :
    (Cursors.run? Cursors.step? cursors moves = none ∧
        Cursors.run? RecordLists.step? lists moves = none) ∨
      ∃ answers final left, Cursors.run? Cursors.step? cursors moves = some (answers, final) ∧
        Cursors.run? RecordLists.step? lists moves = some (answers, left) ∧ final.Shows left := by
  induction moves generalizing cursors lists with
  | nil => exact .inr ⟨[], cursors, lists, rfl, rfl, h⟩
  | cons m moves ih =>
      obtain ⟨number, move⟩ := m
      rcases h.step? number move with ⟨hstep, hlist⟩ | ⟨answer, next, left, hstep, hlist, hnext⟩
      · exact .inl ⟨by simp [Cursors.run?, hstep], by simp [Cursors.run?, hlist]⟩
      · rcases ih hnext with ⟨hrun, hlists⟩ | ⟨answers, final, rest, hrun, hlists, hfinal⟩
        · exact .inl ⟨by simp [Cursors.run?, hstep, hrun], by simp [Cursors.run?, hlist, hlists]⟩
        · exact .inr ⟨answer :: answers, final, rest, by simp [Cursors.run?, hstep, hrun],
            by simp [Cursors.run?, hlist, hlists], hfinal⟩

theorem Shows.run?_eq_some (h : cursors.Shows lists) {moves : List (Nat × Move)}
    {answers : List Answer} {final : Cursors}
    (hrun : Cursors.run? Cursors.step? cursors moves = some (answers, final)) :
    Cursors.run? RecordLists.step? lists moves = some (answers, final.pending) ∧
      final.Shows final.pending := by
  rcases h.run? moves with ⟨hnone, -⟩ | ⟨answers', final', left, hsome, hlists, hfinal⟩
  · rw [hnone] at hrun; cases hrun
  · rw [hrun, Option.some.injEq, Prod.mk.injEq] at hsome
    obtain ⟨rfl, rfl⟩ := hsome
    rw [hfinal.pending_eq]
    exact ⟨hlists, hfinal⟩

end Cursors

theorem RecordLists.suffix_of_run? {lists final : RecordLists} {moves : List (Nat × Move)}
    {answers : List Answer} (h : Cursors.run? RecordLists.step? lists moves = some (answers, final))
    {k : Nat} {records : List Record} (hk : lists[k]? = some records) :
    ∃ left, final[k]? = some left ∧ left <:+ records := by
  refine Cursors.run?_induction
    (fun lists final => ∀ records, lists[k]? = some records →
      ∃ left, final[k]? = some left ∧ left <:+ records)
    (fun _ records hk => ⟨records, hk, List.suffix_refl _⟩) ?_ ?_ h records hk
  · intro lists next final hnext hfinal records hk
    obtain ⟨left, hleft, hsuffix⟩ := hnext records hk
    obtain ⟨rest, hrest, hsuffix'⟩ := hfinal left hleft
    exact ⟨rest, hrest, hsuffix'.trans hsuffix⟩
  · intro lists next number move answer _ hstep records hk
    exact suffix_of_step? hstep hk

theorem RecordLists.mem_suffix_of_run? {lists final : RecordLists} {moves : List (Nat × Move)}
    {answers : List Answer} (h : Cursors.run? RecordLists.step? lists moves = some (answers, final))
    {whole : List Record} (hall : ∀ records ∈ lists, records <:+ whole) :
    ∀ records ∈ final, records <:+ whole := by
  refine Cursors.run?_induction
    (fun lists final => (∀ records ∈ lists, records <:+ whole) →
      ∀ records ∈ final, records <:+ whole)
    (fun _ hall => hall) ?_ ?_ h hall
  · intro lists next final hnext hfinal hall
    exact hfinal (hnext hall)
  · intro lists next number move answer _ hstep hall
    exact mem_suffix_of_step? hstep hall

theorem Cursors.get?_of_run? {cursors final : Cursors} {moves : List (Nat × Move)}
    {answers : List Answer} (h : run? Cursors.step? cursors moves = some (answers, final)) {k : Nat}
    (hne : ∀ m ∈ moves, m.1 ≠ k) {replay : Replay} (hk : cursors.get? k = some replay) :
    final.get? k = some replay := by
  refine run?_induction
    (fun cursors final => cursors.get? k = some replay → final.get? k = some replay)
    (fun _ hk => hk) ?_ ?_ h hk
  · intro cursors next final hnext hfinal hk
    exact hfinal (hnext hk)
  · intro cursors next number move answer hm hstep hk
    exact get?_of_step? hstep (hne _ hm) hk

/-! ## The replay of a ring as a list -/

/-- A replay and its copies stand for lists of records, along every sequence of moves. -/
theorem Ring.cursors_refine_lists (ring : Ring) (table : FlagTable)
    (h : ring.start < ring.capacity) :
    ∃ replay, ring.replay table = .ok replay ∧ ∀ moves : List (Nat × Move),
      (Cursors.run? Cursors.step? (.single replay) moves).map
          (fun (answers, cursors) => (answers, cursors.pending)) =
        Cursors.run? RecordLists.step? [replay.records] moves ∧
      ∀ answers cursors,
        Cursors.run? Cursors.step? (.single replay) moves = some (answers, cursors) →
        ∀ number current, cursors.get? number = some current →
          current.pending <:+ replay.records ∧
          current.sizeHint = (current.pending.length, some current.pending.length) ∧
          (∀ move, (cursors.step? number move).isSome) ∧
          ∀ more answers' later,
            Cursors.run? Cursors.step? cursors more = some (answers', later) →
            (current.pending = [] → later.pending[number]? = some []) ∧
            ((∀ m ∈ more, m.1 ≠ number) → later.get? number = some current) := by
  obtain ⟨replay, hreplay, -, hshows⟩ := Ring.replay_shows h table
  rw [← hshows.records_eq] at hshows
  have hsingle : (Cursors.single replay).Shows [replay.records] :=
    ⟨fun other hm => List.mem_singleton.mp hm ▸ hshows.sound, congrArg (fun l => [l]) hshows.pending_eq⟩
  refine ⟨replay, hreplay, fun moves => ⟨?_, ?_⟩⟩
  · rcases hsingle.run? moves with ⟨hrun, hlists⟩ | ⟨answers, final, left, hrun, hlists, hfinal⟩
    · rw [hrun, hlists, Option.map_none]
    · simp [hrun, hlists, hfinal.pending_eq]
  · intro answers cursors hrun number current hget
    obtain ⟨hlists, hcursors⟩ := hsingle.run?_eq_some hrun
    obtain ⟨records, hrecords, hcurrent⟩ := hcursors.get? hget
    rw [hcurrent.pending_eq]
    refine ⟨?_, hcurrent.sizeHint_eq, Cursors.step?_isSome hget, ?_⟩
    · refine RecordLists.mem_suffix_of_run? hlists ?_ records (List.mem_of_getElem? hrecords)
      intro other hm
      exact List.mem_singleton.mp hm ▸ List.suffix_refl _
    · intro more answers' later hmore
      refine ⟨?_, fun hne => Cursors.get?_of_run? hmore hne hget⟩
      rintro rfl
      obtain ⟨left, hleft, hsuffix⟩ :=
        RecordLists.suffix_of_run? (hcursors.run?_eq_some hmore).1 hrecords
      rw [hleft, List.suffix_nil.mp hsuffix]

theorem Ring.cursors_refine_lists_forked :
    2 < 3 ∧ ∃ replay, Ring.replay ⟨#[1, 3, 0], 2⟩ (.ofList [("A", 1), ("B", 2)]) = .ok replay ∧
      (Cursors.run? Cursors.step? (.single replay)
          [(0, .next), (0, .fork), (0, .nth 1), (0, .next), (1, .take 5)]).map Prod.fst =
        some [.record (some ⟨2, 0, []⟩), .number 1, .record (some ⟨1, 3, ["A", "B"]⟩),
          .record none, .records [⟨0, 1, ["A"]⟩, ⟨1, 3, ["A", "B"]⟩]] := by
  obtain ⟨replay, hreplay, hruns⟩ :=
    Ring.cursors_refine_lists ⟨#[1, 3, 0], 2⟩ (.ofList [("A", 1), ("B", 2)]) (by decide)
  refine ⟨by decide, replay, hreplay, ?_⟩
  have hrun := (hruns [(0, .next), (0, .fork), (0, .nth 1), (0, .next), (1, .take 5)]).1
  cases hreplay
  have hanswers := congrArg (Option.map Prod.fst) hrun
  rw [Option.map_map] at hanswers
  exact hanswers.trans (by decide)

end BusStatus
