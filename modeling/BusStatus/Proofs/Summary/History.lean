import BusStatus.Proofs.Ring.Words
import BusStatus.Proofs.Summary.Counts
import BusStatus.Summary.Session

/-!
# A summary tells of the words that it has counted

A history is the plain list of the words counted so far, with the list of the copy.
-/

namespace BusStatus

open SummarySession (Step)

/-! ## Histories of words -/

/-- The words counted so far, and those that were counted when the copy was kept. -/
structure WordHistory where
  current : List Word
  saved : List Word

namespace WordHistory

def new : WordHistory := ⟨[], []⟩

/-- The words that a limit leaves. -/
def limited (ws : List Word) : Option Nat → List Word
  | none => ws
  | some n => ws.take n

/-- Does a step: going back brings back the words of the copy, a replay that cannot start tells why. -/
def step (history : WordHistory) : Step → Option StatusError × WordHistory
  | .add w => (none, { history with current := history.current ++ [w] })
  | .replay ring _ limit =>
      if ring.start < ring.capacity then
        (none, { history with current := history.current ++ limited ring.words limit })
      else (some (.startOutOfRange ring.start ring.capacity), history)
  | .save => (none, { history with saved := history.current })
  | .restore => (none, { history with current := history.saved })

end WordHistory

/-! ## Runs -/

namespace SummarySession

def Step.decodedWith (table : FlagTable) : Step → Step
  | .replay ring _ limit => .replay ring table limit
  | .add w => .add w
  | .save => .save
  | .restore => .restore

def run {σ : Type} (step : σ → Step → Option StatusError × σ) :
    σ → List Step → List (Option StatusError) × σ
  | state, [] => ([], state)
  | state, s :: steps =>
      let (told, next) := step state s
      let (more, final) := run step next steps
      (told :: more, final)

theorem run_cons {σ : Type} (step : σ → Step → Option StatusError × σ) (state : σ) (s : Step)
    (steps : List Step) :
    run step state (s :: steps) =
      ((step state s).1 :: (run step (step state s).2 steps).1,
        (run step (step state s).2 steps).2) := rfl

theorem run_mapIdx {σ : Type} {step : σ → Step → Option StatusError × σ} {f : Nat → Step → Step}
    (same : ∀ i state s, step state (f i s) = step state s) (state : σ) (steps : List Step) :
    run step state (steps.mapIdx f) = run step state steps := by
  induction steps generalizing f state with
  | nil => rfl
  | cons s steps ih =>
      rw [List.mapIdx_cons, run_cons, run_cons, same, ih fun i => same (i + 1)]

end SummarySession

/-! ## A session follows its history -/

theorem Replay.Shows.map_raw_limited {replay : Replay} {records : List Record}
    (h : replay.Shows records) (limit : Option Nat) :
    (SummarySession.limited replay limit).map (·.raw) =
      WordHistory.limited (records.map (·.raw)) limit := by
  cases limit with
  | none => rw [SummarySession.limited, h.records_eq, WordHistory.limited]
  | some n =>
      obtain ⟨left, htake, -⟩ := h.take n
      rw [SummarySession.limited, htake, WordHistory.limited, List.map_take]

namespace SummarySession

theorem step_replay (session : SummarySession) (ring : Ring) (decoding : FlagTable)
    (limit : Option Nat) :
    session.step (.replay ring decoding limit) =
      if ring.start < ring.capacity then
        (none, { session with
          current := session.current.addAll (WordHistory.limited ring.words limit) })
      else (some (.startOutOfRange ring.start ring.capacity), session) := by
  split
  · rename_i hstart
    obtain ⟨replay, records, hreplay, hshows, hraw, -⟩ := Ring.replay_shows_words hstart decoding
    rw [step, hreplay, ← hraw, ← hshows.map_raw_limited]
    rfl
  · rename_i hstart
    have hreplay : ring.replay decoding = .error (.startOutOfRange ring.start ring.capacity) :=
      Ring.replay_eq_error_iff.mpr ⟨Nat.le_of_not_lt hstart, rfl⟩
    rw [step, hreplay]

theorem step_decodedWith (session : SummarySession) (table : FlagTable) (s : Step) :
    session.step (s.decodedWith table) = session.step s := by
  cases s with
  | replay ring decoding limit => rw [Step.decodedWith, step_replay, step_replay]
  | add w => rfl
  | save => rfl
  | restore => rfl

/-- The summary and its copy are those of the words in the history. -/
structure Follows (table : FlagTable) (session : SummarySession) (history : WordHistory) :
    Prop where
  current_eq : session.current = (FlagSummary.new table).addAll history.current
  saved_eq : session.saved = (FlagSummary.new table).addAll history.saved

variable {table : FlagTable} {session : SummarySession} {history : WordHistory}

theorem Follows.append (h : Follows table session history) (ws : List Word) :
    Follows table { session with current := session.current.addAll ws }
      { history with current := history.current ++ ws } :=
  ⟨by rw [FlagSummary.addAll_append, h.current_eq], h.saved_eq⟩

/-- A step tells the same of the session and of the history, and the session goes on to follow. -/
theorem Follows.step (h : Follows table session history) (s : Step) :
    (session.step s).1 = (history.step s).1 ∧
      Follows table (session.step s).2 (history.step s).2 := by
  cases s with
  | add w => exact ⟨rfl, h.append [w]⟩
  | replay ring decoding limit =>
      rw [step_replay, WordHistory.step]
      split
      · exact ⟨rfl, h.append _⟩
      · exact ⟨rfl, h⟩
  | save => exact ⟨rfl, h.current_eq, h.current_eq⟩
  | restore => exact ⟨rfl, h.saved_eq, h.saved_eq⟩

theorem Follows.run (h : Follows table session history) (steps : List Step) :
    (run SummarySession.step session steps).1 = (run WordHistory.step history steps).1 ∧
      Follows table (run SummarySession.step session steps).2
        (run WordHistory.step history steps).2 := by
  induction steps generalizing session history with
  | nil => exact ⟨rfl, h⟩
  | cons s steps ih =>
      obtain ⟨htold, hnext⟩ := h.step s
      obtain ⟨hmore, hfinal⟩ := ih hnext
      rw [run_cons, run_cons, htold, hmore]
      exact ⟨rfl, hfinal⟩

/-- After any steps a summary tells what its history tells, whatever tables decode the replays. -/
theorem run_tells_history (table : FlagTable) (steps : List Step) :
    ∃ told session history,
      run SummarySession.step (.new table) steps = (told, session) ∧
      run WordHistory.step .new steps = (told, history) ∧
      session.current.records = history.current.length ∧
      session.current.distinctValues = history.current.toFinset.card ∧
      session.current.counts = table.flags.map (fun flag =>
        ⟨flag, history.current.countP fun w => flag.mask &&& w != 0⟩) ∧
      ∀ tables : Nat → FlagTable,
        run SummarySession.step (.new table) (steps.mapIdx fun i s => s.decodedWith (tables i)) =
          (told, session) := by
  have hnew : Follows table (.new table) .new := ⟨rfl, rfl⟩
  obtain ⟨htold, hfollows⟩ := hnew.run steps
  refine ⟨_, _, _, rfl, Prod.ext htold.symm rfl, ?_, ?_, ?_, fun tables => ?_⟩
  · rw [hfollows.current_eq, FlagSummary.records_addAll]
    exact Nat.zero_add _
  · rw [hfollows.current_eq, FlagSummary.distinctValues_addAll_new]
  · rw [hfollows.current_eq, FlagSummary.counts_addAll_new]
    rfl
  · exact run_mapIdx (fun i session s => step_decodedWith session (tables i) s) _ steps

-- Going back forgets the second word, and the last replay adds none.
example :
    (run SummarySession.step (.new (.ofList [("A", 1), ("B", 2)]))
      [.add 1, .save, .add 2, .restore, .replay ⟨#[3, 1], 1⟩ .empty (some 1),
        .replay ⟨#[3, 1], 2⟩ .empty none]).2.current.counts =
      [⟨⟨"A", 1⟩, 2⟩, ⟨⟨"B", 2⟩, 0⟩] := by decide

end SummarySession

end BusStatus
