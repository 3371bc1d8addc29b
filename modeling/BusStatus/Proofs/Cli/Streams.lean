import BusStatus.Proofs.Cli.Runs
import BusStatus.Proofs.Log.Lines
import BusStatus.Proofs.Word.Written

/-!
# Exit codes and streams

What a failing run tells is never lost, and a run that succeeds tells nothing that looks like it, apart
from the echo of directives that cannot be read.
-/

namespace BusStatus.Cli

open Text (OneLine)

namespace Outcome

/-! ## Lines about failures -/

/-- What a run tells on standard error behind the directives that cannot be read. -/
def told (host : Host) (request : Request) (report : Report) : List String :=
  (shownEvents host request report).map (·.line) ++ report.failure.toList.map failureLine

theorem stderr_ofReport (host : Host) (request : Request) (report : Report) :
    (ofReport host request report).stderr = ignoredLines host ++ told host request report :=
  List.append_assoc ..

theorem isErrorLine_failureLine (failure : String) : IsErrorLine (failureLine failure).toList := by
  rw [IsErrorLine, failureLine, String.toList_append]
  have hprefix : "Error:".toList <+: "Error: ".toList := by decide
  exact hprefix.trans (List.prefix_append _ _)

theorem not_isErrorLine_refusalLine (path : String) (e : OsError) :
    ¬ IsErrorLine (refusalLine path e).toList := by
  have hfront : ¬ IsErrorLine ("Failed to set up logging: Failed to create log file at: " ++
      (Text.quoted path ++ (": " ++ e.message))).toList :=
    not_isErrorLine_append (by decide) (by decide) _
  rwa [← String.append_assoc, ← String.append_assoc] at hfront

theorem oneLine_refusalLine (path : String) (e : OsError) : OneLine (refusalLine path e) := by
  have hdescription : OneLine e.description := e.newline_not_mem
  have hmessage : OneLine e.message :=
    ((hdescription.append (by decide)).append (Text.oneLine_decimal _)).append (by decide)
  exact ((OneLine.append (by decide) (Text.oneLine_quoted path)).append (by decide)).append hmessage

theorem not_showsError_refusalLine (path : String) (e : OsError) :
    ¬ ShowsError [refusalLine path e] := by
  apply not_showsError_of_oneLine
  · intro line hline
    rw [List.mem_singleton.mp hline]
    exact oneLine_refusalLine path e
  · intro line hline
    rw [List.mem_singleton.mp hline]
    exact not_isErrorLine_refusalLine path e

theorem oneLine_logFileEvent (path : String) : (logFileEvent path).OneLine where
  message := OneLine.append (by decide) (Text.oneLine_quoted path)
  fields := fun _ hfield => nomatch hfield

variable {host : Host} {request : Request} {report : Report}

theorem oneLine_of_mem_shownEvents (hevents : ∀ event ∈ report.events, event.OneLine)
    {event : Log.Event} (hevent : event ∈ shownEvents host request report) : event.OneLine := by
  rw [shownEvents, List.mem_filter, List.mem_append] at hevent
  rcases hevent.1 with hevent | hevent
  · obtain ⟨path, -, rfl⟩ := List.mem_map.mp hevent
    exact oneLine_logFileEvent path
  · exact hevents event hevent

theorem exitCode_eq_one_iff :
    (ofReport host request report).exitCode = 1 ↔ ∃ failure, report.failure = some failure := by
  rw [exitCode_ofReport, Report.exitCode]
  cases report.failure with
  | none => simp
  | some failure => simp

theorem showsError_told_iff
    (hevents : report.failure = none → ∀ event ∈ report.events, event.OneLine) :
    ShowsError (told host request report) ↔ (ofReport host request report).exitCode = 1 := by
  rw [exitCode_eq_one_iff, told]
  cases hfailure : report.failure with
  | some failure =>
      refine iff_of_true ?_ ⟨failure, rfl⟩
      exact .of_mem (List.mem_append_right _ (List.mem_singleton_self _))
        (isErrorLine_failureLine failure)
  | none =>
      refine iff_of_false ?_ nofun
      rw [Option.toList_none, List.map_nil, List.append_nil]
      apply not_showsError_of_oneLine
      · intro line hline
        obtain ⟨event, hevent, rfl⟩ := List.mem_map.mp hline
        exact (oneLine_of_mem_shownEvents (hevents hfailure) hevent).line
      · intro line hline
        obtain ⟨event, -, rfl⟩ := List.mem_map.mp hline
        exact event.not_isErrorLine_line

end Outcome

/-! ## The events of naming flags -/

namespace FlagsReport

theorem oneLine_name (layout : Layout) : OneLine layout.name := by
  cases layout <;> decide

theorem oneLine_loadEvent (layout : Layout) : (loadEvent layout).OneLine where
  message := by
    change OneLine "Loaded flag table"
    decide
  fields := by
    intro field hfield
    simp only [loadEvent, List.mem_cons, List.not_mem_nil, or_false] at hfield
    rcases hfield with rfl | rfl
    · exact ⟨(by decide : OneLine "layout"), oneLine_name layout⟩
    · exact ⟨(by decide : OneLine "flags"), Text.oneLine_decimal _⟩

theorem oneLine_of_mem_unknownEvents {layout : Layout} {w : Word} {event : Log.Event}
    (h : event ∈ unknownEvents layout w) : event.OneLine := by
  simp only [unknownEvents] at h
  split at h
  · cases h
  · obtain rfl := List.mem_singleton.mp h
    constructor
    · exact ((OneLine.append (by decide) (Word.oneLine_hex _)).append (by decide)).append
        w.oneLine_hex |>.append (by decide)
    · intro field hfield
      obtain rfl := List.mem_singleton.mp hfield
      exact ⟨(by decide : OneLine "layout"), oneLine_name layout⟩

theorem oneLine_events {request : Request} (h : (ofRequest request).failure = none) :
    ∀ event ∈ (ofRequest request).events, event.OneLine := by
  unfold ofRequest at h ⊢
  split at h
  · rename_i hlist
    rw [if_pos hlist]
    intro event hevent
    obtain rfl := List.mem_singleton.mp hevent
    exact oneLine_loadEvent _
  · rename_i hlist
    rw [if_neg hlist]
    cases hparse : Word.parse (request.values.headD "") with
    | error e => rw [ofInput_of_error hparse] at h; cases h
    | ok w =>
        rw [ofInput_of_ok hparse]
        intro event hevent
        rcases List.mem_cons.mp hevent with rfl | hevent
        · exact oneLine_loadEvent _
        · exact oneLine_of_mem_unknownEvents hevent

end FlagsReport

/-! ## All command lines -/

namespace Outcome

variable {host : Host} {request : Request}

theorem showsError_stderr_iff :
    ShowsError (ofRequest .flags host request).stderr ↔
      Runs .flags host request ∧
        ((ofRequest .flags host request).exitCode = 1 ∨ ShowsError (ignoredLines host)) := by
  by_cases hruns : Runs .flags host request
  · rw [ofRequest_of_runs hruns, stderr_ofReport, showsError_append, and_iff_right hruns]
    exact or_comm.trans (or_congr_left (showsError_told_iff FlagsReport.oneLine_events))
  refine iff_of_false ?_ fun h => hruns h.1
  cases hlacks : FlagsReport.lacksValue request with
  | true =>
      rw [ofRequest_flags_of_lacksValue hlacks]
      exact not_showsError_nil
  | false =>
      rcases logOpens_or_refusal host request with hopens | ⟨path, e, hpath, he⟩
      · exact absurd ⟨fun _ => hlacks, hopens⟩ hruns
      · rw [ofRequest_flags hlacks, ofRun_of_refusal hpath he]
        exact not_showsError_refusalLine path e

theorem ofRequest_list (hopens : LogOpens host request) (hlist : request.list = true) :
    (ofRequest .flags host request).exitCode = 0 ∧
      (ofRequest .flags host request).stdout =
        (FlagsReport.layout request).table.flags.map (·.display) := by
  rw [ofRequest_of_runs (FlagsReport.runs_iff.mpr ⟨.inl hlist, hopens⟩), Request.report,
    FlagsReport.ofRequest_of_list hlist]
  exact ⟨rfl, rfl⟩

theorem ofRequest_value_iff (hopens : LogOpens host request) (hlist : request.list = false)
    {v : String} (hv : request.values = [v]) :
    ((ofRequest .flags host request).exitCode = 0 ↔ ∃ w, Word.parse v = .ok w) ∧
      ((¬ ∃ w, Word.parse v = .ok w) →
        (ofRequest .flags host request).exitCode = 1 ∧
          (ofRequest .flags host request).stdout = []) := by
  have hlength : request.values.length = 1 := by rw [hv]; rfl
  rw [ofRequest_of_runs (FlagsReport.runs_iff.mpr ⟨.inr hlength, hopens⟩), Request.report,
    FlagsReport.ofRequest_of_value hlist hv]
  cases hparse : Word.parse v with
  | ok w =>
      rw [FlagsReport.ofInput_of_ok hparse]
      exact ⟨iff_of_true rfl ⟨w, rfl⟩, fun hnone => absurd ⟨w, rfl⟩ hnone⟩
  | error e =>
      rw [FlagsReport.ofInput_of_error hparse]
      refine ⟨iff_of_false ?_ ?_, fun _ => ⟨rfl, rfl⟩⟩
      · exact Nat.one_ne_zero
      · rintro ⟨w, hw⟩
        cases hw

end Outcome

end BusStatus.Cli
