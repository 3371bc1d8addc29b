import BusStatus.Cli.Outcome

/-!
# What a request comes to

A request lacks its value, its log cannot be opened, or the report of its run is shown.
-/

namespace BusStatus.Cli

/-- The file that a request names for its log, if it names one, can be created. -/
def LogOpens (host : Host) (request : Request) : Prop :=
  ∀ path, request.logFile = some path → host.refusal path = none

theorem LogOpens.of_none {host : Host} {request : Request} (h : request.logFile = none) :
    LogOpens host request := by
  intro path hpath
  rw [h] at hpath
  cases hpath

theorem logOpens_or_refusal (host : Host) (request : Request) :
    LogOpens host request ∨ ∃ path e, request.logFile = some path ∧ host.refusal path = some e := by
  cases hfile : request.logFile with
  | none => exact .inl (.of_none hfile)
  | some path =>
      cases hrefusal : host.refusal path with
      | none =>
          refine .inl fun path' hpath => ?_
          rw [hfile] at hpath
          cases hpath
          exact hrefusal
      | some e => exact .inr ⟨path, e, rfl, hrefusal⟩

namespace Outcome

variable {host : Host} {request : Request}

/-! ## From the arguments to the report -/

theorem ofArguments_of_ok {tool : Tool} {args : List String}
    (h : Request.ofArguments tool args = .ok request) :
    ofArguments tool host args = ofRequest tool host request := by
  rw [ofArguments, h]

theorem ofRun_of_logOpens (h : LogOpens host request) (report : Report) :
    ofRun host request report = ofReport host request report := by
  unfold ofRun
  split
  · rfl
  · rename_i path hpath
    rw [h path hpath]

theorem ofRun_of_refusal {path : String} {e : OsError} (hpath : request.logFile = some path)
    (he : host.refusal path = some e) (report : Report) :
    ofRun host request report = { exitCode := 1, stderr := [refusalLine path e] } := by
  simp only [ofRun, hpath, he]

theorem ofRequest_flags_of_lacksValue (h : FlagsReport.lacksValue request = true) :
    ofRequest .flags host request = { exitCode := 1, stdout := [FlagsReport.usageLine] } := by
  rw [ofRequest, if_pos h]

theorem ofRequest_flags (h : FlagsReport.lacksValue request = false) :
    ofRequest .flags host request = ofRun host request (FlagsReport.ofRequest request) := by
  rw [ofRequest, h, if_neg Bool.false_ne_true]

end Outcome

/-! ## The run of a tool -/

def Request.report (request : Request) : Tool → Report
  | .flags => FlagsReport.ofRequest request
  | .statusLog => ReplayReport.ofRequest request

/-- The request has what the tool works on, and its log can be opened. -/
structure Runs (tool : Tool) (host : Host) (request : Request) : Prop where
  works : tool = .flags → FlagsReport.lacksValue request = false
  logOpens : LogOpens host request

namespace Outcome

theorem ofRequest_of_runs {tool : Tool} (h : Runs tool host request) :
    ofRequest tool host request = ofReport host request (request.report tool) := by
  cases tool with
  | flags => rw [ofRequest_flags (h.works rfl), ofRun_of_logOpens h.logOpens]; rfl
  | statusLog => rw [ofRequest, ofRun_of_logOpens h.logOpens]; rfl

/-! ## What is shown of a report -/

variable {report : Report}

theorem exitCode_ofReport : (ofReport host request report).exitCode = report.exitCode := rfl

theorem getLast?_stderr_ofReport {failure : String} (h : report.failure = some failure) :
    (ofReport host request report).stderr.getLast? = some (failureLine failure) := by
  rw [ofReport, h]
  exact List.getLast?_concat

end Outcome

/-! ## The report on flags -/

namespace FlagsReport

theorem lacksValue_iff {request : Request} :
    lacksValue request = true ↔ request.list = false ∧ request.values.length ≠ 1 := by
  simp [lacksValue]

theorem lacksValue_eq_false_iff {request : Request} :
    lacksValue request = false ↔ request.list = true ∨ request.values.length = 1 := by
  cases hlist : request.list <;> simp [lacksValue, hlist]

theorem runs_iff {host : Host} {request : Request} :
    Runs .flags host request ↔
      (request.list = true ∨ request.values.length = 1) ∧ LogOpens host request := by
  rw [← lacksValue_eq_false_iff]
  exact ⟨fun h => ⟨h.works rfl, h.logOpens⟩, fun h => ⟨fun _ => h.1, h.2⟩⟩

theorem ofRequest_of_list {request : Request} (h : request.list = true) :
    ofRequest request = ofTable (layout request) := by
  rw [ofRequest, if_pos h]

theorem ofRequest_of_value {request : Request} (h : request.list = false) {v : String}
    (hv : request.values = [v]) :
    ofRequest request = ofInput request.json (layout request) v := by
  rw [ofRequest, h, hv, if_neg Bool.false_ne_true]
  rfl

variable {json : Bool} {layout : Layout} {input : String}

theorem ofInput_of_ok {w : Word} (h : Word.parse input = .ok w) :
    ofInput json layout input =
      { output := output json layout w, events := loadEvent layout :: unknownEvents layout w } := by
  rw [ofInput, h]

theorem ofInput_of_error {e : StatusError} (h : Word.parse input = .error e) :
    ofInput json layout input =
      .failed [loadEvent layout] target ("Cannot decode status word: " ++ e.message) := by
  rw [ofInput, h]

end FlagsReport

end BusStatus.Cli
