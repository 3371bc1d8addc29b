import BusStatus.Proofs.Cli.Runs

/-!
# Results do not depend on the log

Two runs that ask for the same result get it, however much either of them logs.
-/

namespace BusStatus

namespace Log.Filter

def HoldsDirective (s : String) : Prop :=
  ∃ piece ∈ pieces s, ∃ directive, Directive.ofPiece piece = .ok directive

theorem HoldsDirective.ofString_eq {s : String} (h : HoldsDirective s)
    (first second : Threshold) : ofString s first = ofString s second := by
  obtain ⟨piece, hpiece, directive, hdirective⟩ := h
  have hmem : directive ∈ (pieces s).filterMap directive? :=
    List.mem_filterMap.mpr ⟨piece, hpiece, by rw [directive?, hdirective]; rfl⟩
  unfold ofString
  split
  · rename_i hnone
    rw [hnone] at hmem
    cases hmem
  · rfl

end Log.Filter

namespace Cli

/-! ## Requests for the same result -/

/-- The requests ask the tool for the same result. -/
def SameResult : Tool → Request → Request → Prop
  | .flags, first, second =>
      first.values = second.values ∧ first.list = second.list ∧
        FlagsReport.layout first = FlagsReport.layout second ∧ first.json = second.json
  | .statusLog, first, second =>
      first.start.getD Ring.capturedStart = second.start.getD Ring.capturedStart ∧
        ReplayReport.layout first = ReplayReport.layout second ∧ first.json = second.json ∧
        first.summary = second.summary

/-- The requests differ at most in how often the counters were given. -/
def SameButCounters (first second : Request) : Prop :=
  second = { first with verbose := second.verbose, quiet := second.quiet }

variable {first second : Request}

theorem SameResult.lacksValue_eq (h : SameResult .flags first second) :
    FlagsReport.lacksValue first = FlagsReport.lacksValue second := by
  obtain ⟨hvalues, hlist, -, -⟩ := h
  rw [FlagsReport.lacksValue, hvalues, hlist, FlagsReport.lacksValue]

theorem SameResult.flagsReport_eq (h : SameResult .flags first second) :
    FlagsReport.ofRequest first = FlagsReport.ofRequest second := by
  obtain ⟨hvalues, hlist, hlayout, hjson⟩ := h
  rw [FlagsReport.ofRequest, hvalues, hlist, hlayout, hjson, FlagsReport.ofRequest]

theorem SameResult.replayReport_eq (h : SameResult .statusLog first second) :
    ReplayReport.ofRequest first = ReplayReport.ofRequest second := by
  obtain ⟨hstart, hlayout, hjson, hsummary⟩ := h
  have hring : ReplayReport.ring first = ReplayReport.ring second :=
    congrArg (fun start => { Ring.captured with start }) hstart
  have hreplay : ReplayReport.ofReplay first = ReplayReport.ofReplay second := by
    funext replay
    rw [ReplayReport.ofReplay, hlayout, hjson, hsummary, ReplayReport.ofReplay]
  unfold ReplayReport.ofRequest
  rw [hring, hlayout, hreplay]

theorem SameButCounters.sameResult (h : SameButCounters first second) (tool : Tool) :
    SameResult tool first second := by
  rw [h]
  cases tool with
  | flags => exact ⟨rfl, rfl, rfl, rfl⟩
  | statusLog => exact ⟨rfl, rfl, rfl, rfl⟩

namespace Outcome

variable {tool : Tool} {host host' : Host}

theorem result_ofRun (hopens : LogOpens host first) (hopens' : LogOpens host' second)
    (report : Report) :
    (ofRun host first report).stdout = (ofRun host' second report).stdout ∧
      (ofRun host first report).exitCode = (ofRun host' second report).exitCode := by
  rw [ofRun_of_logOpens hopens, ofRun_of_logOpens hopens']
  exact ⟨rfl, rfl⟩

theorem result_ofRequest (h : SameResult tool first second) (hopens : LogOpens host first)
    (hopens' : LogOpens host' second) :
    (ofRequest tool host first).stdout = (ofRequest tool host' second).stdout ∧
      (ofRequest tool host first).exitCode = (ofRequest tool host' second).exitCode := by
  cases tool with
  | flags =>
      cases hlacks : FlagsReport.lacksValue first with
      | true =>
          rw [ofRequest_flags_of_lacksValue hlacks,
            ofRequest_flags_of_lacksValue (h.lacksValue_eq.symm.trans hlacks)]
          exact ⟨rfl, rfl⟩
      | false =>
          rw [ofRequest_flags hlacks, ofRequest_flags (h.lacksValue_eq.symm.trans hlacks),
            h.flagsReport_eq]
          exact result_ofRun hopens hopens' _
  | statusLog =>
      rw [ofRequest, ofRequest, h.replayReport_eq]
      exact result_ofRun hopens hopens' _

theorem ofRun_eq_of_holdsDirective (h : SameButCounters first second)
    (hdirective : Log.Filter.HoldsDirective host.directives) (report : Report) :
    ofRun host first report = ofRun host second report := by
  have hfilter : first.filter host = second.filter host := hdirective.ofString_eq _ _
  have hfile : first.logFile = second.logFile := by rw [h]
  simp only [ofRun, ofReport, shownEvents, hfilter, hfile]

theorem ofRequest_eq_of_holdsDirective (h : SameButCounters first second)
    (hdirective : Log.Filter.HoldsDirective host.directives) :
    ofRequest tool host first = ofRequest tool host second := by
  have hresult := h.sameResult tool
  cases tool with
  | flags =>
      rw [ofRequest, ofRequest, hresult.lacksValue_eq, hresult.flagsReport_eq,
        ofRun_eq_of_holdsDirective h hdirective]
  | statusLog =>
      rw [ofRequest, ofRequest, hresult.replayReport_eq, ofRun_eq_of_holdsDirective h hdirective]

end Outcome

/-- Requests for the same result get it, whatever is logged; and with a directive for the log the
counters decide nothing at all. -/
theorem results_independent_of_log {tool : Tool} {args args' : List String}
    {request request' : Request} (haccepted : Request.ofArguments tool args = .ok request)
    (haccepted' : Request.ofArguments tool args' = .ok request') :
    (∀ host host', SameResult tool request request' → LogOpens host request →
      LogOpens host' request' →
      (Outcome.ofArguments tool host args).stdout = (Outcome.ofArguments tool host' args').stdout ∧
        (Outcome.ofArguments tool host args).exitCode =
          (Outcome.ofArguments tool host' args').exitCode) ∧
    ∀ host, SameButCounters request request' → Log.Filter.HoldsDirective host.directives →
      Outcome.ofArguments tool host args = Outcome.ofArguments tool host args' := by
  constructor
  · intro host host' hsame hopens hopens'
    rw [Outcome.ofArguments_of_ok haccepted, Outcome.ofArguments_of_ok haccepted']
    exact Outcome.result_ofRequest hsame hopens hopens'
  · intro host hsame hdirective
    rw [Outcome.ofArguments_of_ok haccepted, Outcome.ofArguments_of_ok haccepted']
    exact Outcome.ofRequest_eq_of_holdsDirective hsame hdirective

/-- A replay logged to a file beside one that logs nothing, and counters beside a directive. -/
theorem results_independent_of_log_verbose :
    let silent : Host := { directives := "off", refusal := fun _ => none }
    let loud : Host := { directives := "debug", refusal := fun _ => none }
    (SameResult .statusLog {} { start := some 54, logFile := some "log", verbose := 3 } ∧
      (Outcome.ofArguments .statusLog silent []).stdout =
        (Outcome.ofArguments .statusLog loud ["-s54", "-vvv", "-l", "log"]).stdout) ∧
    (SameButCounters { values := ["1"] } { quiet := 2, values := ["1"] } ∧
      Log.Filter.HoldsDirective loud.directives ∧
      Outcome.ofArguments .flags loud ["1"] = Outcome.ofArguments .flags loud ["-qq", "1"]) := by
  intro silent loud
  have hplain : Request.ofArguments .statusLog [] = .ok {} := rfl
  have hverbose : Request.ofArguments .statusLog ["-s54", "-vvv", "-l", "log"] =
      .ok { start := some 54, logFile := some "log", verbose := 3 } := rfl
  have hvalue : Request.ofArguments .flags ["1"] = .ok { values := ["1"] } := rfl
  have hquiet : Request.ofArguments .flags ["-qq", "1"] = .ok { quiet := 2, values := ["1"] } := rfl
  have hsame : SameResult .statusLog {} { start := some 54, logFile := some "log", verbose := 3 } :=
    ⟨rfl, rfl, rfl, rfl⟩
  have hcounters : SameButCounters { values := ["1"] } { quiet := 2, values := ["1"] } := rfl
  have hdirective : Log.Filter.HoldsDirective loud.directives :=
    ⟨"debug", by decide, { threshold := .upTo .debug }, rfl⟩
  exact ⟨⟨hsame, ((results_independent_of_log hplain hverbose).1 silent loud hsame
      (fun _ _ => rfl) fun _ _ => rfl).1⟩,
    ⟨hcounters, hdirective, (results_independent_of_log hvalue hquiet).2 loud hcounters hdirective⟩⟩

/-- A comma alone holds no directive. -/
theorem counters_decide_without_directive :
    let host : Host := { directives := ",", refusal := fun _ => none }
    host.directives ≠ "" ∧ ignoredLines host = [] ∧
    Request.ofArguments .flags ["1"] = .ok { values := ["1"] } ∧
    Request.ofArguments .flags ["-vv", "1"] = .ok { verbose := 2, values := ["1"] } ∧
    SameButCounters { values := ["1"] } { verbose := 2, values := ["1"] } ∧
    (Outcome.ofArguments .flags host ["1"]).stderr = [] ∧
    (Outcome.ofArguments .flags host ["-vv", "1"]).stderr =
      ["DEBUG Loaded flag table layout=decoder flags=13"] := by
  exact ⟨by decide, by decide, rfl, rfl, rfl, by decide +kernel, by decide +kernel⟩

end Cli

end BusStatus
