import BusStatus.Proofs.Cli.Independence
import BusStatus.Proofs.Cli.OnceMore
import BusStatus.Proofs.Cli.Streams
import Mathlib.Data.List.Flatten

/-!
# More asked for, nothing lost

Where the host gives no directives for the log, more of it never takes a line away.
-/

namespace BusStatus

/-! ## Thresholds -/

namespace Log

theorem Threshold.rank_ofRank (n : Nat) : (ofRank n).rank = min n 5 := by
  match n with
  | 0 | 1 | 2 | 3 | 4 => rfl
  | n + 5 => simp [ofRank, rank, Level.rank]

theorem Threshold.rank_ofVerbosity (more less : Nat) :
    (ofVerbosity more less).rank = min (2 + more - less) 5 :=
  rank_ofRank _

theorem Threshold.ofVerbosity_of_three_le {more : Nat} (h : 3 ≤ more) :
    ofVerbosity more 0 = .upTo .trace := by
  obtain ⟨n, rfl⟩ := Nat.exists_eq_add_of_le h
  rw [ofVerbosity, show 2 + (3 + n) - 0 = n + 5 by omega]
  rfl

theorem Threshold.ofVerbosity_of_two_le {less : Nat} (h : 2 ≤ less) : ofVerbosity 0 less = .off := by
  rw [ofVerbosity, Nat.sub_eq_zero_of_le h]
  rfl

theorem Filter.admits_ofThreshold (threshold : Threshold) (event : Event) :
    (ofThreshold threshold).admits event = threshold.admits event.level := rfl

theorem Filter.ofString_empty (fallback : Threshold) : ofString "" fallback = ofThreshold fallback :=
  rfl

end Log

namespace Cli

variable {tool : Tool} {host : Host} {first second request : Request}

theorem Request.filter_eq (h : host.directives = "") (request : Request) :
    request.filter host = .ofThreshold request.threshold := by
  rw [filter, h, Log.Filter.ofString_empty]

theorem ignoredLines_eq_nil (h : host.directives = "") : ignoredLines host = [] := by
  rw [ignoredLines, h]
  rfl

theorem SameButCounters.report_eq (h : SameButCounters first second) (tool : Tool) :
    first.report tool = second.report tool := by
  have hresult := h.sameResult tool
  cases tool with
  | flags => exact hresult.flagsReport_eq
  | statusLog => exact hresult.replayReport_eq

theorem SameButCounters.logFile_eq (h : SameButCounters first second) :
    first.logFile = second.logFile := by
  rw [h]

theorem Runs.of_sameButCounters (h : Runs tool host first) (hsame : SameButCounters first second) :
    Runs tool host second where
  works := by
    rintro rfl
    exact (hsame.sameResult .flags).lacksValue_eq.symm.trans (h.works rfl)
  logOpens := by
    intro path hpath
    exact h.logOpens path (hsame.logFile_eq.trans hpath)

/-! ## Outcomes within others -/

namespace Outcome

def logged (outcome : Outcome) : List Log.Event :=
  outcome.log.elim [] (·.2)

/-- The result is the same, and what the first outcome tells is told by the second in the same order. -/
structure Within (outcome other : Outcome) : Prop where
  exitCode_eq : other.exitCode = outcome.exitCode
  stdout_eq : other.stdout = outcome.stdout
  stderr_sublist : outcome.stderr.Sublist other.stderr
  pieces_sublist : (Text.split '\n' (Text.unlines outcome.stderr).toList).Sublist
    (Text.split '\n' (Text.unlines other.stderr).toList)
  path_eq : other.log.map (·.1) = outcome.log.map (·.1)
  logged_sublist : outcome.logged.Sublist other.logged

theorem pieces_sublist_of_sublist {lines others : List String} (h : lines.Sublist others) :
    (Text.split '\n' (Text.unlines lines).toList).Sublist
      (Text.split '\n' (Text.unlines others).toList) := by
  rw [Text.split_unlines, Text.split_unlines]
  exact (h.flatMap _).append (List.Sublist.refl _)

theorem Within.refl (outcome : Outcome) : outcome.Within outcome :=
  ⟨rfl, rfl, .refl _, .refl _, rfl, .refl _⟩

theorem shownEvents_sublist (hdirectives : host.directives = "") (hfile : first.logFile = second.logFile)
    (hle : first.threshold.rank ≤ second.threshold.rank) (report : Report) :
    (shownEvents host first report).Sublist (shownEvents host second report) := by
  rw [shownEvents, shownEvents, hfile, Request.filter_eq hdirectives, Request.filter_eq hdirectives]
  apply List.monotone_filter_right
  intro event hadmits
  rw [Log.Filter.admits_ofThreshold, Log.Threshold.admits, decide_eq_true_eq] at hadmits ⊢
  exact Nat.le_trans hadmits hle

theorem ofReport_within (hdirectives : host.directives = "") (hfile : first.logFile = second.logFile)
    (hle : first.threshold.rank ≤ second.threshold.rank) (report : Report) :
    (ofReport host first report).Within (ofReport host second report) := by
  have hshown := shownEvents_sublist hdirectives hfile hle report
  have hstderr : (ofReport host first report).stderr.Sublist (ofReport host second report).stderr :=
    ((List.Sublist.refl _).append (hshown.map _)).append (.refl _)
  refine ⟨rfl, rfl, hstderr, pieces_sublist_of_sublist hstderr, ?_, ?_⟩
  · simp only [ofReport, hfile, Option.map_map]
    rfl
  · unfold logged
    simp only [ofReport, hfile]
    cases second.logFile with
    | none => exact .refl _
    | some path => exact hshown

theorem ofRun_within (hdirectives : host.directives = "") (hfile : first.logFile = second.logFile)
    (hle : first.threshold.rank ≤ second.threshold.rank) (report : Report) :
    (ofRun host first report).Within (ofRun host second report) := by
  have hreport := ofReport_within hdirectives hfile hle report
  unfold ofRun
  rw [hfile]
  cases second.logFile with
  | none => exact hreport
  | some path =>
      cases hrefusal : host.refusal path with
      | none => simpa only [hrefusal] using hreport
      | some e => simpa only [hrefusal] using Within.refl _

theorem ofRequest_within (hdirectives : host.directives = "") (hsame : SameButCounters first second)
    (hle : first.threshold.rank ≤ second.threshold.rank) :
    (ofRequest tool host first).Within (ofRequest tool host second) := by
  have hfile := hsame.logFile_eq
  have hresult := hsame.sameResult tool
  cases tool with
  | flags =>
      rw [ofRequest, ofRequest, hresult.lacksValue_eq, hresult.flagsReport_eq]
      split
      · exact Within.refl _
      · exact ofRun_within hdirectives hfile hle _
  | statusLog =>
      rw [ofRequest, ofRequest, hresult.replayReport_eq]
      exact ofRun_within hdirectives hfile hle _

/-! ## Runs that fail -/

theorem ofRequest_eq_of_not_runs (hruns : ¬ Runs tool host first)
    (hsame : SameButCounters first second) :
    ofRequest tool host first = ofRequest tool host second := by
  by_cases hlacks : tool = .flags ∧ FlagsReport.lacksValue first = true
  · obtain ⟨rfl, hlacks⟩ := hlacks
    rw [ofRequest_flags_of_lacksValue hlacks,
      ofRequest_flags_of_lacksValue ((hsame.sameResult .flags).lacksValue_eq.symm.trans hlacks)]
  · have hworks : tool = .flags → FlagsReport.lacksValue first = false := by
      intro htool
      simpa [htool] using hlacks
    rcases logOpens_or_refusal host first with hopens | ⟨path, e, hpath, he⟩
    · exact absurd ⟨hworks, hopens⟩ hruns
    · have hpath' := hsame.logFile_eq.symm.trans hpath
      cases tool with
      | flags =>
          rw [ofRequest_flags (hworks rfl),
            ofRequest_flags ((hsame.sameResult .flags).lacksValue_eq.symm.trans (hworks rfl)),
            ofRun_of_refusal hpath he, ofRun_of_refusal hpath' he]
      | statusLog =>
          rw [ofRequest, ofRequest, ofRun_of_refusal hpath he, ofRun_of_refusal hpath' he]

theorem getLast?_stderr_of_failure {failure : String} (hruns : Runs tool host request)
    (hfailure : (request.report tool).failure = some failure) :
    (ofRequest tool host request).stderr.getLast? = some ("Error: " ++ failure) := by
  rw [ofRequest_of_runs hruns]
  exact getLast?_stderr_ofReport hfailure

theorem exists_failure (hruns : Runs tool host request)
    (hcode : (ofRequest tool host request).exitCode = 1) :
    ∃ failure, (request.report tool).failure = some failure := by
  rw [ofRequest_of_runs hruns] at hcode
  exact exitCode_eq_one_iff.mp hcode

theorem getLast?_stderr_eq (hcode : (ofRequest tool host first).exitCode = 1)
    (hsame : SameButCounters first second) :
    (ofRequest tool host second).stderr.getLast? =
      (ofRequest tool host first).stderr.getLast? := by
  by_cases hruns : Runs tool host first
  · obtain ⟨failure, hfailure⟩ := exists_failure hruns hcode
    rw [getLast?_stderr_of_failure hruns hfailure]
    apply getLast?_stderr_of_failure (hruns.of_sameButCounters hsame)
    rw [← hsame.report_eq tool, hfailure]
  · rw [ofRequest_eq_of_not_runs hruns hsame]

theorem log_ofRequest (hdirectives : host.directives = "") (hruns : Runs tool host request)
    {path : String} (hpath : request.logFile = some path) :
    ∃ events, (ofRequest tool host request).log = some (path, events) ∧
      (ofRequest tool host request).stderr = events.map (·.line) ++
        (request.report tool).failure.toList.map ("Error: " ++ ·) := by
  refine ⟨shownEvents host request (request.report tool), ?_, ?_⟩
  · rw [ofRequest_of_runs hruns, ofReport, hpath]
    rfl
  · rw [ofRequest_of_runs hruns, ofReport, ignoredLines_eq_nil hdirectives, List.nil_append]
    rfl

end Outcome

/-! ## Command lines that differ by a counter -/

/-- No two dashes stand alone among the readings, and no setting at their end waits for its value. -/
def Reading.AdmitsOption (front : List Reading) : Prop :=
  .separator ∉ front ∧ ∀ setting, front.getLast? ≠ some (.option (.setting setting))

/-- The second command line is read as the first is, with a counter more. -/
def OnceMore (tool : Tool) (counter : Counter) (front : List Reading) (args args' : List String) :
    Prop :=
  ∃ back, Reading.ofArguments tool args = front ++ back ∧
    Reading.ofArguments tool args' = front ++ .option (.counter counter) :: back

theorem OnceMore.of_argument {tool : Tool} {counter : Counter} {front : List String} {arg : String}
    (hfront : ∀ arg ∈ front, Argument.ofString tool arg ≠ .separator)
    (harg : Reading.ofArgument tool arg = [.option (.counter counter)]) (back : List String) :
    OnceMore tool counter (front.flatMap (Reading.ofArgument tool)) (front ++ back)
      (front ++ arg :: back) := by
  have hne : Argument.ofString tool arg ≠ .separator := by
    intro hsep
    rw [Reading.ofArgument, hsep] at harg
    cases harg
  refine ⟨Reading.ofArguments tool back, Reading.ofArguments_append hfront back, ?_⟩
  rw [Reading.ofArguments_append hfront, Reading.ofArguments_cons hne, harg]
  rfl

/-- The command line is no usage error. -/
def Accepted (tool : Tool) (args : List String) : Prop :=
  ∀ e, Request.ofArguments tool args ≠ .error (.usage e)

theorem Scan.checkCounters_cases (scan : Scan) :
    (scan.request.verbose = 0 ∨ scan.request.quiet = 0) ∧ scan.checkCounters = .ok scan.request ∨
      ∃ e, scan.checkCounters = .error (.usage e) := by
  unfold checkCounters
  split
  · right
    split
    · exact ⟨_, rfl⟩
    · exact ⟨_, rfl⟩
  · rename_i h
    exact .inl ⟨by omega, rfl⟩

theorem Scan.checkCounters_eq_ok {scan : Scan}
    (h : scan.request.verbose = 0 ∨ scan.request.quiet = 0) :
    scan.checkCounters = .ok scan.request := by
  unfold checkCounters
  rw [if_neg]
  omega

variable {args args' : List String} {counter : Counter}

/-- Command lines that differ by a counter are both refused, or both ask for the same notice, or the
counters have the last word on each. -/
theorem ofArguments_cases_of_alike
    (h : Alike (Scan.Counted counter) (Scan.takeAll tool {} (Reading.ofArguments tool args))
      (Scan.takeAll tool {} (Reading.ofArguments tool args'))) :
    (∃ e e', Request.ofArguments tool args = .error (.usage e) ∧
      Request.ofArguments tool args' = .error (.usage e')) ∨
    (∃ notice, Request.ofArguments tool args = .error (.notice notice) ∧
      Request.ofArguments tool args' = .error (.notice notice)) ∨
    ∃ s t, Scan.Counted counter s t ∧ Request.ofArguments tool args = s.checkCounters ∧
      Request.ofArguments tool args' = t.checkCounters := by
  rw [Request.ofArguments_eq_takeAll, Request.ofArguments_eq_takeAll]
  generalize Scan.takeAll tool {} (Reading.ofArguments tool args) = x at h ⊢
  generalize Scan.takeAll tool {} (Reading.ofArguments tool args') = y at h ⊢
  cases h with
  | refused e e' => exact .inl ⟨e, e', rfl, rfl⟩
  | notice notice => exact .inr (.inl ⟨notice, rfl, rfl⟩)
  | ok h => exact .inr (.inr ⟨_, _, h, rfl, rfl⟩)

theorem sameButCounters_count (request : Request) (counter : Counter) :
    SameButCounters request (request.count counter) := by
  cases counter <;> rfl

theorem SameButCounters.symm (h : SameButCounters first second) : SameButCounters second first := by
  rw [h]
  rfl

theorem Accepted.of_ok (h : Request.ofArguments tool args = .ok request) : Accepted tool args := by
  intro e he
  cases h.symm.trans he

theorem Accepted.of_notice {notice : Notice}
    (h : Request.ofArguments tool args = .error (.notice notice)) : Accepted tool args := by
  intro e he
  cases h.symm.trans he

theorem within_of_ok (hdirectives : host.directives = "")
    (h : Request.ofArguments tool args = .ok first)
    (h' : Request.ofArguments tool args' = .ok second) (hsame : SameButCounters first second)
    (hle : first.threshold.rank ≤ second.threshold.rank) :
    Accepted tool args' ∧
      (Outcome.ofArguments tool host args).Within (Outcome.ofArguments tool host args') := by
  refine ⟨.of_ok h', ?_⟩
  rw [Outcome.ofArguments_of_ok h, Outcome.ofArguments_of_ok h']
  exact Outcome.ofRequest_within hdirectives hsame hle

theorem within_of_notice {notice : Notice}
    (h : Request.ofArguments tool args = .error (.notice notice))
    (h' : Request.ofArguments tool args' = .error (.notice notice)) :
    Accepted tool args' ∧
      (Outcome.ofArguments tool host args).Within (Outcome.ofArguments tool host args') := by
  refine ⟨.of_notice h', ?_⟩
  rw [Outcome.ofArguments, Outcome.ofArguments, h, h']
  exact .refl _

theorem within_of_more_verbose (hdirectives : host.directives = "")
    (halike : Alike (Scan.Counted .verbose) (Scan.takeAll tool {} (Reading.ofArguments tool args))
      (Scan.takeAll tool {} (Reading.ofArguments tool args')))
    (haccepted : Accepted tool args)
    (hquiet : ∀ request, Request.ofArguments tool args = .ok request → request.quiet = 0) :
    Accepted tool args' ∧
      (Outcome.ofArguments tool host args).Within (Outcome.ofArguments tool host args') := by
  rcases ofArguments_cases_of_alike halike with ⟨e, -, h, -⟩ | ⟨notice, h, h'⟩ | ⟨s, t, hst, h, h'⟩
  · exact absurd h (haccepted e)
  · exact within_of_notice h h'
  · rcases s.checkCounters_cases with ⟨-, hs⟩ | ⟨e, hs⟩
    · have hzero := hquiet _ (h.trans hs)
      have hzero' : t.request.quiet = 0 := by rw [hst.request_eq]; exact hzero
      rw [hs] at h
      rw [Scan.checkCounters_eq_ok (.inr hzero'), hst.request_eq] at h'
      apply within_of_ok hdirectives h h' (sameButCounters_count _ _)
      simp only [Request.threshold, Log.Threshold.rank_ofVerbosity, Request.count]
      omega
    · exact absurd (h.trans hs) (haccepted e)

theorem within_of_less_quiet (hdirectives : host.directives = "")
    (halike : Alike (Scan.Counted .quiet) (Scan.takeAll tool {} (Reading.ofArguments tool args'))
      (Scan.takeAll tool {} (Reading.ofArguments tool args)))
    (haccepted : Accepted tool args) :
    Accepted tool args' ∧
      (Outcome.ofArguments tool host args).Within (Outcome.ofArguments tool host args') := by
  rcases ofArguments_cases_of_alike halike with ⟨-, e, -, h⟩ | ⟨notice, h', h⟩ | ⟨s, t, hst, h', h⟩
  · exact absurd h (haccepted e)
  · exact within_of_notice h h'
  · rcases t.checkCounters_cases with ⟨hzero, ht⟩ | ⟨e, ht⟩
    · have hzero' : s.request.verbose = 0 := by
        rw [hst.request_eq] at hzero
        simp only [Request.count] at hzero
        omega
      rw [ht, hst.request_eq] at h
      rw [Scan.checkCounters_eq_ok (.inl hzero')] at h'
      apply within_of_ok hdirectives h h' (sameButCounters_count _ _).symm
      simp only [Request.threshold, Log.Threshold.rank_ofVerbosity, Request.count]
      omega
    · exact absurd (h.trans ht) (haccepted e)

theorem OnceMore.within_of_verbose {front : List Reading} (hdirectives : host.directives = "")
    (hmore : OnceMore tool .verbose front args args') (hadmits : Reading.AdmitsOption front)
    (haccepted : Accepted tool args)
    (hquiet : ∀ request, Request.ofArguments tool args = .ok request → request.quiet = 0) :
    Accepted tool args' ∧
      (Outcome.ofArguments tool host args).Within (Outcome.ofArguments tool host args') := by
  obtain ⟨back, hargs, hargs'⟩ := hmore
  apply within_of_more_verbose hdirectives _ haccepted hquiet
  rw [hargs, hargs']
  exact Scan.alike_of_insertion hadmits.1 hadmits.2 .verbose back

theorem OnceMore.within_of_quiet {front : List Reading} (hdirectives : host.directives = "")
    (hmore : OnceMore tool .quiet front args' args) (haccepted : Accepted tool args) :
    Accepted tool args' ∧
      (Outcome.ofArguments tool host args).Within (Outcome.ofArguments tool host args') := by
  obtain ⟨back, hargs', hargs⟩ := hmore
  rcases @Scan.alike_or_refused tool front .quiet back with halike | ⟨e, hrefused⟩
  · apply within_of_less_quiet hdirectives _ haccepted
    rw [hargs, hargs']
    exact halike
  · refine absurd ?_ (haccepted e)
    rw [Request.ofArguments_eq_takeAll, hargs, hrefused]
    rfl

/-! ## More of the log -/

/-- One more `-v` or one less `-q` takes nothing away that was told, on either stream or in the file. -/
theorem verbosity_monotone (tool : Tool) {host : Host} (hdirectives : host.directives = "") :
    (∀ args args' front, OnceMore tool .verbose front args args' → Reading.AdmitsOption front →
      Accepted tool args →
      (∀ request, Request.ofArguments tool args = .ok request → request.quiet = 0) →
      Accepted tool args' ∧
        (Outcome.ofArguments tool host args).Within (Outcome.ofArguments tool host args')) ∧
    (∀ args args' front, OnceMore tool .quiet front args' args → Accepted tool args →
      Accepted tool args' ∧
        (Outcome.ofArguments tool host args).Within (Outcome.ofArguments tool host args')) ∧
    (∀ args args' request request', Request.ofArguments tool args = .ok request →
      Request.ofArguments tool args' = .ok request' → SameButCounters request request' →
      (Outcome.ofArguments tool host args).exitCode = 1 →
      (Outcome.ofArguments tool host args').stderr.getLast? =
          (Outcome.ofArguments tool host args).stderr.getLast? ∧
        (Runs tool host request → ∃ failure,
          (Outcome.ofArguments tool host args).stderr.getLast? = some ("Error: " ++ failure))) ∧
    (∀ args request path, Request.ofArguments tool args = .ok request → Runs tool host request →
      request.logFile = some path →
      ∃ events, (Outcome.ofArguments tool host args).log = some (path, events) ∧
        (Outcome.ofArguments tool host args).stderr = events.map (·.line) ++
          (request.report tool).failure.toList.map ("Error: " ++ ·)) ∧
    ∀ request : Request,
      (request.quiet = 0 → 3 ≤ request.verbose → request.threshold = .upTo .trace) ∧
      (request.verbose = 0 → 2 ≤ request.quiet → request.threshold = .off) := by
  refine ⟨?_, ?_, ?_, ?_, ?_⟩
  · intro args args' front hmore hadmits haccepted hquiet
    exact hmore.within_of_verbose hdirectives hadmits haccepted hquiet
  · intro args args' front hmore haccepted
    exact hmore.within_of_quiet hdirectives haccepted
  · intro args args' request request' h h' hsame hcode
    rw [Outcome.ofArguments_of_ok h] at hcode ⊢
    rw [Outcome.ofArguments_of_ok h']
    refine ⟨Outcome.getLast?_stderr_eq hcode hsame, fun hruns => ?_⟩
    obtain ⟨failure, hfailure⟩ := Outcome.exists_failure hruns hcode
    exact ⟨failure, Outcome.getLast?_stderr_of_failure hruns hfailure⟩
  · intro args request path h hruns hpath
    rw [Outcome.ofArguments_of_ok h]
    exact Outcome.log_ofRequest hdirectives hruns hpath
  · intro request
    constructor
    · intro hquiet hverbose
      rw [Request.threshold, hquiet]
      exact Log.Threshold.ofVerbosity_of_three_le hverbose
    · intro hverbose hquiet
      rw [Request.threshold, hverbose]
      exact Log.Threshold.ofVerbosity_of_two_le hquiet

/-- A word logged to a file with one `-v` more, and a word refused with two `-q` and with one. -/
theorem verbosity_monotone_file :
    let host : Host := { refusal := fun _ => none }
    host.directives = "" ∧
    (OnceMore .flags .verbose [.option (.setting .logFile), .plain "log"] ["-l", "log", "1"]
        ["-l", "log", "-v", "1"] ∧
      Reading.AdmitsOption [.option (.setting .logFile), .plain "log"] ∧
      Accepted .flags ["-l", "log", "1"] ∧
      (∀ request, Request.ofArguments .flags ["-l", "log", "1"] = .ok request →
        request.quiet = 0) ∧
      Accepted .flags ["-l", "log", "-v", "1"] ∧
      (Outcome.ofArguments .flags host ["-l", "log", "1"]).Within
        (Outcome.ofArguments .flags host ["-l", "log", "-v", "1"])) ∧
    (OnceMore .flags .quiet [.option (.counter .quiet)] ["-q", "x"] ["-qq", "x"] ∧
      (Outcome.ofArguments .flags host ["-qq", "x"]).Within
        (Outcome.ofArguments .flags host ["-q", "x"])) ∧
    (Runs .flags host { quiet := 2, values := ["x"] } ∧
      (Outcome.ofArguments .flags host ["-qq", "x"]).exitCode = 1 ∧
      SameButCounters { quiet := 2, values := ["x"] } { verbose := 3, values := ["x"] } ∧
      (Outcome.ofArguments .flags host ["-vvv", "x"]).stderr.getLast? =
          (Outcome.ofArguments .flags host ["-qq", "x"]).stderr.getLast?) ∧
    (Runs .flags host { logFile := some "log", verbose := 1, values := ["1"] } ∧
      ∃ events, (Outcome.ofArguments .flags host ["-l", "log", "-v", "1"]).log =
          some ("log", events) ∧
        (Outcome.ofArguments .flags host ["-l", "log", "-v", "1"]).stderr =
          events.map (·.line)) := by
  intro host
  have hdirectives : host.directives = "" := rfl
  have hlog : Request.ofArguments .flags ["-l", "log", "1"] =
      .ok { logFile := some "log", values := ["1"] } := rfl
  have hmore : Request.ofArguments .flags ["-l", "log", "-v", "1"] =
      .ok { logFile := some "log", verbose := 1, values := ["1"] } := rfl
  have hquiet : Request.ofArguments .flags ["-qq", "x"] = .ok { quiet := 2, values := ["x"] } := rfl
  have hloud : Request.ofArguments .flags ["-vvv", "x"] = .ok { verbose := 3, values := ["x"] } := rfl
  have hfront : ∀ arg ∈ ["-l", "log"], Argument.ofString .flags arg ≠ .separator := by decide
  have honce : OnceMore .flags .verbose [.option (.setting .logFile), .plain "log"]
      ["-l", "log", "1"] ["-l", "log", "-v", "1"] :=
    OnceMore.of_argument hfront (by decide) ["1"]
  have hadmits : Reading.AdmitsOption [.option (.setting .logFile), .plain "log"] :=
    ⟨by simp, by simp⟩
  have hnone : ∀ request, Request.ofArguments .flags ["-l", "log", "1"] = .ok request →
      request.quiet = 0 := by
    intro request h
    cases hlog.symm.trans h
    rfl
  have hless : OnceMore .flags .quiet [.option (.counter .quiet)] ["-q", "x"] ["-qq", "x"] :=
    ⟨[.plain "x"], rfl, rfl⟩
  have hcode : (Outcome.ofArguments .flags host ["-qq", "x"]).exitCode = 1 := rfl
  have hruns : Runs .flags host { quiet := 2, values := ["x"] } :=
    ⟨fun _ => rfl, fun _ _ => rfl⟩
  have hruns' : Runs .flags host { logFile := some "log", verbose := 1, values := ["1"] } :=
    ⟨fun _ => rfl, fun _ _ => rfl⟩
  have hsame : SameButCounters { quiet := 2, values := ["x"] } { verbose := 3, values := ["x"] } := rfl
  obtain ⟨hverbose, hquieter, hfails, hfile, -⟩ := verbosity_monotone .flags hdirectives
  have hwithin := hverbose _ _ _ honce hadmits (.of_ok hlog) hnone
  obtain ⟨events, hevents, hstderr⟩ := hfile _ _ "log" hmore hruns' rfl
  refine ⟨hdirectives, ⟨honce, hadmits, .of_ok hlog, hnone, hwithin⟩,
    ⟨hless, (hquieter _ _ _ hless (.of_ok hquiet)).2⟩,
    ⟨hruns, hcode, hsame, (hfails _ _ _ _ hquiet hloud hsame hcode).1⟩,
    ⟨hruns', events, hevents, ?_⟩⟩
  rw [hstderr]
  exact List.append_nil _

end Cli

end BusStatus
