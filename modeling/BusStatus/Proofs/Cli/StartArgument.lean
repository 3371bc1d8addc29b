import BusStatus.Proofs.Cli.Readings
import BusStatus.Proofs.Cli.UsageLines
import BusStatus.Proofs.Cli.WordArgument
import BusStatus.Proofs.Ring.CheckedSum

/-!
# The start among the arguments

The start is read into 64 bits on the command line and checked against the ring by the run.
-/

namespace BusStatus

namespace Text

/-- A number in decimal, with zeros in front of its digits and perhaps a plus sign in front of them. -/
def padded (plus : Bool) (zeros n : Nat) : String :=
  (if plus then "+" else "") ++ String.ofList (List.replicate zeros '0') ++ toString n

theorem toList_toString (n : Nat) : (toString n).toList = Radix.decimal.digits n :=
  toList_toString_ofNat n

theorem decimal_eq_toString (n : Nat) : decimal n = toString n := by
  rw [decimal, ← toList_toString, String.ofList_toList]

theorem toList_padded (plus : Bool) (zeros n : Nat) :
    (padded plus zeros n).toList =
      (if plus then ['+'] else []) ++ (List.replicate zeros '0' ++ Radix.decimal.digits n) := by
  rw [padded, String.toList_append, String.toList_append, toList_toString, String.toList_ofList,
    List.append_assoc]
  cases plus <;> rfl

theorem exists_eq_cons_of_padded (zeros n : Nat) :
    ∃ c cs, List.replicate zeros '0' ++ Radix.decimal.digits n = c :: cs := by
  obtain ⟨c, cs, hcons, -⟩ := Radix.decimal.exists_digits_eq_cons n
  apply List.exists_cons_of_ne_nil
  simp [hcons]

theorem Unsigned.read_padded (plus : Bool) (zeros n : Nat) :
    read .decimal (padded plus zeros n).toList =
      if n < limit then .ok n else .error .tooLarge := by
  obtain ⟨ds, hds, hvalue⟩ := Radix.decimal.exists_padded zeros n
  obtain ⟨c, cs, hcons⟩ := exists_eq_cons_of_padded zeros n
  have hdigits := readDigits_of_digits hds
  rw [hvalue, hcons] at hdigits
  rw [toList_padded, hcons]
  cases plus with
  | true => exact hdigits
  | false =>
      rw [hcons] at hds
      cases hds with
      | cons hd _ => exact (read_cons (hd.ne rfl) _ cs).trans hdigits

theorem mem_padded {plus : Bool} {zeros n : Nat} {c : Char}
    (h : c ∈ (padded plus zeros n).toList) : c = '+' ∨ c.isDigit := by
  rw [toList_padded, List.mem_append, List.mem_append] at h
  rcases h with h | h | h
  · cases plus with
    | true => exact .inl (List.mem_singleton.mp h)
    | false => cases h
  · rw [List.eq_of_mem_replicate h]
    exact .inr rfl
  · exact .inr (Radix.isDigit_of_mem_digits h)

theorem padded_ne_nil (plus : Bool) (zeros n : Nat) : (padded plus zeros n).toList ≠ [] := by
  obtain ⟨c, cs, hcons⟩ := exists_eq_cons_of_padded zeros n
  rw [toList_padded, hcons]
  simp

end Text

namespace Cli

/-! ## The command lines -/

def startArguments (v : String) : List (List String) :=
  [["--start", v], ["--start=" ++ v], ["-s", v], ["-s" ++ v], ["-s=" ++ v]]

/-- The first character of a value does not make it another argument. -/
def Reading.StartsValue (v : String) : Prop :=
  ∃ c cs, v.toList = c :: cs ∧ c ≠ '-' ∧ c ≠ '='

theorem Reading.startsValue_padded (plus : Bool) (zeros n : Nat) :
    StartsValue (Text.padded plus zeros n) := by
  obtain ⟨c, cs, hcons⟩ := List.exists_cons_of_ne_nil (Text.padded_ne_nil plus zeros n)
  refine ⟨c, cs, hcons, ?_⟩
  have hmem : c ∈ (Text.padded plus zeros n).toList := by
    rw [hcons]
    exact List.mem_cons_self ..
  rcases Text.mem_padded hmem with rfl | hdigit
  · decide
  · constructor
    · rintro rfl
      cases hdigit
    · rintro rfl
      cases hdigit

theorem Reading.ofArguments_single {tool : Tool} {arg value : String} {setting : Setting}
    (h : ofArgument tool arg = [.valued setting value]) :
    ofArguments tool [arg] = [.valued setting value] := by
  rw [ofArguments, if_neg, h]
  · rfl
  · intro hsep
    rw [ofArgument, hsep] at h
    cases h

theorem Reading.ofLetters_setting {tool : Tool} {letter c : Char} {setting : Setting}
    (h : tool.ofLetter? letter = some (.setting setting)) (hc : c ≠ '=') (cs : List Char) :
    ofLetters tool (letter :: c :: cs) = [.valued setting (String.ofList (c :: cs))] := by
  unfold ofLetters
  simp [h, hc]

theorem Reading.ofArguments_start {v : String} (hv : StartsValue v) {args : List String}
    (h : args ∈ startArguments v) :
    ofArguments .statusLog args = [.option (.setting .start), .plain v] ∨
      ofArguments .statusLog args = [.valued .start v] := by
  obtain ⟨c, cs, hcons, hdash, hequals⟩ := hv
  have hplain : Argument.ofString .statusLog v = .plain := by
    apply Argument.ofString_of_head?_ne
    rw [hcons]
    exact fun hhead => hdash (Option.some.inj hhead)
  have hrest : ofArguments .statusLog [v] = [.plain v] := by
    rw [ofArguments, hplain, ofArgument, hplain]
    rfl
  simp only [startArguments, List.mem_cons, List.not_mem_nil, or_false] at h
  rcases h with rfl | rfl | rfl | rfl | rfl
  · left
    rw [ofArguments_cons (by decide), hrest]
    rfl
  · right
    have harg : Argument.ofString .statusLog ("--start=" ++ v) = .long "start" (some v) := by
      rw [Argument.ofString, String.toList_append]
      exact congrArg (fun value => Argument.long "start" (some value)) String.ofList_toList
    exact ofArguments_single (by rw [ofArgument, harg]; rfl)
  · left
    rw [ofArguments_cons (by decide), hrest]
    rfl
  · right
    have harg : Argument.ofString .statusLog ("-s" ++ v) = .letters ('s' :: v.toList) := by
      rw [Argument.ofString, String.toList_append]
      rfl
    apply ofArguments_single
    rw [ofArgument, harg]
    simp only [hcons]
    rw [ofLetters_setting rfl hequals, ← hcons, String.ofList_toList]
  · right
    have harg : Argument.ofString .statusLog ("-s=" ++ v) = .letters ('s' :: '=' :: v.toList) := by
      rw [Argument.ofString, String.toList_append]
      rfl
    apply ofArguments_single
    rw [ofArgument, harg]
    exact congrArg (fun value => [valued .start value]) String.ofList_toList

theorem Scan.takeAll_valued (tool : Tool) (setting : Setting) (value : String) :
    takeAll tool {} [.valued setting value] = store {} setting value := by
  change (store {} setting value >>= pure) >>= settle = _
  rw [bind_pure]
  rcases store_cases {} setting value with ⟨request, -, h⟩ | ⟨e, h⟩
  · rw [h]
    rfl
  · rw [h]
    rfl

theorem Request.ofArguments_start {v : String} (hv : Reading.StartsValue v) {args : List String}
    (h : args ∈ startArguments v) :
    Request.ofArguments .statusLog args =
      match Text.Unsigned.read .decimal v.toList with
      | .ok n => .ok { start := some n }
      | .error fault => .error (.usage (.invalidValue v .start fault.message)) := by
  have hstore : Request.ofArguments .statusLog args =
      Scan.store {} .start v >>= Scan.checkCounters := by
    rw [ofArguments_eq_takeAll]
    rcases Reading.ofArguments_start hv h with hreadings | hreadings
    · rw [hreadings]
      rfl
    · rw [hreadings, Scan.takeAll_valued]
  rw [hstore, Scan.store, Request.store, Request.keep]
  cases Text.Unsigned.read .decimal v.toList with
  | ok n => rfl
  | error fault => rfl

theorem plain_padded (plus : Bool) (zeros n : Nat) : Plain (Text.padded plus zeros n) := by
  intro c hc
  rcases Text.mem_padded hc with rfl | hdigit
  · decide
  · simp only [Char.isDigit, Bool.and_eq_true, decide_eq_true_eq] at hdigit
    exact ⟨Nat.le_trans (by decide) hdigit.1, Nat.le_trans hdigit.2 (by decide)⟩

theorem plain_message (fault : Text.IntegerFault) : Plain fault.message := by
  cases fault <;> decide

/-! ## A start of the captured ring -/

namespace ReplayReport

variable {request : Request} {replay : Replay}

theorem capacity_ring (request : Request) : (ring request).capacity = Ring.deviceCapacity :=
  Ring.capacity_captured

theorem ofRequest_of_ok (h : (ring request).replay (layout request).table = .ok replay) :
    ofRequest request = ofReplay request replay := by
  unfold ofRequest
  rw [h]

theorem ofRequest_of_error {fault : StatusError}
    (h : (ring request).replay (layout request).table = .error fault) :
    ofRequest request = .failed [] target ("Cannot replay status ring: " ++ fault.message) := by
  unfold ofRequest
  rw [h]

theorem output_ofReplay (hjson : request.json = false) (hsummary : request.summary = false) :
    (ofReplay request replay).output = replay.records.map Record.display := by
  rw [ofReplay, hjson, hsummary]
  exact List.append_nil _

theorem start_add_capacity_lt {table : FlagTable}
    (h : (ring request).replay table = .ok replay) :
    (ring request).start + (ring request).capacity < 2 * Ring.deviceCapacity := by
  unfold Ring.replay at h
  split at h
  · rename_i hlt
    rw [capacity_ring] at hlt ⊢
    omega
  · cases h

end ReplayReport

namespace Outcome

variable {args : List String} {n : Nat} (host : Host)

theorem ofArguments_of_start (h : Request.ofArguments .statusLog args = .ok { start := some n }) :
    ofArguments .statusLog host args =
      ofReport host { start := some n } (ReplayReport.ofRequest { start := some n }) := by
  rw [ofArguments_of_ok h]
  exact ofRequest_of_runs ⟨nofun, .of_none rfl⟩

theorem replays_of_start_lt (h : Request.ofArguments .statusLog args = .ok { start := some n })
    (hn : n < Ring.deviceCapacity) :
    ∃ replay, Ring.replay { Ring.captured with start := n } Layout.capture.table = .ok replay ∧
      (ofArguments .statusLog host args).exitCode = 0 ∧
      (ofArguments .statusLog host args).stdout = replay.records.map Record.display := by
  have hstart : (ReplayReport.ring { start := some n }).start <
      (ReplayReport.ring { start := some n }).capacity := by
    rw [ReplayReport.capacity_ring]
    exact hn
  obtain ⟨replay, hreplay, -⟩ := Ring.replay_shows hstart Layout.capture.table
  refine ⟨replay, hreplay, ?_⟩
  rw [ofArguments_of_start host h, ReplayReport.ofRequest_of_ok hreplay]
  exact ⟨rfl, ReplayReport.output_ofReplay rfl rfl⟩

theorem told_of_failed (request : Request) (events : List Log.Event) (target failure : String) :
    (ofReport host request (.failed events target failure)).exitCode = 1 ∧
      (ofReport host request (.failed events target failure)).stdout = [] ∧
      (ofReport host request (.failed events target failure)).stderr.getLast? =
        some ("Error: " ++ failure) :=
  ⟨rfl, rfl, getLast?_stderr_ofReport rfl⟩

theorem refuses_of_le_start (h : Request.ofArguments .statusLog args = .ok { start := some n })
    (hn : Ring.deviceCapacity ≤ n) :
    (ofArguments .statusLog host args).exitCode = 1 ∧
      (ofArguments .statusLog host args).stdout = [] ∧
      (ofArguments .statusLog host args).stderr.getLast? =
        some ("Error: Cannot replay status ring: start index out of range: " ++ toString n ++
          " is not within 0..128") := by
  have hreplay : (ReplayReport.ring { start := some n }).replay Layout.capture.table =
      .error (.startOutOfRange n Ring.deviceCapacity) := by
    rw [← ReplayReport.capacity_ring { start := some n }] at hn ⊢
    exact Ring.replay_eq_error_iff.mpr ⟨hn, rfl⟩
  have hmessage : (StatusError.startOutOfRange n Ring.deviceCapacity).message =
      "start index out of range: " ++ toString n ++ " is not within 0..128" := by
    have hcapacity : Text.decimal Ring.deviceCapacity = "128" := by
      rw [Text.decimal_eq_toString]
      rfl
    have hend : " is not within 0.." ++ "128" = " is not within 0..128" := rfl
    unfold StatusError.message
    dsimp only
    rw [hcapacity, Text.decimal_eq_toString, String.append_assoc, hend]
  rw [ofArguments_of_start host h, ReplayReport.ofRequest_of_error hreplay, hmessage]
  obtain ⟨hcode, hstdout, hlast⟩ := told_of_failed host { start := some n } [] ReplayReport.target
    ("Cannot replay status ring: " ++
      ("start index out of range: " ++ toString n ++ " is not within 0..128"))
  refine ⟨hcode, hstdout, hlast.trans ?_⟩
  simp only [← String.append_assoc]
  rfl

theorem refused_of_start_tooLarge {v : String} (hv : Plain v)
    (h : Request.ofArguments .statusLog args =
      .error (.usage (.invalidValue v .start (Text.IntegerFault.message .tooLarge)))) :
    ofArguments .statusLog host args =
      { exitCode := 2
        stderr :=
          ["error: invalid value '" ++ v ++
              "' for '--start <START>': number too large to fit in target type",
            "", "For more information, try '--help'."] } := by
  have hline : "error: invalid value '" ++ v ++ "' for '" ++ (Opt.setting .start).label ++ "': " ++
      Text.IntegerFault.message .tooLarge =
      "error: invalid value '" ++ v ++
        "' for '--start <START>': number too large to fit in target type" := by
    simp only [String.append_assoc]
    rfl
  have hlines := UsageError.lines_invalidValue hv (plain_message .tooLarge) .start
  rw [hline] at hlines
  rw [ofArguments, h, ← hlines]

end Outcome

/-! ## All numbers -/

/-- The size of the start decides, however it is written, and no sum on the way leaves 64 bits. -/
theorem start_argument_decides (host : Host) (plus : Bool) (zeros n : Nat) {args : List String}
    (h : args ∈ startArguments (Text.padded plus zeros n)) :
    (n < 128 →
      ∃ replay, Ring.replay { Ring.captured with start := n } Layout.capture.table = .ok replay ∧
        (Outcome.ofArguments .statusLog host args).exitCode = 0 ∧
        (Outcome.ofArguments .statusLog host args).stdout = replay.records.map Record.display) ∧
    (128 ≤ n → n < 2 ^ 64 →
      (Outcome.ofArguments .statusLog host args).exitCode = 1 ∧
        (Outcome.ofArguments .statusLog host args).stdout = [] ∧
        (Outcome.ofArguments .statusLog host args).stderr.getLast? =
          some ("Error: Cannot replay status ring: start index out of range: " ++ toString n ++
            " is not within 0..128")) ∧
    (2 ^ 64 ≤ n →
      (∀ request, Request.ofArguments .statusLog args ≠ .ok request) ∧
        Outcome.ofArguments .statusLog host args =
          { exitCode := 2
            stderr :=
              ["error: invalid value '" ++ Text.padded plus zeros n ++
                  "' for '--start <START>': number too large to fit in target type",
                "", "For more information, try '--help'."] }) ∧
    (∀ request table replay, (ReplayReport.ring request).replay table = .ok replay →
      (ReplayReport.ring request).start + (ReplayReport.ring request).capacity < 2 ^ 64 ∧
        replay.last = ((UInt64.ofNat (ReplayReport.ring request).start +
          UInt64.ofNat (ReplayReport.ring request).capacity - 1) %
            UInt64.ofNat (ReplayReport.ring request).capacity).toNat) ∧
    ∀ request table,
      (ReplayReport.ring request).replayChecked? table =
        some ((ReplayReport.ring request).replay table) ∧
      (2 ^ 64 ≤ (ReplayReport.ring request).start + (ReplayReport.ring request).capacity →
        (ReplayReport.ring request).lastSlot? = none) := by
  have hargs := Request.ofArguments_start (Reading.startsValue_padded plus zeros n) h
  rw [Text.Unsigned.read_padded] at hargs
  refine ⟨?_, ?_, ?_, ?_, ?_⟩
  · intro hn
    have hlimit : n < Text.Unsigned.limit := Nat.lt_trans hn (by decide)
    rw [if_pos hlimit] at hargs
    exact Outcome.replays_of_start_lt host hargs hn
  · intro hn hlt
    have hlimit : n < Text.Unsigned.limit := hlt
    rw [if_pos hlimit] at hargs
    exact Outcome.refuses_of_le_start host hargs hn
  · intro hn
    have hlimit : ¬ n < Text.Unsigned.limit := Nat.not_lt.mpr hn
    rw [if_neg hlimit] at hargs
    refine ⟨?_, Outcome.refused_of_start_tooLarge host (plain_padded plus zeros n) hargs⟩
    intro request hrequest
    cases hrequest.symm.trans hargs
  · intro request table replay hreplay
    have hlt := ReplayReport.start_add_capacity_lt hreplay
    have hfits : 2 * Ring.deviceCapacity < UInt64.size := by decide
    exact ⟨Nat.lt_trans hlt hfits, Ring.last_eq_of_fits (Nat.lt_trans hlt hfits) hreplay⟩
  · intro request table
    refine ⟨Ring.replayChecked?_eq ?_ table, Ring.lastSlot?_eq_none⟩
    rw [ReplayReport.capacity_ring]
    decide

/-- A slot behind a sign and zeros, the greatest number of 64 bits and the one behind it. -/
theorem start_argument_decides_bounds :
    let host : Host := { refusal := fun _ => none }
    (["--start=+007"] ∈ startArguments (Text.padded true 2 7) ∧ 7 < 128 ∧
      (Outcome.ofArguments .statusLog host ["--start=+007"]).exitCode = 0) ∧
    (["-s", "18446744073709551615"] ∈
        startArguments (Text.padded false 0 18446744073709551615) ∧
      128 ≤ 18446744073709551615 ∧ 18446744073709551615 < 2 ^ 64 ∧
      (Outcome.ofArguments .statusLog host ["-s", "18446744073709551615"]).exitCode = 1) ∧
    (["-s018446744073709551616"] ∈ startArguments (Text.padded false 1 18446744073709551616) ∧
      2 ^ 64 ≤ 18446744073709551616 ∧
      Outcome.ofArguments .statusLog host ["-s018446744073709551616"] =
        { exitCode := 2
          stderr :=
            ["error: invalid value '018446744073709551616' for '--start <START>': " ++
                "number too large to fit in target type",
              "", "For more information, try '--help'."] }) ∧
    (∃ replay, (ReplayReport.ring { start := some 127 }).replay Layout.decoder.table = .ok replay ∧
      (ReplayReport.ring { start := some 127 }).start +
        (ReplayReport.ring { start := some 127 }).capacity < 2 ^ 64) ∧
    let last := ReplayReport.ring { start := some 18446744073709551615 }
    2 ^ 64 ≤ last.start + last.capacity ∧ last.lastSlot? = none ∧
      last.replayChecked? Layout.capture.table =
        some (.error (.startOutOfRange 18446744073709551615 128)) := by
  intro host
  have hslot : ["--start=+007"] ∈ startArguments (Text.padded true 2 7) := by decide
  have hgreatest : ["-s", "18446744073709551615"] ∈
      startArguments (Text.padded false 0 18446744073709551615) := by decide
  have hbehind : ["-s018446744073709551616"] ∈
      startArguments (Text.padded false 1 18446744073709551616) := by decide
  obtain ⟨hreplays, -, -, hsum, hchecked⟩ := start_argument_decides host true 2 7 hslot
  obtain ⟨-, hrefuses, -⟩ := start_argument_decides host false 0 18446744073709551615 hgreatest
  obtain ⟨-, -, hrefused, -⟩ := start_argument_decides host false 1 18446744073709551616 hbehind
  obtain ⟨-, -, hcode, -⟩ := hreplays (by decide)
  refine ⟨⟨hslot, by decide, hcode⟩,
    ⟨hgreatest, by decide, by decide, (hrefuses (by decide) (by decide)).1⟩,
    ⟨hbehind, by decide, (hrefused (by decide)).2⟩, ?_, ?_⟩
  · have hlast : (ReplayReport.ring { start := some 127 }).start <
        (ReplayReport.ring { start := some 127 }).capacity := by
      rw [ReplayReport.capacity_ring]
      decide
    obtain ⟨replay, hreplay, -⟩ := Ring.replay_shows hlast Layout.decoder.table
    exact ⟨replay, hreplay, (hsum _ _ replay hreplay).1⟩
  · intro last
    have hcapacity : last.capacity = 128 := ReplayReport.capacity_ring _
    have hoverflow : 2 ^ 64 ≤ last.start + last.capacity := by
      rw [hcapacity]
      decide
    obtain ⟨hresult, hnone⟩ := hchecked { start := some 18446744073709551615 } Layout.capture.table
    refine ⟨hoverflow, hnone hoverflow, hresult.trans (congrArg some ?_)⟩
    exact Ring.replay_eq_error_iff.mpr ⟨by rw [hcapacity]; decide, by rw [hcapacity]; rfl⟩

end Cli

end BusStatus
