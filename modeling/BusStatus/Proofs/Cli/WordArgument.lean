import BusStatus.Proofs.Cli.Runs
import BusStatus.Proofs.Word.Decimal

/-!
# The word among the arguments

The run tells of its value what reading it as a word tells.
-/

namespace BusStatus.Cli

/-! ## Integers are no options -/

namespace Argument

theorem ofString_of_head?_ne {tool : Tool} {arg : String} (h : arg.toList.head? ≠ some '-') :
    ofString tool arg = .plain := by
  unfold ofString
  split
  · rename_i harg; rw [harg] at h; exact absurd rfl h
  · rename_i harg; rw [harg] at h; exact absurd rfl h
  · rename_i harg; rw [harg] at h; exact absurd rfl h
  · rfl

theorem isMantissa_of_isDigit {cs : List Char} (h : ∀ c ∈ cs, c.isDigit) (isFirst pointSeen : Bool) :
    isMantissa isFirst pointSeen cs = true := by
  induction cs generalizing isFirst with
  | nil => rfl
  | cons c cs ih =>
      rw [isMantissa, if_pos (h c (List.mem_cons_self ..))]
      exact ih (fun d hd => h d (List.mem_cons_of_mem c hd)) false

theorem ofString_of_digits {tool : Tool} (htool : tool.takesValues) {arg : String} {cs : List Char}
    (harg : arg.toList = '-' :: cs) (hne : cs ≠ []) (hcs : ∀ c ∈ cs, c.isDigit) :
    ofString tool arg = .plain := by
  have hnumber : isNumber cs = true := isMantissa_of_isDigit hcs true false
  cases cs with
  | nil => exact absurd rfl hne
  | cons c cs =>
      have hdash : c ≠ '-' := by
        rintro rfl
        exact absurd (hcs '-' (List.mem_cons_self ..)) (by decide)
      rw [ofString.eq_def, harg]
      -- No second dash follows, so the argument is no separator and no long option.
      split
      · rename_i h; exact absurd (List.cons.inj (List.cons.inj h).2).1 hdash
      · rename_i h; exact absurd (List.cons.inj (List.cons.inj h).2).1 hdash
      · rename_i h
        obtain ⟨rfl, rfl⟩ := List.cons.inj (List.cons.inj h).2
        rw [htool, hnumber]
        rfl
      · rename_i h; exact absurd rfl (h _ _)

theorem ofString_toString {tool : Tool} (htool : tool.takesValues) (z : Int) :
    ofString tool (toString z) = .plain := by
  cases z with
  | ofNat n =>
      apply ofString_of_head?_ne
      rw [Text.toList_toString_ofNat]
      intro hhead
      exact absurd (Text.Radix.isDigit_of_mem_digits (List.mem_of_head? hhead)) (by decide)
  | negSucc n =>
      refine ofString_of_digits htool (Text.toList_toString_negSucc n) ?_
        fun c hc => Text.Radix.isDigit_of_mem_digits hc
      obtain ⟨c, cs, hcons, -⟩ := Text.Radix.decimal.exists_digits_eq_cons (n + 1)
      rw [hcons]
      exact List.cons_ne_nil c cs

end Argument

/-! ## The command lines -/

def layoutArguments : Option Layout → List String
  | none => []
  | some layout => ["--layout", layout.name]

theorem Request.ofArguments_separator (chosen : Option Layout) (v : String) :
    Request.ofArguments .flags (layoutArguments chosen ++ ["--", v]) =
      .ok { layout := chosen, values := [v] } := by
  cases chosen with
  | none => rfl
  | some layout => cases layout <;> rfl

theorem Request.ofArguments_plain {arg : String} (h : Argument.ofString .flags arg = .plain) :
    Request.ofArguments .flags [arg] = .ok { values := [arg] } := by
  have hstep : Scan.step .flags {} arg = .ok { request := { values := [arg] } } := by
    rw [Scan.step, h]
    rfl
  rw [Request.ofArguments, List.foldlM_cons, hstep]
  rfl

/-! ## What the run tells -/

namespace Outcome

/-- The outcome tells the names of the flags of a word, one a line. -/
structure Names (outcome : Outcome) (layout : Layout) (w : Word) : Prop where
  exitCode : outcome.exitCode = 0
  stdout : outcome.stdout = layout.table.decode w

/-- The outcome tells an error, in the last line, and no result. -/
structure Refuses (outcome : Outcome) (e : StatusError) : Prop where
  exitCode : outcome.exitCode = 1
  stdout : outcome.stdout = []
  last : outcome.stderr.getLast? = some ("Error: Cannot decode status word: " ++ e.message)

variable (host : Host) (chosen : Option Layout) {v : String}

theorem ofRequest_value :
    ofRequest .flags host { layout := chosen, values := [v] } =
      ofReport host { layout := chosen, values := [v] }
        (FlagsReport.ofInput false (chosen.getD .decoder) v) := by
  rw [ofRequest_flags rfl, ofRun_of_logOpens (.of_none rfl), FlagsReport.ofRequest_of_value rfl rfl]
  rfl

theorem names_of_parse {w : Word} (h : Word.parse v = .ok w) :
    (ofRequest .flags host { layout := chosen, values := [v] }).Names (chosen.getD .decoder) w := by
  rw [ofRequest_value, FlagsReport.ofInput_of_ok h]
  exact ⟨rfl, rfl⟩

theorem refuses_of_parse {e : StatusError} (h : Word.parse v = .error e) :
    (ofRequest .flags host { layout := chosen, values := [v] }).Refuses e := by
  have hfailure : failureLine ("Cannot decode status word: " ++ e.message) =
      "Error: Cannot decode status word: " ++ e.message := by
    rw [failureLine, ← String.append_assoc]
    rfl
  rw [ofRequest_value, FlagsReport.ofInput_of_error h]
  refine ⟨rfl, rfl, ?_⟩
  rw [← hfailure]
  exact getLast?_stderr_ofReport rfl

theorem exitCode_eq_zero_iff :
    (ofRequest .flags host { layout := chosen, values := [v] }).exitCode = 0 ↔
      ∃ w, Word.parse v = .ok w := by
  cases hparse : Word.parse v with
  | ok w => exact iff_of_true (names_of_parse host chosen hparse).exitCode ⟨w, rfl⟩
  | error e =>
      rw [(refuses_of_parse host chosen hparse).exitCode]
      exact iff_of_false (by decide) fun ⟨w, hw⟩ => nomatch hw

theorem exitCode_ne_two (v : String) :
    (ofRequest .flags host { layout := chosen, values := [v] }).exitCode ≠ 2 := by
  cases hparse : Word.parse v with
  | ok w => rw [(names_of_parse host chosen hparse).exitCode]; decide
  | error e => rw [(refuses_of_parse host chosen hparse).exitCode]; decide

end Outcome

/-- The tool tells of every text behind two dashes, and of every plain integer, what reading it as a
word tells. -/
theorem word_argument_agrees (host : Host) :
    (∀ (chosen : Option Layout) (v : String),
      let outcome := Outcome.ofArguments .flags host (layoutArguments chosen ++ ["--", v])
      outcome.exitCode ≠ 2 ∧
      (∀ w, Word.parse v = .ok w → outcome.Names (chosen.getD .decoder) w) ∧
      ∀ e, Word.parse v = .error e → outcome.Refuses e) ∧
    ∀ z : Int,
      let outcome := Outcome.ofArguments .flags host [toString z]
      outcome.exitCode ≠ 2 ∧ (outcome.exitCode = 0 ↔ 0 ≤ z ∧ z ≤ 65535) ∧
      (∀ w : Word, (w.toNat : Int) = z → outcome.Names .decoder w) ∧
      (¬ (0 ≤ z ∧ z ≤ 65535) →
        ∃ e, Word.parse (toString z) = .error e ∧ outcome.Refuses e) := by
  constructor
  · intro chosen v
    rw [Outcome.ofArguments_of_ok (Request.ofArguments_separator chosen v)]
    exact ⟨Outcome.exitCode_ne_two host chosen v, fun w => Outcome.names_of_parse host chosen,
      fun e => Outcome.refuses_of_parse host chosen⟩
  · intro z
    rw [Outcome.ofArguments_of_ok (Request.ofArguments_plain (Argument.ofString_toString rfl z))]
    refine ⟨Outcome.exitCode_ne_two host none _, ?_, fun w hw => ?_, fun hrange => ?_⟩
    · rw [Outcome.exitCode_eq_zero_iff, Word.exists_parse_toString_iff]
    · exact Outcome.names_of_parse host none ((Word.parse_toString_eq_ok_iff z w).mpr hw)
    · cases hparse : Word.parse (toString z) with
      | ok w => exact absurd ((Word.exists_parse_toString_iff z).mp ⟨w, hparse⟩) hrange
      | error e => exact ⟨e, rfl, Outcome.refuses_of_parse host none hparse⟩

/-- A word behind a layout, an option taken for a text, and integers with and without a sign. -/
theorem word_argument_agrees_signed :
    let host : Host := { refusal := fun _ => none }
    (Word.parse " 0X6 " = .ok 6 ∧
      (Outcome.ofArguments .flags host ["--layout", "capture", "--", " 0X6 "]).Names .capture 6) ∧
    (Word.parse "-v" = .error (.invalidNumber "-v" "status words cannot be negative") ∧
      (Outcome.ofArguments .flags host ["--", "-v"]).Refuses
        (.invalidNumber "-v" "status words cannot be negative")) ∧
    (((33 : Word).toNat : Int) = 33 ∧ (Outcome.ofArguments .flags host ["33"]).Names .decoder 33) ∧
    (¬ (0 ≤ (-1 : Int) ∧ (-1 : Int) ≤ 65535) ∧
      ∃ e, Word.parse (toString (-1 : Int)) = .error e ∧
        (Outcome.ofArguments .flags host [toString (-1 : Int)]).Refuses e) := by
  intro host
  obtain ⟨hseparated, hplain⟩ := word_argument_agrees host
  have hword : Word.parse " 0X6 " = .ok 6 := by decide
  have hsign : Word.parse "-v" = .error (.invalidNumber "-v" "status words cannot be negative") := by
    decide
  have hrange : ¬ (0 ≤ (-1 : Int) ∧ (-1 : Int) ≤ 65535) := by decide
  exact ⟨⟨hword, (hseparated (some .capture) " 0X6 ").2.1 6 hword⟩,
    ⟨hsign, (hseparated none "-v").2.2 _ hsign⟩,
    ⟨rfl, (hplain 33).2.2.1 33 rfl⟩, ⟨hrange, (hplain (-1)).2.2.2 hrange⟩⟩

end BusStatus.Cli
