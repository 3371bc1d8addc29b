import BusStatus.Cli.Arguments

/-!
# Arguments one by one

Understanding a command line is taking what its arguments are read as, one after the other.
-/

namespace BusStatus.Cli

/-- What an argument, or a letter of one, is read as. -/
inductive Reading where
  /-- An option without a value beside it; that of a setting is to follow. -/
  | option (opt : Opt)
  /-- A setting and the value beside it. -/
  | valued (setting : Setting) (value : String)
  /-- No option, but perhaps the value of the setting in front. -/
  | plain (arg : String)
  /-- Two dashes alone. -/
  | separator
  /-- A value behind two dashes. -/
  | behind (arg : String)
  /-- Nothing that the tool knows. -/
  | fault (e : UsageError)
deriving DecidableEq, Repr

namespace Reading

def ofLong (tool : Tool) (name : String) (value : Option String) : Reading :=
  match tool.ofLong? name, value with
  | none, _ => .fault (.unexpectedArgument ("--" ++ name))
  | some (.setting setting), some v => .valued setting v
  | some opt, some v => .fault (.unexpectedValue v opt)
  | some opt, none => .option opt

def ofLetters (tool : Tool) : List Char → List Reading
  | [] => []
  | c :: cs =>
      match tool.ofLetter? c, cs with
      | none, _ => [.fault (.unexpectedArgument (String.ofList ['-', c]))]
      | some (.setting setting), [] => [.option (.setting setting)]
      | some (.setting setting), '=' :: value => [.valued setting (String.ofList value)]
      | some (.setting setting), value => [.valued setting (String.ofList value)]
      | some opt, rest => .option opt :: ofLetters tool rest

def ofArgument (tool : Tool) (arg : String) : List Reading :=
  match Argument.ofString tool arg with
  | .separator => [.separator]
  | .long name value => [ofLong tool name value]
  | .letters cs => ofLetters tool cs
  | .plain => [.plain arg]

def ofArguments (tool : Tool) : List String → List Reading
  | [] => []
  | arg :: args =>
      if Argument.ofString tool arg = .separator then .separator :: args.map .behind
      else ofArgument tool arg ++ ofArguments tool args

theorem ofArguments_cons {tool : Tool} {arg : String}
    (h : Argument.ofString tool arg ≠ .separator) (args : List String) :
    ofArguments tool (arg :: args) = ofArgument tool arg ++ ofArguments tool args := by
  rw [ofArguments, if_neg h]

theorem ofArguments_append {tool : Tool} {front : List String}
    (h : ∀ arg ∈ front, Argument.ofString tool arg ≠ .separator) (back : List String) :
    ofArguments tool (front ++ back) = front.flatMap (ofArgument tool) ++ ofArguments tool back := by
  induction front with
  | nil => rfl
  | cons arg front ih =>
      rw [List.cons_append, ofArguments_cons (h arg (List.mem_cons_self ..)), List.flatMap_cons,
        List.append_assoc, ih fun arg harg => h arg (List.mem_cons_of_mem _ harg)]

theorem separator_not_mem_ofLetters (tool : Tool) (cs : List Char) :
    .separator ∉ ofLetters tool cs := by
  induction cs with
  | nil => simp [ofLetters]
  | cons c cs ih =>
      unfold ofLetters
      split <;> simp [ih]

theorem ofLong_ne_separator (tool : Tool) (name : String) (value : Option String) :
    ofLong tool name value ≠ .separator := by
  unfold ofLong
  split <;> simp

theorem separator_not_mem_ofArgument {tool : Tool} {arg : String}
    (h : Argument.ofString tool arg ≠ .separator) : .separator ∉ ofArgument tool arg := by
  unfold ofArgument
  cases harg : Argument.ofString tool arg with
  | separator => exact absurd harg h
  | long name value => simpa using (ofLong_ne_separator tool name value).symm
  | letters cs => exact separator_not_mem_ofLetters tool cs
  | plain => simp

end Reading

theorem exists_of_bind_eq_ok {α β : Type} {x : Except Stop α} {f : α → Except Stop β} {b : β}
    (h : x >>= f = .ok b) : ∃ a, x = .ok a ∧ f a = .ok b := by
  cases x with
  | ok a => exact ⟨a, rfl, h⟩
  | error e => cases h

namespace Scan

def take (tool : Tool) (scan : Scan) : Reading → Except Stop Scan
  | .option opt => scan.meet opt
  | .valued setting value => scan.meetWith setting value
  | .plain arg => scan.plain tool arg
  | .separator => .ok { scan with valuesOnly := true }
  | .behind arg => scan.addValue tool arg
  | .fault e => .error (.usage e)

/-- Takes the readings of a command line and stores the setting that waits at its end. -/
def takeAll (tool : Tool) (scan : Scan) (readings : List Reading) : Except Stop Scan := do
  let scan ← readings.foldlM (take tool) scan
  scan.settle

variable {tool : Tool} {scan : Scan}

/-! ## What a setting that waits comes to -/

theorem store_cases (scan : Scan) (setting : Setting) (value : String) :
    (∃ request, scan.request.store setting value = .ok request ∧
      scan.store setting value = .ok { scan with request := request }) ∨
    ∃ e, scan.store setting value = .error (.usage e) := by
  unfold store
  cases h : scan.request.store setting value with
  | ok request => exact .inl ⟨request, rfl, rfl⟩
  | error e => exact .inr ⟨e, rfl⟩

theorem settle_of_waiting_eq_none (h : scan.waiting = none) : scan.settle = .ok scan := by
  rw [settle, h]

theorem settle_cases (scan : Scan) :
    (∃ request, scan.settle = .ok { scan with waiting := none, request := request }) ∨
    ∃ e, scan.settle = .error (.usage e) := by
  unfold settle
  split
  · rename_i h
    exact .inl ⟨scan.request, by rw [← h]⟩
  · exact .inr ⟨_, rfl⟩
  · rename_i setting value _
    rcases store_cases { scan with waiting := none } setting value with ⟨request, -, h⟩ | h
    · exact .inl ⟨request, h⟩
    · exact .inr h

/-! ## Only two dashes alone make values of all that follows -/

theorem valuesOnly_store {next : Scan} {setting : Setting} {value : String}
    (h : scan.store setting value = .ok next) : next.valuesOnly = scan.valuesOnly := by
  rcases store_cases scan setting value with ⟨request, -, hstore⟩ | ⟨e, hstore⟩
  · cases hstore.symm.trans h
    rfl
  · cases hstore.symm.trans h

theorem valuesOnly_settle {next : Scan} (h : scan.settle = .ok next) :
    next.valuesOnly = scan.valuesOnly := by
  rcases settle_cases scan with ⟨request, hsettle⟩ | ⟨e, hsettle⟩
  · cases hsettle.symm.trans h
    rfl
  · cases hsettle.symm.trans h

theorem valuesOnly_meet {next : Scan} {opt : Opt} (h : scan.meet opt = .ok next) :
    next.valuesOnly = scan.valuesOnly := by
  obtain ⟨settled, hsettle, h⟩ := exists_of_bind_eq_ok h
  rw [← valuesOnly_settle hsettle]
  cases opt with
  | setting setting => cases h; rfl
  | counter counter => cases h; rfl
  | notice notice => cases h
  | switch switch =>
      simp only at h
      split at h
      · cases h; rfl
      · cases h

theorem valuesOnly_addValue {next : Scan} {arg : String} (h : scan.addValue tool arg = .ok next) :
    next.valuesOnly = scan.valuesOnly := by
  unfold addValue at h
  split at h
  · obtain ⟨settled, hsettle, h⟩ := exists_of_bind_eq_ok h
    cases h
    exact (valuesOnly_settle hsettle :)
  · cases h

theorem valuesOnly_take {next : Scan} {reading : Reading} (hne : reading ≠ .separator)
    (h : scan.take tool reading = .ok next) : next.valuesOnly = scan.valuesOnly := by
  cases reading with
  | option opt => exact valuesOnly_meet h
  | valued setting value =>
      obtain ⟨settled, hsettle, h⟩ := exists_of_bind_eq_ok h
      exact (valuesOnly_store h).trans (valuesOnly_settle hsettle)
  | plain arg =>
      simp only [take, plain] at h
      split at h
      · cases h; rfl
      · exact valuesOnly_addValue h
  | separator => exact absurd rfl hne
  | behind arg => exact valuesOnly_addValue h
  | fault e => cases h

theorem valuesOnly_foldlM {next : Scan} {readings : List Reading} (hne : .separator ∉ readings)
    (h : readings.foldlM (take tool) scan = .ok next) : next.valuesOnly = scan.valuesOnly := by
  induction readings generalizing scan with
  | nil => cases h; rfl
  | cons reading readings ih =>
      rw [List.mem_cons, not_or] at hne
      rw [List.foldlM_cons] at h
      obtain ⟨taken, htake, h⟩ := exists_of_bind_eq_ok h
      exact (ih hne.2 h).trans (valuesOnly_take (Ne.symm hne.1) htake)

/-! ## Understanding a command line -/

theorem long_eq_take (name : String) (value : Option String) :
    scan.long tool name value = scan.take tool (Reading.ofLong tool name value) := by
  unfold long Reading.ofLong
  cases tool.ofLong? name with
  | none => rfl
  | some opt => cases opt <;> cases value <;> rfl

theorem letters_eq_foldlM (cs : List Char) :
    scan.letters tool cs = (Reading.ofLetters tool cs).foldlM (take tool) scan := by
  induction cs generalizing scan with
  | nil => rfl
  | cons c cs ih =>
      unfold letters Reading.ofLetters
      cases tool.ofLetter? c with
      | none => rfl
      | some opt =>
          cases opt with
          | setting setting =>
              -- What follows the letter of a setting is its value, in front of which a sign may stand.
              cases cs with
              | nil => simp [take]
              | cons d ds => by_cases hd : d = '=' <;> simp [take, hd]
          | _ =>
              simp only [List.foldlM_cons, take]
              exact bind_congr fun next => ih

theorem foldlM_step_of_valuesOnly (h : scan.valuesOnly = true) (args : List String) :
    args.foldlM (step tool) scan = (args.map Reading.behind).foldlM (take tool) scan := by
  induction args generalizing scan with
  | nil => rfl
  | cons arg args ih =>
      have hstep : scan.step tool arg = scan.addValue tool arg := by rw [step, if_pos h]
      simp only [List.map_cons, List.foldlM_cons, hstep, take]
      cases hadd : scan.addValue tool arg with
      | error e => rfl
      | ok next => exact ih ((valuesOnly_addValue hadd).trans h)

theorem step_eq_foldlM (h : scan.valuesOnly = false) (arg : String) :
    scan.step tool arg = (Reading.ofArgument tool arg).foldlM (take tool) scan := by
  rw [step, h, if_neg Bool.false_ne_true]
  unfold Reading.ofArgument
  cases Argument.ofString tool arg with
  | separator => rfl
  | long name value => exact (long_eq_take name value).trans (bind_pure _).symm
  | letters cs => exact letters_eq_foldlM cs
  | plain => exact (bind_pure _).symm

/-- A command line comes to what its arguments are read as. -/
theorem foldlM_step (h : scan.valuesOnly = false) (args : List String) :
    args.foldlM (step tool) scan = (Reading.ofArguments tool args).foldlM (take tool) scan := by
  induction args generalizing scan with
  | nil => rfl
  | cons arg args ih =>
      rw [List.foldlM_cons, step_eq_foldlM h, Reading.ofArguments]
      split
      · rename_i harg
        rw [Reading.ofArgument, harg]
        exact foldlM_step_of_valuesOnly rfl args
      · rename_i harg
        rw [List.foldlM_append]
        cases hfold : (Reading.ofArgument tool arg).foldlM (take tool) scan with
        | error e => rfl
        | ok next =>
            have hsame := valuesOnly_foldlM (Reading.separator_not_mem_ofArgument harg) hfold
            exact ih (hsame.trans h)

end Scan

theorem Request.ofArguments_eq_takeAll (tool : Tool) (args : List String) :
    Request.ofArguments tool args =
      Scan.takeAll tool {} (Reading.ofArguments tool args) >>= Scan.checkCounters := by
  rw [Request.ofArguments, Scan.foldlM_step rfl, Scan.takeAll, bind_assoc]
  rfl

end BusStatus.Cli
