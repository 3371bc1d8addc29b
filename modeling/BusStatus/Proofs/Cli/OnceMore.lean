import BusStatus.Proofs.Cli.Readings

/-!
# A counter given once more

A counter settles the setting in front of it earlier than the argument behind it would have done, which
changes nothing as long as it does not stand in front of the value of a setting.
-/

namespace BusStatus.Cli

/-! ## Two command lines with the same end -/

/-- Both are refused, or both end with the same notice, or they have related results. -/
inductive Alike {α β : Type} (R : α → β → Prop) : Except Stop α → Except Stop β → Prop where
  | refused (e e' : UsageError) : Alike R (.error (.usage e)) (.error (.usage e'))
  | notice (notice : Notice) : Alike R (.error (.notice notice)) (.error (.notice notice))
  | ok {a : α} {b : β} : R a b → Alike R (.ok a) (.ok b)

namespace Alike

variable {α β γ δ : Type} {R : α → β → Prop} {Q : γ → δ → Prop}

theorem bind {x : Except Stop α} {y : Except Stop β} {f : α → Except Stop γ} {g : β → Except Stop δ}
    (h : Alike R x y) (hbehind : ∀ a b, R a b → Alike Q (f a) (g b)) :
    Alike Q (x >>= f) (y >>= g) := by
  cases h with
  | refused e e' => exact .refused e e'
  | notice notice => exact .notice notice
  | ok h => exact hbehind _ _ h

theorem refl (x : Except Stop α) : Alike Eq x x := by
  cases x with
  | ok a => exact .ok rfl
  | error stop =>
      cases stop with
      | usage e => exact .refused e e
      | notice notice => exact .notice notice

theorem trans_eq {x y : Except Stop α} {z : Except Stop β} (hxy : Alike Eq x y)
    (hyz : Alike R y z) : Alike R x z := by
  cases hxy with
  | refused e e' => cases hyz; exact .refused e _
  | notice notice => exact hyz
  | ok h => exact h ▸ hyz

theorem bind_self (x : Except Stop γ) {f : γ → Except Stop α} {g : γ → Except Stop β}
    (h : ∀ c, x = .ok c → Alike R (f c) (g c)) : Alike R (x >>= f) (x >>= g) := by
  cases x with
  | ok c => exact h c rfl
  | error stop =>
      cases stop with
      | usage e => exact .refused e e
      | notice notice => exact .notice notice

end Alike

/-! ## Requests do not look at their counters -/

namespace Request

variable (request : Request) (counter : Counter)

theorem keep_count (setting : Setting) (value : String) :
    (request.count counter).keep setting value =
      (request.keep setting value).map (·.count counter) := by
  cases counter <;> cases setting <;> simp only [keep, count] <;> split <;> rfl

theorem store_count (setting : Setting) (value : String) :
    (request.count counter).store setting value =
      (request.store setting value).map (·.count counter) := by
  have hhas : (request.count counter).has setting = request.has setting := by
    cases counter <;> cases setting <;> rfl
  rw [store, store, hhas, keep_count]
  split <;> rfl

theorem turnOn_count (switch : Switch) :
    (request.count counter).turnOn switch = (request.turnOn switch).map (·.count counter) := by
  have hon : (request.count counter).isOn switch = request.isOn switch := by
    cases counter <;> cases switch <;> rfl
  unfold turnOn
  rw [hon]
  split
  · rfl
  · cases counter <;> cases switch <;> rfl

theorem addValue_count (value : String) :
    (request.count counter).addValue value = (request.addValue value).count counter := by
  cases counter <;> rfl

theorem count_comm (other : Counter) :
    (request.count counter).count other = (request.count other).count counter := by
  cases counter <;> cases other <;> rfl

end Request

namespace Scan

variable {tool : Tool} {counter : Counter} {s t : Scan}

/-- The second scan has met the counter once more. -/
structure Counted (counter : Counter) (s t : Scan) : Prop where
  request_eq : t.request = s.request.count counter
  waiting_eq : t.waiting = s.waiting
  valuesOnly_eq : t.valuesOnly = s.valuesOnly

theorem Counted.store (h : Counted counter s t) (setting : Setting) (value : String) :
    Alike (Counted counter) (s.store setting value) (t.store setting value) := by
  unfold Scan.store
  rw [h.request_eq, Request.store_count]
  cases s.request.store setting value with
  | ok request => exact .ok ⟨rfl, h.waiting_eq, h.valuesOnly_eq⟩
  | error e => exact .refused e e

theorem Counted.settle (h : Counted counter s t) :
    Alike (Counted counter) s.settle t.settle := by
  unfold Scan.settle
  rw [h.waiting_eq]
  cases s.waiting with
  | none => exact .ok h
  | some waiting =>
      obtain ⟨setting, value⟩ := waiting
      cases value with
      | none => exact .refused _ _
      | some value =>
          have hnone : Counted counter { s with waiting := none } { t with waiting := none } :=
            ⟨h.request_eq, rfl, h.valuesOnly_eq⟩
          exact hnone.store setting value

theorem Counted.meet (h : Counted counter s t) (opt : Opt) :
    Alike (Counted counter) (s.meet opt) (t.meet opt) := by
  apply h.settle.bind
  intro s t h
  cases opt with
  | setting setting => exact .ok ⟨h.request_eq, rfl, h.valuesOnly_eq⟩
  | counter other =>
      refine .ok ⟨?_, h.waiting_eq, h.valuesOnly_eq⟩
      simp only [h.request_eq, Request.count_comm]
  | notice notice => exact .notice notice
  | switch switch =>
      simp only [h.request_eq, Request.turnOn_count]
      cases s.request.turnOn switch with
      | ok request => exact .ok ⟨rfl, h.waiting_eq, h.valuesOnly_eq⟩
      | error e => exact .refused e e

theorem Counted.addValue (h : Counted counter s t) (arg : String) :
    Alike (Counted counter) (s.addValue tool arg) (t.addValue tool arg) := by
  unfold Scan.addValue
  split
  · apply h.settle.bind
    intro s t h
    refine .ok ⟨?_, h.waiting_eq, h.valuesOnly_eq⟩
    simp only [h.request_eq, Request.addValue_count]
  · exact .refused _ _

theorem Counted.plain (h : Counted counter s t) (arg : String) :
    Alike (Counted counter) (s.plain tool arg) (t.plain tool arg) := by
  unfold Scan.plain
  rw [h.waiting_eq]
  split
  · exact .ok ⟨h.request_eq, rfl, h.valuesOnly_eq⟩
  · exact h.addValue arg

theorem Counted.take (h : Counted counter s t) (reading : Reading) :
    Alike (Counted counter) (s.take tool reading) (t.take tool reading) := by
  cases reading with
  | option opt => exact h.meet opt
  | valued setting value => exact h.settle.bind fun _ _ h => h.store setting value
  | plain arg => exact h.plain arg
  | separator => exact .ok ⟨h.request_eq, h.waiting_eq, rfl⟩
  | behind arg => exact h.addValue arg
  | fault e => exact .refused e e

theorem takeAll_cons (s : Scan) (reading : Reading) (readings : List Reading) :
    takeAll tool s (reading :: readings) =
      s.take tool reading >>= fun next => takeAll tool next readings := by
  rw [takeAll, List.foldlM_cons, bind_assoc]
  rfl

theorem takeAll_append (s : Scan) (front back : List Reading) :
    takeAll tool s (front ++ back) =
      front.foldlM (Scan.take tool) s >>= fun next => takeAll tool next back := by
  rw [takeAll, List.foldlM_append, bind_assoc]
  rfl

theorem Counted.takeAll (h : Counted counter s t) (readings : List Reading) :
    Alike (Counted counter) (takeAll tool s readings) (takeAll tool t readings) := by
  induction readings generalizing s t with
  | nil => exact h.settle
  | cons reading readings ih =>
      rw [takeAll_cons, takeAll_cons]
      exact (h.take reading).bind fun _ _ h => ih h

/-! ## Settling early -/

def IsOpen (scan : Scan) : Prop :=
  ∃ setting, scan.waiting = some (setting, none)

theorem waiting_settle (h : s.settle = .ok t) : t.waiting = none := by
  rcases settle_cases s with ⟨request, hsettle⟩ | ⟨e, hsettle⟩
  · cases hsettle.symm.trans h
    rfl
  · cases hsettle.symm.trans h

theorem settle_settle (h : s.settle = .ok t) : t.settle = .ok t :=
  settle_of_waiting_eq_none (waiting_settle h)

theorem plain_of_not_isOpen (h : ¬ s.IsOpen) (arg : String) :
    s.plain tool arg = s.addValue tool arg := by
  unfold plain
  split
  · rename_i setting hwaiting
    exact absurd ⟨setting, hwaiting⟩ h
  · rfl

theorem settle_valuesOnly (s : Scan) :
    settle { s with valuesOnly := true } =
      s.settle >>= fun t => .ok { t with valuesOnly := true } := by
  obtain ⟨request, waiting, lastCounter, valuesOnly⟩ := s
  cases waiting with
  | none => rfl
  | some waiting =>
      obtain ⟨setting, value⟩ := waiting
      cases value with
      | none => rfl
      | some value =>
          simp only [settle, Scan.store]
          cases request.store setting value <;> rfl

theorem bind_settle_settled (h : s.settle = .ok t) {α : Type} (f : Scan → Except Stop α) :
    s.settle >>= f = t.settle >>= f := by
  rw [h, settle_settle h]

theorem take_settled (hopen : ¬ s.IsOpen) (h : s.settle = .ok t) {reading : Reading}
    (hne : reading ≠ .separator) : s.take tool reading = t.take tool reading := by
  have hopen' : ¬ t.IsOpen := by
    rintro ⟨setting, hwaiting⟩
    rw [waiting_settle h] at hwaiting
    cases hwaiting
  have hvalue (arg : String) : s.addValue tool arg = t.addValue tool arg := by
    rw [addValue, addValue, bind_settle_settled h]
  cases reading with
  | option opt => exact bind_settle_settled h _
  | valued setting value => exact bind_settle_settled h _
  | plain arg =>
      rw [take, take, plain_of_not_isOpen hopen, plain_of_not_isOpen hopen']
      exact hvalue arg
  | separator => exact absurd rfl hne
  | behind arg => exact hvalue arg
  | fault e => rfl

/-- A setting that cannot be stored is refused with the next reading at the latest. -/
theorem take_unsettled (hopen : ¬ s.IsOpen) {e : UsageError} (h : s.settle = .error (.usage e))
    {reading : Reading} (hne : reading ≠ .separator) :
    ∃ e', s.take tool reading = .error (.usage e') := by
  have hvalue (arg : String) : ∃ e', s.addValue tool arg = .error (.usage e') := by
    rw [addValue, h]
    split
    · exact ⟨e, rfl⟩
    · exact ⟨_, rfl⟩
  cases reading with
  | option opt => exact ⟨e, by rw [take, meet, h]; rfl⟩
  | valued setting value => exact ⟨e, by rw [take, meetWith, h]; rfl⟩
  | plain arg => rw [take, plain_of_not_isOpen hopen]; exact hvalue arg
  | separator => exact absurd rfl hne
  | behind arg => exact hvalue arg
  | fault e' => exact ⟨e', rfl⟩

theorem takeAll_settle (hopen : ¬ s.IsOpen) (readings : List Reading) :
    Alike Eq (takeAll tool s readings) (s.settle >>= fun t => takeAll tool t readings) := by
  induction readings generalizing s with
  | nil =>
      change Alike Eq s.settle (s.settle >>= settle)
      cases h : s.settle with
      | ok t =>
          change Alike Eq (.ok t) t.settle
          rw [settle_settle h]
          exact .refl _
      | error stop => exact .refl _
  | cons reading readings ih =>
      by_cases hsep : reading = .separator
      · -- Two dashes alone leave the setting waiting.
        subst hsep
        have hbehind := ih (s := { s with valuesOnly := true }) hopen
        rw [settle_valuesOnly, bind_assoc] at hbehind
        simp only [takeAll_cons]
        exact hbehind
      · rw [takeAll_cons]
        rcases settle_cases s with ⟨request, h⟩ | ⟨e, h⟩
        · rw [take_settled hopen h hsep, h]
          simp only [takeAll_cons]
          exact .refl _
        · obtain ⟨e', htake⟩ := take_unsettled hopen h hsep
          rw [htake, h]
          exact .refused e' e

/-! ## Where a counter can stand -/

theorem not_isOpen_of_waiting (h : s.waiting = none) : ¬ s.IsOpen := by
  rintro ⟨setting, hwaiting⟩
  rw [h] at hwaiting
  cases hwaiting

theorem not_isOpen_addValue {arg : String} (h : s.addValue tool arg = .ok t) : ¬ t.IsOpen := by
  unfold addValue at h
  split at h
  · obtain ⟨settled, hsettle, h⟩ := exists_of_bind_eq_ok h
    cases h
    exact not_isOpen_of_waiting (waiting_settle hsettle :)
  · cases h

theorem eq_setting_of_isOpen {reading : Reading} (h : s.take tool reading = .ok t) (hopen : t.IsOpen)
    (hne : reading ≠ .separator) : ∃ setting, reading = .option (.setting setting) := by
  cases reading with
  | option opt =>
      obtain ⟨settled, hsettle, h⟩ := exists_of_bind_eq_ok h
      have hnone := waiting_settle hsettle
      cases opt with
      | setting setting => exact ⟨setting, rfl⟩
      | counter counter => cases h; exact absurd hopen (not_isOpen_of_waiting hnone)
      | notice notice => cases h
      | switch switch =>
          simp only at h
          split at h
          · cases h; exact absurd hopen (not_isOpen_of_waiting hnone)
          · cases h
  | valued setting value =>
      obtain ⟨settled, hsettle, h⟩ := exists_of_bind_eq_ok h
      have hnone := waiting_settle hsettle
      rcases store_cases settled setting value with ⟨request, -, hstore⟩ | ⟨e, hstore⟩
      · cases hstore.symm.trans h
        exact absurd hopen (not_isOpen_of_waiting hnone)
      · cases hstore.symm.trans h
  | plain arg =>
      simp only [take, plain] at h
      split at h
      · cases h
        obtain ⟨setting, hwaiting⟩ := hopen
        cases hwaiting
      · exact absurd hopen (not_isOpen_addValue h)
  | separator => exact absurd rfl hne
  | behind arg => exact absurd hopen (not_isOpen_addValue h)
  | fault e => cases h

theorem getLast?_of_isOpen {front : List Reading} (h : front.foldlM (take tool) {} = .ok s)
    (hopen : s.IsOpen) (hsep : .separator ∉ front) :
    ∃ setting, front.getLast? = some (.option (.setting setting)) := by
  rcases List.eq_nil_or_concat front with rfl | ⟨init, last, rfl⟩
  · cases h
    exact absurd hopen (not_isOpen_of_waiting rfl)
  · rw [List.concat_eq_append] at h hsep ⊢
    rw [List.foldlM_append] at h
    obtain ⟨next, -, h⟩ := exists_of_bind_eq_ok h
    rw [List.foldlM_cons] at h
    obtain ⟨taken, htake, h⟩ := exists_of_bind_eq_ok h
    cases h
    have hne : last ≠ .separator := by
      rintro rfl
      exact hsep (by simp)
    obtain ⟨setting, rfl⟩ := eq_setting_of_isOpen htake hopen hne
    exact ⟨setting, by simp⟩

/-- A counter that does not stand in front of the value of a setting is all that differs. -/
theorem alike_of_not_isOpen (hopen : ¬ s.IsOpen) (counter : Counter) (back : List Reading) :
    Alike (Counted counter) (takeAll tool s back)
      (takeAll tool s (.option (.counter counter) :: back)) := by
  apply (takeAll_settle hopen back).trans_eq
  rw [takeAll_cons, take, meet, bind_assoc]
  apply Alike.bind_self
  intro settled _
  have hcounted : Counted counter settled
      { settled with request := settled.request.count counter, lastCounter := some counter } :=
    ⟨rfl, rfl, rfl⟩
  exact hcounted.takeAll back

theorem takeAll_of_isOpen (hopen : s.IsOpen) (opt : Opt) (back : List Reading) :
    ∃ e, takeAll tool s (.option opt :: back) = .error (.usage e) := by
  obtain ⟨setting, hwaiting⟩ := hopen
  refine ⟨.missingValue setting, ?_⟩
  rw [takeAll_cons, take, meet, settle, hwaiting]
  rfl

theorem alike_of_insertion {front : List Reading} (hsep : .separator ∉ front)
    (hlast : ∀ setting, front.getLast? ≠ some (.option (.setting setting))) (counter : Counter)
    (back : List Reading) :
    Alike (Counted counter) (takeAll tool {} (front ++ back))
      (takeAll tool {} (front ++ .option (.counter counter) :: back)) := by
  rw [takeAll_append, takeAll_append]
  apply Alike.bind_self
  intro s hfront
  apply alike_of_not_isOpen
  intro hopen
  obtain ⟨setting, hsetting⟩ := getLast?_of_isOpen hfront hopen hsep
  exact hlast setting hsetting

/-- A counter in front of the value of a setting is refused, wherever it stands. -/
theorem alike_or_refused (front : List Reading) (counter : Counter) (back : List Reading) :
    Alike (Counted counter) (takeAll tool {} (front ++ back))
        (takeAll tool {} (front ++ .option (.counter counter) :: back)) ∨
      ∃ e, takeAll tool {} (front ++ .option (.counter counter) :: back) = .error (.usage e) := by
  rw [takeAll_append, takeAll_append]
  cases hfront : front.foldlM (take tool) {} with
  | error stop => exact .inl (Alike.bind_self _ fun _ h => nomatch h)
  | ok s =>
      by_cases hopen : s.IsOpen
      · exact .inr (takeAll_of_isOpen hopen _ back)
      · exact .inl (alike_of_not_isOpen hopen counter back)

end Scan

end BusStatus.Cli
