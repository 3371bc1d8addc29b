import BusStatus.Proofs.Word.Literal

/-!
# Why a text is refused

A refusal is found from outside in, and of two faults in the digits the one met first decides.
-/

namespace BusStatus

open Text (Radix Trimmed trim)
open Text.Unsigned (Overflows limit limit_pos)

namespace Literal

/-! ## The reasons -/

def SignInFront (cs : List Char) : Prop :=
  cs.head? = some '+' ∨ cs.head? = some '-'

/-- A separator stands at an end or beside another one. -/
def SeparatorMisplaced (cs : List Char) : Prop :=
  cs.head? = some '_' ∨ cs.getLast? = some '_' ∨ ['_', '_'] <:+: cs

/-- There is something to read, without a sign and with every separator between two characters. -/
structure Placed (cs : List Char) : Prop where
  ne_nil : cs ≠ []
  no_sign : ¬ SignInFront cs
  separators : ¬ SeparatorMisplaced cs

/-- Some digits in front have a value of more than 64 bits. -/
def PrefixTooLarge (r : Radix) (cs : List Char) : Prop :=
  ∃ front ds, front <+: cs ∧ List.Forall₂ r.IsDigit front ds ∧ 2 ^ 64 ≤ r.positional ds

/-- The text behind the radix prefix is refused for this reason. -/
inductive DigitsRefused (r : Radix) (cs : List Char) : String → Prop where
  | noDigits (h : cs = []) : DigitsRefused r cs "no digits"
  | sign (h : SignInFront cs) : DigitsRefused r cs "unexpected sign"
  | separator (hne : cs ≠ []) (hsign : ¬ SignInFront cs) (h : SeparatorMisplaced cs) :
      DigitsRefused r cs "misplaced '_' separator"
  | tooLarge (hplaced : Placed cs) (h : PrefixTooLarge r (cs.filter (· != '_'))) :
      DigitsRefused r cs "number too large to fit in target type"
  | noDigit (hplaced : Placed cs) (hsmall : ¬ PrefixTooLarge r (cs.filter (· != '_')))
      (h : ∃ c ∈ cs.filter (· != '_'), ∀ d, ¬ r.IsDigit c d) :
      DigitsRefused r cs "invalid digit found in string"
  | tooWide {ds} (hplaced : Placed cs) (hds : List.Forall₂ r.IsDigit (cs.filter (· != '_')) ds)
      (hwide : 65536 ≤ r.positional ds) (hlimit : r.positional ds < 2 ^ 64) :
      DigitsRefused r cs
        (Text.decimal (r.positional ds) ++ " does not fit in a 16-bit status word")

/-- The text is these digits of this radix behind its prefix, or has no prefix and is decimal. -/
inductive Prefixed : List Char → Radix → List Char → Prop where
  | letter {r letter digits} (h : letter ∈ radixLetters r) :
      Prefixed ('0' :: letter :: digits) r digits
  | none {cs} (h : ∀ r letter digits, letter ∈ radixLetters r → cs ≠ '0' :: letter :: digits) :
      Prefixed cs .decimal cs

/-- Between the blanks and behind a plus sign, if one is there, the text has this body. -/
inductive Body (cs : List Char) : List Char → Prop where
  | plus {body} (h : Trimmed cs ('+' :: body)) : Body cs body
  | plain {body} (h : Trimmed cs body) (hplus : body.head? ≠ some '+') : Body cs body

/-- The text is refused for this reason. -/
inductive Refused (cs : List Char) : String → Prop where
  | negative {body} (hbody : Body cs body) (h : body.head? = some '-') :
      Refused cs "status words cannot be negative"
  | digits {body r digits reason} (hbody : Body cs body) (hminus : body.head? ≠ some '-')
      (hsplit : Prefixed body r digits) (h : DigitsRefused r digits reason) : Refused cs reason

/-! ## Signs and separators -/

theorem hasDoubleSeparator_iff {cs : List Char} :
    hasDoubleSeparator cs = true ↔ ['_', '_'] <:+: cs := by
  induction cs using hasDoubleSeparator.induct with
  | case1 rest => simp [hasDoubleSeparator, List.infix_cons_iff]
  | case2 c cs hpair ih =>
      rw [hasDoubleSeparator.eq_2 c cs hpair, ih, List.infix_cons_iff]
      refine (or_iff_right ?_).symm
      rintro ⟨rest, hrest⟩
      obtain ⟨rfl, rfl⟩ := List.cons.inj hrest
      exact hpair rest rfl rfl
  | case3 => simp [hasDoubleSeparator]

theorem head?_any_isSign_iff {cs : List Char} : cs.head?.any isSign = true ↔ SignInFront cs := by
  cases cs with
  | nil => simp [SignInFront]
  | cons c cs => simp [SignInFront, isSign]

theorem separatorMisplaced_iff {cs : List Char} :
    (cs.head? == some '_' || cs.getLast? == some '_' || hasDoubleSeparator cs) = true ↔
      SeparatorMisplaced cs := by
  simp only [Bool.or_eq_true, beq_iff_eq, hasDoubleSeparator_iff, SeparatorMisplaced, or_assoc]

theorem Placed.separated {cs : List Char} (h : Placed cs) : Separated cs :=
  (separated_iff h.ne_nil).mpr (eq_false_of_ne_true (separatorMisplaced_iff.not.mpr h.separators))

theorem Placed.head?_any_isSign {cs : List Char} (h : Placed cs) :
    cs.head?.any isSign = false :=
  eq_false_of_ne_true (head?_any_isSign_iff.not.mpr h.no_sign)

theorem Placed.filter_ne_nil {cs : List Char} (h : Placed cs) : cs.filter (· != '_') ≠ [] := by
  cases cs with
  | nil => exact absurd rfl h.ne_nil
  | cons c cs =>
      rw [filter_cons_of_ne h.separated.uncons.1]
      exact List.cons_ne_nil _ _

theorem dropSeparators_of_sign {cs : List Char} (h : SignInFront cs) :
    dropSeparators cs = .error .unexpectedSign := by
  have hne : ¬ cs.isEmpty = true := by
    rintro hnil
    obtain rfl := List.isEmpty_iff.mp hnil
    rcases h with h | h <;> cases h
  rw [dropSeparators, if_neg hne, if_pos (head?_any_isSign_iff.mpr h)]

theorem dropSeparators_of_misplaced {cs : List Char} (hne : cs ≠ []) (hsign : ¬ SignInFront cs)
    (h : SeparatorMisplaced cs) : dropSeparators cs = .error .misplacedSeparator := by
  rw [dropSeparators, if_neg (List.isEmpty_iff.not.mpr hne),
    if_neg (head?_any_isSign_iff.not.mpr hsign), if_pos (separatorMisplaced_iff.mpr h)]

theorem readDigits_of_dropSeparators (r : Radix) {cs : List Char} {fault : LiteralFault}
    (h : dropSeparators cs = .error fault) : readDigits r cs = .error fault := by
  rw [readDigits, h]
  rfl

/-! ## Digits -/

theorem overflows_zero_iff {r : Radix} {cs : List Char} :
    Overflows r 0 cs ↔ PrefixTooLarge r cs := by
  have hlimit : limit = 2 ^ 64 := rfl
  simp only [Overflows, PrefixTooLarge, Nat.zero_mul, Nat.zero_add, hlimit]

theorem narrow_eq_error_iff {n : Nat} {fault : LiteralFault} :
    narrow n = .error fault ↔ 65536 ≤ n ∧ fault = .tooWide n := by
  unfold narrow
  split
  · rename_i hn
    simp only [UInt16.size] at hn
    constructor
    · intro h; cases h
    · rintro ⟨hle, -⟩; omega
  · rename_i hn
    simp only [UInt16.size] at hn
    constructor
    · intro h; cases h; exact ⟨by omega, rfl⟩
    · rintro ⟨-, rfl⟩; rfl

theorem reason_tooWide (n : Nat) :
    (LiteralFault.tooWide n).reason =
      Text.decimal n ++ " does not fit in a 16-bit status word" := by
  have hbits : Text.decimal Word.bits = "16" := by
    simp [Text.decimal, Radix.digits, Word.bits, Radix.base, Radix.digitChar]
  rw [LiteralFault.reason, hbits, String.append_assoc, String.append_assoc]
  rfl

theorem Placed.readDigits_eq {cs : List Char} (h : Placed cs) (r : Radix) :
    readDigits r cs =
      match Text.Unsigned.readDigits r 0 (cs.filter (· != '_')) with
      | .error fault => .error (.integer fault)
      | .ok n => narrow n :=
  readDigits_of_separated r h.separated h.head?_any_isSign

theorem DigitsRefused.exists_fault {r : Radix} {cs : List Char} {reason : String}
    (h : DigitsRefused r cs reason) :
    ∃ fault, readDigits r cs = .error fault ∧ fault.reason = reason := by
  cases h with
  | noDigits h => exact ⟨.noDigits, by rw [h]; rfl, rfl⟩
  | sign h =>
      exact ⟨.unexpectedSign, readDigits_of_dropSeparators r (dropSeparators_of_sign h), rfl⟩
  | separator hne hsign h =>
      exact ⟨.misplacedSeparator,
        readDigits_of_dropSeparators r (dropSeparators_of_misplaced hne hsign h), rfl⟩
  | tooLarge hplaced h =>
      have hread := (Text.Unsigned.readDigits_eq_tooLarge_iff limit_pos).mpr
        (overflows_zero_iff.mpr h)
      exact ⟨.integer .tooLarge, by rw [hplaced.readDigits_eq, hread], rfl⟩
  | noDigit hplaced hsmall h =>
      have hread := (Text.Unsigned.readDigits_eq_invalidDigit_iff limit_pos).mpr
        ⟨overflows_zero_iff.not.mpr hsmall, h⟩
      exact ⟨.integer .invalidDigit, by rw [hplaced.readDigits_eq, hread], rfl⟩
  | @tooWide ds hplaced hds hwide hlimit =>
      have hread := Text.Unsigned.readDigits_zero_eq_ok_iff.mpr ⟨ds, hds, rfl, hlimit⟩
      refine ⟨.tooWide (r.positional ds), ?_, reason_tooWide _⟩
      rw [hplaced.readDigits_eq, hread]
      exact narrow_eq_error_iff.mpr ⟨hwide, rfl⟩

theorem Placed.digitsRefused {r : Radix} {cs : List Char} {fault : LiteralFault}
    (hplaced : Placed cs) (h : readDigits r cs = .error fault) :
    DigitsRefused r cs fault.reason := by
  rw [hplaced.readDigits_eq] at h
  split at h
  · rename_i kind hread
    obtain rfl := Except.error.inj h
    cases kind with
    | empty => exact absurd hread (Text.Unsigned.readDigits_ne_empty r 0 _)
    | invalidDigit =>
        obtain ⟨hsmall, hdigit⟩ :=
          (Text.Unsigned.readDigits_eq_invalidDigit_iff limit_pos).mp hread
        exact .noDigit hplaced (overflows_zero_iff.not.mp hsmall) hdigit
    | tooLarge =>
        have hover := (Text.Unsigned.readDigits_eq_tooLarge_iff limit_pos).mp hread
        exact .tooLarge hplaced (overflows_zero_iff.mp hover)
  · rename_i n hread
    obtain ⟨ds, hds, rfl, hlimit⟩ := Text.Unsigned.readDigits_zero_eq_ok_iff.mp hread
    obtain ⟨hwide, rfl⟩ := narrow_eq_error_iff.mp h
    rw [reason_tooWide]
    exact .tooWide hplaced hds hwide hlimit

theorem digitsRefused_of_readDigits {r : Radix} {cs : List Char} {fault : LiteralFault}
    (h : readDigits r cs = .error fault) : DigitsRefused r cs fault.reason := by
  by_cases hne : cs = []
  · obtain rfl := hne
    cases h
    exact .noDigits rfl
  by_cases hsign : SignInFront cs
  · rw [readDigits_of_dropSeparators r (dropSeparators_of_sign hsign)] at h
    cases h
    exact .sign hsign
  by_cases hplaces : SeparatorMisplaced cs
  · rw [readDigits_of_dropSeparators r (dropSeparators_of_misplaced hne hsign hplaces)] at h
    cases h
    exact .separator hne hsign hplaces
  · exact Placed.digitsRefused ⟨hne, hsign, hplaces⟩ h

/-! ## Prefix, sign and blanks -/

theorem prefixed_iff {cs digits : List Char} {r : Radix} :
    Prefixed cs r digits ↔ splitRadix cs = (r, digits) := by
  constructor
  · intro h
    cases h with
    | letter hletter => exact splitRadix_of_letter hletter _
    | none hnone =>
        rcases splitRadix_cases cs with ⟨r, letter, rest, hcs, hletter, -⟩ | hsplit
        · exact absurd hcs (hnone r letter rest hletter)
        · exact hsplit
  · intro h
    rcases splitRadix_cases cs with ⟨r', letter, rest, rfl, hletter, hsplit⟩ | hsplit
    · rw [hsplit] at h
      cases h
      exact .letter hletter
    · rw [hsplit] at h
      cases h
      refine .none fun r letter rest hletter hcs => ?_
      obtain rfl := hcs
      rw [splitRadix_of_letter hletter] at hsplit
      have hlength := congrArg List.length (Prod.mk.inj hsplit).2
      simp only [List.length_cons] at hlength
      omega

theorem dropPlus_of_head?_ne {cs : List Char} (h : cs.head? ≠ some '+') : dropPlus cs = cs := by
  unfold dropPlus
  split
  · exact absurd rfl h
  · rfl

theorem body_iff {cs body : List Char} : Body cs body ↔ dropPlus (trim cs) = body := by
  constructor
  · intro h
    cases h with
    | plus htrimmed => rw [Text.trim_eq_iff.mpr htrimmed]; rfl
    | plain htrimmed hplus => rw [Text.trim_eq_iff.mpr htrimmed, dropPlus_of_head?_ne hplus]
  · rintro rfl
    have htrimmed : Trimmed cs (trim cs) := Text.trim_eq_iff.mp rfl
    by_cases hplus : (trim cs).head? = some '+'
    · obtain ⟨rest, hrest⟩ := List.head?_eq_some_iff.mp hplus
      rw [hrest] at htrimmed ⊢
      exact .plus htrimmed
    · rw [dropPlus_of_head?_ne hplus]
      exact .plain htrimmed hplus

theorem refused_iff {cs : List Char} {reason : String} :
    Refused cs reason ↔ ∃ fault, read cs = .error fault ∧ fault.reason = reason := by
  constructor
  · intro h
    cases h with
    | negative hbody hminus =>
        refine ⟨.negative, ?_, rfl⟩
        rw [read, body_iff.mp hbody, readUnsigned, if_pos (by simpa using hminus)]
    | digits hbody hminus hsplit hdigits =>
        obtain ⟨fault, hread, hreason⟩ := hdigits.exists_fault
        refine ⟨fault, ?_, hreason⟩
        rw [read, body_iff.mp hbody, readUnsigned_of_splitRadix hminus (prefixed_iff.mp hsplit),
          hread]
  · rintro ⟨fault, hread, rfl⟩
    have hbody : Body cs (dropPlus (trim cs)) := body_iff.mpr rfl
    by_cases hminus : (dropPlus (trim cs)).head? = some '-'
    · rw [read, readUnsigned, if_pos (by simpa using hminus)] at hread
      cases hread
      exact .negative hbody hminus
    · rw [read, readUnsigned_of_splitRadix hminus rfl] at hread
      exact .digits hbody hminus (prefixed_iff.mpr rfl) (digitsRefused_of_readDigits hread)

theorem Refused.ne_empty {cs : List Char} {reason : String} (h : Refused cs reason) :
    reason ≠ "cannot parse integer from empty string" := by
  cases h with
  | negative => decide
  | digits _ _ _ h =>
      cases h with
      | tooWide =>
          intro heq
          have hlast := congrArg (fun s => s.toList.getLast?) heq
          simp [List.getLast?_append] at hlast
      | _ => decide

end Literal

/-- A text is refused exactly when a reason holds of it, and is given back whole with that reason. -/
theorem Word.parse_eq_error_iff (input : String) :
    (∀ fault, Word.parse input = .error fault ↔
      ∃ reason, Literal.Refused input.toList reason ∧ fault = .invalidNumber input reason) ∧
    ¬ Literal.Refused input.toList "cannot parse integer from empty string" ∧
    ∀ digits, ¬ (Literal.Placed digits ∧ digits.filter (· != '_') = []) := by
  refine ⟨fun fault => ?_, fun h => h.ne_empty rfl, fun digits h => h.1.filter_ne_nil h.2⟩
  simp only [Literal.refused_iff]
  unfold Word.parse
  split
  · rename_i w hread
    rw [hread]
    constructor
    · intro h; cases h
    · rintro ⟨reason, ⟨kind, hkind, -⟩, -⟩
      cases hkind
  · rename_i kind hread
    rw [hread]
    constructor
    · intro h; cases h; exact ⟨kind.reason, ⟨kind, rfl, rfl⟩, rfl⟩
    · rintro ⟨reason, ⟨kind', hkind, rfl⟩, rfl⟩
      cases hkind
      rfl

-- The value is too large before the letter is met.
example : Word.parse "+99999999999999999999_x" =
    .error (.invalidNumber "+99999999999999999999_x" "number too large to fit in target type") := by
  decide

end BusStatus
