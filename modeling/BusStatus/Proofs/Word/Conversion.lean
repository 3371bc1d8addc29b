import BusStatus.Proofs.Text.Cut
import BusStatus.Proofs.Word.Respelling

/-!
# What is handed over to be converted

The conversion of the digits is left open here and a cut may fail, so that it can be told what any
conversion is given.
-/

namespace BusStatus

open Text (Radix IntegerFault cut? trim)

namespace Literal

/-! ## The prefix by its bytes -/

def radixOfPrefix? : List Char → Option Radix
  | ['0', 'x'] => some .hexadecimal
  | ['0', 'o'] => some .octal
  | ['0', 'b'] => some .binary
  | _ => none

/-- The radix that the first two bytes choose, if the text can be cut behind them. -/
def prefixRadix? (literal : String) : Option Radix :=
  (cut? literal 2).bind fun parts => radixOfPrefix? (parts.1.toList.map Char.toLower)

/-- Takes a prefix off by cutting the text behind two bytes; there is no result where it cannot be cut. -/
def splitPrefix? (literal : String) : Option (Radix × String) :=
  match prefixRadix? literal with
  | some r => (cut? literal 2).map fun parts => (r, parts.2)
  | none => some (.decimal, literal)

theorem exists_of_radixOfPrefix? {cs : List Char} {r : Radix} (h : radixOfPrefix? cs = some r) :
    ∃ letter, cs = ['0', letter] ∧ radixOfLetter? letter = some r := by
  unfold radixOfPrefix? at h
  split at h
  · exact ⟨'x', rfl, h⟩
  · exact ⟨'o', rfl, h⟩
  · exact ⟨'b', rfl, h⟩
  · cases h

theorem radixOfPrefix?_map_toLower {cs : List Char} {r : Radix} :
    radixOfPrefix? (cs.map Char.toLower) = some r ↔ ∃ letter ∈ radixLetters r, cs = ['0', letter] := by
  constructor
  · intro h
    obtain ⟨letter, hcs, hletter⟩ := exists_of_radixOfPrefix? h
    obtain ⟨first, rest, rfl, hfirst, hrest⟩ := List.map_eq_cons_iff.mp hcs
    obtain ⟨second, tail, rfl, rfl, htail⟩ := List.map_eq_cons_iff.mp hrest
    obtain rfl := List.map_eq_nil_iff.mp htail
    obtain rfl := (Text.toLower_eq_iff (by decide) first).mp hfirst
    rw [radixOfLetter?_toLower] at hletter
    exact ⟨second, radixOfLetter?_eq_some_iff.mp hletter, rfl⟩
  · rintro ⟨letter, hletter, rfl⟩
    have every : (radixLetters r).all
        (fun letter => radixOfPrefix? (['0', letter].map Char.toLower) == some r) = true := by
      cases r <;> decide
    exact beq_iff_eq.mp (List.all_eq_true.mp every letter hletter)

theorem cut?_of_letter {r : Radix} {letter : Char} (h : letter ∈ radixLetters r) (cs : List Char) :
    cut? (String.ofList ('0' :: letter :: cs)) 2 =
      some (String.ofList ['0', letter], String.ofList cs) := by
  have every : (radixLetters r).all
      (fun letter => (String.ofList ['0', letter]).utf8ByteSize == 2) = true := by
    cases r <;> decide
  refine Text.cut?_eq_some_iff.mpr ⟨?_, beq_iff_eq.mp (List.all_eq_true.mp every letter h)⟩
  rw [← String.ofList_append, List.cons_append, List.cons_append, List.nil_append]

theorem prefixRadix?_eq_some_iff {literal : String} {r : Radix} :
    prefixRadix? literal = some r ↔
      ∃ letter ∈ radixLetters r, ∃ cs, literal = String.ofList ('0' :: letter :: cs) := by
  constructor
  · intro h
    obtain ⟨⟨front, back⟩, hcut, hradix⟩ := Option.bind_eq_some_iff.mp h
    obtain ⟨letter, hletter, hfront⟩ := radixOfPrefix?_map_toLower.mp hradix
    obtain ⟨rfl, -⟩ := Text.cut?_eq_some_iff.mp hcut
    refine ⟨letter, hletter, back.toList, String.toList_inj.mp ?_⟩
    rw [String.toList_append, String.toList_ofList, hfront, List.cons_append, List.cons_append,
      List.nil_append]
  · rintro ⟨letter, hletter, cs, rfl⟩
    rw [prefixRadix?, cut?_of_letter hletter, Option.bind_some, String.toList_ofList]
    exact radixOfPrefix?_map_toLower.mpr ⟨letter, hletter, rfl⟩

/-- The prefix that is taken off by its bytes is the one taken off by its characters. -/
theorem splitPrefix?_ofList (cs : List Char) :
    splitPrefix? (String.ofList cs) = some ((splitRadix cs).1, String.ofList (splitRadix cs).2) := by
  have hprefixed : Prefixed cs (splitRadix cs).1 (splitRadix cs).2 := prefixed_iff.mpr rfl
  generalize (splitRadix cs).1 = r at hprefixed ⊢
  generalize (splitRadix cs).2 = digits at hprefixed ⊢
  cases hprefixed with
  | @letter _ letter _ hletter =>
      have hradix : prefixRadix? (String.ofList ('0' :: letter :: digits)) = some r :=
        prefixRadix?_eq_some_iff.mpr ⟨letter, hletter, digits, rfl⟩
      rw [splitPrefix?, hradix, cut?_of_letter hletter]
      rfl
  | none hnone =>
      cases hradix : prefixRadix? (String.ofList cs) with
      | none => rw [splitPrefix?, hradix]
      | some r =>
          obtain ⟨letter, hletter, rest, hcs⟩ := prefixRadix?_eq_some_iff.mp hradix
          exact absurd (String.ofList_injective hcs) (hnone r letter rest hletter)

/-! ## Reading with an open conversion -/

abbrev Conversion := Radix → List Char → Except IntegerFault Nat

def convertWith (convert : Conversion) : Radix × List Char → Except LiteralFault Word
  | (r, digits) =>
      match convert r digits with
      | .error fault => .error (.integer fault)
      | .ok n => narrow n

def readUnsignedWith (convert : Conversion) (cs : List Char) : Option (Except LiteralFault Word) :=
  if cs.head? == some '-' then some (.error .negative)
  else
    (splitPrefix? (String.ofList cs)).map fun parts => do
      let digits ← dropSeparators parts.2.toList
      convertWith convert (parts.1, digits)

/-- Reads a literal with this conversion; there is no result where a text cannot be cut. -/
def readWith (convert : Conversion) (cs : List Char) : Option (Except LiteralFault Word) :=
  readUnsignedWith convert (dropPlus (trim cs))

/-- The radix and the digits that are handed over, unless a fault is found before. -/
def prepareUnsigned (cs : List Char) : Except LiteralFault (Radix × List Char) :=
  if cs.head? == some '-' then .error .negative
  else do
    let digits ← dropSeparators (splitRadix cs).2
    return ((splitRadix cs).1, digits)

def prepare (cs : List Char) : Except LiteralFault (Radix × List Char) :=
  prepareUnsigned (dropPlus (trim cs))

theorem readUnsignedWith_eq (convert : Conversion) (cs : List Char) :
    readUnsignedWith convert cs = some (prepareUnsigned cs >>= convertWith convert) := by
  unfold readUnsignedWith prepareUnsigned
  split
  · rfl
  · rw [splitPrefix?_ofList, Option.map_some, String.toList_ofList]
    cases dropSeparators (splitRadix cs).2 <;> rfl

theorem readUnsigned_eq_prepare (cs : List Char) :
    readUnsigned cs = prepareUnsigned cs >>= convertWith Text.Unsigned.read := by
  unfold readUnsigned prepareUnsigned
  split
  · rfl
  · change readDigits (splitRadix cs).1 (splitRadix cs).2 = _
    rw [readDigits]
    cases dropSeparators (splitRadix cs).2 <;> rfl

theorem readWith_eq (convert : Conversion) (cs : List Char) :
    readWith convert cs = some (prepare cs >>= convertWith convert) :=
  readUnsignedWith_eq convert _

theorem readWith_read (cs : List Char) : readWith Text.Unsigned.read cs = some (read cs) := by
  rw [readWith_eq, read, readUnsigned_eq_prepare, prepare]

/-! ## What is handed over -/

/-- The text holds something to convert, and neither a separator nor a sign in front. -/
structure Convertible (digits : List Char) : Prop where
  ne_nil : digits ≠ []
  no_separator : '_' ∉ digits
  no_sign : ¬ SignInFront digits

theorem convertible_of_dropSeparators {cs digits : List Char} (h : dropSeparators cs = .ok digits) :
    Convertible digits := by
  obtain ⟨hcs, hsign, rfl⟩ := dropSeparators_eq_ok_iff.mp h
  cases cs with
  | nil => exact absurd rfl hcs.ne_nil
  | cons c cs =>
      -- The first character is no separator, so it is still the first when these are dropped.
      refine ⟨?_, by simp, ?_⟩
      · rw [filter_cons_of_ne hcs.uncons.1]
        exact List.cons_ne_nil c _
      · rw [filter_cons_of_ne hcs.uncons.1, ← head?_any_isSign_iff]
        exact ne_true_of_eq_false hsign

theorem convertible_of_prepare {cs digits : List Char} {r : Radix} (h : prepare cs = .ok (r, digits)) :
    Convertible digits := by
  unfold prepare prepareUnsigned at h
  split at h
  · cases h
  · generalize (splitRadix (dropPlus (trim cs))).2 = text at h
    cases hdrop : dropSeparators text with
    | error fault => rw [hdrop] at h; cases h
    | ok digits =>
        rw [hdrop] at h
        cases h
        exact convertible_of_dropSeparators hdrop

theorem Convertible.read_eq {digits : List Char} (h : Convertible digits) (r : Radix) :
    Text.Unsigned.read r digits = Text.Unsigned.readDigits r 0 digits := by
  cases digits with
  | nil => exact absurd rfl h.ne_nil
  | cons c digits =>
      have hplus : c ≠ '+' := by
        rintro rfl
        exact h.no_sign (.inl rfl)
      exact Text.Unsigned.read_cons hplus r digits

end Literal

/-- Reads a status word with this conversion; there is no result where a text cannot be cut. -/
def Word.parseWith (convert : Literal.Conversion) (input : String) :
    Option (Except StatusError Word) :=
  (Literal.readWith convert input.toList).map
    (Except.mapError fun fault => .invalidNumber input fault.reason)

theorem Word.parse_eq_mapError (input : String) :
    Word.parse input =
      (Literal.read input.toList).mapError fun fault => .invalidNumber input fault.reason := by
  unfold Word.parse
  split
  · rename_i hread
    rw [hread]
    rfl
  · rename_i hread
    rw [hread]
    rfl

/-- No cut fails, and any conversion is given digits alone, without a sign and without separators. -/
theorem Word.converted_are_digits (input : String) :
    Word.parseWith Text.Unsigned.read input = some (Word.parse input) ∧
    (∀ convert, Literal.readWith convert input.toList =
      some (Literal.prepare input.toList >>= Literal.convertWith convert)) ∧
    (∀ r digits, Literal.prepare input.toList = .ok (r, digits) →
      digits ≠ [] ∧ '_' ∉ digits ∧ digits.head? ≠ some '+' ∧ digits.head? ≠ some '-' ∧
      r.base ∈ [2, 8, 10, 16] ∧
      Text.Unsigned.read r digits = Text.Unsigned.readDigits r 0 digits ∧
      Text.Unsigned.read r digits ≠ .error .empty) ∧
    ∀ literal : String,
      (∀ r, Literal.prefixRadix? literal = some r → (⟨2⟩ : String.Pos.Raw).IsValid literal) ∧
      Literal.splitPrefix? literal = some ((Literal.splitRadix literal.toList).1,
        String.ofList (Literal.splitRadix literal.toList).2) := by
  refine ⟨?_, fun convert => Literal.readWith_eq convert _, fun r digits hprepare => ?_,
    fun literal => ⟨fun r hradix => ?_, ?_⟩⟩
  · rw [Word.parseWith, Literal.readWith_read, Option.map_some, Word.parse_eq_mapError]
  · have hdigits := Literal.convertible_of_prepare hprepare
    obtain ⟨hplus, hminus⟩ := not_or.mp hdigits.no_sign
    refine ⟨hdigits.ne_nil, hdigits.no_separator, hplus, hminus, by cases r <;> decide,
      hdigits.read_eq r, ?_⟩
    rw [hdigits.read_eq r]
    exact Text.Unsigned.readDigits_ne_empty r 0 digits
  · obtain ⟨parts, hcut, -⟩ := Option.bind_eq_some_iff.mp hradix
    exact Text.isValid_of_cut? hcut
  · have hsplit := Literal.splitPrefix?_ofList literal.toList
    rwa [String.ofList_toList] at hsplit

/-- Digits behind a plus sign and a prefix, and a prefix in front of a wide character. -/
theorem Word.converted_are_digits_prefixed :
    Literal.prepare " +0B1_01".toList = .ok (.binary, ['1', '0', '1']) ∧
      Text.Unsigned.read .binary ['1', '0', '1'] = Text.Unsigned.readDigits .binary 0 ['1', '0', '1'] ∧
      Literal.prefixRadix? "0X\u00E9" = some .hexadecimal ∧
      (⟨2⟩ : String.Pos.Raw).IsValid "0X\u00E9" := by
  obtain ⟨-, -, hhanded, hcut⟩ := Word.converted_are_digits " +0B1_01"
  have hprepare : Literal.prepare " +0B1_01".toList = .ok (.binary, ['1', '0', '1']) := by decide
  have hradix : Literal.prefixRadix? "0X\u00E9" = some .hexadecimal := by decide +kernel
  obtain ⟨-, -, -, -, -, hread, -⟩ := hhanded _ _ hprepare
  exact ⟨hprepare, hread, hradix, (hcut _).1 _ hradix⟩

end BusStatus
