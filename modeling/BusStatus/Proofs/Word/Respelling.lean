import BusStatus.Proofs.Text.Digits
import BusStatus.Proofs.Text.LetterCase
import BusStatus.Proofs.Word.Refusal
import Mathlib.Logic.Relation

/-!
# Spellings that make no difference

Blanks, letter case, separators, zeros and a plus sign can be changed without a change to what comes of
a text. Each way is settled at the stage of the reader that it concerns.
-/

namespace BusStatus

open Text (Radix isBlank trim)

namespace Literal

/-! ## The parts of a text -/

/-- Blanks, sign and prefix as far as they are there, what stands behind these, and blanks. -/
structure Parts where
  front : List Char
  sign : List Char
  radixPrefix : List Char
  radix : Radix
  digits : List Char
  back : List Char

namespace Parts

def middle (parts : Parts) : List Char :=
  parts.sign ++ (parts.radixPrefix ++ parts.digits)

def text (parts : Parts) : List Char :=
  parts.front ++ parts.middle ++ parts.back

def withDigits (parts : Parts) (digits : List Char) : Parts :=
  { parts with digits := digits }

/-- Every part is as long as it can be, and the prefix is taken off where one stands. -/
structure WellFormed (parts : Parts) : Prop where
  front_blank : ∀ c ∈ parts.front, isBlank c
  back_blank : ∀ c ∈ parts.back, isBlank c
  first : ∀ c, parts.middle.head? = some c → isBlank c = false
  last : ∀ c, parts.middle.getLast? = some c → isBlank c = false
  sign_mem : parts.sign ∈ [[], ['+'], ['-'], ['+', '-']]
  plus : parts.sign = [] → (parts.radixPrefix ++ parts.digits).head? ≠ some '+'
  prefixed : Prefixed (parts.radixPrefix ++ parts.digits) parts.radix parts.digits

end Parts

/-! ## Respelling -/

/-- The second text is the first in another spelling. -/
inductive Respelled : List Char → List Char → Prop where
  | blanks {front back front' back' cs} (hfront : ∀ c ∈ front, isBlank c)
      (hback : ∀ c ∈ back, isBlank c) (hfront' : ∀ c ∈ front', isBlank c)
      (hback' : ∀ c ∈ back', isBlank c) :
      Respelled (front ++ cs ++ back) (front' ++ cs ++ back')
  | letterCase {cs ds} (h : cs.map Char.toLower = ds.map Char.toLower) : Respelled cs ds
  | separator {parts : Parts} {xs a b ys} (h : parts.WellFormed)
      (hdigits : parts.digits = xs ++ a :: b :: ys) (ha : a ≠ '_') (hb : b ≠ '_') :
      Respelled parts.text (parts.withDigits (xs ++ a :: '_' :: b :: ys)).text
  | zero {parts : Parts} {c cs} (h : parts.WellFormed) (hdigits : parts.digits = c :: cs)
      (hc : c.isDigit) : Respelled parts.text (parts.withDigits ('0' :: c :: cs)).text
  | plus {cs} (hblank : ∀ c, cs.head? = some c → isBlank c = false) (hplus : cs.head? ≠ some '+') :
      Respelled cs ('+' :: cs)

/-! ## Blanks and the plus sign -/

theorem read_blanks {front back : List Char} (hfront : ∀ c ∈ front, isBlank c)
    (hback : ∀ c ∈ back, isBlank c) (cs : List Char) : read (front ++ cs ++ back) = read cs := by
  rw [read, Text.trim_append_right hback, Text.trim_append_left hfront, read]

theorem read_plus {cs : List Char} (hblank : ∀ c, cs.head? = some c → isBlank c = false)
    (hplus : cs.head? ≠ some '+') : read ('+' :: cs) = read cs := by
  have htrim : trim cs = Text.trimRight cs := by
    rw [trim, Text.trimLeft, Text.dropWhile_eq_self hblank]
  have hkept : trim ('+' :: cs) = '+' :: trim cs := by
    rw [htrim]
    exact Text.rdropWhile_cons_of_neg (by decide) cs
  have hhead : (trim cs).head? ≠ some '+' := by
    intro hhead
    obtain ⟨rest, hrest⟩ := List.head?_eq_some_iff.mp hhead
    obtain ⟨back, hback⟩ : trim cs <+: cs := htrim ▸ List.rdropWhile_prefix isBlank cs
    rw [hrest] at hback
    exact hplus (by rw [← hback]; rfl)
  rw [read, hkept, read, dropPlus_of_head?_ne hhead]
  rfl

/-! ## The case of letters -/

theorem dropPlus_map_toLower (cs : List Char) :
    dropPlus (cs.map Char.toLower) = (dropPlus cs).map Char.toLower := by
  cases cs with
  | nil => rfl
  | cons c cs =>
      by_cases hc : c = '+'
      · subst hc
        rfl
      · have hlower : c.toLower ≠ '+' := (Text.toLower_eq_iff (by decide) c).not.mpr hc
        have hplain : dropPlus (c :: cs) = c :: cs := dropPlus_of_head?_ne (by simpa using hc)
        rw [hplain]
        exact dropPlus_of_head?_ne (by simpa using hlower)

theorem radixOfLetter?_toLower (c : Char) : radixOfLetter? c.toLower = radixOfLetter? c :=
  Text.apply_toLower (by decide) c

theorem splitRadix_map_toLower (cs : List Char) :
    splitRadix (cs.map Char.toLower) = ((splitRadix cs).1, (splitRadix cs).2.map Char.toLower) := by
  match cs with
  | [] => rfl
  | [c] => simp [splitRadix]
  | c :: d :: cs =>
      by_cases hc : c = '0'
      · subst hc
        have hzero : Char.toLower '0' = '0' := by decide
        simp only [List.map_cons, hzero, splitRadix, radixOfLetter?_toLower]
        cases radixOfLetter? d with
        | none => simp only [List.map_cons, hzero]
        | some r => rfl
      · have hlower : c.toLower ≠ '0' := (Text.toLower_eq_iff (by decide) c).not.mpr hc
        simp [splitRadix, hc, hlower]

theorem hasDoubleSeparator_map_toLower (cs : List Char) :
    hasDoubleSeparator (cs.map Char.toLower) = hasDoubleSeparator cs := by
  induction cs with
  | nil => rfl
  | cons c cs ih =>
      rw [List.map_cons, hasDoubleSeparator_cons_eq, hasDoubleSeparator_cons_eq, ih, List.head?_map,
        Text.map_toLower_beq (by decide), Text.toLower_beq (by decide)]

theorem dropSeparators_map_toLower (cs : List Char) :
    dropSeparators (cs.map Char.toLower) = (dropSeparators cs).map (List.map Char.toLower) := by
  have hsign (c : Char) : isSign c.toLower = isSign c := Text.apply_toLower (by decide) c
  have hends (c : Option Char) : (c.map Char.toLower == some '_') = (c == some '_') :=
    Text.map_toLower_beq (by decide) c
  have hdigits : (· != '_') ∘ Char.toLower = (· != '_') :=
    funext fun c => Text.apply_toLower (f := (· != '_')) (by decide) c
  unfold dropSeparators
  simp only [List.isEmpty_map, List.head?_map, List.getLast?_map, Option.any_map, hsign,
    hends, hasDoubleSeparator_map_toLower, List.filter_map, hdigits]
  split
  · rfl
  split
  · rfl
  split
  · rfl
  · rfl

theorem readDigits_map_toLower (r : Radix) (cs : List Char) :
    readDigits r (cs.map Char.toLower) = readDigits r cs := by
  rw [readDigits, dropSeparators_map_toLower, readDigits]
  cases dropSeparators cs with
  | error fault => rfl
  | ok digits =>
      have hread := Text.Unsigned.read_map_toLower r digits
      simp only [Except.map, bind, Except.bind, hread]

theorem readUnsigned_map_toLower (cs : List Char) :
    readUnsigned (cs.map Char.toLower) = readUnsigned cs := by
  rw [readUnsigned, List.head?_map, Text.map_toLower_beq (by decide), splitRadix_map_toLower,
    readUnsigned]
  simp only [readDigits_map_toLower]

theorem read_map_toLower (cs : List Char) : read (cs.map Char.toLower) = read cs := by
  rw [read, Text.trim_map_toLower, dropPlus_map_toLower, readUnsigned_map_toLower, read]

/-! ## One separator more -/

theorem hasDoubleSeparator_insert {a b : Char} (ha : a ≠ '_') (hb : b ≠ '_') (xs ys : List Char) :
    hasDoubleSeparator (xs ++ a :: '_' :: b :: ys) = hasDoubleSeparator (xs ++ a :: b :: ys) := by
  induction xs with
  | nil =>
      have hhead : (b :: ys).head? ≠ some '_' := by simpa using hb
      rw [List.nil_append, List.nil_append, hasDoubleSeparator_cons (.inl ha),
        hasDoubleSeparator_cons (.inr hhead), hasDoubleSeparator_cons (.inl ha)]
  | cons x xs ih =>
      rw [List.cons_append, List.cons_append, hasDoubleSeparator_cons_eq, hasDoubleSeparator_cons_eq,
        ih, List.head?_append, List.head?_append, List.head?_cons, List.head?_cons]

theorem head?_insert (a b : Char) (xs ys : List Char) :
    (xs ++ a :: '_' :: b :: ys).head? = (xs ++ a :: b :: ys).head? := by
  rw [List.head?_append, List.head?_append, List.head?_cons, List.head?_cons]

theorem getLast?_insert (a b : Char) (xs ys : List Char) :
    (xs ++ a :: '_' :: b :: ys).getLast? = (xs ++ a :: b :: ys).getLast? := by
  simp only [List.getLast?_append, List.getLast?_cons_cons]

theorem dropSeparators_insert {a b : Char} (ha : a ≠ '_') (hb : b ≠ '_') (xs ys : List Char) :
    dropSeparators (xs ++ a :: '_' :: b :: ys) = dropSeparators (xs ++ a :: b :: ys) := by
  have hfilter : (xs ++ a :: '_' :: b :: ys).filter (· != '_') =
      (xs ++ a :: b :: ys).filter (· != '_') := by
    rw [List.filter_append, List.filter_append, filter_cons_of_ne ha, filter_cons_of_ne ha,
      filter_separator_cons]
  have hempty (tail : List Char) : (xs ++ a :: tail).isEmpty = false := by
    cases xs <;> rfl
  rw [dropSeparators, dropSeparators, hempty, hempty, head?_insert, getLast?_insert,
    hasDoubleSeparator_insert ha hb, hfilter]

theorem readDigits_insert (r : Radix) {a b : Char} (ha : a ≠ '_') (hb : b ≠ '_')
    (xs ys : List Char) :
    readDigits r (xs ++ a :: '_' :: b :: ys) = readDigits r (xs ++ a :: b :: ys) := by
  rw [readDigits, dropSeparators_insert ha hb, readDigits]

/-! ## One zero more -/

theorem dropSeparators_cons {c : Char} (hsign : isSign c = false) (hc : c ≠ '_') (cs : List Char) :
    dropSeparators (c :: cs) =
      if ((c :: cs).getLast? == some '_' || hasDoubleSeparator cs) = true then
        .error .misplacedSeparator
      else .ok (c :: cs.filter (· != '_')) := by
  have hfirst : ((c :: cs).head? == some '_') = false := by simpa using hc
  have hhead : ¬ (c :: cs).head?.any isSign = true := by simpa using hsign
  rw [dropSeparators, if_neg (by simp), if_neg hhead, hfirst, Bool.false_or,
    hasDoubleSeparator_cons (.inl hc), filter_cons_of_ne hc]

theorem read_zero_cons (r : Radix) {c : Char} (hc : c ≠ '+') (cs : List Char) :
    Text.Unsigned.read r ('0' :: c :: cs) = Text.Unsigned.read r (c :: cs) := by
  have hzero : r.IsDigit '0' 0 := Radix.digit?_eq_some_iff.mp r.digit?_zero
  rw [Text.Unsigned.read_cons (by decide), Text.Unsigned.readDigits_cons_of_isDigit hzero,
    Nat.zero_mul, Nat.zero_add, if_pos Text.Unsigned.limit_pos, Text.Unsigned.read_cons hc]

theorem ne_of_isDigit {c e : Char} (hc : c.isDigit) (he : e.isDigit = false) : c ≠ e := by
  rintro rfl
  rw [he] at hc
  cases hc

theorem readDigits_zero_cons (r : Radix) {c : Char} (hc : c.isDigit) (cs : List Char) :
    readDigits r ('0' :: c :: cs) = readDigits r (c :: cs) := by
  have hseparator : c ≠ '_' := ne_of_isDigit hc rfl
  have hplus : c ≠ '+' := ne_of_isDigit hc rfl
  have hsign : isSign c = false := by
    rw [isSign, Bool.or_eq_false_iff, beq_eq_false_iff_ne, beq_eq_false_iff_ne]
    exact ⟨hplus, ne_of_isDigit hc rfl⟩
  rw [readDigits, readDigits, dropSeparators_cons rfl (by decide), dropSeparators_cons hsign hseparator,
    List.getLast?_cons_cons, hasDoubleSeparator_cons (.inl hseparator), filter_cons_of_ne hseparator]
  split
  · rfl
  · simp only [bind, Except.bind, read_zero_cons r hplus]

/-! ## Reading the parts -/

theorem readUnsigned_of_prefixed {cs digits : List Char} {r : Radix} (h : Prefixed cs r digits) :
    readUnsigned cs = if cs.head? = some '-' then .error .negative else readDigits r digits := by
  split
  · rename_i hminus
    rw [readUnsigned, if_pos (by simpa using hminus)]
  · rename_i hminus
    exact readUnsigned_of_splitRadix hminus (prefixed_iff.mp h)

def Unprefixed (cs : List Char) : Prop :=
  ∀ r letter rest, letter ∈ radixLetters r → cs ≠ '0' :: letter :: rest

theorem Prefixed.cases_append {front digits : List Char} {r : Radix}
    (h : Prefixed (front ++ digits) r digits) :
    (∃ letter ∈ radixLetters r, front = ['0', letter]) ∨
      front = [] ∧ r = .decimal ∧ Unprefixed digits := by
  generalize htext : front ++ digits = cs at h
  cases h with
  | @letter _ letter _ hletter => exact .inl ⟨letter, hletter, List.append_cancel_right htext⟩
  | none hnone => exact .inr ⟨List.append_left_eq_self.mp htext, rfl, hnone⟩

theorem exists_prefixed (cs : List Char) :
    ∃ front r digits, cs = front ++ digits ∧ Prefixed (front ++ digits) r digits := by
  rcases splitRadix_cases cs with ⟨r, letter, digits, rfl, hletter, -⟩ | hsplit
  · exact ⟨['0', letter], r, digits, rfl, .letter hletter⟩
  · exact ⟨[], .decimal, cs, rfl, prefixed_iff.mpr hsplit⟩

theorem Unprefixed.insert {a b : Char} {xs ys : List Char} (h : Unprefixed (xs ++ a :: b :: ys)) :
    Unprefixed (xs ++ a :: '_' :: b :: ys) := by
  intro r letter rest hletter heq
  match xs with
  | [] =>
      -- The second character is the separator, which is no letter of a radix.
      obtain ⟨-, hrest⟩ := List.cons.inj heq
      obtain ⟨rfl, -⟩ := List.cons.inj hrest
      cases r <;> revert hletter <;> decide
  | [x] =>
      obtain ⟨rfl, hrest⟩ := List.cons.inj heq
      obtain ⟨rfl, -⟩ := List.cons.inj hrest
      exact h r a (b :: ys) hletter rfl
  | x :: y :: xs =>
      obtain ⟨rfl, hrest⟩ := List.cons.inj heq
      obtain ⟨rfl, -⟩ := List.cons.inj hrest
      exact h r y (xs ++ a :: b :: ys) hletter rfl

theorem unprefixed_zero {c : Char} (hc : c.isDigit) (cs : List Char) :
    Unprefixed ('0' :: c :: cs) := by
  intro r letter rest hletter heq
  obtain ⟨-, hrest⟩ := List.cons.inj heq
  obtain ⟨rfl, -⟩ := List.cons.inj hrest
  have every : (radixLetters r).all (fun c => !c.isDigit) = true := by cases r <;> decide
  have hnot := List.all_eq_true.mp every c hletter
  rw [hc] at hnot
  cases hnot

namespace Parts

variable {parts : Parts} {ds : List Char}

theorem WellFormed.trim_text (h : parts.WellFormed) : trim parts.text = parts.middle := by
  rw [text, Text.trim_append_right h.back_blank, Text.trim_append_left h.front_blank,
    Text.trim_eq_self h.first h.last]

theorem WellFormed.read_text (h : parts.WellFormed) :
    read parts.text =
      if '-' ∈ parts.sign ∨ (parts.radixPrefix ++ parts.digits).head? = some '-' then
        .error .negative
      else readDigits parts.radix parts.digits := by
  have hunsigned := readUnsigned_of_prefixed h.prefixed
  have hsign := h.sign_mem
  simp only [List.mem_cons, List.not_mem_nil, or_false] at hsign
  rw [read, h.trim_text, middle]
  rcases hsign with hsign | hsign | hsign | hsign
  · rw [hsign, List.nil_append, dropPlus_of_head?_ne (h.plus hsign), hunsigned]
    simp
  · rw [hsign]
    simpa [dropPlus] using hunsigned
  · rw [hsign]
    rfl
  · rw [hsign]
    rfl

/-- Another digit part stands between the same parts if it begins alike or with a zero, ends alike and
has no prefix in front where there was none. -/
theorem WellFormed.withDigits (h : parts.WellFormed)
    (hhead : ds.head? = parts.digits.head? ∨ ds.head? = some '0')
    (hlast : ds.getLast? = parts.digits.getLast?)
    (hnone : Unprefixed parts.digits → Unprefixed ds) : (parts.withDigits ds).WellFormed := by
  have hheads (front : List Char) : (front ++ ds).head? = (front ++ parts.digits).head? ∨
      (front ++ ds).head? = some '0' := by
    rw [List.head?_append, List.head?_append]
    cases front.head? with
    | none => exact hhead
    | some c => exact .inl rfl
  refine ⟨h.front_blank, h.back_blank, fun c hc => ?_, fun c hc => ?_, h.sign_mem, fun hsign => ?_, ?_⟩
  · have hmiddle : (parts.withDigits ds).middle = parts.sign ++ parts.radixPrefix ++ ds :=
      (List.append_assoc ..).symm
    rw [hmiddle] at hc
    rcases hheads (parts.sign ++ parts.radixPrefix) with heq | hzero
    · rw [heq, List.append_assoc] at hc
      exact h.first c hc
    · rw [hzero] at hc
      obtain rfl := Option.some.inj hc
      decide
  · have hends : (parts.withDigits ds).middle.getLast? = parts.middle.getLast? := by
      simp only [middle, Parts.withDigits, List.getLast?_append, hlast]
    rw [hends] at hc
    exact h.last c hc
  · change (parts.radixPrefix ++ ds).head? ≠ some '+'
    rcases hheads parts.radixPrefix with heq | hzero
    · rw [heq]
      exact h.plus hsign
    · rw [hzero]
      decide
  · change Prefixed (parts.radixPrefix ++ ds) parts.radix ds
    rcases h.prefixed.cases_append with ⟨letter, hletter, hfront⟩ | ⟨hfront, hradix, hdigits⟩
    · rw [hfront]
      exact .letter hletter
    · rw [hfront, hradix]
      exact .none (hnone hdigits)

theorem WellFormed.read_withDigits (h : parts.WellFormed) (hds : (parts.withDigits ds).WellFormed)
    (hminus : ds.head? = some '-' ↔ parts.digits.head? = some '-')
    (hread : readDigits parts.radix ds = readDigits parts.radix parts.digits) :
    read (parts.withDigits ds).text = read parts.text := by
  have hhead : (parts.radixPrefix ++ ds).head? = some '-' ↔
      (parts.radixPrefix ++ parts.digits).head? = some '-' := by
    rw [List.head?_append, List.head?_append]
    cases parts.radixPrefix.head? with
    | none => exact hminus
    | some c => exact Iff.rfl
  rw [hds.read_text, h.read_text]
  simp only [Parts.withDigits, hhead, hread]

theorem WellFormed.read_separator (h : parts.WellFormed) {xs ys : List Char} {a b : Char}
    (hdigits : parts.digits = xs ++ a :: b :: ys) (ha : a ≠ '_') (hb : b ≠ '_') :
    read (parts.withDigits (xs ++ a :: '_' :: b :: ys)).text = read parts.text := by
  have hhead : (xs ++ a :: '_' :: b :: ys).head? = parts.digits.head? := by
    rw [hdigits, head?_insert]
  have hwell : (parts.withDigits (xs ++ a :: '_' :: b :: ys)).WellFormed := by
    refine h.withDigits (.inl hhead) ?_ fun hnone => ?_
    · rw [hdigits, getLast?_insert]
    · rw [hdigits] at hnone
      exact hnone.insert
  apply h.read_withDigits hwell
  · rw [hhead]
  · rw [hdigits, readDigits_insert _ ha hb]

theorem WellFormed.read_zero (h : parts.WellFormed) {c : Char} {cs : List Char}
    (hdigits : parts.digits = c :: cs) (hc : c.isDigit) :
    read (parts.withDigits ('0' :: c :: cs)).text = read parts.text := by
  have hwell : (parts.withDigits ('0' :: c :: cs)).WellFormed := by
    refine h.withDigits (.inr rfl) ?_ fun _ => unprefixed_zero hc cs
    rw [hdigits, List.getLast?_cons_cons]
  apply h.read_withDigits hwell
  · rw [hdigits]
    refine iff_of_false ?_ (by simpa using ne_of_isDigit hc rfl)
    rw [List.head?_cons]
    decide
  · rw [hdigits, readDigits_zero_cons _ hc]

theorem exists_text_eq (cs : List Char) : ∃ parts : Parts, parts.WellFormed ∧ parts.text = cs := by
  obtain ⟨front, back, hcs, hfront, hback⟩ := Text.exists_eq_append_trim cs
  obtain ⟨sign, body, htrim, hsign, hplus⟩ : ∃ sign body, trim cs = sign ++ body ∧
      sign ∈ [[], ['+'], ['-'], ['+', '-']] ∧ (sign = [] → body.head? ≠ some '+') := by
    by_cases hplus : (trim cs).head? = some '+'
    · obtain ⟨body, hbody⟩ := List.head?_eq_some_iff.mp hplus
      -- A minus sign behind it is left to the digit part, and the reader refuses it there as well.
      exact ⟨['+'], body, hbody, by simp, fun h => by cases h⟩
    · exact ⟨[], trim cs, rfl, by simp, fun _ => hplus⟩
  obtain ⟨radixPrefix, r, digits, rfl, hprefixed⟩ := exists_prefixed body
  have hmiddle : (⟨front, sign, radixPrefix, r, digits, back⟩ : Parts).middle = trim cs := htrim.symm
  refine ⟨⟨front, sign, radixPrefix, r, digits, back⟩, ⟨hfront, hback, fun c hc => ?_, fun c hc => ?_,
    hsign, hplus, hprefixed⟩, ?_⟩
  · rw [hmiddle] at hc
    exact Text.isBlank_of_head?_trim hc
  · rw [hmiddle] at hc
    exact Text.isBlank_of_getLast?_trim hc
  · rw [text, hmiddle]
    exact hcs.symm

end Parts

/-! ## All respellings -/

theorem Respelled.read_eq {cs ds : List Char} (h : Respelled cs ds) : read cs = read ds := by
  cases h with
  | blanks hfront hback hfront' hback' =>
      rw [read_blanks hfront hback, read_blanks hfront' hback']
  | letterCase h => rw [← read_map_toLower cs, h, read_map_toLower]
  | separator h hdigits ha hb => exact (h.read_separator hdigits ha hb).symm
  | zero h hdigits hc => exact (h.read_zero hdigits hc).symm
  | plus hblank hplus => exact (read_plus hblank hplus).symm

theorem read_eq_of_eqvGen {cs ds : List Char} (h : Relation.EqvGen Respelled cs ds) :
    read cs = read ds := by
  induction h with
  | rel _ _ h => exact h.read_eq
  | refl _ => rfl
  | symm _ _ _ ih => exact ih.symm
  | trans _ _ _ _ _ hfirst hsecond => exact hfirst.trans hsecond

end Literal

/-- The same comes of both texts: the same word, or a refusal for the same reason. -/
inductive Word.SameOutcome (s t : String) : Prop where
  | read {w} (hs : Word.parse s = .ok w) (ht : Word.parse t = .ok w)
  | refused {reason} (hs : Word.parse s = .error (.invalidNumber s reason))
      (ht : Word.parse t = .error (.invalidNumber t reason))

theorem Word.sameOutcome_of_read_eq {s t : String}
    (h : Literal.read s.toList = Literal.read t.toList) : Word.SameOutcome s t := by
  cases hread : Literal.read t.toList with
  | ok w =>
      rw [hread] at h
      exact .read (w := w) (by rw [Word.parse, h]) (by rw [Word.parse, hread])
  | error fault =>
      rw [hread] at h
      have hs : Word.parse s = .error (.invalidNumber s fault.reason) := by rw [Word.parse, h]
      have ht : Word.parse t = .error (.invalidNumber t fault.reason) := by rw [Word.parse, hread]
      exact .refused hs ht

/-- The same comes of two texts that differ in any number of respellings, made or undone. -/
theorem Word.respelling_keeps_outcome :
    (∀ s : String, ∃ parts : Literal.Parts, parts.WellFormed ∧ parts.text = s.toList) ∧
    ∀ s t : String, Relation.EqvGen Literal.Respelled s.toList t.toList → Word.SameOutcome s t := by
  refine ⟨fun s => Literal.Parts.exists_text_eq s.toList, fun s t h => ?_⟩
  exact Word.sameOutcome_of_read_eq (Literal.read_eq_of_eqvGen h)

/-- A text refused for its value, respelled in all five ways. -/
theorem Word.respelling_keeps_outcome_tooWide :
    Relation.EqvGen Literal.Respelled "0x1ffff".toList "\t+0X0_1FfFF ".toList ∧
      Word.SameOutcome "0x1ffff" "\t+0X0_1FfFF " ∧
      Word.parse "0x1ffff" = .error (.invalidNumber "0x1ffff"
        "131071 does not fit in a 16-bit status word") := by
  let parts : Literal.Parts :=
    ⟨[], [], ['0', 'x'], .hexadecimal, ['1', 'f', 'f', 'f', 'f'], []⟩
  have hparts : parts.WellFormed := by
    refine ⟨by simp [parts], by simp [parts], ?_, ?_, by simp [parts], by simp [parts],
      .letter (by decide)⟩
    · rintro c ⟨⟩
      rfl
    · rintro c ⟨⟩
      rfl
  have hzeroParts : (parts.withDigits ['0', '1', 'f', 'f', 'f', 'f']).WellFormed :=
    hparts.withDigits (.inr rfl) rfl fun _ => Literal.unprefixed_zero rfl _
  have hzero : Literal.Respelled "0x1ffff".toList "0x01ffff".toList := .zero hparts rfl rfl
  have hseparator : Literal.Respelled "0x01ffff".toList "0x0_1ffff".toList :=
    @Literal.Respelled.separator _ [] '0' '1' _ hzeroParts rfl (by decide) (by decide)
  have hcase : Literal.Respelled "0x0_1ffff".toList "0X0_1FfFF".toList := .letterCase (by decide)
  have hplus : Literal.Respelled "0X0_1FfFF".toList "+0X0_1FfFF".toList :=
    .plus (by rintro c ⟨⟩; rfl) (by decide)
  have hblanks : Literal.Respelled ([] ++ "+0X0_1FfFF".toList ++ [])
      (['\t'] ++ "+0X0_1FfFF".toList ++ [' ']) :=
    .blanks (List.forall_mem_nil _) (List.forall_mem_nil _) (List.forall_mem_singleton.mpr rfl)
      (List.forall_mem_singleton.mpr rfl)
  have hchain : Relation.EqvGen Literal.Respelled "0x1ffff".toList "\t+0X0_1FfFF ".toList :=
    .trans _ _ _ (.rel _ _ hzero) (.trans _ _ _ (.rel _ _ hseparator) (.trans _ _ _ (.rel _ _ hcase)
      (.trans _ _ _ (.rel _ _ hplus) (.rel _ _ hblanks))))
  exact ⟨hchain, Word.respelling_keeps_outcome.2 _ _ hchain, by decide +kernel⟩

end BusStatus
