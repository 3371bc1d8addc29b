import BusStatus.Pattern.Basic
import BusStatus.Pattern.Blank
import BusStatus.Text.Radix

/-!
# Escapes

What stands behind a backslash in a pattern: the code of a character in hexadecimal digits, the
letter of a control character, of a class of characters or of an edge, or a sign that stands for
itself.
-/

namespace BusStatus.Pattern

/-- What a backslash and the characters behind it mean. -/
inductive Escape where
  | literal (l : Literal)
  | shorthand (s : Shorthand) (negated : Bool)
  | edge (e : Edge)
deriving DecidableEq, Repr

namespace Escape

def controls : List (Char × Char) :=
  [('a', '\x07'), ('t', '\t'), ('n', '\n'), ('v', '\x0b'), ('f', '\x0c'), ('r', '\r')]

def edges : List (Char × Edge) :=
  [('A', .textStart), ('z', .textEnd), ('b', .word), ('B', .noWord), ('<', .wordStart),
    ('>', .wordEnd)]

/-- The letters of classes, and of what lies outside of them. -/
def shorthands : List (Char × Shorthand × Bool) :=
  [('d', .digit, false), ('s', .space, false), ('w', .word, false), ('D', .digit, true),
    ('S', .space, true), ('W', .word, true)]

/-- The meaning of a single character behind a backslash. -/
def ofChar? (c : Char) : Option Escape :=
  match shorthands.lookup c, edges.lookup c, controls.lookup c with
  | some (s, negated), _, _ => some (.shorthand s negated)
  | _, some e, _ => some (.edge e)
  | _, _, some control => some (.literal { char := control })
  | _, _, _ => if c.toNat < 0x80 ∧ !c.isAlphanum then some (.literal { char := c }) else none

/-- How many digits a code has behind its letter. -/
def codeWidth? (c : Char) : Option Nat :=
  [('x', 2), ('u', 4), ('U', 8)].lookup c

/-- Reads so many more digits of a code. -/
def readCode? (ignoreBlanks : Bool) (code : Nat) : Nat → List Char → Option (Nat × List Char)
  | 0, cs => some (code, cs)
  | width + 1, cs =>
      match skipBlanks ignoreBlanks cs with
      | [] => none
      | c :: cs => do
          let digit ← Text.Radix.hexadecimal.digit? c
          readCode? ignoreBlanks (16 * code + digit) width cs

def read? (ignoreBlanks : Bool) : List Char → Option (Escape × List Char)
  | [] => none
  | c :: cs =>
      match codeWidth? c with
      | none => (ofChar? c).map (·, cs)
      | some width => do
          let (code, rest) ← readCode? ignoreBlanks 0 width cs
          if code.isValidChar then
            return (.literal { char := Char.ofNat code, isByte := c == 'x' }, rest)
          else none

/-! ## What is left -/

theorem length_le_of_readCode? {ignoreBlanks : Bool} {code value width : Nat} {cs rest : List Char}
    (h : readCode? ignoreBlanks code width cs = some (value, rest)) :
    rest.length ≤ cs.length := by
  induction width generalizing code cs with
  | zero =>
      cases h
      exact Nat.le_refl _
  | succ width ih =>
      have hskipped := length_skipBlanks_le ignoreBlanks cs
      rw [readCode?] at h
      split at h
      · cases h
      · rename_i c ds hcons
        obtain ⟨digit, -, h⟩ := Option.bind_eq_some_iff.mp h
        rw [hcons, List.length_cons] at hskipped
        exact Nat.le_trans (ih h) (Nat.le_of_succ_le hskipped)

theorem length_lt_of_read? {ignoreBlanks : Bool} {escape : Escape} {cs rest : List Char}
    (h : read? ignoreBlanks cs = some (escape, rest)) : rest.length < cs.length := by
  cases cs with
  | nil => cases h
  | cons c cs =>
      rw [read?] at h
      split at h
      · obtain ⟨escape, -, h⟩ := Option.map_eq_some_iff.mp h
        cases h
        exact Nat.lt_succ_self _
      · obtain ⟨⟨code, behind⟩, hcode, h⟩ := Option.bind_eq_some_iff.mp h
        have hbehind := length_le_of_readCode? hcode
        dsimp only at h
        split at h
        · cases h
          exact Nat.lt_succ_of_le hbehind
        · cases h

end Escape

end BusStatus.Pattern
