import BusStatus.Proofs.Text.Unsigned

/-!
# Reading JSON

A reader for any JSON text, whoever wrote it. A machine passes the tokens one by one and keeps the lists
and objects that are still open.
-/

namespace BusStatus.Json

open Text (Radix)

/-- A decimal number: the mantissa times ten to the power of the exponent. -/
structure Decimal where
  mantissa : Int
  exponent : Int
deriving DecidableEq, Repr

inductive Value where
  | null
  | bool (b : Bool)
  | number (n : Decimal)
  | text (s : String)
  | list (items : List Value)
  | object (members : List (String × Value))

def Value.natural (n : Nat) : Value :=
  .number ⟨n, 0⟩

/-! ## Texts -/

/-- What stands for itself or for a part of a character in a text: a pair of halves is one character. -/
inductive Part where
  | whole (c : Char)
  | high (n : Nat)
  | low (n : Nat)

namespace Part

/-- The part of a code of sixteen bits. -/
def ofCode (n : Nat) : Part :=
  if 0xD800 ≤ n ∧ n < 0xDC00 then .high (n - 0xD800)
  else if 0xDC00 ≤ n ∧ n < 0xE000 then .low (n - 0xDC00)
  else .whole (Char.ofNat n)

/-- Joins the pairs; a half without its other half is refused. -/
def join? : List Part → Option (List Char)
  | [] => some []
  | .whole c :: parts => (join? parts).map (c :: ·)
  | .high h :: .low l :: parts =>
      (join? parts).map (Char.ofNat (0x10000 + h * 0x400 + l) :: ·)
  | _ => none

def ofLetter? (c : Char) : Option Char :=
  if c = '"' ∨ c = '\\' ∨ c = '/' then some c
  else if c = 'b' then some '\x08'
  else if c = 'f' then some '\x0c'
  else if c = 'n' then some '\n'
  else if c = 'r' then some '\r'
  else if c = 't' then some '\t'
  else none

/-- Reads up to the quote that ends a text; a control character has to be escaped. -/
def readAll? : List Char → Option (List Part × List Char)
  | [] => none
  | '"' :: cs => some ([], cs)
  | '\\' :: 'u' :: a :: b :: c :: d :: cs => do
      let ds ← [a, b, c, d].mapM Radix.hexadecimal.digit?
      let (parts, rest) ← readAll? cs
      return (ofCode (Radix.hexadecimal.positional ds) :: parts, rest)
  | '\\' :: letter :: cs => do
      let c ← ofLetter? letter
      let (parts, rest) ← readAll? cs
      return (.whole c :: parts, rest)
  | c :: cs =>
      if c.toNat < 0x20 then none
      else do
        let (parts, rest) ← readAll? cs
        return (.whole c :: parts, rest)

end Part

def readText? (cs : List Char) : Option (String × List Char) := do
  let (parts, rest) ← Part.readAll? cs
  let chars ← Part.join? parts
  return (String.ofList chars, rest)

/-! ## Numbers -/

def takeDigits : List Char → List Nat × List Char
  | [] => ([], [])
  | c :: cs =>
      match Radix.decimal.digit? c with
      | none => ([], c :: cs)
      | some d => (d :: (takeDigits cs).1, (takeDigits cs).2)

/-- Reads digits, of which there must be one. -/
def readDigits? (cs : List Char) : Option (List Nat × List Char) :=
  match takeDigits cs with
  | ([], _) => none
  | (d :: ds, rest) => some (d :: ds, rest)

/-- Reads the whole places of a number: no zero stands in front of other digits. -/
def readWhole? (cs : List Char) : Option (List Nat × List Char) := do
  let (ds, rest) ← readDigits? cs
  if ds.head? = some 0 ∧ ds.length ≠ 1 then none
  else return (ds, rest)

def readFraction? : List Char → Option (List Nat × List Char)
  | '.' :: cs => readDigits? cs
  | cs => some ([], cs)

/-- Takes a sign off; the first part says that it is a minus sign. -/
def splitSign : List Char → Bool × List Char
  | '+' :: cs => (false, cs)
  | '-' :: cs => (true, cs)
  | cs => (false, cs)

def signed (negative : Bool) (n : Nat) : Int :=
  if negative then -n else n

def readExponent? : List Char → Option (Int × List Char)
  | [] => some (0, [])
  | c :: cs =>
      if c = 'e' ∨ c = 'E' then
        (readDigits? (splitSign cs).2).map fun (ds, rest) =>
          (signed (splitSign cs).1 (Radix.decimal.positional ds), rest)
      else some (0, c :: cs)

def readUnsigned? (cs : List Char) : Option (Decimal × List Char) := do
  let (whole, cs) ← readWhole? cs
  let (fraction, cs) ← readFraction? cs
  let (exponent, cs) ← readExponent? cs
  return (⟨Radix.decimal.positional (whole ++ fraction), exponent - fraction.length⟩, cs)

def readNumber? : List Char → Option (Decimal × List Char)
  | '-' :: cs => (readUnsigned? cs).map fun (n, rest) => ({ n with mantissa := -n.mantissa }, rest)
  | cs => readUnsigned? cs

/-! ## Tokens -/

inductive Token where
  | openList
  | closeList
  | openObject
  | closeObject
  | comma
  | colon
  | text (s : String)
  /-- A number or one of the words. -/
  | scalar (v : Value)

def isBlank (c : Char) : Bool :=
  c == ' ' || c == '\t' || c == '\n' || c == '\r'

def Token.read? : List Char → Option (Token × List Char)
  | '[' :: cs => some (.openList, cs)
  | ']' :: cs => some (.closeList, cs)
  | '{' :: cs => some (.openObject, cs)
  | '}' :: cs => some (.closeObject, cs)
  | ',' :: cs => some (.comma, cs)
  | ':' :: cs => some (.colon, cs)
  | '"' :: cs => (readText? cs).map fun (s, rest) => (.text s, rest)
  | 'n' :: 'u' :: 'l' :: 'l' :: cs => some (.scalar .null, cs)
  | 't' :: 'r' :: 'u' :: 'e' :: cs => some (.scalar (.bool true), cs)
  | 'f' :: 'a' :: 'l' :: 's' :: 'e' :: cs => some (.scalar (.bool false), cs)
  | cs => (readNumber? cs).map fun (n, rest) => (.scalar (.number n), rest)

/-! ## Every token takes a character -/

theorem length_takeDigits (cs : List Char) :
    (takeDigits cs).1.length + (takeDigits cs).2.length = cs.length := by
  induction cs with
  | nil => rfl
  | cons c cs ih =>
      rw [takeDigits]
      split
      · simp
      · simp only [List.length_cons]
        omega

theorem length_lt_of_readDigits? {cs rest : List Char} {ds : List Nat}
    (h : readDigits? cs = some (ds, rest)) : rest.length < cs.length := by
  have hlength := length_takeDigits cs
  unfold readDigits? at h
  split at h
  · cases h
  · rename_i hdigits
    cases h
    simp only [hdigits, List.length_cons] at hlength
    omega

theorem length_le_of_readFraction? {cs rest : List Char} {ds : List Nat}
    (h : readFraction? cs = some (ds, rest)) : rest.length ≤ cs.length := by
  unfold readFraction? at h
  split at h
  · have hdigits := length_lt_of_readDigits? h
    simp only [List.length_cons]
    omega
  · cases h
    exact Nat.le_refl _

theorem length_splitSign_le (cs : List Char) : (splitSign cs).2.length ≤ cs.length := by
  unfold splitSign
  split
  · exact Nat.le_succ _
  · exact Nat.le_succ _
  · exact Nat.le_refl _

theorem length_le_of_readExponent? {cs rest : List Char} {e : Int}
    (h : readExponent? cs = some (e, rest)) : rest.length ≤ cs.length := by
  unfold readExponent? at h
  split at h
  · cases h
    exact Nat.le_refl _
  · rename_i c cs
    split at h
    · obtain ⟨⟨ds, behind⟩, hdigits, hrest⟩ := Option.map_eq_some_iff.mp h
      have hlt := length_lt_of_readDigits? hdigits
      have hle := length_splitSign_le cs
      cases hrest
      simp only [List.length_cons]
      omega
    · cases h
      exact Nat.le_refl _

theorem length_lt_of_readWhole? {cs rest : List Char} {ds : List Nat}
    (h : readWhole? cs = some (ds, rest)) : rest.length < cs.length := by
  simp only [readWhole?, Option.bind_eq_bind, Option.bind_eq_some_iff] at h
  obtain ⟨⟨ds', behind⟩, hdigits, h⟩ := h
  split at h
  · cases h
  · cases h
    exact length_lt_of_readDigits? hdigits

theorem length_lt_of_readUnsigned? {cs rest : List Char} {n : Decimal}
    (h : readUnsigned? cs = some (n, rest)) : rest.length < cs.length := by
  simp only [readUnsigned?, Option.bind_eq_bind, Option.bind_eq_some_iff] at h
  obtain ⟨⟨whole, cs₁⟩, hwhole, ⟨fraction, cs₂⟩, hfraction, ⟨e, cs₃⟩, hexponent, h⟩ := h
  obtain ⟨-, rfl⟩ := Prod.mk.inj (Option.some.inj h)
  calc cs₃.length
      ≤ cs₂.length := length_le_of_readExponent? hexponent
    _ ≤ cs₁.length := length_le_of_readFraction? hfraction
    _ < cs.length := length_lt_of_readWhole? hwhole

theorem length_lt_of_readNumber? {cs rest : List Char} {n : Decimal}
    (h : readNumber? cs = some (n, rest)) : rest.length < cs.length := by
  unfold readNumber? at h
  split at h
  · obtain ⟨⟨n', behind⟩, hread, hrest⟩ := Option.map_eq_some_iff.mp h
    have hbehind := length_lt_of_readUnsigned? hread
    cases hrest
    simp only [List.length_cons]
    omega
  · exact length_lt_of_readUnsigned? h

theorem Part.length_lt_of_readAll? {cs rest : List Char} {parts : List Part}
    (h : readAll? cs = some (parts, rest)) : rest.length < cs.length := by
  induction cs using readAll?.induct generalizing parts rest with
  | case1 => cases h
  | case2 cs => cases h; simp
  | case3 a b c d cs ih =>
      simp only [readAll?, Option.bind_eq_bind, Option.bind_eq_some_iff] at h
      obtain ⟨_, -, ⟨parts', rest'⟩, hread, h⟩ := h
      cases h
      have hbehind := ih hread
      simp only [List.length_cons]
      omega
  | case4 letter cs hcode ih =>
      simp only [readAll?, Option.bind_eq_bind, Option.bind_eq_some_iff] at h
      obtain ⟨_, -, ⟨parts', rest'⟩, hread, h⟩ := h
      cases h
      have hbehind := ih hread
      simp only [List.length_cons]
      omega
  | case5 c cs hquote hcode hescape hlow =>
      rw [readAll?.eq_5 c cs hquote hcode hescape, if_pos hlow] at h
      cases h
  | case6 c cs hquote hcode hescape hlow ih =>
      rw [readAll?.eq_5 c cs hquote hcode hescape, if_neg hlow] at h
      simp only [Option.bind_eq_bind, Option.bind_eq_some_iff] at h
      obtain ⟨⟨parts', rest'⟩, hread, h⟩ := h
      cases h
      have hbehind := ih hread
      simp only [List.length_cons]
      omega

theorem Token.length_lt_of_read? {cs rest : List Char} {token : Token}
    (h : Token.read? cs = some (token, rest)) : rest.length < cs.length := by
  unfold Token.read? at h
  split at h
  case h_7 =>
    simp only [readText?, Option.bind_eq_bind, Option.map_eq_some_iff, Option.bind_eq_some_iff] at h
    obtain ⟨⟨s, behind⟩, ⟨⟨parts, behind'⟩, hparts, chars, -, hs⟩, hrest⟩ := h
    cases hs
    cases hrest
    have hbehind := Part.length_lt_of_readAll? hparts
    simp only [List.length_cons]
    omega
  case h_11 =>
    obtain ⟨⟨n, behind⟩, hread, hrest⟩ := Option.map_eq_some_iff.mp h
    cases hrest
    exact length_lt_of_readNumber? hread
  all_goals
    cases h
    simp only [List.length_cons]
    omega

/-! ## The machine -/

/-- A list or an object that is still open, and what it holds so far. -/
inductive Frame where
  | list (items : List Value)
  /-- The value of this name is being read. -/
  | object (members : List (String × Value)) (name : String)

inductive Place where
  /-- A value, or the end of a list without items. -/
  | value (mayClose : Bool)
  /-- A name behind these members, or the end of an object without any. -/
  | name (mayClose : Bool) (members : List (String × Value))
  /-- The colon behind a name. -/
  | colon (members : List (String × Value)) (name : String)
  /-- What may stand behind a value. -/
  | behind (v : Value)

def Place.step : Place → List Frame → Token → Option (Place × List Frame)
  | .value _, stack, .scalar v => some (.behind v, stack)
  | .value _, stack, .text s => some (.behind (.text s), stack)
  | .value _, stack, .openList => some (.value true, .list [] :: stack)
  | .value _, stack, .openObject => some (.name true [], stack)
  | .value true, .list items :: stack, .closeList => some (.behind (.list items), stack)
  | .name _ members, stack, .text s => some (.colon members s, stack)
  | .name true members, stack, .closeObject => some (.behind (.object members), stack)
  | .colon members key, stack, .colon => some (.value false, .object members key :: stack)
  | .behind v, .list items :: stack, .comma => some (.value false, .list (items ++ [v]) :: stack)
  | .behind v, .list items :: stack, .closeList => some (.behind (.list (items ++ [v])), stack)
  | .behind v, .object members key :: stack, .comma =>
      some (.name false (members ++ [(key, v)]), stack)
  | .behind v, .object members key :: stack, .closeObject =>
      some (.behind (.object (members ++ [(key, v)])), stack)
  | _, _, _ => none

/-- The value that is read when nothing is open any more. -/
def Place.result? : Place → List Frame → Option Value
  | .behind v, [] => some v
  | _, _ => none

/-- Reads the rest of a text to its end. -/
def Place.run (place : Place) (stack : List Frame) (cs : List Char) : Option Value :=
  match _ : cs.dropWhile isBlank with
  | [] => place.result? stack
  | c :: more =>
      match _ : Token.read? (c :: more) with
      | none => none
      | some (token, rest) =>
          match place.step stack token with
          | none => none
          | some (next, stack) => next.run stack rest
termination_by cs.length
decreasing_by
  have hlt := Token.length_lt_of_read? ‹_›
  have hle := (List.dropWhile_suffix isBlank (l := cs)).length_le
  simp_all
  omega

def Value.read (s : String) : Option Value :=
  Place.run (.value false) [] s.toList

example : Value.read " [-1.50e3, \x7b\"\\ud83d\\ude00\" : null\x7d]\n" =
    some (.list [.number ⟨-150, 1⟩, .object [("😀", .null)]]) := by cbv

example : Value.read "[1,]" = none := by cbv

end BusStatus.Json
