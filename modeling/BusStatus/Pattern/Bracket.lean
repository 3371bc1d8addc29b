import BusStatus.Pattern.Escape

/-!
# Brackets

The reading of a set of characters in brackets. A set holds characters, ranges, classes and further
sets. Two signs of an operation end its left side, which is all that stands in front of them, and
the operation takes what stands behind them, up to the next one. At the head of a set a dash stands
for itself, and so does a closing bracket that comes first.
-/

namespace BusStatus.Pattern

/-! ## Members -/

/-- Reads a class by its name between colons, behind the bracket in front of it. -/
def NamedClass.read? : List Char → Option (CharSet × List Char)
  | ':' :: cs =>
      let (negated, cs) :=
        match cs with
        | '^' :: cs => (true, cs)
        | cs => (false, cs)
      match cs.dropWhile (· != ':') with
      | ':' :: ']' :: rest =>
          (NamedClass.ofName? (String.ofList (cs.takeWhile (· != ':')))).map fun c =>
            (.named c negated, rest)
      | _ => none
  | _ => none

/-- Reads a character or a class with a letter. -/
def CharSet.readSingle? (ignoreBlanks : Bool) : List Char → Option (CharSet × List Char)
  | [] => none
  | '\\' :: cs =>
      match Escape.read? ignoreBlanks cs with
      | some (.literal l, rest) => some (.literal l, rest)
      | some (.shorthand s negated, rest) => some (.shorthand s negated, rest)
      | _ => none
  | c :: cs => some (.literal { char := c }, cs)

/-- The range between two characters that do not run backwards. -/
def CharSet.range? : CharSet → CharSet → Option CharSet
  | .literal first, .literal last =>
      if first.char ≤ last.char then some (.range first last) else none
  | _, _ => none

/-- Reads a single member or a range. A dash in front of a closing bracket or of another dash makes
no range. -/
def CharSet.readMember? (ignoreBlanks : Bool) (cs : List Char) :
    Option (CharSet × List Char) := do
  let (first, rest) ← readSingle? ignoreBlanks cs
  match skipBlanks ignoreBlanks rest with
  | '-' :: behind =>
      let ahead := aheadOf? ignoreBlanks behind
      if ahead = some ']' ∨ ahead = some '-' then return (first, '-' :: behind)
      else
        let (last, rest) ← readSingle? ignoreBlanks (skipBlanks ignoreBlanks behind)
        let range ← range? first last
        return (range, rest)
  | rest => return (first, rest)

/-! ## Open brackets -/

/-- A set whose closing bracket has not been read. -/
structure OpenBracket where
  negated : Bool := false
  /-- Nothing but dashes has been read. -/
  atHead : Bool := true
  /-- What stands in front of the last operation, and that operation. -/
  left : Option (CharSet × SetOperation) := none
  /-- The members behind the last operation, the last one first. -/
  members : List CharSet := []
deriving Repr

namespace OpenBracket

def read (ignoreBlanks : Bool) (cs : List Char) : OpenBracket × List Char :=
  match skipBlanks ignoreBlanks cs with
  | '^' :: cs => ({ negated := true }, cs)
  | cs => ({}, cs)

def body (bracket : OpenBracket) : CharSet :=
  let right := CharSet.ofMembers bracket.members.reverse
  match bracket.left with
  | none => right
  | some (left, op) => .operation op left right

def add (bracket : OpenBracket) (member : CharSet) : OpenBracket :=
  { bracket with atHead := false, members := member :: bracket.members }

/-- The bracket behind the signs of an operation. -/
def operate (bracket : OpenBracket) (op : SetOperation) : OpenBracket :=
  { bracket with atHead := false, left := some (bracket.body, op), members := [] }

/-- The bracket behind a sign that stands for itself at the head, if it does. -/
def addAtHead? (bracket : OpenBracket) (c : Char) : Option OpenBracket :=
  let literal := .literal { char := c }
  if !bracket.atHead then none
  else if c = '-' then some { bracket with members := literal :: bracket.members }
  else if c = ']' ∧ bracket.members.isEmpty then some (bracket.add literal)
  else none

end OpenBracket

/-! ## Steps -/

/-- What reading a set has come to. -/
inductive BracketState where
  /-- A bracket is open, and so are those around it, the innermost one first. -/
  | inside (bracket : OpenBracket) (around : List OpenBracket)
  | closed (chars : CharSet)
deriving Repr

def OpenBracket.close (bracket : OpenBracket) : List OpenBracket → BracketState
  | [] => .closed (.bracketed bracket.negated bracket.body)
  | outer :: around => .inside (outer.add (.bracketed bracket.negated bracket.body)) around

def BracketState.step? (ignoreBlanks : Bool) (bracket : OpenBracket) (around : List OpenBracket)
    (cs : List Char) : Option (BracketState × List Char) :=
  match skipBlanks ignoreBlanks cs with
  | [] => none
  | c :: cs =>
      match bracket.addAtHead? c with
      | some bracket => some (.inside bracket around, cs)
      | none =>
          match c :: cs with
          | ']' :: cs => some (bracket.close around, cs)
          | '&' :: '&' :: cs => some (.inside (bracket.operate .intersection) around, cs)
          | '-' :: '-' :: cs => some (.inside (bracket.operate .difference) around, cs)
          | '~' :: '~' :: cs => some (.inside (bracket.operate .symmetricDifference) around, cs)
          | '[' :: cs =>
              match NamedClass.read? cs with
              | some (member, rest) => some (.inside (bracket.add member) around, rest)
              | none =>
                  let (inner, rest) := OpenBracket.read ignoreBlanks cs
                  some (.inside inner (bracket :: around), rest)
          | cs =>
              (CharSet.readMember? ignoreBlanks cs).map fun (member, rest) =>
                (.inside (bracket.add member) around, rest)

/-! ## What is left -/

theorem NamedClass.length_le_of_read? {cs rest : List Char} {member : CharSet}
    (h : NamedClass.read? cs = some (member, rest)) : rest.length ≤ cs.length := by
  unfold NamedClass.read? at h
  split at h
  · rename_i cs
    split at h
    rename_i negated name hname
    have hcs : name.length ≤ cs.length := by
      split at hname
      · cases hname
        exact Nat.le_succ _
      · cases hname
        exact Nat.le_refl _
    have hend := (List.dropWhile_suffix (· != ':') (l := name)).length_le
    split at h
    · rename_i behind hcolon
      obtain ⟨c, -, h⟩ := Option.map_eq_some_iff.mp h
      cases h
      rw [hcolon, List.length_cons, List.length_cons] at hend
      rw [List.length_cons]
      omega
    · cases h
  · cases h

theorem CharSet.length_lt_of_readSingle? {ignoreBlanks : Bool} {cs rest : List Char}
    {member : CharSet} (h : readSingle? ignoreBlanks cs = some (member, rest)) :
    rest.length < cs.length := by
  unfold readSingle? at h
  split at h
  · cases h
  · rename_i cs
    split at h
    · rename_i hescape
      cases h
      exact Nat.lt_succ_of_lt (Escape.length_lt_of_read? hescape)
    · rename_i hescape
      cases h
      exact Nat.lt_succ_of_lt (Escape.length_lt_of_read? hescape)
    · cases h
  · cases h
    exact Nat.lt_succ_self _

theorem CharSet.length_lt_of_readMember? {ignoreBlanks : Bool} {cs rest : List Char}
    {member : CharSet} (h : readMember? ignoreBlanks cs = some (member, rest)) :
    rest.length < cs.length := by
  obtain ⟨⟨first, behindFirst⟩, hfirst, h⟩ := Option.bind_eq_some_iff.mp h
  have hbehindFirst := length_lt_of_readSingle? hfirst
  have hskipped := length_skipBlanks_le ignoreBlanks behindFirst
  dsimp only at h
  split at h
  · rename_i behind hdash
    rw [hdash] at hskipped
    split at h
    · cases h
      exact Nat.lt_of_le_of_lt hskipped hbehindFirst
    · obtain ⟨⟨last, behindLast⟩, hlast, h⟩ := Option.bind_eq_some_iff.mp h
      obtain ⟨range, -, h⟩ := Option.bind_eq_some_iff.mp h
      cases h
      have hbehindLast : behindLast.length < (skipBlanks ignoreBlanks behind).length :=
        length_lt_of_readSingle? hlast
      have hbehind := length_skipBlanks_le ignoreBlanks behind
      change behindLast.length < cs.length
      rw [List.length_cons] at hskipped
      omega
  · cases h
    exact Nat.lt_of_le_of_lt hskipped hbehindFirst

theorem OpenBracket.length_read_le (ignoreBlanks : Bool) (cs : List Char) :
    (OpenBracket.read ignoreBlanks cs).2.length ≤ cs.length := by
  have hskipped := length_skipBlanks_le ignoreBlanks cs
  unfold OpenBracket.read
  split
  · rename_i behind hcaret
    rw [hcaret] at hskipped
    exact Nat.le_of_succ_le hskipped
  · exact hskipped

theorem BracketState.length_lt_of_step? {ignoreBlanks : Bool} {bracket : OpenBracket}
    {around : List OpenBracket} {cs rest : List Char} {state : BracketState}
    (h : step? ignoreBlanks bracket around cs = some (state, rest)) : rest.length < cs.length := by
  have hskipped := length_skipBlanks_le ignoreBlanks cs
  unfold step? at h
  split at h
  · cases h
  · rename_i c behind hcons
    rw [hcons] at hskipped
    -- Whatever is read next, it is read from this text, and at least one character of it.
    suffices hread : rest.length < (c :: behind).length from Nat.lt_of_lt_of_le hread hskipped
    split at h
    · cases h
      exact Nat.lt_succ_self _
    · split at h
      case h_1 hcs =>
        cases hcs
        cases h
        exact Nat.lt_succ_self _
      case h_2 hcs | h_3 hcs | h_4 hcs =>
        cases hcs
        cases h
        exact Nat.lt_succ_of_lt (Nat.lt_succ_self _)
      case h_5 hcs =>
        cases hcs
        split at h
        · rename_i hnamed
          cases h
          exact Nat.lt_succ_of_le (NamedClass.length_le_of_read? hnamed)
        · have hopened := OpenBracket.length_read_le ignoreBlanks behind
          cases h
          exact Nat.lt_succ_of_le hopened
      case h_6 =>
        obtain ⟨⟨member, behindMember⟩, hmember, h⟩ := Option.map_eq_some_iff.mp h
        cases h
        exact CharSet.length_lt_of_readMember? hmember

/-! ## Sets -/

def BracketState.readAll? (ignoreBlanks : Bool) (bracket : OpenBracket)
    (around : List OpenBracket) (cs : List Char) : Option (CharSet × List Char) :=
  match _ : step? ignoreBlanks bracket around cs with
  | none => none
  | some (.closed chars, rest) => some (chars, rest)
  | some (.inside bracket around, rest) => readAll? ignoreBlanks bracket around rest
termination_by cs.length
decreasing_by exact length_lt_of_step? ‹_›

def CharSet.read? (ignoreBlanks : Bool) (cs : List Char) : Option (CharSet × List Char) :=
  let opened := OpenBracket.read ignoreBlanks cs
  BracketState.readAll? ignoreBlanks opened.1 [] opened.2

theorem BracketState.length_lt_of_readAll? {ignoreBlanks : Bool} {bracket : OpenBracket}
    {around : List OpenBracket} {cs rest : List Char} {chars : CharSet}
    (h : readAll? ignoreBlanks bracket around cs = some (chars, rest)) :
    rest.length < cs.length := by
  fun_induction readAll? ignoreBlanks bracket around cs with
  | case1 => cases h
  | case2 _ _ _ _ _ hstep =>
      cases h
      exact length_lt_of_step? hstep
  | case3 _ _ _ _ _ _ hstep ih => exact Nat.lt_trans (ih h) (length_lt_of_step? hstep)

theorem CharSet.length_lt_of_read? {ignoreBlanks : Bool} {cs rest : List Char} {chars : CharSet}
    (h : CharSet.read? ignoreBlanks cs = some (chars, rest)) : rest.length < cs.length := by
  have hopened := OpenBracket.length_read_le ignoreBlanks cs
  rw [CharSet.read?] at h
  exact Nat.lt_of_lt_of_le (BracketState.length_lt_of_readAll? h) hopened

end BusStatus.Pattern
