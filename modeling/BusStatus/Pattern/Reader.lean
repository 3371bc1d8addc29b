import BusStatus.Pattern.Bracket
import BusStatus.Text.Alphanumeric

/-!
# Reading patterns

A pattern is read from left to right. What has been read stands in the innermost group that is still
open, below those around it; a closing parenthesis moves it, as one item, to the group around it.
-/

namespace BusStatus.Pattern

/-! ## Heads of groups -/

/-- What stands behind an opening parenthesis. -/
inductive Opening where
  | group (head : GroupHead)
  /-- A change of modes for the rest of the group around it, and a closing parenthesis. -/
  | modes (change : ModeChange)
deriving DecidableEq, Repr

namespace Opening

/-- A name begins with a letter or an underscore; points and brackets may follow too. -/
def isName : List Char → Bool
  | [] => false
  | c :: cs =>
      (c == '_' || Text.isAlphabetic c) &&
        cs.all fun c => c == '_' || c == '.' || c == '[' || c == ']' || Text.isAlphanumeric c

/-- Reads the name of a group, which no other group has. -/
def readName? (taken : List String) (cs : List Char) : Option (Opening × List Char) :=
  let name := cs.takeWhile (· != '>')
  match cs.dropWhile (· != '>') with
  | [] => none
  | _ :: rest =>
      if isName name ∧ String.ofList name ∉ taken then
        some (.group (.named (String.ofList name)), rest)
      else none

def readModes? (cs : List Char) : Option (Opening × List Char) := do
  let letters := cs.takeWhile fun c => c != ':' && c != ')'
  let change ← ModeChange.read? letters
  match cs.dropWhile fun c => c != ':' && c != ')' with
  | [] => none
  | c :: rest =>
      if c = ':' then return (.group (.modes change), rest)
      else if letters.isEmpty then none
      else return (.modes change, rest)

def read? (taken : List String) : List Char → Option (Opening × List Char)
  | '?' :: 'P' :: '<' :: cs => readName? taken cs
  | '?' :: '<' :: cs => readName? taken cs
  | '?' :: cs => readModes? cs
  | cs => some (.group .plain, cs)

end Opening

/-! ## Open groups -/

/-- A group whose closing parenthesis has not been read, or the whole pattern. -/
structure OpenGroup where
  head : GroupHead := .plain
  ignoreBlanks : Bool := false
  /-- The branches that have ended, the last one first. -/
  branches : List Pattern := []
  /-- The items of the branch that has not ended, the last one first. -/
  items : List Pattern := []
deriving Repr

namespace OpenGroup

def add (group : OpenGroup) (item : Pattern) : OpenGroup :=
  { group with items := item :: group.items }

/-- The group behind the end of a branch. -/
def branch (group : OpenGroup) : OpenGroup :=
  { group with branches := ofItems group.items.reverse :: group.branches, items := [] }

def body (group : OpenGroup) : Pattern :=
  ofBranches group.branch.branches.reverse

/-- The group behind a repetition of the last item, which a change of modes is not. -/
def repeatLast? (group : OpenGroup) (count : Count) (isLazy : Bool) : Option OpenGroup :=
  match group.items with
  | [] | .modes _ :: _ => none
  | item :: items => some { group with items := .repeated count isLazy item :: items }

def change (group : OpenGroup) (modes : ModeChange) : OpenGroup :=
  { group.add (.modes modes) with
    ignoreBlanks := modes.state .ignoreBlanks group.ignoreBlanks }

/-- A group that opens inside of another one. -/
def inner (group : OpenGroup) (head : GroupHead) : OpenGroup :=
  match head with
  | .modes change => { head, ignoreBlanks := change.state .ignoreBlanks group.ignoreBlanks }
  | _ => { head, ignoreBlanks := group.ignoreBlanks }

end OpenGroup

/-! ## Steps -/

/-- What reading a pattern has come to. -/
structure ReadState where
  group : OpenGroup := {}
  /-- The groups around it, the innermost one first. -/
  around : List OpenGroup := []
  names : List String := []
deriving Repr

namespace ReadState

def add (state : ReadState) (item : Pattern) : ReadState :=
  { state with group := state.group.add item }

/-- The state behind an opening parenthesis and what belongs to it. -/
def begin (state : ReadState) : Opening → ReadState
  | .modes change => { state with group := state.group.change change }
  | .group head =>
      let names :=
        match head with
        | .named name => name :: state.names
        | _ => state.names
      { group := state.group.inner head, around := state.group :: state.around, names }

/-- The state behind a closing parenthesis, if a group is open. -/
def close? (state : ReadState) : Option ReadState :=
  match state.around with
  | [] => none
  | outer :: around =>
      some { state with group := outer.add (.group state.group.head state.group.body), around }

def finish? (state : ReadState) : Option Pattern :=
  if state.around.isEmpty then some state.group.body else none

/-- The item that an escape outside of brackets makes. -/
def itemOf : Escape → Pattern
  | .literal l => .literal l
  | .shorthand s negated => .shorthand s negated
  | .edge e => .edge e

/-- Whether a question mark makes a repetition lazy, and what stands behind it. -/
def readLazy : List Char → Bool × List Char
  | '?' :: cs => (true, cs)
  | cs => (false, cs)

def counts : List (Char × Count) :=
  [('?', .zeroOrOne), ('*', .zeroOrMore), ('+', .oneOrMore)]

/-- Reads the part of a pattern that begins with a character. An opening brace would count
repetitions, but is refused: no closing one can follow, because it would end the field. -/
def step? (state : ReadState) (c : Char) (cs : List Char) : Option (ReadState × List Char) :=
  match c with
  | '{' => none
  | '(' =>
      (Opening.read? state.names (skipBlanks state.group.ignoreBlanks cs)).map
        fun (opening, rest) => (state.begin opening, rest)
  | ')' => state.close?.map (·, cs)
  | '|' => some ({ state with group := state.group.branch }, cs)
  | '[' =>
      (CharSet.read? state.group.ignoreBlanks cs).map fun (chars, rest) =>
        (state.add (.charSet chars), rest)
  | '\\' =>
      (Escape.read? state.group.ignoreBlanks cs).map
        fun (escape, rest) => (state.add (itemOf escape), rest)
  | '.' => some (state.add .anyChar, cs)
  | '^' => some (state.add (.edge .lineStart), cs)
  | '$' => some (state.add (.edge .lineEnd), cs)
  | c =>
      match counts.lookup c with
      | none => some (state.add (.literal { char := c }), cs)
      | some count =>
          let (isLazy, rest) := readLazy cs
          (state.group.repeatLast? count isLazy).map fun group => ({ state with group }, rest)

end ReadState

/-! ## What is left -/

theorem Opening.length_le_of_readName? {taken : List String} {cs rest : List Char}
    {opening : Opening} (h : readName? taken cs = some (opening, rest)) :
    rest.length ≤ cs.length := by
  have hend := (List.dropWhile_suffix (· != '>') (l := cs)).length_le
  unfold readName? at h
  dsimp only at h
  split at h
  · cases h
  · rename_i hcons
    split at h
    · cases h
      rw [hcons] at hend
      exact Nat.le_of_succ_le hend
    · cases h

theorem Opening.length_le_of_readModes? {cs rest : List Char} {opening : Opening}
    (h : readModes? cs = some (opening, rest)) : rest.length ≤ cs.length := by
  have hend := (List.dropWhile_suffix (fun c => c != ':' && c != ')') (l := cs)).length_le
  obtain ⟨change, -, h⟩ := Option.bind_eq_some_iff.mp h
  split at h
  · cases h
  · rename_i hcons
    rw [hcons] at hend
    split at h
    · cases h
      exact Nat.le_of_succ_le hend
    split at h
    · cases h
    · cases h
      exact Nat.le_of_succ_le hend

theorem Opening.length_le_of_read? {taken : List String} {cs rest : List Char} {opening : Opening}
    (h : Opening.read? taken cs = some (opening, rest)) : rest.length ≤ cs.length := by
  unfold Opening.read? at h
  split at h
  · have hname := length_le_of_readName? h
    simp only [List.length_cons]
    omega
  · have hname := length_le_of_readName? h
    simp only [List.length_cons]
    omega
  · exact Nat.le_succ_of_le (length_le_of_readModes? h)
  · cases h
    exact Nat.le_refl _

theorem ReadState.length_readLazy_le (cs : List Char) : (readLazy cs).2.length ≤ cs.length := by
  unfold readLazy
  split
  · exact Nat.le_succ _
  · exact Nat.le_refl _

theorem ReadState.length_le_of_step? {state next : ReadState} {c : Char} {cs rest : List Char}
    (h : state.step? c cs = some (next, rest)) : rest.length ≤ cs.length := by
  unfold step? at h
  split at h
  · cases h
  · obtain ⟨⟨opening, behind⟩, hopening, h⟩ := Option.map_eq_some_iff.mp h
    cases h
    exact Nat.le_trans (Opening.length_le_of_read? hopening) (length_skipBlanks_le _ cs)
  · obtain ⟨closed, -, h⟩ := Option.map_eq_some_iff.mp h
    cases h
    exact Nat.le_refl _
  · cases h
    exact Nat.le_refl _
  · obtain ⟨⟨chars, behind⟩, hchars, h⟩ := Option.map_eq_some_iff.mp h
    cases h
    exact Nat.le_of_lt (CharSet.length_lt_of_read? hchars)
  · obtain ⟨⟨escape, behind⟩, hescape, h⟩ := Option.map_eq_some_iff.mp h
    cases h
    exact Nat.le_of_lt (Escape.length_lt_of_read? hescape)
  · cases h
    exact Nat.le_refl _
  · cases h
    exact Nat.le_refl _
  · cases h
    exact Nat.le_refl _
  · split at h
    · cases h
      exact Nat.le_refl _
    · obtain ⟨group, -, h⟩ := Option.map_eq_some_iff.mp h
      cases h
      exact length_readLazy_le cs

/-! ## Patterns -/

def ReadState.readAll? (state : ReadState) (cs : List Char) : Option Pattern :=
  match _ : skipBlanks state.group.ignoreBlanks cs with
  | [] => state.finish?
  | c :: behind =>
      match _ : state.step? c behind with
      | none => none
      | some (next, rest) => next.readAll? rest
termination_by cs.length
decreasing_by
  rename_i hcons hstep
  have hskipped := length_skipBlanks_le state.group.ignoreBlanks cs
  rw [hcons, List.length_cons] at hskipped
  exact Nat.lt_of_le_of_lt (length_le_of_step? hstep) hskipped

def ofString? (s : String) : Option Pattern :=
  ReadState.readAll? {} s.toList

end BusStatus.Pattern
