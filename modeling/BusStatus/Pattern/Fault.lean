import BusStatus.Pattern.Reader

/-!
# Faults of patterns

Which patterns can be matched. Only the classes of characters in ASCII are known, so a pattern of
characters must neither ask for other classes nor ignore the case. A pattern of bytes must not match
the parts of a character beyond ASCII, so it must not ask for any byte, nor for all bytes outside of
a set. Edges of words can be found in a pattern of bytes alone.
-/

namespace BusStatus

/-- Why a text cannot be matched as a pattern. -/
inductive PatternFault where
  /-- It is no pattern, is nested too deep, or asks for characters that are not known. -/
  | unknown
  /-- It asks for the edges of words of any script. -/
  | wordEdge
deriving DecidableEq, Repr

/-- How a fault is told to the user. -/
def PatternFault.message : PatternFault → String
  | .unknown => "error building NFA"
  | .wordEdge =>
      "unsupported regex feature for DFAs: cannot build DFAs for regexes with Unicode word " ++
        "boundaries; switch to ASCII word boundaries, or heuristically enable Unicode word " ++
        "boundaries or use a different regex engine"

namespace Pattern

/-- The deepest nesting of a pattern that is matched. -/
def maxNesting : Nat := 250

/-- The modes on which it hangs what can be matched. -/
structure Scope where
  /-- Characters are matched, and not bytes. -/
  unicode : Bool := true
  ignoreCase : Bool := false
deriving DecidableEq, Repr

def Scope.after (scope : Scope) (change : ModeChange) : Scope :=
  { unicode := change.state .unicode scope.unicode,
    ignoreCase := change.state .ignoreCase scope.ignoreCase }

def Scope.inside (scope : Scope) : GroupHead → Scope
  | .modes change => scope.after change
  | _ => scope

/-! ## Characters and sets -/

/-- The character can be matched on its own. -/
def Literal.isKnown (scope : Scope) (l : Literal) : Bool :=
  if scope.unicode then !scope.ignoreCase else !l.isByte || l.char.toNat < 0x80

/-- The character can be matched as a member of a set. -/
def Literal.isKnownMember (scope : Scope) (l : Literal) : Bool :=
  if scope.unicode then !scope.ignoreCase else l.char.toNat < 0x80

mutual

def CharSet.isKnown (scope : Scope) : CharSet → Bool
  | .empty => true
  | .literal l => l.isKnownMember scope
  | .range first last => first.isKnownMember scope && last.isKnownMember scope
  | .named _ negated => if scope.unicode then !scope.ignoreCase else !negated
  | .shorthand _ negated => !scope.unicode && !negated
  | .union members => CharSet.areKnown scope members
  | .operation _ left right => left.isKnown scope && right.isKnown scope
  | .bracketed negated body => (scope.unicode || !negated) && body.isKnown scope

def CharSet.areKnown (scope : Scope) : List CharSet → Bool
  | [] => true
  | chars :: others => chars.isKnown scope && CharSet.areKnown scope others

end

/-! ## Patterns -/

/-- A fault that is found where something does not hold. -/
def faultUnless (holds : Bool) : List PatternFault :=
  if holds then [] else [.unknown]

mutual

/-- The faults of a pattern, and the modes behind it. -/
def faults (scope : Scope) : Pattern → List PatternFault × Scope
  | .empty => ([], scope)
  | .modes change => ([], scope.after change)
  | .literal l => (faultUnless (l.isKnown scope), scope)
  | .anyChar => (faultUnless scope.unicode, scope)
  | .edge e => (if scope.unicode && e.isOfWord then [.wordEdge] else [], scope)
  | .shorthand _ negated => (faultUnless (!scope.unicode && !negated), scope)
  | .charSet s => (faultUnless (s.isKnown scope), scope)
  | .repeated _ _ item => faults scope item
  | .group head body => ((faults (scope.inside head) body).1, scope)
  | .sequence items => faultsOfAll scope items
  | .alternatives branches => faultsOfAll scope branches

/-- The faults of patterns one behind the other, and the modes behind them. -/
def faultsOfAll (scope : Scope) : List Pattern → List PatternFault × Scope
  | [] => ([], scope)
  | p :: ps =>
      let (found, scope) := faults scope p
      let (others, scope) := faultsOfAll scope ps
      (found ++ others, scope)

end

/-- The fault of a text as a pattern. Edges of words count only if there is no other one. -/
def fault? (s : String) : Option PatternFault :=
  match ofString? s with
  | none => some .unknown
  | some p =>
      let found := (faults {} p).1
      if p.depth > maxNesting ∨ .unknown ∈ found then some .unknown else found.head?

end Pattern

end BusStatus
