import BusStatus.Pattern.Mode

/-!
# Patterns

What a pattern of text is made of: characters and sets of characters, edges of texts and words,
repetitions, groups and alternatives. `Pattern.depth` tells how deep they are nested.
-/

namespace BusStatus

namespace Pattern

/-! ## Characters -/

/-- A character that stands for itself. -/
structure Literal where
  char : Char
  /-- It is written as the two digits of a byte. -/
  isByte : Bool := false
deriving DecidableEq, Repr

/-- A class of characters that has a letter. -/
inductive Shorthand where
  | digit
  | space
  | word
deriving DecidableEq, Repr

/-- An edge that a pattern can ask for. -/
inductive Edge where
  | lineStart
  | lineEnd
  | textStart
  | textEnd
  /-- The start or the end of a word. -/
  | word
  /-- No edge of a word. -/
  | noWord
  | wordStart
  | wordEnd
deriving DecidableEq, Repr

/-- The edge depends on which characters make words. -/
def Edge.isOfWord : Edge → Bool
  | .lineStart | .lineEnd | .textStart | .textEnd => false
  | .word | .noWord | .wordStart | .wordEnd => true

/-! ## Sets of characters -/

/-- A class of characters that has a name in sets. -/
inductive NamedClass where
  | alnum
  | alpha
  | ascii
  | blank
  | cntrl
  | digit
  | graph
  | lower
  | print
  | punct
  | space
  | upper
  | word
  | xdigit
deriving DecidableEq, Repr

namespace NamedClass

def all : List NamedClass :=
  [.alnum, .alpha, .ascii, .blank, .cntrl, .digit, .graph, .lower, .print, .punct, .space, .upper,
    .word, .xdigit]

def name : NamedClass → String
  | .alnum => "alnum"
  | .alpha => "alpha"
  | .ascii => "ascii"
  | .blank => "blank"
  | .cntrl => "cntrl"
  | .digit => "digit"
  | .graph => "graph"
  | .lower => "lower"
  | .print => "print"
  | .punct => "punct"
  | .space => "space"
  | .upper => "upper"
  | .word => "word"
  | .xdigit => "xdigit"

def ofName? (s : String) : Option NamedClass :=
  all.find? (·.name == s)

end NamedClass

inductive SetOperation where
  | intersection
  | difference
  | symmetricDifference
deriving DecidableEq, Repr

/-- A set of characters as it is written in brackets. -/
inductive CharSet where
  | empty
  | literal (l : Literal)
  | range (first last : Literal)
  | named (c : NamedClass) (negated : Bool)
  | shorthand (s : Shorthand) (negated : Bool)
  | union (members : List CharSet)
  | operation (op : SetOperation) (left right : CharSet)
  | bracketed (negated : Bool) (body : CharSet)
deriving Repr

namespace CharSet

def ofMembers : List CharSet → CharSet
  | [] => .empty
  | [member] => member
  | members => .union members

mutual

/-- How deep brackets, unions and operations are nested in a set. -/
def depth : CharSet → Nat
  | .empty | .literal _ | .range _ _ | .named _ _ | .shorthand _ _ => 0
  | .union members => 1 + maxDepth members
  | .operation _ left right => 1 + max left.depth right.depth
  | .bracketed _ body => 1 + body.depth

/-- The depth of the deepest one of some sets. -/
def maxDepth : List CharSet → Nat
  | [] => 0
  | chars :: others => max chars.depth (maxDepth others)

end

end CharSet

/-! ## Repetitions and groups -/

/-- How often something is repeated. -/
inductive Count where
  | zeroOrOne
  | zeroOrMore
  | oneOrMore
deriving DecidableEq, Repr

inductive GroupHead where
  /-- A parenthesis alone. -/
  | plain
  | named (name : String)
  /-- The modes that it changes inside. -/
  | modes (change : ModeChange)
deriving DecidableEq, Repr

end Pattern

/-! ## Patterns -/

inductive Pattern where
  | empty
  /-- A change of modes for what stands behind it in its group. -/
  | modes (change : Pattern.ModeChange)
  | literal (l : Pattern.Literal)
  /-- A point. -/
  | anyChar
  | edge (e : Pattern.Edge)
  | shorthand (s : Pattern.Shorthand) (negated : Bool)
  | charSet (s : Pattern.CharSet)
  | repeated (count : Pattern.Count) (isLazy : Bool) (item : Pattern)
  | group (head : Pattern.GroupHead) (body : Pattern)
  | sequence (items : List Pattern)
  | alternatives (branches : List Pattern)
deriving Repr

namespace Pattern

/-- The pattern of these items, one behind the other. -/
def ofItems : List Pattern → Pattern
  | [] => .empty
  | [item] => item
  | items => .sequence items

/-- The pattern that asks for one of these branches. -/
def ofBranches : List Pattern → Pattern
  | [branch] => branch
  | branches => .alternatives branches

mutual

def depth : Pattern → Nat
  | .empty | .modes _ | .literal _ | .anyChar | .edge _ | .shorthand _ _ => 0
  | .charSet s => s.depth
  | .repeated _ _ item => 1 + item.depth
  | .group _ body => 1 + body.depth
  | .sequence items => 1 + maxDepth items
  | .alternatives branches => 1 + maxDepth branches

/-- The depth of the deepest one of some patterns. -/
def maxDepth : List Pattern → Nat
  | [] => 0
  | p :: ps => max p.depth (maxDepth ps)

end

end Pattern

end BusStatus
