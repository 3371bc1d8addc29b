import BusStatus.Text.Radix

/-!
# JSON values

The values that are written as JSON here: natural numbers, texts, lists and objects whose members
stay in order. The written form is compact, without blanks between its parts, and it holds no
control character, so it always fits on one line.
-/

namespace BusStatus

inductive Json where
  | number (n : Nat)
  | text (s : String)
  | list (items : List Json)
  | object (members : List (String × Json))

namespace Json

/-! ## Texts -/

/-- The written form of one character inside a text: quotes, backslashes and control characters are
escaped and every other character stands for itself. -/
def escape (c : Char) : List Char :=
  if c = '"' then ['\\', '"']
  else if c = '\\' then ['\\', '\\']
  else if c = '\x08' then ['\\', 'b']
  else if c = '\t' then ['\\', 't']
  else if c = '\n' then ['\\', 'n']
  else if c = '\x0c' then ['\\', 'f']
  else if c = '\r' then ['\\', 'r']
  else if c.toNat < 0x20 then '\\' :: 'u' :: Text.Radix.hexadecimal.fixedDigits 4 c.toNat
  else [c]

/-- The written form of a text, in quotes. -/
def quote (s : String) : List Char :=
  '"' :: (s.toList.flatMap escape ++ ['"'])

/-! ## Values -/

mutual

def toChars : Json → List Char
  | .number n => Text.Radix.decimal.digits n
  | .text s => quote s
  | .list items => '[' :: (itemsToChars items ++ [']'])
  | .object members => '{' :: (membersToChars members ++ ['}'])

/-- The written form of the items of a list. -/
def itemsToChars : List Json → List Char
  | [] => []
  | v :: vs => toChars v ++ moreItemsToChars vs

/-- The written form of the items behind the first one, each with a comma in front. -/
def moreItemsToChars : List Json → List Char
  | [] => []
  | v :: vs => ',' :: (toChars v ++ moreItemsToChars vs)

/-- The written form of a member: its name, a colon and its value. -/
def memberToChars : String × Json → List Char
  | (name, v) => quote name ++ ':' :: toChars v

/-- The written form of the members of an object. -/
def membersToChars : List (String × Json) → List Char
  | [] => []
  | m :: ms => memberToChars m ++ moreMembersToChars ms

/-- The written form of the members behind the first one, each with a comma in front. -/
def moreMembersToChars : List (String × Json) → List Char
  | [] => []
  | m :: ms => ',' :: (memberToChars m ++ moreMembersToChars ms)

end

def render (v : Json) : String :=
  String.ofList v.toChars

end Json

end BusStatus
