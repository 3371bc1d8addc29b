import BusStatus.Text.Printable
import BusStatus.Text.Radix

/-!
# Quoted texts

A text in quotes as a message shows it, on one line and with every character to be seen: a quote or a
backslash gets a backslash in front, and a character without a shape of its own is named by its code
point.
-/

namespace BusStatus.Text

/-- The shown form of one character inside a quoted text. -/
def showChar (c : Char) : List Char :=
  if c = '\x00' then ['\\', '0']
  else if c = '\t' then ['\\', 't']
  else if c = '\n' then ['\\', 'n']
  else if c = '\r' then ['\\', 'r']
  else if c = '"' then ['\\', '"']
  else if c = '\\' then ['\\', '\\']
  else if isPrintable c then [c]
  else '\\' :: 'u' :: '{' :: (Radix.hexadecimal.digits c.toNat ++ ['}'])

def quoted (s : String) : String :=
  String.ofList ('"' :: (s.toList.flatMap showChar ++ ['"']))

/-- Texts in quotes, in brackets and with commas between them. -/
def quotedList (items : List String) : String :=
  "[" ++ ", ".intercalate (items.map quoted) ++ "]"

end BusStatus.Text
