/-
# Text.Quoted — text between double quotes

Diagnostics show names between double quotes, so that a name with odd
characters can still be told from its neighbours. A quote and a backslash are
escaped, line feed, carriage return, tab and NUL have letters of their own, and
any other character that does not show by itself is written as its code point
in braces.
-/
import ModuleOpens.Text.Hidden

namespace ModuleOpens.Text

set_option autoImplicit false

/-- The digits of a number in lower-case hexadecimal, most significant first. -/
def hexDigits (n : Nat) : List Char :=
  Nat.toDigits 16 n

/-- A character as it stands between quotes. -/
def quotedChar (c : Char) : List Char :=
  if c = '"' then ['\\', '"']
  else if c = '\\' then ['\\', '\\']
  else if c = '\n' then ['\\', 'n']
  else if c = '\r' then ['\\', 'r']
  else if c = '\t' then ['\\', 't']
  else if c = '\x00' then ['\\', '0']
  else if isHidden c then ['\\', 'u', '\x7b'] ++ hexDigits c.toNat ++ ['\x7d']
  else [c]

def quoted (text : String) : String :=
  String.ofList ('"' :: (text.toList.flatMap quotedChar ++ ['"']))

def quotedList (texts : List String) : String :=
  "[" ++ ", ".intercalate (texts.map quoted) ++ "]"

end ModuleOpens.Text
