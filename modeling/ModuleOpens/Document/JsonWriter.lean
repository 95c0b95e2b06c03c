/-
# Document.JsonWriter — documents as JSON text

There is a compact form without blanks, and a form with one member or item to a
line, indented by two spaces for each level. Quotes, backslashes and controls
are escaped in texts; every other character stands for itself.
-/
import ModuleOpens.Document.Basic
import ModuleOpens.Text.Hex

namespace ModuleOpens.Json

set_option autoImplicit false

open Text (hexDigit)

/-- A character as it stands in a JSON text. -/
def escapedChar (c : Char) : List Char :=
  if c = '"' then ['\\', '"']
  else if c = '\\' then ['\\', '\\']
  else if c = '\n' then ['\\', 'n']
  else if c = '\r' then ['\\', 'r']
  else if c = '\t' then ['\\', 't']
  else if c = '\x08' then ['\\', 'b']
  else if c = '\x0c' then ['\\', 'f']
  else if c.toNat < 32 then ['\\', 'u', '0', '0', hexDigit (c.toNat / 16), hexDigit (c.toNat % 16)]
  else [c]

/-- A text between double quotes. One without content is written as if it were empty. -/
def textChars (content : Option String) : List Char :=
  '"' :: ((content.getD "").toList.flatMap escapedChar ++ ['"'])

def digitsOf (n : Nat) : List Char :=
  Nat.toDigits 10 n

def integerChars (value : Int) : List Char :=
  match value with
  | .ofNat n => digitsOf n
  | .negSucc n => '-' :: digitsOf (n + 1)

/-- How a writer sets out lists and records. -/
structure Layout where
  /-- Stands before each item and each member, at a depth. -/
  lead : Nat → List Char
  colon : List Char

def Layout.compact : Layout where
  lead _ := []
  colon := [':']

/-- One item or member to a line, indented by two spaces for each level. -/
def Layout.pretty : Layout where
  lead depth := '\n' :: List.replicate (2 * depth) ' '
  colon := [':', ' ']

mutual

def write (layout : Layout) (depth : Nat) : Document → List Char
  | .null => ['n', 'u', 'l', 'l']
  | .bool true => ['t', 'r', 'u', 'e']
  | .bool false => ['f', 'a', 'l', 's', 'e']
  | .integer value => integerChars value
  | .real digits => digits.toList
  | .text content => textChars content
  | .list [] => ['[', ']']
  | .list (item :: items) =>
    '[' :: (layout.lead (depth + 1) ++ write layout (depth + 1) item
      ++ writeItems layout (depth + 1) items ++ layout.lead depth ++ [']'])
  | .record [] => ['\x7b', '\x7d']
  | .record ((key, value) :: members) =>
    '\x7b' :: (layout.lead (depth + 1) ++ textChars key ++ layout.colon
      ++ write layout (depth + 1) value ++ writeMembers layout (depth + 1) members
      ++ layout.lead depth ++ ['\x7d'])

/-- The items of a list after the first. -/
def writeItems (layout : Layout) (depth : Nat) : List Document → List Char
  | [] => []
  | item :: items =>
    ',' :: (layout.lead depth ++ write layout depth item ++ writeItems layout depth items)

/-- The members of a record after the first. -/
def writeMembers (layout : Layout) (depth : Nat) : List (Option String × Document) → List Char
  | [] => []
  | (key, value) :: members =>
    ',' :: (layout.lead depth ++ textChars key ++ layout.colon ++ write layout depth value
      ++ writeMembers layout depth members)

end

def compact (document : Document) : String :=
  String.ofList (write .compact 0 document)

/-- A document as JSON text with one item or member to a line. -/
def pretty (document : Document) : String :=
  String.ofList (write .pretty 0 document)

end ModuleOpens.Json
