/-
# Document.JsonReader — JSON text as documents

Each reader takes characters and gives what it read with the characters after
it. Strings keep their escaped code units apart until the end, where the halves
of surrogate pairs are joined: a lone half leaves a text without content.
-/
import ModuleOpens.Document.Basic
import ModuleOpens.Text.Hex

namespace ModuleOpens.Json

set_option autoImplicit false

open Text (hexValue?)

def isBlank (c : Char) : Bool :=
  c == ' ' || c == '\n' || c == '\t' || c == '\r'

def skipBlanks (text : List Char) : List Char :=
  text.dropWhile isBlank

/-! ## Strings -/

/-- A part of a string: a character, or a code unit from an escape. -/
inductive Piece where
  | char (c : Char)
  | unit (value : Nat)
  deriving DecidableEq, Repr

def escapeLetter? (c : Char) : Option Char :=
  if c = '"' then some '"'
  else if c = '\\' then some '\\'
  else if c = '/' then some '/'
  else if c = 'b' then some '\x08'
  else if c = 'f' then some '\x0c'
  else if c = 'n' then some '\n'
  else if c = 'r' then some '\r'
  else if c = 't' then some '\t'
  else none

/-- The value of four hexadecimal digits. -/
def unitOf? (a b c d : Char) : Option Nat := do
  return (((← hexValue? a) * 16 + (← hexValue? b)) * 16 + (← hexValue? c)) * 16 + (← hexValue? d)

/-- A part in front of what was read after it. -/
def consPiece (piece : Piece) (read : List Piece × List Char) : List Piece × List Char :=
  (piece :: read.1, read.2)

/-- The parts of a string up to its closing quote. -/
def pieces : List Char → Option (List Piece × List Char)
  | [] => none
  | '"' :: rest => some ([], rest)
  | '\\' :: 'u' :: a :: b :: c :: d :: rest =>
    match unitOf? a b c d with
    | none => none
    | some unit => (pieces rest).map (consPiece (.unit unit))
  | '\\' :: c :: rest =>
    match escapeLetter? c with
    | none => none
    | some letter => (pieces rest).map (consPiece (.char letter))
  | '\\' :: [] => none
  | c :: rest => if c.toNat < 32 then none else (pieces rest).map (consPiece (.char c))

def isHigh (unit : Nat) : Bool :=
  0xD800 ≤ unit && unit ≤ 0xDBFF

def isLow (unit : Nat) : Bool :=
  0xDC00 ≤ unit && unit ≤ 0xDFFF

/-- The characters of the parts of a string; none when a half stands alone. -/
def charsOf? : List Piece → Option (List Char)
  | [] => some []
  | .char c :: rest => (charsOf? rest).map (c :: ·)
  | .unit high :: .unit low :: rest =>
    if isHigh high then
      if isLow low then
        (charsOf? rest).map (Char.ofNat (0x10000 + (high - 0xD800) * 0x400 + (low - 0xDC00)) :: ·)
      else none
    else if isLow high then none
    else (charsOf? (.unit low :: rest)).map (Char.ofNat high :: ·)
  | .unit unit :: rest =>
    if isHigh unit || isLow unit then none else (charsOf? rest).map (Char.ofNat unit :: ·)

/-- A string after its opening quote: its content, and what follows it. -/
def readText (text : List Char) : Option (Option String × List Char) :=
  (pieces text).map fun (parts, rest) => ((charsOf? parts).map String.ofList, rest)

/-! ## Numbers -/

def natOf (digits : List Char) : Nat :=
  digits.foldl (fun n c => n * 10 + (c.toNat - '0'.toNat)) 0

/-- One digit or more, and what follows them. -/
def someDigits (text : List Char) : Option (List Char × List Char) :=
  let digits := text.takeWhile Char.isDigit
  if digits.isEmpty then none else some (digits, text.dropWhile Char.isDigit)

/-- The digits before the point: zero alone, or digits that do not begin with zero. -/
def wholeDigits (text : List Char) : Option (List Char × List Char) := do
  let (digits, rest) ← someDigits text
  if digits.head? = some '0' ∧ digits.length ≠ 1 then none else some (digits, rest)

def fractionDigits (text : List Char) : Option (List Char × List Char) :=
  match text with
  | '.' :: rest => (someDigits rest).map fun (digits, rest) => ('.' :: digits, rest)
  | _ => some ([], text)

/-- The sign of an exponent, if it has one. -/
def exponentSign (text : List Char) : List Char × List Char :=
  match text with
  | '+' :: rest => (['+'], rest)
  | '-' :: rest => (['-'], rest)
  | _ => ([], text)

def exponentDigits (text : List Char) : Option (List Char × List Char) :=
  match text with
  | c :: rest =>
    if c = 'e' ∨ c = 'E' then
      let (sign, rest) := exponentSign rest
      (someDigits rest).map fun (digits, rest) => (c :: sign ++ digits, rest)
    else some ([], text)
  | [] => some ([], text)

/-- The document of a number: an integer when it has neither point nor exponent and is not
zero with a minus sign. -/
def numberOf (negative : Bool) (whole more : List Char) : Document :=
  let n := natOf whole
  if more.isEmpty && !(negative && n == 0) then .integer (if negative then -n else n)
  else .real (String.ofList ((if negative then ['-'] else []) ++ whole ++ more))

def readMagnitude (negative : Bool) (text : List Char) : Option (Document × List Char) := do
  let (whole, rest) ← wholeDigits text
  let (fraction, rest) ← fractionDigits rest
  let (exponent, rest) ← exponentDigits rest
  return (numberOf negative whole (fraction ++ exponent), rest)

def readNumber (text : List Char) : Option (Document × List Char) :=
  match text with
  | '-' :: rest => readMagnitude true rest
  | _ => readMagnitude false text

/-! ## Documents -/

mutual

/-- A document, blanks before it skipped. Fuel bounds the nesting. -/
def read : Nat → List Char → Option (Document × List Char)
  | 0, _ => none
  | fuel + 1, text =>
    match skipBlanks text with
    | '"' :: rest => (readText rest).map fun (content, rest) => (.text content, rest)
    | '[' :: rest =>
      match skipBlanks rest with
      | ']' :: rest => some (.list [], rest)
      | rest => (readItems fuel rest).map fun (items, rest) => (.list items, rest)
    | '\x7b' :: rest =>
      match skipBlanks rest with
      | '\x7d' :: rest => some (.record [], rest)
      | rest => (readMembers fuel rest).map fun (members, rest) => (.record members, rest)
    | 'n' :: 'u' :: 'l' :: 'l' :: rest => some (.null, rest)
    | 't' :: 'r' :: 'u' :: 'e' :: rest => some (.bool true, rest)
    | 'f' :: 'a' :: 'l' :: 's' :: 'e' :: rest => some (.bool false, rest)
    | rest => readNumber rest

/-- One item or more, up to the closing bracket. -/
def readItems : Nat → List Char → Option (List Document × List Char)
  | 0, _ => none
  | fuel + 1, text =>
    match read fuel text with
    | none => none
    | some (item, rest) =>
      match skipBlanks rest with
      | ',' :: rest => (readItems fuel rest).map fun (items, rest) => (item :: items, rest)
      | ']' :: rest => some ([item], rest)
      | _ => none

/-- One member or more, up to the closing brace. -/
def readMembers : Nat → List Char → Option (List (Option String × Document) × List Char)
  | 0, _ => none
  | fuel + 1, text =>
    match skipBlanks text with
    | '"' :: rest =>
      match readText rest with
      | none => none
      | some (key, rest) =>
        match skipBlanks rest with
        | ':' :: rest =>
          match read fuel rest with
          | none => none
          | some (value, rest) =>
            match skipBlanks rest with
            | ',' :: rest =>
              (readMembers fuel rest).map fun (members, rest) => ((key, value) :: members, rest)
            | '\x7d' :: rest => some ([(key, value)], rest)
            | _ => none
        | _ => none
    | _ => none

end

/-- The first document of a text, and what follows it. No document nests deeper than twice
its length. -/
def readFirst (text : List Char) : Option (Document × List Char) :=
  read (2 * text.length + 1) text

/-- Nothing but blanks follows. -/
def atEnd (rest : List Char) : Bool :=
  (skipBlanks rest).isEmpty

/-- The document of a whole text. -/
def parse (text : String) : Option Document := do
  let (document, rest) ← readFirst text.toList
  if atEnd rest then some document else none

end ModuleOpens.Json
