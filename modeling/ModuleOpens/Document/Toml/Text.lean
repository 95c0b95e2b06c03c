/-
# Document.Toml.Text — blanks, comments, keys and strings of TOML

Each reader takes characters and gives what it read with the characters after
it. A text of several lines may hold up to two quotes in a row, also right
before the three that close it, and every line break in it counts as a line
feed.
-/
import ModuleOpens.Text.Hex

namespace ModuleOpens.Toml

set_option autoImplicit false

open Text (hexValue?)

/-! ## Blanks, line ends and comments -/

def isBlank (c : Char) : Bool :=
  c == ' ' || c == '\t'

def skipBlanks (text : List Char) : List Char :=
  text.dropWhile isBlank

def afterLineEnd? : List Char → Option (List Char)
  | '\n' :: rest => some rest
  | '\r' :: '\n' :: rest => some rest
  | _ => none

/-- A character that stands for itself: a tab, or anything but a control character. -/
def isPlain (c : Char) : Bool :=
  c == '\t' || (0x20 ≤ c.toNat && c.toNat != 0x7F)

def skipComment : List Char → List Char
  | '#' :: rest => rest.dropWhile isPlain
  | text => text

/-- What follows the end of a line that may hold a comment; nothing, at the end of the text. -/
def afterLine? (text : List Char) : Option (List Char) :=
  match skipComment (skipBlanks text) with
  | [] => some []
  | rest => afterLineEnd? rest

/-- What follows blanks, line ends and comments, of which each ends its line. -/
def skipLines : Nat → List Char → List Char
  | 0, text => text
  | fuel + 1, text =>
    let text := skipBlanks text
    match afterLineEnd? (skipComment text) with
    | some rest => skipLines fuel rest
    | none => text

/-! ## Strings -/

/-- The character whose code point these hexadecimal digits write. -/
def charOfHex? (digits : List Char) : Option Char := do
  let values ← digits.mapM hexValue?
  let code := values.foldl (fun code value => code * 16 + value) 0
  if code.isValidChar then some (Char.ofNat code) else none

def escapeLetter? (c : Char) : Option Char :=
  if c = 'b' then some '\x08'
  else if c = 't' then some '\t'
  else if c = 'n' then some '\n'
  else if c = 'f' then some '\x0c'
  else if c = 'r' then some '\r'
  else if c = '"' then some '"'
  else if c = '\\' then some '\\'
  else none

def consChar (c : Char) (read : List Char × List Char) : List Char × List Char :=
  (c :: read.1, read.2)

/-- The content of a string on one line, with escapes, up to its closing quote. -/
def quotedLine : List Char → Option (List Char × List Char)
  | [] => none
  | '"' :: rest => some ([], rest)
  | '\\' :: 'u' :: a :: b :: c :: d :: rest => do
    let code ← charOfHex? [a, b, c, d]
    return consChar code (← quotedLine rest)
  | '\\' :: 'U' :: a :: b :: c :: d :: e :: f :: g :: h :: rest => do
    let code ← charOfHex? [a, b, c, d, e, f, g, h]
    return consChar code (← quotedLine rest)
  | '\\' :: c :: rest => do
    let letter ← escapeLetter? c
    return consChar letter (← quotedLine rest)
  | c :: rest => if isPlain c then (quotedLine rest).map (consChar c) else none

/-- The content of a string on one line, without escapes, up to its closing apostrophe. -/
def literalLine : List Char → Option (List Char × List Char)
  | [] => none
  | '\'' :: rest => some ([], rest)
  | c :: rest => if isPlain c then (literalLine rest).map (consChar c) else none

/-- The quotes beyond the three that close a text of several lines, at most two. -/
def closingQuotes (quote : Char) : List Char → List Char × List Char
  | [] => ([], [])
  | [a] => if a = quote then ([a], []) else ([], [a])
  | a :: b :: rest =>
    if a = quote then if b = quote then ([a, b], rest) else ([a], b :: rest)
    else ([], a :: b :: rest)

/-- Nothing but blanks stands before the end of this line. -/
def isBlankLine (text : List Char) : Bool :=
  (afterLineEnd? (skipBlanks text)).isSome

/-- The content of a text of several lines, with escapes, up to its closing quotes. A
backslash at the end of a line hides the blanks and line ends after it; `skipping` says that
they are being hidden. -/
def quotedLines : Bool → List Char → Option (List Char × List Char)
  | _, [] => none
  | _, '"' :: '"' :: '"' :: rest => some (closingQuotes '"' rest)
  | _, '\\' :: 'u' :: a :: b :: c :: d :: rest => do
    let code ← charOfHex? [a, b, c, d]
    return consChar code (← quotedLines false rest)
  | _, '\\' :: 'U' :: a :: b :: c :: d :: e :: f :: g :: h :: rest => do
    let code ← charOfHex? [a, b, c, d, e, f, g, h]
    return consChar code (← quotedLines false rest)
  | _, '\\' :: c :: rest =>
    match escapeLetter? c with
    | some letter => (quotedLines false rest).map (consChar letter)
    | none => if isBlankLine (c :: rest) then quotedLines true rest else none
  | skipping, '\r' :: '\n' :: rest =>
    if skipping then quotedLines true rest else (quotedLines false rest).map (consChar '\n')
  | skipping, c :: rest =>
    if skipping && (isBlank c || c == '\n') then quotedLines true rest
    else if isPlain c || c == '\n' then (quotedLines false rest).map (consChar c)
    else none

/-- The content of a text of several lines, without escapes, up to its closing apostrophes. -/
def literalLines : List Char → Option (List Char × List Char)
  | [] => none
  | '\'' :: '\'' :: '\'' :: rest => some (closingQuotes '\'' rest)
  | '\r' :: '\n' :: rest => (literalLines rest).map (consChar '\n')
  | c :: rest => if isPlain c || c == '\n' then (literalLines rest).map (consChar c) else none

def dropLineEnd (text : List Char) : List Char :=
  (afterLineEnd? text).getD text

def readString : List Char → Option (List Char × List Char)
  | '"' :: '"' :: '"' :: rest => quotedLines false (dropLineEnd rest)
  | '"' :: rest => quotedLine rest
  | '\'' :: '\'' :: '\'' :: rest => literalLines (dropLineEnd rest)
  | '\'' :: rest => literalLine rest
  | _ => none

/-! ## Keys -/

/-- A character of a key without quotes. -/
def isBare (c : Char) : Bool :=
  c.isAlphanum || c == '-' || c == '_'

def readKeyPart : List Char → Option (String × List Char)
  | '"' :: rest => (quotedLine rest).map fun (content, rest) => (String.ofList content, rest)
  | '\'' :: rest => (literalLine rest).map fun (content, rest) => (String.ofList content, rest)
  | text =>
    let bare := text.takeWhile isBare
    if bare.isEmpty then none else some (String.ofList bare, text.dropWhile isBare)

/-- The parts of a key, between points; blanks around them do not count. -/
def readKeyParts : Nat → List Char → Option (List String × List Char)
  | 0, _ => none
  | fuel + 1, text => do
    let (part, rest) ← readKeyPart (skipBlanks text)
    match skipBlanks rest with
    | '.' :: rest =>
      let (parts, rest) ← readKeyParts fuel rest
      return (part :: parts, rest)
    | rest => return ([part], rest)

/-- A key has fewer parts than this. -/
def keyLimit : Nat := 128

/-- A key: the parts before its last one, the last one, and what follows. -/
def readKey (text : List Char) : Option (List String × String × List Char) := do
  let (parts, rest) ← readKeyParts (text.length + 1) text
  let last ← parts.getLast?
  if parts.length < keyLimit then some (parts.dropLast, last, rest) else none

end ModuleOpens.Toml
