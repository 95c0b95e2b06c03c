/-
# Document.Toml.Reader — TOML text as documents

A text is a sequence of lines: a key with a value, a heading, a comment, or
nothing. Values nest in lists and inline tables, to a limited depth.
-/
import ModuleOpens.Document.Toml.Number
import ModuleOpens.Document.Toml.Tree

namespace ModuleOpens.Toml

set_option autoImplicit false

/-- How many lists and inline tables may stand inside one another. -/
def nestingLimit : Nat := 127

/-- The inline table of some keys and values. -/
def inlineTable (pairs : List (List String × String × Document)) : Option Document := do
  let members ← pairs.foldlM
    (fun members (path, key, value) => Members.insert key (.value value) path members) []
  return .record (membersToDocuments members)

mutual

/-- A value that may hold lists and tables inside one another to a depth. Fuel bounds the
steps. -/
def readValue : Nat → Nat → List Char → Option (Document × List Char)
  | 0, _, _ => none
  | fuel + 1, depth, text =>
    match text with
    | '"' :: _ => (readString text).map fun (content, rest) =>
        (.ofText (String.ofList content), rest)
    | '\'' :: _ => (readString text).map fun (content, rest) =>
        (.ofText (String.ofList content), rest)
    | '[' :: rest =>
      match depth with
      | 0 => none
      | depth + 1 => (readItems fuel depth rest).map fun (items, rest) => (.list items, rest)
    | '\x7b' :: rest =>
      match depth with
      | 0 => none
      | depth + 1 =>
        match skipBlanks rest with
        | '\x7d' :: rest => some (.record [], rest)
        | rest =>
          match readPairs fuel depth rest with
          | none => none
          | some (pairs, rest) => (inlineTable pairs).map fun table => (table, rest)
    | 't' :: 'r' :: 'u' :: 'e' :: rest => some (.bool true, rest)
    | 'f' :: 'a' :: 'l' :: 's' :: 'e' :: rest => some (.bool false, rest)
    | _ => readNumber text

/-- The items of a list up to its closing bracket; a comma may follow the last one. -/
def readItems : Nat → Nat → List Char → Option (List Document × List Char)
  | 0, _, _ => none
  | fuel + 1, depth, text =>
    match skipLines text.length text with
    | ']' :: rest => some ([], rest)
    | text =>
      match readValue fuel depth text with
      | none => none
      | some (item, rest) =>
        match skipLines rest.length rest with
        | ',' :: rest => (readItems fuel depth rest).map fun (items, rest) => (item :: items, rest)
        | ']' :: rest => some ([item], rest)
        | _ => none

/-- The keys and values of an inline table up to its closing brace. -/
def readPairs : Nat → Nat → List Char →
    Option (List (List String × String × Document) × List Char)
  | 0, _, _ => none
  | fuel + 1, depth, text =>
    match readKey text with
    | none => none
    | some (path, key, rest) =>
      match rest with
      | '=' :: rest =>
        match readValue fuel depth (skipBlanks rest) with
        | none => none
        | some (value, rest) =>
          match skipBlanks rest with
          | ',' :: rest =>
            (readPairs fuel depth rest).map fun (pairs, rest) => ((path, key, value) :: pairs, rest)
          | '\x7d' :: rest => some ([(path, key, value)], rest)
          | _ => none
      | _ => none

end

/-- The key and the value of a line, and what follows the line. -/
def readPairLine (text : List Char) :
    Option ((List String × String × Document) × List Char) := do
  let (path, key, rest) ← readKey text
  let rest ← after? '=' rest
  let (value, rest) ← readValue (2 * rest.length + 1) nestingLimit (skipBlanks rest)
  return ((path, key, value), ← afterLine? rest)

/-- The parts of a heading after its opening bracket or brackets, and what follows the line. -/
def readHeading (listed : Bool) (text : List Char) :
    Option ((List String × String) × List Char) := do
  let (path, key, rest) ← readKey text
  let rest ← after? ']' rest
  let rest ← if listed then after? ']' rest else some rest
  return ((path, key), ← afterLine? rest)

/-- The lines of a text, added to what is built so far. -/
def readLines : Nat → Builder → List Char → Option Builder
  | 0, _, _ => none
  | fuel + 1, builder, text =>
    match skipBlanks text with
    | [] => some builder
    | '#' :: rest =>
      match afterLine? ('#' :: rest) with
      | none => none
      | some rest => readLines fuel builder rest
    | '\n' :: rest => readLines fuel builder rest
    | '\r' :: '\n' :: rest => readLines fuel builder rest
    | '[' :: '[' :: rest =>
      match readHeading true rest with
      | none => none
      | some ((path, key), rest) =>
        match builder.addHeading true path key with
        | none => none
        | some builder => readLines fuel builder rest
    | '[' :: rest =>
      match readHeading false rest with
      | none => none
      | some ((path, key), rest) =>
        match builder.addHeading false path key with
        | none => none
        | some builder => readLines fuel builder rest
    | rest =>
      match readPairLine rest with
      | none => none
      | some ((path, key, value), rest) =>
        match builder.addValue path key value with
        | none => none
        | some builder => readLines fuel builder rest

def dropMark : List Char → List Char
  | '\ufeff' :: rest => rest
  | text => text

def parse (text : String) : Option Document := do
  let text := dropMark text.toList
  let builder ← readLines (text.length + 1) .empty text
  let members ← builder.close
  return .record (membersToDocuments members)

end ModuleOpens.Toml
