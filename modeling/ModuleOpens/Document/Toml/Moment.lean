/-
# Document.Toml.Moment — dates and times of TOML

A moment is a date, a time of day, or both with an offset. Every part has its
digits and its bounds: a month has the days of the calendar, a minute may have a
leap second, and a fraction of a second has any number of digits. A moment that
breaks a bound is not read at all.
-/
import ModuleOpens.Document.Basic

namespace ModuleOpens.Toml

set_option autoImplicit false

/-! ## The calendar -/

/-- February has a day more in every fourth year, but for three centuries out of four. -/
def isLeapYear (year : Nat) : Bool :=
  year % 4 == 0 && (year % 100 != 0 || year % 400 == 0)

def daysOfMonth (year month : Nat) : Nat :=
  if month = 2 then if isLeapYear year then 29 else 28
  else if month ∈ [4, 6, 9, 11] then 30
  else 31

/-! ## Parts of a moment -/

/-- The number that decimal digits write; none if one of them is no digit. -/
def decimal? (digits : List Char) : Option Nat :=
  if digits.all Char.isDigit then
    some (digits.foldl (fun n c => n * 10 + (c.toNat - '0'.toNat)) 0)
  else none

/-- A number of two digits between two bounds, both included. -/
def readTwo (low high : Nat) : List Char → Option (Nat × List Char)
  | a :: b :: rest => do
    let n ← decimal? [a, b]
    if low ≤ n ∧ n ≤ high then some (n, rest) else none
  | _ => none

def after? (c : Char) : List Char → Option (List Char)
  | d :: rest => if c = d then some rest else none
  | [] => none

/-- What follows the fraction of a second, if there is one. -/
def skipFraction : List Char → List Char
  | '.' :: c :: rest => if c.isDigit then rest.dropWhile Char.isDigit else '.' :: c :: rest
  | text => text

def afterTime? (text : List Char) : Option (List Char) := do
  let (_, rest) ← readTwo 0 23 text
  let rest ← after? ':' rest
  let (_, rest) ← readTwo 0 59 rest
  let rest ← after? ':' rest
  let (_, rest) ← readTwo 0 60 rest
  return skipFraction rest

/-- What follows an offset from universal time. -/
def afterOffset? : List Char → Option (List Char)
  | c :: rest =>
    if c = 'Z' ∨ c = 'z' then some rest
    else if c = '+' ∨ c = '-' then do
      let (_, rest) ← readTwo 0 23 rest
      let rest ← after? ':' rest
      let (_, rest) ← readTwo 0 59 rest
      return rest
    else none
  | [] => none

def afterDate? : List Char → Option (List Char)
  | a :: b :: c :: d :: rest => do
    let year ← decimal? [a, b, c, d]
    let rest ← after? '-' rest
    let (month, rest) ← readTwo 1 12 rest
    let rest ← after? '-' rest
    let (_, rest) ← readTwo 1 (daysOfMonth year month) rest
    return rest
  | _ => none

/-- What follows the time of a date, if the date has one. -/
def skipTime : List Char → List Char
  | c :: rest =>
    if c = 'T' ∨ c = 't' ∨ c = ' ' then
      match afterTime? rest with
      | some rest => (afterOffset? rest).getD rest
      | none => c :: rest
    else c :: rest
  | [] => []

/-! ## Moments -/

def afterMoment? (text : List Char) : Option (List Char) :=
  match afterDate? text with
  | some rest => some (skipTime rest)
  | none => afterTime? text

/-- A moment as a document: a record with one member, which no record with known fields knows. -/
def momentDocument (text rest : List Char) : Document :=
  .record [(some "datetime", .ofText (String.ofList (text.take (text.length - rest.length))))]

end ModuleOpens.Toml
