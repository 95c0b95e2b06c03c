/-
# Document.Toml.Number — numbers of TOML

A number is an integer of 64 bits with sign, in one of four bases, or a real
number; digits may be grouped by single underscores. A real number above every
finite double is refused; one below them all is not. Where a number may stand, a
moment may stand too.
-/
import ModuleOpens.Document.Toml.Moment
import ModuleOpens.Document.Toml.Text

namespace ModuleOpens.Toml

set_option autoImplicit false

open Text (hexValue?)

/-! ## Digits -/

/-- The digits that follow a first one, with single underscores between digits left out. -/
def moreDigits (isDigit : Char → Bool) : List Char → List Char × List Char
  | [] => ([], [])
  | '_' :: c :: rest =>
    if isDigit c then consChar c (moreDigits isDigit rest) else ([], '_' :: c :: rest)
  | c :: rest => if isDigit c then consChar c (moreDigits isDigit rest) else ([], c :: rest)

def someDigits (isDigit : Char → Bool) : List Char → Option (List Char × List Char)
  | [] => none
  | c :: rest => if isDigit c then some (consChar c (moreDigits isDigit rest)) else none

/-- The number that digits write in a base. -/
def numberIn (base : Nat) (digits : List Char) : Nat :=
  digits.foldl (fun n c => n * base + (hexValue? c).getD 0) 0

def readSign : List Char → Bool × List Char
  | '-' :: rest => (true, rest)
  | '+' :: rest => (false, rest)
  | text => (false, text)

/-- The digits of a decimal integer: zero alone, or digits that do not begin with zero. -/
def decimalDigits : List Char → Option (List Char × List Char)
  | '0' :: rest => some (['0'], rest)
  | text => someDigits Char.isDigit text

/-! ## Integers -/

/-- An integer of 64 bits with sign. -/
def integer? (value : Int) : Option Document :=
  if -9223372036854775808 ≤ value ∧ value ≤ 9223372036854775807 then some (.integer value) else none

/-- An integer in a base other than ten, after its mark. -/
def readInBase (base : Nat) (isDigit : Char → Bool) (text : List Char) :
    Option (Document × List Char) := do
  let (digits, rest) ← someDigits isDigit text
  return (← integer? (numberIn base digits), rest)

/-! ## Real numbers -/

def readFraction : List Char → Option (List Char × List Char)
  | '.' :: rest => someDigits Char.isDigit rest
  | _ => none

def readExponent : List Char → Option (Int × List Char)
  | c :: rest =>
    if c = 'e' ∨ c = 'E' then do
      let (negative, rest) := readSign rest
      let (digits, rest) ← someDigits Char.isDigit rest
      let value : Int := numberIn 10 digits
      return (if negative then -value else value, rest)
    else none
  | [] => none

/-- The least number that rounds to an infinite double. -/
def doubleBound : Nat := Nat.pow 2 1024 - Nat.pow 2 970

/-- `mantissa * 10 ^ exponent` rounds to an infinite double. -/
def overflows (mantissa : Nat) (exponent : Int) : Bool :=
  let magnitude := (Nat.toDigits 10 mantissa).length + exponent
  if mantissa = 0 ∨ magnitude < 0 then false
  else if 400 < magnitude then true
  else match exponent with
    | .ofNat e => doubleBound ≤ mantissa * Nat.pow 10 e
    | .negSucc e => doubleBound * Nat.pow 10 (e + 1) ≤ mantissa

/-- A real number: its digits, unless it is positive and too large. -/
def real? (negative : Bool) (whole fraction : List Char) (exponent : Int) : Option Document :=
  let digits := whole ++ fraction
  if !negative && overflows (numberIn 10 digits) (exponent - fraction.length) then none
  else some (.real (String.ofList ((if negative then ['-'] else []) ++ whole ++ '.' :: fraction)))

def readDecimal (negative : Bool) (text : List Char) : Option (Document × List Char) := do
  let (whole, rest) ← decimalDigits text
  match readFraction rest with
  | some (fraction, rest) =>
    match readExponent rest with
    | some (exponent, rest) => return (← real? negative whole fraction exponent, rest)
    | none => return (← real? negative whole fraction 0, rest)
  | none =>
    match readExponent rest with
    | some (exponent, rest) => return (← real? negative whole [] exponent, rest)
    | none =>
      let value : Int := numberIn 10 whole
      return (← integer? (if negative then -value else value), rest)

/-- A number that is written as a word. -/
def readWord : List Char → Option (Document × List Char)
  | 'i' :: 'n' :: 'f' :: rest => some (.real "inf", rest)
  | 'n' :: 'a' :: 'n' :: rest => some (.real "nan", rest)
  | _ => none

/-! ## Numbers and moments -/

def readNumber (text : List Char) : Option (Document × List Char) :=
  match afterMoment? text with
  | some rest => some (momentDocument text rest, rest)
  | none =>
    match text with
    | '0' :: 'x' :: rest => readInBase 16 (fun c => (hexValue? c).isSome) rest
    | '0' :: 'o' :: rest => readInBase 8 (fun c => '0' ≤ c ∧ c ≤ '7') rest
    | '0' :: 'b' :: rest => readInBase 2 (fun c => c == '0' || c == '1') rest
    | _ =>
      let (negative, rest) := readSign text
      match readWord rest with
      | some word => some word
      | none => readDecimal negative rest

end ModuleOpens.Toml
