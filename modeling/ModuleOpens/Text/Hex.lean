/-
# Text.Hex — bytes as hexadecimal text

Each byte is written as two lower-case digits, the high half first. Reading
takes digits in either case and refuses a text with a digit left over.

* `ofHex?_hex`: what was written is read back.
-/

namespace ModuleOpens.Text

set_option autoImplicit false

/-- The digit of a number below sixteen. -/
def hexDigit (n : Nat) : Char :=
  if n < 10 then Char.ofNat ('0'.toNat + n) else Char.ofNat ('a'.toNat + (n - 10))

/-- The value of a hexadecimal digit. -/
def hexValue? (c : Char) : Option Nat :=
  if '0' ≤ c ∧ c ≤ '9' then some (c.toNat - '0'.toNat)
  else if 'a' ≤ c ∧ c ≤ 'f' then some (c.toNat - 'a'.toNat + 10)
  else if 'A' ≤ c ∧ c ≤ 'F' then some (c.toNat - 'A'.toNat + 10)
  else none

/-- A digit has the value that it was written for. -/
theorem hexValue?_hexDigit {n : Nat} (small : n < 16) : hexValue? (hexDigit n) = some n := by
  revert n
  decide

def hexChars (bytes : List UInt8) : List Char :=
  bytes.flatMap fun byte => [hexDigit (byte.toNat / 16), hexDigit (byte.toNat % 16)]

def bytesOf? : List Char → Option (List UInt8)
  | [] => some []
  | [_] => none
  | high :: low :: rest => do
    let byte := (← hexValue? high) * 16 + (← hexValue? low)
    return UInt8.ofNat byte :: (← bytesOf? rest)

theorem bytesOf?_hexChars (bytes : List UInt8) : bytesOf? (hexChars bytes) = some bytes := by
  induction bytes with
  | nil => rfl
  | cons byte rest ih =>
    have small : byte.toNat < 256 := byte.toNat_lt
    have high := hexValue?_hexDigit (n := byte.toNat / 16) (by omega)
    have low := hexValue?_hexDigit (n := byte.toNat % 16) (by omega)
    have whole : byte.toNat / 16 * 16 + byte.toNat % 16 = byte.toNat := by omega
    simp only [hexChars, List.flatMap_cons, List.cons_append, List.nil_append] at ih ⊢
    simp only [bytesOf?, high, low, ih, whole, UInt8.ofNat_toNat, bind, Option.bind, pure]

def hex (bytes : List UInt8) : String :=
  String.ofList (hexChars bytes)

def ofHex? (text : String) : Option (List UInt8) :=
  bytesOf? text.toList

/-- What was written is read back. -/
theorem ofHex?_hex (bytes : List UInt8) : ofHex? (hex bytes) = some bytes := by
  simp [ofHex?, hex, bytesOf?_hexChars]

end ModuleOpens.Text
