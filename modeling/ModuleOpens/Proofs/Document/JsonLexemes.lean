/-
# Proofs.Document.JsonLexemes — texts and numbers of JSON, written and read back

A written character is one part of the text that is read, and stands for that
character alone: the codes that are written as code units are controls, so none
of them is half of a surrogate pair. Written digits begin with zero only for
zero, and end where something follows that no number goes on with.

* `readText_escaped`: a text reads back with what stands behind its quote;
* `readNumber_integerChars`: so does an integer, whatever its sign.
-/
import ModuleOpens.Document.JsonReader
import ModuleOpens.Document.JsonWriter
import Mathlib.Data.List.Basic

namespace ModuleOpens.Json

set_option autoImplicit false

open Text (hexDigit hexValue? hexValue?_hexDigit)

/-! ## Texts -/

/-- The part stands for the character, whatever parts follow. -/
def Piece.StandsFor (piece : Piece) (c : Char) : Prop :=
  ∀ parts, charsOf? (piece :: parts) = (charsOf? parts).map (c :: ·)

theorem Piece.standsFor_char (c : Char) : (Piece.char c).StandsFor c :=
  fun _ => rfl

/-- A control as a code unit: no part behind it can make it half of a pair. -/
theorem Piece.standsFor_unit {c : Char} (control : c.toNat < 32) :
    (Piece.unit c.toNat).StandsFor c := by
  have high : isHigh c.toNat = false := by simp [isHigh]; omega
  have low : isLow c.toNat = false := by simp [isLow]; omega
  intro parts
  cases parts with
  | nil => simp [charsOf?, high, low, Char.ofNat_toNat]
  | cons part rest =>
    cases part with
    | char d => simp [charsOf?, high, low, Char.ofNat_toNat]
    | unit value => simp [charsOf?, high, low, Char.ofNat_toNat]

theorem pieces_letter {letter c : Char} (named : escapeLetter? letter = some c)
    (rest : List Char) :
    pieces ('\\' :: letter :: rest) = (pieces rest).map (consPiece (.char c)) := by
  have notCode : letter ≠ 'u' := by
    rintro rfl
    cases named
  rw [pieces]
  · simp only [named]
  · rintro a b c d more rfl
    exact absurd rfl notCode

theorem pieces_code {n : Nat} (small : n < 256) (rest : List Char) :
    pieces ('\\' :: 'u' :: '0' :: '0' :: hexDigit (n / 16) :: hexDigit (n % 16) :: rest) =
      (pieces rest).map (consPiece (.unit n)) := by
  have high := hexValue?_hexDigit (n := n / 16) (by omega)
  have low := hexValue?_hexDigit (n := n % 16) (by omega)
  have zero : hexValue? '0' = some 0 := by decide
  have value : unitOf? '0' '0' (hexDigit (n / 16)) (hexDigit (n % 16)) = some n := by
    simp only [unitOf?, zero, high, low, bind, Option.bind, pure]
    congr 1
    omega
  simp only [pieces, value]

theorem pieces_plain {c : Char} (quote : c ≠ '"') (backslash : c ≠ '\\') (control : ¬ c.toNat < 32)
    (rest : List Char) : pieces (c :: rest) = (pieces rest).map (consPiece (.char c)) := by
  rw [pieces, if_neg control]
  all_goals intros; simp_all

/-- What is written for a character is one part of the text that stands for it. -/
theorem pieces_escapedChar (c : Char) :
    ∃ piece : Piece, piece.StandsFor c ∧
      ∀ rest, pieces (escapedChar c ++ rest) = (pieces rest).map (consPiece piece) := by
  unfold escapedChar
  split_ifs with quote backslash newline ret tab back feed control
  · exact ⟨.char c, Piece.standsFor_char c, pieces_letter (by subst quote; decide)⟩
  · exact ⟨.char c, Piece.standsFor_char c, pieces_letter (by subst backslash; decide)⟩
  · exact ⟨.char c, Piece.standsFor_char c, pieces_letter (by subst newline; decide)⟩
  · exact ⟨.char c, Piece.standsFor_char c, pieces_letter (by subst ret; decide)⟩
  · exact ⟨.char c, Piece.standsFor_char c, pieces_letter (by subst tab; decide)⟩
  · exact ⟨.char c, Piece.standsFor_char c, pieces_letter (by subst back; decide)⟩
  · exact ⟨.char c, Piece.standsFor_char c, pieces_letter (by subst feed; decide)⟩
  · exact ⟨.unit c.toNat, Piece.standsFor_unit control, pieces_code (by omega)⟩
  · exact ⟨.char c, Piece.standsFor_char c, pieces_plain quote backslash control⟩

theorem pieces_escaped (chars rest : List Char) :
    ∃ parts, pieces (chars.flatMap escapedChar ++ '"' :: rest) = some (parts, rest) ∧
      charsOf? parts = some chars := by
  induction chars with
  | nil => exact ⟨[], by simp [pieces], rfl⟩
  | cons c chars ih =>
    obtain ⟨parts, read, content⟩ := ih
    obtain ⟨piece, stands, written⟩ := pieces_escapedChar c
    refine ⟨piece :: parts, ?_, ?_⟩
    · rw [List.flatMap_cons, List.append_assoc, written, read]
      rfl
    · rw [stands, content]
      rfl

/-- A text reads back, with what stands behind its closing quote. -/
theorem readText_escaped (content : String) (rest : List Char) :
    readText (content.toList.flatMap escapedChar ++ '"' :: rest) = some (some content, rest) := by
  obtain ⟨parts, read, chars⟩ := pieces_escaped content.toList rest
  simp [readText, read, chars]

/-! ## Numbers -/

/-- No number goes on with what stands here. -/
def EndsNumber (rest : List Char) : Prop :=
  ∀ c ∈ rest.head?, c.isDigit = false ∧ c ≠ '.' ∧ c ≠ 'e' ∧ c ≠ 'E'

theorem natOf_digitsOf (n : Nat) : natOf (digitsOf n) = n := by
  have value := Nat.ofDigitChars_ten_toDigits (n := n)
  rw [Nat.ofDigitChars_eq_foldl] at value
  simpa only [natOf, digitsOf, Nat.mul_comm] using value

theorem isDigit_of_mem_digitsOf {n : Nat} {c : Char} (member : c ∈ digitsOf n) :
    c.isDigit = true :=
  Nat.isDigit_of_mem_toDigits (by decide) (by decide) member

theorem digitsOf_eq_cons (n : Nat) :
    ∃ c more, digitsOf n = c :: more ∧ c.isDigit = true := by
  cases written : digitsOf n with
  | nil => exact absurd written Nat.toDigits_ne_nil
  | cons c more => exact ⟨c, more, rfl, isDigit_of_mem_digitsOf (written ▸ List.mem_cons_self)⟩

/-- Written digits begin with zero for zero only. -/
theorem eq_zero_of_head?_digitsOf {n : Nat} (zero : (digitsOf n).head? = some '0') : n = 0 := by
  induction n using Nat.strongRecOn with
  | ind n ih =>
    rcases Nat.lt_or_ge n 10 with small | large
    · rw [digitsOf, Nat.toDigits_of_lt_base small, List.head?_cons, Option.some.injEq,
        Nat.digitChar_eq_zero] at zero
      exact zero
    · rw [digitsOf, Nat.toDigits_of_base_le (by decide) large,
        List.head?_append_of_ne_nil _ Nat.toDigits_ne_nil] at zero
      have := ih (n / 10) (by omega) zero
      omega

theorem wholeDigits_digitsOf (n : Nat) {rest : List Char} (ends : EndsNumber rest) :
    wholeDigits (digitsOf n ++ rest) = some (digitsOf n, rest) := by
  have digits : ∀ c ∈ digitsOf n, c.isDigit = true := fun c => isDigit_of_mem_digitsOf
  have stop : rest.takeWhile Char.isDigit = [] ∧ rest.dropWhile Char.isDigit = rest := by
    cases rest with
    | nil => exact ⟨rfl, rfl⟩
    | cons c rest => simp [(ends c rfl).1]
  have some : someDigits (digitsOf n ++ rest) = some (digitsOf n, rest) := by
    rw [someDigits, List.takeWhile_append_of_pos digits, List.dropWhile_append_of_pos digits,
      stop.1, stop.2, List.append_nil, if_neg (by simp [digitsOf, Nat.toDigits_ne_nil])]
  have leading : ¬ ((digitsOf n).head? = Option.some '0' ∧ (digitsOf n).length ≠ 1) := by
    rintro ⟨zero, more⟩
    rw [eq_zero_of_head?_digitsOf zero] at more
    exact more (by decide)
  simp only [wholeDigits, some, bind, Option.bind, if_neg leading]

theorem readMagnitude_digitsOf (negative : Bool) (n : Nat) {rest : List Char}
    (ends : EndsNumber rest) :
    readMagnitude negative (digitsOf n ++ rest) = some (numberOf negative (digitsOf n) [], rest) := by
  have fraction : fractionDigits rest = some ([], rest) := by
    unfold fractionDigits
    split
    · exact absurd rfl (ends _ rfl).2.1
    · rfl
  have exponent : exponentDigits rest = some ([], rest) := by
    cases rest with
    | nil => rfl
    | cons c rest =>
      rw [exponentDigits, if_neg]
      exact not_or.2 (ends c rfl).2.2
  simp only [readMagnitude, wholeDigits_digitsOf n ends, fraction, exponent, bind, Option.bind,
    pure, List.append_nil]

/-- An integer reads back, before anything that no number goes on with. -/
theorem readNumber_integerChars (value : Int) {rest : List Char} (ends : EndsNumber rest) :
    readNumber (integerChars value ++ rest) = some (.integer value, rest) := by
  cases value with
  | ofNat n =>
    obtain ⟨c, more, written, digit⟩ := digitsOf_eq_cons n
    have unsigned : readNumber (digitsOf n ++ rest) = readMagnitude false (digitsOf n ++ rest) := by
      rw [written, List.cons_append, readNumber]
      rintro minus ⟨⟩
      exact absurd digit (by decide)
    rw [integerChars, unsigned, readMagnitude_digitsOf false n ends]
    simp only [numberOf, natOf_digitsOf]
    rfl
  | negSucc n =>
    rw [integerChars, List.cons_append, readNumber, readMagnitude_digitsOf true (n + 1) ends]
    simp only [numberOf, natOf_digitsOf]
    rfl

end ModuleOpens.Json
