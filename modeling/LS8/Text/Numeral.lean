/-!
# Numerals

How numbers are written: decimal without leading zeros, and hexadecimal or
binary with at least a given number of digits.  Hexadecimal digits above nine
are upper case.
-/

namespace LS8.Text.Numeral

/-- The decimal digits of a number, most significant first. -/
def decimalDigits (n : Nat) : List Char :=
  Nat.toDigits 10 n

/-- The binary digits of a number, at least `width` of them. -/
def binaryDigits (width n : Nat) : List Char :=
  (Nat.toDigits 2 n).leftpad width '0'

/-- The hexadecimal digits of a number, at least `width` of them. -/
def hexDigits (width n : Nat) : List Char :=
  ((Nat.toDigits 16 n).map Char.toUpper).leftpad width '0'

/-- The binary numeral of a number, with at least `width` digits. -/
def binary (width n : Nat) : String :=
  String.ofList (binaryDigits width n)

/-- The hexadecimal numeral of a number, with at least `width` digits. -/
def hex (width n : Nat) : String :=
  String.ofList (hexDigits width n)

/-- A numeral of a number: one or more digits of a base, which is at most ten, that have
the number as their value.  Any number of zeros may come first. -/
structure IsNumeral (base : Nat) (digits : List Char) (n : Nat) : Prop where
  nonempty : digits ≠ []
  isDigit : ∀ c ∈ digits, c.isDigit = true ∧ c.toNat - '0'.toNat < base
  value : Nat.ofDigitChars base digits 0 = n

/-! ## Basic facts -/

theorem ofDigitChars_decimalDigits (n : Nat) : Nat.ofDigitChars 10 (decimalDigits n) 0 = n :=
  Nat.ofDigitChars_toDigits (by decide) (by decide)

theorem isDigit_of_mem_decimalDigits {n : Nat} {c : Char} (member : c ∈ decimalDigits n) :
    c.isDigit = true :=
  Nat.isDigit_of_mem_toDigits (by decide) (by decide) member

theorem digit_lt_ten {c : Char} (digit : c.isDigit = true) : c.toNat - '0'.toNat < 10 := by
  simp only [Char.isDigit, Bool.and_eq_true, decide_eq_true_eq, UInt32.le_iff_toNat_le] at digit
  have most : c.toNat ≤ 57 := digit.2
  change c.toNat - 48 < 10
  omega

theorem isNumeral_decimalDigits (n : Nat) : IsNumeral 10 (decimalDigits n) n where
  nonempty := Nat.toDigits_ne_nil
  isDigit := by
    intro c member
    have digit := isDigit_of_mem_decimalDigits member
    exact ⟨digit, digit_lt_ten digit⟩
  value := ofDigitChars_decimalDigits n

end LS8.Text.Numeral
