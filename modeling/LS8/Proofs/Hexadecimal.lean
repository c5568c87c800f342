import Mathlib.Algebra.Group.Nat.Defs
import LS8.Text.Numeral

/-!
# What hexadecimal digits are worth

A number can be read back from its hexadecimal numeral, whatever the number of zeros that
it has been padded with.  So numerals of one width that are the same are numerals of the
same number, and a byte is written with exactly two digits.

* `Text.Numeral.hexAlphabet`, `Text.Numeral.hexValue` — the digits, and what they are worth;
* `Text.Numeral.IsHexNumeral` — the numerals of a number.
-/

namespace LS8.Text.Numeral

/-- The hexadecimal digits, each at the place that is its value. -/
def hexAlphabet : List Char :=
  "0123456789ABCDEF".toList

/-- The value of some hexadecimal digits, the most significant first. -/
def hexValue (digits : List Char) : Nat :=
  digits.foldl (fun value c => 16 * value + hexAlphabet.idxOf c) 0

/-- A hexadecimal numeral of a number: hexadecimal digits that have the number as their
value.  Any number of zeros may come first. -/
structure IsHexNumeral (digits : List Char) (n : Nat) : Prop where
  isDigit : ∀ c ∈ digits, c ∈ hexAlphabet
  value : hexValue digits = n

/-! ## Reading a numeral back -/

theorem upper_digitChar : ∀ d < 16,
    (Nat.digitChar d).toUpper ∈ hexAlphabet ∧ hexAlphabet.idxOf (Nat.digitChar d).toUpper = d := by
  decide

theorem hexValue_append_singleton (digits : List Char) (c : Char) :
    hexValue (digits ++ [c]) = 16 * hexValue digits + hexAlphabet.idxOf c := by
  simp [hexValue]

theorem hexValue_zeros_append (zeros : Nat) (digits : List Char) :
    hexValue (List.replicate zeros '0' ++ digits) = hexValue digits := by
  induction zeros with
  | zero => rfl
  | succ zeros ih => exact ih

/-- A numeral of a number is one of the number without its last digit, and that digit. -/
theorem isHexNumeral_toDigits (n : Nat) :
    IsHexNumeral ((Nat.toDigits 16 n).map Char.toUpper) n := by
  induction n using Nat.strongRecOn with
  | ind n ih =>
    by_cases small : n < 16
    · obtain ⟨member, value⟩ := upper_digitChar n small
      have single : hexValue [(Nat.digitChar n).toUpper] = n := (Nat.zero_add _).trans value
      rw [Nat.toDigits_of_lt_base small]
      exact ⟨List.forall_mem_singleton.mpr member, single⟩
    · have large := Nat.le_of_not_lt small
      have earlier := ih (n / 16) (by omega)
      obtain ⟨member, value⟩ := upper_digitChar (n % 16) (Nat.mod_lt n (by decide))
      rw [Nat.toDigits_of_base_le (by decide) large, List.map_append, List.map_singleton]
      constructor
      · intro c inside
        obtain before | last := List.mem_append.mp inside
        · exact earlier.isDigit c before
        · obtain rfl := List.mem_singleton.mp last
          exact member
      · rw [hexValue_append_singleton, earlier.value, value]
        exact Nat.div_add_mod n 16

theorem isHexNumeral_hexDigits (width n : Nat) : IsHexNumeral (hexDigits width n) n := by
  have digits := isHexNumeral_toDigits n
  constructor
  · intro c inside
    obtain zero | digit := List.mem_append.mp inside
    · rw [List.eq_of_mem_replicate zero]
      decide
    · exact digits.isDigit c digit
  · exact (hexValue_zeros_append _ _).trans digits.value

theorem hexDigits_injective {width n other : Nat}
    (same : hexDigits width n = hexDigits width other) : n = other := by
  rw [← (isHexNumeral_hexDigits width n).value, same]
  exact (isHexNumeral_hexDigits width other).value

/-- A number that needs no more digits than it is given has exactly as many. -/
theorem length_hexDigits {width n : Nat} (positive : 0 < width) (small : n < 16 ^ width) :
    (hexDigits width n).length = width := by
  have fits := (Nat.length_toDigits_le_iff (by decide) positive).mpr small
  simp only [hexDigits, List.length_leftpad, List.length_map]
  exact Nat.max_eq_left fits

end LS8.Text.Numeral
