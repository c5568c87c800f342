import LS8.Listing.Literal
import LS8.Proofs.Numeral

/-!
# What a binary literal is

A literal is read digit by digit in eight bits, and given up as soon as a digit does
not fit.  As appending a digit never makes a value smaller, nothing is given up that
fits in the end: a code is read as a byte exactly if it is a binary numeral of the byte,
with any number of leading zeros, after at most one plus sign (`byte?_eq_some_iff`).
-/

namespace LS8.Listing

open Text.Numeral

/-- A binary numeral of a byte, after at most one plus sign. -/
inductive IsLiteral (value : UInt8) : List Char → Prop
  | plain {digits : List Char} (numeral : IsNumeral 2 digits value.toNat) : IsLiteral value digits
  | signed {digits : List Char} (numeral : IsNumeral 2 digits value.toNat) :
      IsLiteral value ('+' :: digits)

/-! ## Digits -/

theorem binary_iff {c : Char} :
    c.isDigit = true ∧ c.toNat - '0'.toNat < 2 ↔ c = '0' ∨ c = '1' := by
  constructor
  · rintro ⟨digit, small⟩
    simp only [Char.isDigit, Bool.and_eq_true, decide_eq_true_eq, UInt32.le_iff_toNat_le] at digit
    have least : 48 ≤ c.toNat := digit.1
    have most : c.toNat < 50 := by
      change c.toNat - 48 < 2 at small
      omega
    have code : c.toNat = '0'.toNat ∨ c.toNat = '1'.toNat := by
      change c.toNat = 48 ∨ c.toNat = 49
      omega
    simpa only [Char.toNat_inj] using code
  · rintro (rfl | rfl) <;> decide

theorem bit?_eq_some_iff {c : Char} {bit : UInt8} :
    bit? c = some bit ↔
      (c.isDigit = true ∧ c.toNat - '0'.toNat < 2) ∧ bit.toNat = c.toNat - '0'.toNat := by
  rw [binary_iff]
  unfold bit?
  split
  · simp [← UInt8.toNat_inj, eq_comm]
  · simp [← UInt8.toNat_inj, eq_comm]
  · case h_3 notZero notOne =>
    constructor
    · intro read
      cases read
    · rintro ⟨binary, _⟩
      exact (binary.elim notZero notOne).elim

/-- A digit can be appended exactly if the result fits in a byte. -/
theorem appendBit?_eq_some_iff {value bit extended : UInt8} (small : bit.toNat < 2) :
    appendBit? value bit = some extended ↔ extended.toNat = 2 * value.toNat + bit.toNat := by
  have atMostOne : bit ≤ 1 := UInt8.le_iff_toNat_le.mpr (Nat.le_of_lt_succ small)
  constructor
  · exact toNat_of_appendBit? atMostOne
  · intro same
    have fits := extended.toNat_lt
    have below : value < 128 := by
      rw [UInt8.lt_iff_toNat_lt]
      change value.toNat < 128
      omega
    have appended : appendBit? value bit = some (2 * value + bit) := if_pos below
    have doubled := toNat_of_appendBit? atMostOne appended
    rw [appended, ← UInt8.toNat_inj.mp (doubled.trans same.symm)]

/-- Appending digits never makes a value smaller. -/
theorem le_ofDigitChars (digits : List Char) (init : Nat) :
    init ≤ Nat.ofDigitChars 2 digits init :=
  calc
    init ≤ init * 2 ^ digits.length := Nat.le_mul_of_pos_right init (Nat.two_pow_pos _)
    _ ≤ Nat.ofDigitChars 2 digits init := mul_pow_le_ofDigitChars 2 init digits

theorem digits?_eq_some_iff {value total : UInt8} {digits : List Char} :
    digits? value digits = some total ↔
      (∀ c ∈ digits, c.isDigit = true ∧ c.toNat - '0'.toNat < 2) ∧
        Nat.ofDigitChars 2 digits value.toNat = total.toNat := by
  induction digits generalizing value with
  | nil => simp [UInt8.toNat_inj]
  | cons c rest ih =>
    rw [digits?_cons, Nat.ofDigitChars_cons, List.forall_mem_cons]
    simp only [Option.bind_eq_some_iff, bit?_eq_some_iff, ih]
    constructor
    · rintro ⟨bit, ⟨binary, same⟩, extended, appended, isDigit, sum⟩
      have small : bit.toNat < 2 := same ▸ binary.2
      rw [(appendBit?_eq_some_iff small).mp appended, same] at sum
      exact ⟨⟨binary, isDigit⟩, sum⟩
    · rintro ⟨⟨binary, isDigit⟩, sum⟩
      have fits : 2 * value.toNat + (c.toNat - '0'.toNat) < 256 :=
        Nat.lt_of_le_of_lt (le_ofDigitChars rest _) (sum ▸ total.toNat_lt)
      obtain ⟨bit, same⟩ : ∃ bit : UInt8, bit.toNat = c.toNat - '0'.toNat :=
        ⟨.ofNat _, UInt8.toNat_ofNat_of_lt' (Nat.lt_trans binary.2 (by decide))⟩
      obtain ⟨extended, appended⟩ : ∃ extended : UInt8,
          extended.toNat = 2 * value.toNat + (c.toNat - '0'.toNat) :=
        ⟨.ofNat _, UInt8.toNat_ofNat_of_lt' fits⟩
      refine ⟨bit, ⟨binary, same⟩, extended, ?_, isDigit, appended ▸ sum⟩
      rw [appendBit?_eq_some_iff (same ▸ binary.2), appended, same]

theorem unsigned?_eq_some_iff {value : UInt8} {digits : List Char} :
    unsigned? digits = some value ↔ IsNumeral 2 digits value.toNat := by
  cases digits with
  | nil =>
    constructor
    · intro read
      cases read
    · intro numeral
      exact absurd rfl numeral.nonempty
  | cons c rest =>
    change digits? 0 (c :: rest) = some value ↔ _
    rw [digits?_eq_some_iff]
    constructor
    · rintro ⟨isDigit, same⟩
      exact ⟨by simp, isDigit, same⟩
    · intro numeral
      exact ⟨numeral.isDigit, numeral.value⟩

theorem byte?_eq_some_iff {value : UInt8} {code : List Char} :
    byte? code = some value ↔ IsLiteral value code := by
  unfold byte?
  split
  · case h_1 code =>
    rw [unsigned?_eq_some_iff]
    constructor
    · exact .signed
    · intro literal
      cases literal with
      | signed numeral => exact numeral
      | plain numeral =>
        obtain ⟨digit, _⟩ := numeral.isDigit '+' (by simp)
        simp at digit
  · case h_2 unsigned =>
    rw [unsigned?_eq_some_iff]
    constructor
    · exact .plain
    · intro literal
      cases literal with
      | plain numeral => exact numeral
      | signed => exact absurd rfl (unsigned _)

end LS8.Listing
