import Mathlib.Algebra.Group.Nat.Defs
import LS8.Text.Numeral

/-!
# What digits are worth

The value of some digits lies between two powers of the base, which depend on their number
and on what has been read before them.  So a decimal numeral without leading zeros is the
shortest one, and leading zeros are worth nothing.
-/

namespace LS8.Text.Numeral

/-- The value of some digits is bounded by how many there are. -/
theorem ofDigitChars_lt {base init : Nat} {digits : List Char}
    (small : ∀ c ∈ digits, c.toNat - '0'.toNat < base) :
    Nat.ofDigitChars base digits init < (init + 1) * base ^ digits.length := by
  induction digits generalizing init with
  | nil => simp
  | cons c rest ih =>
    have digit : c.toNat - '0'.toNat < base := small c (by simp)
    have bound := @ih (base * init + (c.toNat - '0'.toNat)) fun d member =>
      small d (List.mem_cons_of_mem c member)
    have first : base * init + (c.toNat - '0'.toNat) + 1 ≤ (init + 1) * base := by
      rw [Nat.add_mul, Nat.mul_comm init]
      omega
    calc
      _ = Nat.ofDigitChars base rest (base * init + (c.toNat - '0'.toNat)) := Nat.ofDigitChars_cons
      _ < (base * init + (c.toNat - '0'.toNat) + 1) * base ^ rest.length := bound
      _ ≤ (init + 1) * base * base ^ rest.length := Nat.mul_le_mul_right _ first
      _ = (init + 1) * base ^ (c :: rest).length := by
        rw [List.length_cons, Nat.pow_succ', Nat.mul_assoc]

/-- What has been read before some digits counts for more with each of them. -/
theorem mul_pow_le_ofDigitChars (base init : Nat) (digits : List Char) :
    init * base ^ digits.length ≤ Nat.ofDigitChars base digits init := by
  induction digits generalizing init with
  | nil => simp
  | cons c rest ih =>
    calc
      _ = base * init * base ^ rest.length := by
        rw [List.length_cons, Nat.pow_succ', ← Nat.mul_assoc, Nat.mul_comm init]
      _ ≤ (base * init + (c.toNat - '0'.toNat)) * base ^ rest.length :=
        Nat.mul_le_mul_right _ (Nat.le_add_right _ _)
      _ ≤ Nat.ofDigitChars base rest (base * init + (c.toNat - '0'.toNat)) := ih _
      _ = Nat.ofDigitChars base (c :: rest) init := Nat.ofDigitChars_cons.symm

/-- No decimal numeral of a number is shorter. -/
theorem length_decimalDigits_le {n : Nat} {digits : List Char} (numeral : IsNumeral 10 digits n) :
    (decimalDigits n).length ≤ digits.length := by
  refine (Nat.length_toDigits_le_iff (by decide) ?_).mpr ?_
  · exact List.length_pos_iff.mpr numeral.nonempty
  · have bound := @ofDigitChars_lt 10 0 digits fun c member => (numeral.isDigit c member).2
    rwa [numeral.value, Nat.zero_add, Nat.one_mul] at bound

/-- Zeros before other digits are worth nothing. -/
theorem ofDigitChars_zeros_append (base zeros : Nat) (digits : List Char) :
    Nat.ofDigitChars base (List.replicate zeros '0' ++ digits) 0 =
      Nat.ofDigitChars base digits 0 := by
  rw [Nat.ofDigitChars_append, Nat.ofDigitChars_replicate_zero, Nat.mul_zero]

end LS8.Text.Numeral
