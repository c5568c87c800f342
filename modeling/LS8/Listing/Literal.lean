/-!
# Binary byte literals

A byte in program text is written in binary: an optional plus sign, then one
or more digits, of which any number of leading ones may be zero.  The value is
accumulated in eight bits, and a digit that would carry it past 255 makes the
literal unreadable.

* `bit?` — the value of a digit;
* `appendBit?` — one more digit after those read so far;
* `digits?` — a run of digits, with the value of what came before them;
* `byte?` — a whole literal.
-/

namespace LS8.Listing

def bit? : Char → Option UInt8
  | '0' => some 0
  | '1' => some 1
  | _ => none

/-- The value with one more bit at its low end, if that still fits in a byte. -/
def appendBit? (value bit : UInt8) : Option UInt8 :=
  if value < 128 then some (2 * value + bit) else none

/-- Continue a value with a run of digits. -/
def digits? (value : UInt8) : List Char → Option UInt8
  | [] => some value
  | c :: rest => do
    let extended ← appendBit? value (← bit? c)
    digits? extended rest

/-- Read a literal without its sign: at least one digit. -/
def unsigned? : List Char → Option UInt8
  | [] => none
  | code => digits? 0 code

def byte? : List Char → Option UInt8
  | '+' :: code => unsigned? code
  | code => unsigned? code

/-! ## Basic facts -/

@[simp] theorem digits?_nil (value : UInt8) : digits? value [] = some value := rfl

theorem digits?_cons (value : UInt8) (c : Char) (rest : List Char) :
    digits? value (c :: rest) =
      (bit? c).bind fun bit => (appendBit? value bit).bind (digits? · rest) := by
  rw [digits?]
  cases bit? c <;> rfl

@[simp] theorem byte?_nil : byte? [] = none := rfl

/-- A value that an appended bit extends is doubled without wrapping. -/
theorem toNat_of_appendBit? {value bit extended : UInt8} (small : bit ≤ 1)
    (fits : appendBit? value bit = some extended) :
    extended.toNat = 2 * value.toNat + bit.toNat := by
  unfold appendBit? at fits
  split at fits
  · case isTrue below =>
    obtain rfl := Option.some.inj fits
    rw [UInt8.lt_iff_toNat_lt] at below
    rw [UInt8.le_iff_toNat_le] at small
    simp only [UInt8.toNat_add, UInt8.toNat_mul, UInt8.toNat_ofNat, Nat.reducePow,
      Nat.reduceMod] at below small ⊢
    omega
  · cases fits

end LS8.Listing
