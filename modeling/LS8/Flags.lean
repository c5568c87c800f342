/-!
# Flags

The flag register remembers the latest comparison.  As a byte it is laid out
as `00000EGL`: equal, greater, less.
-/

namespace LS8

/-- The flag register: what the latest comparison found, if there was one. -/
structure Flags where
  comparison : Option Ordering
  deriving DecidableEq, Repr

namespace Flags

def clear : Flags :=
  ⟨none⟩

def ofComparison (left right : UInt8) : Flags :=
  ⟨some (compare left right)⟩

/-- The flag register as a byte. -/
def byte (flags : Flags) : UInt8 :=
  match flags.comparison with
  | none => 0
  | some .eq => 0b100
  | some .gt => 0b010
  | some .lt => 0b001

/-- Whether the latest comparison found equality. -/
def isEqual (flags : Flags) : Bool :=
  flags.comparison == some .eq

/-! ## Basic facts -/

@[simp] theorem byte_clear : clear.byte = 0 := rfl

@[simp] theorem isEqual_clear : clear.isEqual = false := rfl

/-- Equality is the third lowest bit of the byte. -/
theorem isEqual_iff_byte {flags : Flags} : flags.isEqual = true ↔ flags.byte &&& 0b100 ≠ 0 := by
  obtain ⟨comparison⟩ := flags
  rcases comparison with _ | (_ | _ | _) <;> decide

theorem byte_ofComparison (left right : UInt8) :
    (ofComparison left right).byte =
      if left = right then 0b100 else if right < left then 0b010 else 0b001 := by
  have order : compare left right =
    if left < right then .lt else if left = right then .eq else .gt := rfl
  rw [ofComparison, order]
  by_cases same : left = right
  · simp [same, byte]
  by_cases less : left < right
  · have notGreater : ¬right < left := UInt8.lt_asymm less
    simp [same, less, notGreater, byte]
  · have greater : right < left := UInt8.lt_of_le_of_ne (UInt8.not_lt.mp less) (Ne.symm same)
    simp [same, less, greater, byte]

theorem byte_injective {flags other : Flags} (same : flags.byte = other.byte) :
    flags = other := by
  obtain ⟨comparison⟩ := flags
  obtain ⟨other⟩ := other
  revert same
  rcases comparison with _ | (_ | _ | _) <;> rcases other with _ | (_ | _ | _) <;> decide

end Flags

end LS8
