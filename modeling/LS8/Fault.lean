import LS8.Text.Numeral

/-!
# Faults and errors

A *fault* is a reason why a single access or instruction cannot be carried
out.  An *error* is a reason why a call on the machine fails: a fault, or one
of the reasons that have nothing to do with an instruction.  Both are values;
their wording is in `Fault.message` and `Error.message`.
-/

namespace LS8

open Text

/-- Why an access or an instruction cannot be carried out. -/
inductive Fault where
  -- The address has no memory cell.
  | outsideMemory (address : Nat)
  -- No register has this number.
  | noSuchRegister (index : UInt8)
  -- A push found the stack pointer at zero.
  | stackOverflow
  -- A pop found the stack pointer at or above the stack top.
  | stackUnderflow (sp : UInt8)
  -- The address after a call is no byte, so it cannot be pushed.
  | returnAddressTooLarge (address : Nat)
  -- The sink did not take all of a printed line.
  | outputRefused
  deriving DecidableEq, Repr

/-- Why a call on the machine fails. -/
inductive Error where
  | fault (cause : Fault)
  -- The program is longer than memory.
  | programTooLarge (size capacity : Nat)
  -- No arithmetic operation has this name.
  | unknownOperation (name : String)
  -- The machine has stopped and has to be reset first.
  | notActive
  -- The run executed as many instructions as it may.
  | stepLimitExceeded (limit : Nat)
  deriving DecidableEq, Repr

namespace Fault

def message : Fault → String
  | outsideMemory address => s!"address 0x{Numeral.hex 4 address} is outside of memory"
  | noSuchRegister index => s!"register r{index.toNat} does not exist"
  | stackOverflow => "stack overflow"
  | stackUnderflow sp => s!"stack underflow (sp = 0x{Numeral.hex 2 sp.toNat})"
  | returnAddressTooLarge address =>
    s!"return address 0x{Numeral.hex 4 address} does not fit in a byte"
  | outputRefused => "could not write output"

end Fault

namespace Error

def message : Error → String
  | fault cause => cause.message
  | programTooLarge size capacity =>
    s!"program of {size} bytes does not fit in {capacity} bytes of memory"
  | unknownOperation name => s!"unsupported ALU operation `{name}`"
  | notActive => "machine is halted"
  | stepLimitExceeded limit => s!"gave up after {limit} instructions"

end Error

end LS8
