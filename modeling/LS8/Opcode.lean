/-!
# Instructions

An instruction byte is laid out as `AABCDDDD`: its two high bits count the
operand bytes that follow it, so the width of an instruction can be read off
its byte.  Thirteen of the 256 bytes stand for an instruction.

* `Opcode.byte` — the byte of an instruction;
* `Opcode.ofByte?` — the instruction of a byte, the partial inverse;
* `Opcode.width` — how many bytes an instruction takes;
* `Opcode.mnemonic` — its name in assembly text.
-/

namespace LS8

/-- The instructions of the machine.  `a` and `b` are the operand bytes, `r[i]`
a register, `m[i]` a memory cell, and `sp` is `r[7]`. -/
inductive Opcode where
  -- Stop.
  | halt
  -- `r[a] ← b`
  | loadImmediate
  -- Write `r[a]` in decimal to the sink.
  | print
  -- `r[a] ← r[a] * r[b]`
  | multiply
  -- `r[a] ← r[a] + r[b]`
  | add
  -- `sp ← sp - 1; m[sp] ← r[a]`
  | push
  -- `r[a] ← m[sp]; sp ← sp + 1`
  | pop
  -- `pc ← m[sp]; sp ← sp + 1`
  | ret
  -- `sp ← sp - 1; m[sp] ← pc + 2; pc ← r[a]`
  | call
  -- Compare `r[a]` with `r[b]` and set the flags.
  | compare
  -- `pc ← r[a]` unless the latest comparison found equality.
  | jumpIfNotEqual
  -- `pc ← r[a]` if the latest comparison found equality.
  | jumpIfEqual
  -- `pc ← r[a]`
  | jump
  deriving DecidableEq, Repr

namespace Opcode

def byte : Opcode → UInt8
  | halt => 0b00000001
  | loadImmediate => 0b10000010
  | print => 0b01000111
  | multiply => 0b10100010
  | add => 0b10100000
  | push => 0b01000101
  | pop => 0b01000110
  | ret => 0b00010001
  | call => 0b01010000
  | compare => 0b10100111
  | jumpIfNotEqual => 0b01010110
  | jumpIfEqual => 0b01010101
  | jump => 0b01010100

def all : List Opcode :=
  [halt, loadImmediate, print, multiply, add, push, pop, ret, call, compare,
    jumpIfNotEqual, jumpIfEqual, jump]

/-- The instruction that a byte stands for, if there is one. -/
def ofByte? (value : UInt8) : Option Opcode :=
  all.find? (·.byte == value)

/-- How many operand bytes follow the instruction byte: its two high bits. -/
def operandCount (op : Opcode) : Nat :=
  (op.byte >>> 6).toNat

/-- The bytes an instruction takes, its operands included. -/
def width (op : Opcode) : Nat :=
  1 + op.operandCount

def mnemonic : Opcode → String
  | halt => "HLT"
  | loadImmediate => "LDI"
  | print => "PRN"
  | multiply => "MUL"
  | add => "ADD"
  | push => "PUSH"
  | pop => "POP"
  | ret => "RET"
  | call => "CALL"
  | compare => "CMP"
  | jumpIfNotEqual => "JNE"
  | jumpIfEqual => "JEQ"
  | jump => "JMP"

/-! ## Decoding inverts encoding -/

theorem mem_all (op : Opcode) : op ∈ all := by
  cases op <;> decide

@[simp] theorem ofByte?_byte (op : Opcode) : ofByte? op.byte = some op := by
  cases op <;> rfl

/-- A byte decodes to an instruction exactly when it is the instruction's own. -/
theorem ofByte?_eq_some_iff {value : UInt8} {op : Opcode} :
    ofByte? value = some op ↔ op.byte = value := by
  constructor
  · intro found
    have same := List.find?_some found
    exact eq_of_beq same
  · rintro rfl
    exact ofByte?_byte op

theorem ofByte?_eq_none_iff {value : UInt8} :
    ofByte? value = none ↔ ∀ op : Opcode, op.byte ≠ value := by
  simp [ofByte?, mem_all]

theorem byte_injective {op other : Opcode} (same : op.byte = other.byte) :
    op = other := by
  have decoded := ofByte?_byte op
  rw [same, ofByte?_byte] at decoded
  exact (Option.some.inj decoded).symm

end Opcode

end LS8
