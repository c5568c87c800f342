import LS8.Machine.Basic
import LS8.Text.Numeral

/-!
# Trace lines

A trace shows a machine in one line, as of the instruction at its program
counter: `TRACE: pc | m[pc] m[pc+1] m[pc+2] | fl | r0 … r7`, all of it
hexadecimal, with dashes for cells outside of memory.
-/

namespace LS8

open Text

structure Trace where
  pc : Nat
  -- The instruction byte at the program counter.
  instruction : Option UInt8
  -- The first operand byte.
  first : Option UInt8
  -- The second operand byte.
  second : Option UInt8
  flags : Flags
  registers : Registers
  deriving DecidableEq, Repr

def byteColumn (value : UInt8) : List Char :=
  Numeral.hexDigits 2 value.toNat

def cellColumn : Option UInt8 → List Char
  | some value => byteColumn value
  | none => ['-', '-']

namespace Trace

def cells (trace : Trace) : List (Option UInt8) :=
  [trace.instruction, trace.first, trace.second]

def line (trace : Trace) : List Char :=
  "TRACE: ".toList ++ Numeral.hexDigits 2 trace.pc ++
    " |".toList ++ trace.cells.flatMap (' ' :: cellColumn ·) ++
    " | ".toList ++ byteColumn trace.flags.byte ++
    " |".toList ++ trace.registers.toList.flatMap (' ' :: byteColumn ·)

def render (trace : Trace) : String :=
  String.ofList trace.line

end Trace

def Machine.trace (m : Machine) : Trace :=
  { pc := m.pc
    instruction := m.memory.cell? m.pc
    first := m.memory.cell? (m.pc + 1)
    second := m.memory.cell? (m.pc + 2)
    flags := m.flags
    registers := m.registers }

end LS8
