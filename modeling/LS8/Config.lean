import LS8.Text.Numeral

/-!
# Configurations

What can be chosen about a machine: the size of its memory, where its stack
starts, and how many instructions a run may execute.
-/

namespace LS8

open Text

structure Config where
  -- The number of memory cells.
  memorySize : Nat := 256
  -- The first value of the stack pointer; the stack is empty when the stack
  -- pointer is here, and grows down from it.
  stackTop : UInt8 := 0xF4
  -- The most instructions that one run may execute, if there is a limit.
  stepLimit : Option Nat := none
  deriving DecidableEq, Repr

namespace Config

/-- The least number of cells: an instruction with two operands. -/
def minMemory : Nat := 3

/-- The largest number of cells. -/
def maxMemory : Nat := 0x10000

inductive Problem where
  | memorySize (size : Nat)
  | stackTop (top : UInt8) (size : Nat)
  deriving DecidableEq, Repr

def Problem.message : Problem → String
  | memorySize size =>
    s!"invalid configuration: memory size {size} is outside {minMemory}..={maxMemory}"
  | stackTop top size =>
    s!"invalid configuration: stack top 0x{Numeral.hex 2 top.toNat} lies beyond {size} bytes of memory"

/-- What is wrong with a configuration; the memory size is looked at first. -/
def problem? (config : Config) : Option Problem :=
  if config.memorySize < minMemory ∨ maxMemory < config.memorySize then
    some (.memorySize config.memorySize)
  else if config.memorySize < config.stackTop.toNat then
    some (.stackTop config.stackTop config.memorySize)
  else none

/-- A configuration that a machine can be built from. -/
def Valid (config : Config) : Prop :=
  minMemory ≤ config.memorySize ∧ config.memorySize ≤ maxMemory ∧
    config.stackTop.toNat ≤ config.memorySize

/-! ## Basic facts -/

theorem problem?_eq_none_iff {config : Config} : config.problem? = none ↔ config.Valid := by
  unfold problem? Valid
  split
  · simp only [reduceCtorEq, false_iff]
    omega
  · split
    · simp only [reduceCtorEq, false_iff]
      omega
    · simp only [true_iff]
      omega

theorem valid_default : Config.Valid {} := by
  unfold Valid
  decide

end Config

end LS8
