import LS8.Listing.Basic
import LS8.Machine.Trace
import LS8.Opcode
import LS8.Text.Quoted

/-!
# The log

What happens is recorded as values, in the order in which it happens.  A
record has a severity, a source and a message; only the outer layer turns
records into text.

* `LogRecord` — the things that are recorded;
* `LogRecord.severity`, `LogRecord.source`, `LogRecord.message` — how a record
  reads;
* `Log.visible` — the records that are severe enough to be shown.
-/

namespace LS8

open Text

/-- How much a record matters, the most severe first. -/
inductive Severity where
  | error
  | warn
  | info
  | debug
  | trace
  deriving DecidableEq, Repr

inductive LogRecord where
  -- A program was loaded.
  | loaded (bytes : Nat)
  -- The machine as it was before an instruction.
  | traced (trace : Trace)
  -- An instruction was fetched and recognised.
  | decoded (address : Nat) (op : Opcode)
  -- A byte that is no instruction stopped the machine.
  | unknownInstruction (address : Nat) (opcode : UInt8)
  -- Two values were compared.
  | compared (left right : UInt8)
  -- An instruction that could not be carried out stopped the machine.
  | faulted (address : Nat) (cause : Fault)
  -- A run is over, after some instructions.
  | stopped (steps : Nat) (status : Status)
  -- A line of program text was skipped.
  | skipped (line : SkippedLine)
  -- A program file holds no program.
  | noInstructions (path : String)
  -- A program file was read.
  | programRead (path : String) (bytes : Nat)
  deriving DecidableEq, Repr

namespace Severity

/-- The place of a severity, zero for the most severe. -/
def rank : Severity → Nat
  | error => 0
  | warn => 1
  | info => 2
  | debug => 3
  | trace => 4

def name : Severity → String
  | error => "ERROR"
  | warn => "WARN"
  | info => "INFO"
  | debug => "DEBUG"
  | trace => "TRACE"

end Severity

/-- How the status of a stopped machine is written in the log. -/
def Status.describe : Status → String
  | active => "Active"
  | halted => "Halted"
  | trapped address opcode =>
    s!"Trapped \x7b address: {address}, opcode: {opcode.toNat} \x7d"
  | faulted address => s!"Faulted \x7b address: {address} \x7d"

namespace LogRecord

def severity : LogRecord → Severity
  | unknownInstruction .. | noInstructions .. => .warn
  | programRead .. => .info
  | loaded .. | faulted .. | stopped .. | skipped .. => .debug
  | traced .. | decoded .. | compared .. => .trace

/-- The part of the program that a record comes from. -/
def source : LogRecord → String
  | noInstructions .. | programRead .. => "ls8"
  | skipped .. => "emulator::region"
  | loaded .. | traced .. | decoded .. | unknownInstruction .. | compared .. | faulted ..
  | stopped .. => "emulator::vm"

def message : LogRecord → String
  | loaded bytes => s!"loaded {bytes} bytes"
  | traced trace => trace.render
  | decoded address op => s!"{Numeral.hex 2 address}: {op.mnemonic}"
  | unknownInstruction address opcode =>
    s!"unknown instruction 0b{Numeral.binary 8 opcode.toNat} at address {address}"
  | compared left right =>
    let flags := (Flags.ofComparison left right).byte
    s!"CMP {left.toNat} {right.toNat} -> 0b{Numeral.binary 3 flags.toNat}"
  | faulted address cause => s!"fault at 0x{Numeral.hex 2 address}: {cause.message}"
  | stopped steps status => s!"stopped after {steps} instructions: {status.describe}"
  | skipped line =>
    s!"skipping line {line.number}: {String.ofList (Text.Quoted.encode line.code)}"
  | noInstructions path => s!"{path} contains no instructions"
  | programRead path bytes => s!"{path}: {bytes} bytes"

end LogRecord

namespace Log

/-- The records that are at least as severe as a threshold, in order. -/
def visible (threshold : Severity) (records : List LogRecord) : List LogRecord :=
  records.filter fun record => record.severity.rank ≤ threshold.rank

end Log

end LS8
