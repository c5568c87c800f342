import LS8.Log

/-!
# Requests

A request is what the arguments of the command come to once they have been read: a program
file, the numbers that settle the machine, and how much logging is wanted.  How arguments
are written, and which of them are refused, is not a matter of this library.

* `Request` — a program to run, and how;
* `Request.config` — the configuration of its machine;
* `Request.threshold` — the records that it wants to see.
-/

namespace LS8.CommandLine

/-- A program to run, and how.  A number that has not been given has its default. -/
structure Request where
  -- The program file, as messages name it.
  path : String
  -- The number of memory cells; sizes have 64 bits.
  memorySize : UInt64 := ({} : Config).memorySize.toUInt64
  stackTop : UInt8 := ({} : Config).stackTop
  -- The most instructions that the run may execute, if there is a limit.
  stepLimit : Option UInt64 := none
  -- How many times more logging has been asked for.
  verbosity : UInt8 := 0
  deriving DecidableEq, Repr

namespace Request

/-- The configuration of the machine that a request asks for. -/
def config (request : Request) : Config :=
  { memorySize := request.memorySize.toNat
    stackTop := request.stackTop
    stepLimit := request.stepLimit.map UInt64.toNat }

/-- The least severe records that a request wants to see. -/
def threshold (request : Request) : Severity :=
  match request.verbosity.toNat with
  | 0 => .warn
  | 1 => .debug
  | _ => .trace

/-! ## Basic facts -/

/-- Without any numbers a request asks for the default machine. -/
@[simp] theorem config_defaults (path : String) : ({ path } : Request).config = {} := rfl

end Request

end LS8.CommandLine
