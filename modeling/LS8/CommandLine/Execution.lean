import LS8.CommandLine.Request
import LS8.Listing.File
import LS8.Machine.Run

/-!
# Carrying out a request

A request goes through four stages: read the program file, build the machine,
load the program, run.  The first stage that fails decides the report.

* `Failure` — the stage that failed, and why;
* `Request.prepare` — everything before the run;
* `Ending` — how a request ended, with its exit code and its error report;
* `Request.execute` — a whole request.
-/

namespace LS8.CommandLine

open Text

inductive Failure where
  -- The program file cannot be read.
  | reading (path : String) (cause : ReadError)
  -- The machine cannot be built.
  | configuring (problem : Config.Problem)
  -- The program cannot be loaded.
  | loading (cause : Error)
  -- The run failed, with the program counter at an address.
  | running (pc : Nat) (cause : Error)
  deriving DecidableEq, Repr

namespace Failure

def message : Failure → String
  | reading path _ => s!"could not read {path}"
  | configuring problem => problem.message
  | loading cause => cause.message
  | running pc _ => s!"machine fault at pc 0x{Numeral.hex 2 pc}"

/-- Why it failed, if the message does not say so itself. -/
def cause? : Failure → Option String
  | reading _ cause => some cause.message
  | running _ cause => some cause.message
  | configuring _ | loading _ => none

/-- The lines that report a failure. -/
def lines (failure : Failure) : List String :=
  s!"Error: {failure.message}" ::
    match failure.cause? with
    | some cause => ["", "Caused by:", s!"    {cause}"]
    | none => []

end Failure

/-- How a request ended: with a machine that stopped, or not. -/
abbrev Ending := Except Failure Status

namespace Ending

/-- The exit code: a trap is told apart from a halt, and all failures are
alike. -/
def exitCode : Ending → UInt8
  | .ok (.trapped ..) => 2
  | .ok _ => 0
  | .error _ => 1

/-- The lines that report how a request ended, if something failed. -/
def lines : Ending → List String
  | .ok _ => []
  | .error failure => failure.lines

/-- How a request ends whose run has this outcome. -/
def ofOutcome (outcome : Outcome Status) : Ending :=
  outcome.result.mapError (.running outcome.machine.pc)

end Ending

structure Report where
  ending : Ending
  -- What the program printed.
  output : List Char
  -- Everything recorded on the way, in order.
  log : List LogRecord

/-- A request before its run: what has been recorded, and the loaded machine or
the reason why there is none. -/
structure Preparation where
  machine : Except Failure Machine
  log : List LogRecord

namespace Request

/-- The records of a program file that has been read. -/
def readingLog (request : Request) (listing : Listing) : List LogRecord :=
  listing.skipped.map .skipped ++
    (if listing.bytes.isEmpty then [.noInstructions request.path] else []) ++
    [.programRead request.path listing.bytes.length]

/-- The machine that a request asks for, with a program loaded. -/
def build (request : Request) (program : List UInt8) : Except Failure Machine := do
  let machine ← (Machine.ofConfig request.config).mapError .configuring
  match machine.load program with
  | .ok _ loaded => return loaded
  | .error cause _ => throw (.loading cause)

def prepare (request : Request) (contents : Except ReadError ByteArray) : Preparation :=
  match Listing.ofFile contents with
  | .error cause => { machine := .error (.reading request.path cause), log := [] }
  | .ok listing =>
    match request.build listing.bytes with
    | .error failure => { machine := .error failure, log := request.readingLog listing }
    | .ok machine =>
      { machine := .ok machine
        log := request.readingLog listing ++ [.loaded listing.bytes.length] }

/-- Carry out a request, given what the file system answers for its file.
Without a report, the run needs more instructions than the budget allows. -/
def execute (budget : Nat) (request : Request) (contents : Except ReadError ByteArray) :
    Option Report :=
  let preparation := request.prepare contents
  match preparation.machine with
  | .error failure => some { ending := .error failure, output := [], log := preparation.log }
  | .ok machine => do
    let outcome ← machine.run budget {}
    return {
      ending := .ofOutcome outcome
      output := outcome.sink.text
      log := preparation.log ++ outcome.log }

end Request

end LS8.CommandLine
