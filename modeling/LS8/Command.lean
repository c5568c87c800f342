import LS8.Machine.Run

/-!
# Commands

Everything that can be asked of a machine from outside, as data: a `Command`
is performed on a machine and a sink, and gives a `Reply` or an error.
-/

namespace LS8

inductive Command where
  -- Load a program.
  | load (program : List UInt8)
  -- Read a program text and load what it holds.
  | loadText (text : List Char)
  | reset
  | step
  | run
  | read (address : Nat)
  | write (address : Nat) (value : UInt8)
  | readRegister (index : UInt8)
  | writeRegister (index value : UInt8)
  | arithmetic (op : ArithmeticOp) (a b : UInt8)
  | arithmeticNamed (name : String) (a b : UInt8)
  | trace
  deriving DecidableEq, Repr

inductive Reply where
  | done
  | byte (value : UInt8)
  | status (status : Status)
  | trace (trace : Trace)
  deriving DecidableEq, Repr

namespace Outcome

/-- The same outcome with its result seen in another way. -/
def map {α β : Type} (f : α → β) (outcome : Outcome α) : Outcome β :=
  { outcome with result := outcome.result.map f }

/-- The outcome of a call.  What it is about to record is recorded only if it
succeeds. -/
def ofCall {α : Type} (m : Machine) (sink : Sink) (log : List LogRecord)
    (call : Action Error Machine α) (reply : α → Reply) : Outcome Reply :=
  match call m with
  | .ok value machine => { result := .ok (reply value), machine, sink, log }
  | .error error machine => { result := .error error, machine, sink, log := [] }

/-- The outcome of an access. -/
def ofAccess {α : Type} (m : Machine) (sink : Sink) (access : Machine.Access α)
    (reply : α → Reply) : Outcome Reply :=
  .ofCall m sink [] (access.adaptExcept .fault) reply

end Outcome

def Machine.loadRecorded (m : Machine) (sink : Sink) (program : List UInt8) : Outcome Reply :=
  .ofCall m sink [.loaded program.length] (Machine.load program) fun _ => .done

/-- Read a program text and load what it holds, recording the lines skipped. -/
def Machine.loadText (m : Machine) (sink : Sink) (text : List Char) : Outcome Reply :=
  let listing := Listing.parse text
  let outcome := m.loadRecorded sink listing.bytes
  { outcome with log := listing.skipped.map .skipped ++ outcome.log }

/-- Perform a command.  Only a run can exceed the budget of instructions. -/
def Command.perform (budget : Nat) (m : Machine) (sink : Sink) :
    Command → Option (Outcome Reply)
  | load program => some (m.loadRecorded sink program)
  | loadText text => some (m.loadText sink text)
  | reset => some (.ofAccess m sink (modify Machine.reset) fun _ => .done)
  | step => some ((m.step sink).map .status)
  | run => (m.run budget sink).map (·.map .status)
  | read address => some (.ofAccess m sink (Machine.read address) .byte)
  | write address value => some (.ofAccess m sink (Machine.write address value) fun _ => .done)
  | readRegister index => some (.ofAccess m sink (Machine.readRegister index) .byte)
  | writeRegister index value =>
    some (.ofAccess m sink (Machine.writeRegister index value) fun _ => .done)
  | arithmetic op a b => some (.ofAccess m sink (Machine.arithmetic op a b) fun _ => .done)
  | arithmeticNamed name a b =>
    some (.ofCall m sink [] (Machine.arithmeticNamed name a b) fun _ => .done)
  | trace => some (.ofAccess m sink (return (← get).trace) .trace)

end LS8
