import LS8.Log
import LS8.Sink

/-!
# Instruction cycles

While an instruction is carried out, it works on a machine, prints to a sink
and adds to the log.  A `Cycle` is all of this together, and this module holds
the parts of which the actions of instructions are made:

* `Cycle.onMachine`, `Cycle.change` — work on the machine;
* `Cycle.print` — append a line to the sink;
* `Cycle.record` — add a record to the log.
-/

namespace LS8

/-- An instruction under way. -/
structure Cycle where
  machine : Machine
  sink : Sink
  -- The records of the cycle, in order.
  log : List LogRecord

namespace Cycle

abbrev Work (α : Type) := Action Fault Cycle α

/-- Make an access to the machine. -/
def onMachine {α : Type} (access : Machine.Access α) : Work α := fun cycle =>
  match access cycle.machine with
  | .ok value machine => .ok value { cycle with machine }
  | .error fault machine => .error fault { cycle with machine }

/-- Change the machine in a way that cannot fail. -/
def change (f : Machine → Machine) : Work Unit :=
  modify fun cycle => { cycle with machine := f cycle.machine }

def record (entry : LogRecord) : Work Unit :=
  modify fun cycle => { cycle with log := cycle.log ++ [entry] }

/-- Print a byte.  What fits of its line is written even if the sink refuses the
rest. -/
def print (value : UInt8) : Work Unit := do
  let before ← get
  modify fun cycle => { cycle with sink := cycle.sink.write (printedLine value) }
  if before.sink.accepts (printedLine value) then return ()
  else throw .outputRefused

/-! ## When a part succeeds, and what is left when it fails -/

variable {α β : Type} {cycle after left : Cycle} {fault : Fault} {done : Unit}

@[simp] theorem change_apply (f : Machine → Machine) :
    change f cycle = .ok () { cycle with machine := f cycle.machine } := rfl

@[simp] theorem record_apply (entry : LogRecord) :
    record entry cycle = .ok () { cycle with log := cycle.log ++ [entry] } := rfl

@[simp] theorem change_bind (f : Machine → Machine) (rest : Unit → Work α) :
    (change f >>= rest : Work α) cycle = rest () { cycle with machine := f cycle.machine } := rfl

@[simp] theorem record_bind (entry : LogRecord) (rest : Unit → Work α) :
    (record entry >>= rest : Work α) cycle = rest () { cycle with log := cycle.log ++ [entry] } :=
  rfl

theorem onMachine_of_ok {access : Machine.Access α} {value : α} {machine : Machine}
    (made : access cycle.machine = .ok value machine) :
    onMachine access cycle = .ok value { cycle with machine } := by
  simp only [onMachine, made]

theorem onMachine_of_error {access : Machine.Access α} {machine : Machine}
    (failed : access cycle.machine = .error fault machine) :
    onMachine access cycle = .error fault { cycle with machine } := by
  simp only [onMachine, failed]

theorem onMachine_bind_eq_ok_iff {access : Machine.Access α} {rest : α → Work β} {result : β} :
    (onMachine access >>= rest) cycle = .ok result after ↔
      ∃ value machine, access cycle.machine = .ok value machine ∧
        rest value { cycle with machine } = .ok result after := by
  cases made : access cycle.machine with
  | ok value machine => simp [Action.bind_of_ok (onMachine_of_ok made), and_assoc]
  | error cause machine => simp [Action.bind_of_error (onMachine_of_error made)]

/-- An access that fails leaves its machine to the cycle. -/
theorem onMachine_bind_eq_error_iff {access : Machine.Access α} {rest : α → Work β} :
    (onMachine access >>= rest) cycle = .error fault left ↔
      (∃ machine, access cycle.machine = .error fault machine ∧ left = { cycle with machine }) ∨
        ∃ value machine, access cycle.machine = .ok value machine ∧
          rest value { cycle with machine } = .error fault left := by
  cases made : access cycle.machine with
  | ok value machine => simp [Action.bind_of_ok (onMachine_of_ok made), and_assoc]
  | error cause machine =>
    simp [Action.bind_of_error (onMachine_of_error made), and_assoc, eq_comm]

theorem print_of_accepts {value : UInt8}
    (accepted : cycle.sink.accepts (printedLine value) = true) :
    print value cycle = .ok () { cycle with sink := cycle.sink.write (printedLine value) } := by
  rw [print, Action.get_bind, Action.modify_bind, if_pos accepted]
  rfl

theorem print_of_not_accepts {value : UInt8}
    (refused : ¬cycle.sink.accepts (printedLine value) = true) :
    print value cycle = .error .outputRefused
      { cycle with sink := cycle.sink.write (printedLine value) } := by
  rw [print, Action.get_bind, Action.modify_bind, if_neg refused]
  rfl

theorem print_bind_eq_ok_iff {value : UInt8} {rest : Unit → Work β} {result : β} :
    (print value >>= rest) cycle = .ok result after ↔
      cycle.sink.accepts (printedLine value) = true ∧
        rest () { cycle with sink := cycle.sink.write (printedLine value) } = .ok result after := by
  by_cases accepted : cycle.sink.accepts (printedLine value) = true
  · simp [Action.bind_of_ok (print_of_accepts accepted), accepted]
  · simp [Action.bind_of_error (print_of_not_accepts accepted), accepted]

/-- A line that is refused leaves what fitted of it in the sink. -/
theorem print_bind_eq_error_iff {value : UInt8} {rest : Unit → Work β} :
    (print value >>= rest) cycle = .error fault left ↔
      cycle.sink.accepts (printedLine value) = false ∧ fault = .outputRefused ∧
          left = { cycle with sink := cycle.sink.write (printedLine value) } ∨
        cycle.sink.accepts (printedLine value) = true ∧
          rest () { cycle with sink := cycle.sink.write (printedLine value) } =
            .error fault left := by
  by_cases accepted : cycle.sink.accepts (printedLine value) = true
  · simp [Action.bind_of_ok (print_of_accepts accepted), accepted]
  · simp [Action.bind_of_error (print_of_not_accepts accepted), accepted, eq_comm]

end Cycle

end LS8
