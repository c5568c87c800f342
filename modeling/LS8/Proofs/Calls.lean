import LS8.Proofs.Atomicity
import LS8.Proofs.Session

/-!
# Calls on a session

Calls are made on a session one after the other, so that all of them print to
one sink.  This module says what such sequences are, and which calls can touch
the control unit: apart from a reset, only those that execute instructions.

* `Session.perform` — one call;
* `Session.Calls` — calls one after the other, each with its outcome;
* `Machine.KeepsControl` — nothing but memory and registers has changed.
-/

namespace LS8

/-- A call that has been made, with its outcome. -/
structure Call where
  command : Command
  outcome : Outcome Reply

namespace Session

/-- Make a call.  Only a run can exceed the budget of instructions. -/
def perform (budget : Nat) (s : Session) (command : Command) : Option (Outcome Reply) :=
  command.perform budget s.machine s.sink

/-- Calls made one after the other lead from one session to another.  Each of
them may be a run of any length. -/
inductive Calls (s : Session) : List Call → Session → Prop
  | start : Calls s [] s
  | call {made : List Call} {t : Session} {budget : Nat} {command : Command}
      {outcome : Outcome Reply} (earlier : Calls s made t)
      (performed : t.perform budget command = some outcome) :
      Calls s (made ++ [⟨command, outcome⟩]) outcome.session

variable {s : Session} {budget : Nat} {command : Command} {outcome : Outcome Reply}

theorem perform_step (s : Session) (budget : Nat) :
    s.perform budget .step = some (s.step.map .status) := rfl

theorem perform_run_eq_some_iff :
    s.perform budget .run = some outcome ↔
      ∃ whole, s.run budget = some whole ∧ outcome = whole.map .status := by
  change (s.run budget).map (·.map .status) = some outcome ↔ _
  rw [Option.map_eq_some_iff]
  constructor
  · rintro ⟨whole, ended, rfl⟩
    exact ⟨whole, ended, rfl⟩
  · rintro ⟨whole, ended, rfl⟩
    exact ⟨whole, ended, rfl⟩

/-- A step or a run leads where as many single steps lead as it executes
instructions. -/
theorem after_of_perform (performed : s.perform budget command = some outcome) :
    (command = .step ∨ command = .run) ∧ outcome.session = s.after outcome.executed ∨
      command ≠ .step ∧ command ≠ .run := by
  by_cases step : command = .step
  · subst step
    obtain rfl := Option.some.inj performed
    exact .inl ⟨.inl rfl, s.session_step⟩
  by_cases run : command = .run
  · subst run
    obtain ⟨whole, ended, rfl⟩ := perform_run_eq_some_iff.mp performed
    exact .inl ⟨.inr rfl, run_eq_after ended⟩
  exact .inr ⟨step, run⟩

end Session

/-! ## Calls that leave the control unit alone -/

/-- Nothing has changed between two machines but memory and registers. -/
structure Machine.KeepsControl (before after : Machine) : Prop where
  config : after.config = before.config
  pc : after.pc = before.pc
  fetched : after.fetched = before.fetched
  flags : after.flags = before.flags
  status : after.status = before.status

namespace Machine

variable {m after : Machine}

theorem keepsControl_refl (m : Machine) : m.KeepsControl m :=
  ⟨rfl, rfl, rfl, rfl, rfl⟩

theorem keepsControl_load {program : List UInt8} {done : Unit}
    (fits : m.load program = .ok done after) : m.KeepsControl after := by
  obtain ⟨_, _, rfl⟩ := load_eq_ok_iff.mp fits
  exact ⟨rfl, rfl, rfl, rfl, rfl⟩

theorem keepsControl_read {address : Nat} {value : UInt8}
    (found : m.read address = .ok value after) : m.KeepsControl after := by
  obtain ⟨_, rfl⟩ := read_eq_ok_iff.mp found
  exact keepsControl_refl _

theorem keepsControl_write {address : Nat} {value : UInt8} {done : Unit}
    (inRange : m.write address value = .ok done after) : m.KeepsControl after := by
  obtain ⟨_, _, rfl⟩ := write_eq_ok_iff.mp inRange
  exact ⟨rfl, rfl, rfl, rfl, rfl⟩

theorem keepsControl_readRegister {index value : UInt8}
    (found : m.readRegister index = .ok value after) : m.KeepsControl after := by
  obtain ⟨_, _, _, rfl⟩ := readRegister_eq_ok_iff.mp found
  exact keepsControl_refl _

theorem keepsControl_writeRegister {index value : UInt8} {done : Unit}
    (stored : m.writeRegister index value = .ok done after) : m.KeepsControl after := by
  obtain ⟨_, _, rfl⟩ := writeRegister_eq_ok_iff.mp stored
  exact ⟨rfl, rfl, rfl, rfl, rfl⟩

theorem keepsControl_arithmetic {op : ArithmeticOp} {a b : UInt8} {done : Unit}
    (computed : m.arithmetic op a b = .ok done after) : m.KeepsControl after := by
  obtain ⟨_, _, _, _, rfl⟩ := arithmetic_eq_ok_iff.mp computed
  exact ⟨rfl, rfl, rfl, rfl, rfl⟩

theorem KeepsControl.trans {last : Machine} (first : m.KeepsControl after)
    (second : after.KeepsControl last) : m.KeepsControl last where
  config := second.config.trans first.config
  pc := second.pc.trans first.pc
  fetched := second.fetched.trans first.fetched
  flags := second.flags.trans first.flags
  status := second.status.trans first.status

end Machine

theorem Outcome.ofCall_sink {α : Type} (m : Machine) (sink other : Sink) (log : List LogRecord)
    (call : Action Error Machine α) (reply : α → Reply) :
    ofCall m other log call reply = { ofCall m sink log call reply with sink := other } := by
  unfold ofCall
  cases call m <;> rfl

namespace Command

variable {budget : Nat} {s : Session} {command : Command} {outcome : Outcome Reply}

theorem sink_of_perform (notStep : command ≠ .step) (notRun : command ≠ .run)
    (performed : s.perform budget command = some outcome) : outcome.sink = s.sink := by
  cases does_of_perform performed with
  | step => exact absurd rfl notStep
  | run => exact absurd rfl notRun
  | update | keep => rfl

/-- A call that executes no instruction does not look at the sink. -/
theorem perform_sink (notStep : command ≠ .step) (notRun : command ≠ .run) (budget : Nat)
    (m : Machine) (sink other : Sink) :
    command.perform budget m other =
      (command.perform budget m sink).map fun outcome => { outcome with sink := other } := by
  cases command with
  | step => exact absurd rfl notStep
  | run => exact absurd rfl notRun
  | loadText text =>
    simp only [perform, Machine.loadText, Machine.loadRecorded, Option.map_some]
    rw [Outcome.ofCall_sink m sink other]
  | _ => exact congrArg some (Outcome.ofCall_sink m sink other _ _ _)

/-- Apart from a reset, a call touches the control unit only by executing
instructions. -/
theorem keepsControl_of_perform (notStep : command ≠ .step) (notRun : command ≠ .run)
    (notReset : command ≠ .reset) (performed : s.perform budget command = some outcome) :
    s.machine.KeepsControl outcome.machine := by
  cases result : outcome.result with
  | error error =>
    obtain ⟨machine_eq, _⟩ := Machine.unchanged_of_failed notStep notRun performed result
    rw [machine_eq]
    exact Machine.keepsControl_refl s.machine
  | ok reply =>
    cases command with
    | step => exact absurd rfl notStep
    | run => exact absurd rfl notRun
    | reset => exact absurd rfl notReset
    | trace =>
      obtain rfl := Option.some.inj performed
      exact Machine.keepsControl_refl s.machine
    | load | loadText =>
      obtain rfl := Option.some.inj performed
      obtain ⟨_, fits⟩ := Outcome.exists_of_ofCall result
      exact Machine.keepsControl_load fits
    | read =>
      obtain rfl := Option.some.inj performed
      obtain ⟨_, found⟩ := Outcome.exists_of_ofAccess result
      exact Machine.keepsControl_read found
    | write =>
      obtain rfl := Option.some.inj performed
      obtain ⟨_, inRange⟩ := Outcome.exists_of_ofAccess result
      exact Machine.keepsControl_write inRange
    | readRegister =>
      obtain rfl := Option.some.inj performed
      obtain ⟨_, found⟩ := Outcome.exists_of_ofAccess result
      exact Machine.keepsControl_readRegister found
    | writeRegister =>
      obtain rfl := Option.some.inj performed
      obtain ⟨_, stored⟩ := Outcome.exists_of_ofAccess result
      exact Machine.keepsControl_writeRegister stored
    | arithmetic =>
      obtain rfl := Option.some.inj performed
      obtain ⟨_, computed⟩ := Outcome.exists_of_ofAccess result
      exact Machine.keepsControl_arithmetic computed
    | arithmeticNamed =>
      obtain rfl := Option.some.inj performed
      obtain ⟨_, named⟩ := Outcome.exists_of_ofCall result
      obtain ⟨_, _, computed⟩ := Machine.arithmeticNamed_eq_ok_iff.mp named
      exact Machine.keepsControl_arithmetic computed

end Command

end LS8
