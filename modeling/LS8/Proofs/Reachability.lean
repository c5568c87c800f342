import LS8.Command
import LS8.Proofs.Instruction
import LS8.Proofs.Iteration

/-!
# Reachable machines

A machine is reachable if some sequence of commands leads to it from a machine
at power-on.  Commands change a machine in few ways: they step it, once or many
times, or make one of the `Machine.Updates`.  So a property that steps and
updates keep (`Machine.Kept`) holds of every machine that commands lead to.
-/

namespace LS8

namespace Machine

/-- The changes that can be made to a machine from outside. -/
inductive Updates (m : Machine) : Machine → Prop
  | reset : Updates m m.reset
  | load {loaded : Machine} {program : List UInt8} (fits : m.load program = .ok () loaded) :
      Updates m loaded
  | write {written : Machine} {address : Nat} {value : UInt8}
      (inRange : m.write address value = .ok () written) : Updates m written
  | setRegister (r : Register) (value : UInt8) : Updates m (m.setRegister r value)

theorem updates_of_writeRegister {m written : Machine} {index value : UInt8} {done : Unit}
    (stored : m.writeRegister index value = .ok done written) : m.Updates written := by
  obtain ⟨r, _, rfl⟩ := writeRegister_eq_ok_iff.mp stored
  exact .setRegister r value

theorem updates_of_arithmetic {m computed : Machine} {op : ArithmeticOp} {a b : UInt8}
    {done : Unit} (stored : m.arithmetic op a b = .ok done computed) : m.Updates computed := by
  obtain ⟨r, _, _, _, rfl⟩ := arithmetic_eq_ok_iff.mp stored
  exact .setRegister r _

end Machine

namespace Command

variable {budget : Nat} {m : Machine} {sink : Sink} {command : Command} {outcome : Outcome Reply}

/-- What a command can do.  Only a step or a run changes the sink, and whatever
else fails changes nothing. -/
inductive Does (budget : Nat) (m : Machine) (sink : Sink) : Command → Outcome Reply → Prop
  | step : Does budget m sink .step ((m.step sink).map .status)
  | run {outcome : Outcome Status} (ended : m.run budget sink = some outcome) :
      Does budget m sink .run (outcome.map .status)
  | update {command : Command} {updated : Machine} {reply : Reply} {log : List LogRecord}
      (updates : m.Updates updated) :
      Does budget m sink command { result := .ok reply, machine := updated, sink, log }
  | keep {command : Command} {result : Except Error Reply} {log : List LogRecord} :
      Does budget m sink command { result, machine := m, sink, log }

theorem does_ofCall {α : Type} {log : List LogRecord} {call : Action Error Machine α}
    {reply : α → Reply}
    (succeeds : ∀ value after, call m = .ok value after → after = m ∨ m.Updates after)
    (fails : ∀ error left, call m = .error error left → left = m) :
    Does budget m sink command (.ofCall m sink log call reply) := by
  cases called : call m with
  | ok value after =>
    simp only [Outcome.ofCall, called]
    obtain rfl | updates := succeeds value after called
    · exact .keep
    · exact .update updates
  | error error left =>
    obtain rfl := fails error left called
    simp only [Outcome.ofCall, called]
    exact .keep

theorem does_ofAccess {α : Type} {access : Machine.Access α} {reply : α → Reply}
    (succeeds : ∀ value after, access m = .ok value after → after = m ∨ m.Updates after)
    (fails : ∀ fault left, access m = .error fault left → left = m) :
    Does budget m sink command (.ofAccess m sink access reply) := by
  refine does_ofCall ?_ ?_
  · intro value after called
    exact succeeds value after (Action.adaptExcept_eq_ok_iff.mp called)
  · intro error left called
    obtain ⟨fault, failed, _⟩ := Action.adaptExcept_eq_error_iff.mp called
    exact fails fault left failed

theorem does_of_perform (performed : command.perform budget m sink = some outcome) :
    Does budget m sink command outcome := by
  cases command with
  | run =>
    obtain ⟨outcome, ended, rfl⟩ := Option.map_eq_some_iff.mp performed
    exact .run ended
  | step =>
    obtain rfl := Option.some.inj performed
    exact .step
  | load program =>
    obtain rfl := Option.some.inj performed
    exact does_ofCall (fun _ _ fits => .inr (.load fits))
      (fun _ _ refused => (Machine.load_eq_error_iff.mp refused).2.2)
  | loadText text =>
    obtain rfl := Option.some.inj performed
    simp only [Machine.loadText, Machine.loadRecorded, Outcome.ofCall]
    cases called : m.load (Listing.parse text).bytes with
    | ok done loaded => exact .update (.load called)
    | error error left =>
      obtain ⟨_, _, rfl⟩ := Machine.load_eq_error_iff.mp called
      exact .keep
  | reset =>
    obtain rfl := Option.some.inj performed
    exact .update .reset
  | read address =>
    obtain rfl := Option.some.inj performed
    exact does_ofAccess (fun _ _ read => .inl (Machine.read_eq_ok_iff.mp read).2)
      (fun _ _ failed => (Machine.read_eq_error_iff.mp failed).2.2)
  | write address value =>
    obtain rfl := Option.some.inj performed
    exact does_ofAccess (fun _ _ written => .inr (.write written))
      (fun _ _ failed => (Machine.write_eq_error_iff.mp failed).2.2)
  | readRegister index =>
    obtain rfl := Option.some.inj performed
    refine does_ofAccess ?_ (fun _ _ failed => (Machine.readRegister_eq_error_iff.mp failed).2)
    intro value after read
    obtain ⟨_, _, _, same⟩ := Machine.readRegister_eq_ok_iff.mp read
    exact .inl same
  | writeRegister index value =>
    obtain rfl := Option.some.inj performed
    exact does_ofAccess (fun _ _ stored => .inr (Machine.updates_of_writeRegister stored))
      (fun _ _ failed => (Machine.writeRegister_eq_error_iff.mp failed).2)
  | arithmetic op a b =>
    obtain rfl := Option.some.inj performed
    exact does_ofAccess (fun _ _ stored => .inr (Machine.updates_of_arithmetic stored))
      (fun _ _ failed => (Machine.arithmetic_eq_error_iff.mp failed).2)
  | arithmeticNamed name a b =>
    obtain rfl := Option.some.inj performed
    refine does_ofCall ?_ ?_
    · intro done after computed
      obtain ⟨op, _, stored⟩ := Machine.arithmeticNamed_eq_ok_iff.mp computed
      exact .inr (Machine.updates_of_arithmetic stored)
    · intro error left failed
      obtain ⟨_, _, same⟩ | ⟨op, _, fault, failed, _⟩ :=
        Machine.arithmeticNamed_eq_error_iff.mp failed
      · exact same
      · exact (Machine.arithmetic_eq_error_iff.mp failed).2
  | trace =>
    obtain rfl := Option.some.inj performed
    exact .keep

end Command

/-! ## Calls that succeed -/

/-- A call that has succeeded has left the machine that its action leads to. -/
theorem Outcome.exists_of_ofCall {α : Type} {m : Machine} {sink : Sink} {log : List LogRecord}
    {call : Action Error Machine α} {reply : α → Reply} {given : Reply}
    (succeeded : (ofCall m sink log call reply).result = .ok given) :
    ∃ value, call m = .ok value (ofCall m sink log call reply).machine := by
  cases called : call m with
  | ok value machine =>
    simp only [ofCall, called]
    exact ⟨value, rfl⟩
  | error error left =>
    simp only [ofCall, called, reduceCtorEq] at succeeded

theorem Outcome.exists_of_ofAccess {α : Type} {m : Machine} {sink : Sink}
    {access : Machine.Access α} {reply : α → Reply} {given : Reply}
    (succeeded : (ofAccess m sink access reply).result = .ok given) :
    ∃ value, access m = .ok value (ofAccess m sink access reply).machine := by
  obtain ⟨value, called⟩ := exists_of_ofCall succeeded
  exact ⟨value, Action.adaptExcept_eq_ok_iff.mp called⟩

namespace Machine

/-! ## Properties that calls keep -/

/-- A property that neither a step nor an update can take from a machine. -/
structure Kept (P : Machine → Prop) : Prop where
  step : ∀ {m : Machine} (sink : Sink), P m → P (m.step sink).machine
  update : ∀ {m updated : Machine}, m.Updates updated → P m → P updated

variable {P : Machine → Prop} {m : Machine}

theorem Kept.progress (kept : Kept P) {p : Progress} (holds : P p.machine) (n : Nat) :
    P (p.after n).machine := by
  induction n with
  | zero => exact holds
  | succ n ih => exact kept.step _ ih

theorem Kept.run (kept : Kept P) {budget : Nat} {sink : Sink} {outcome : Outcome Status}
    (holds : P m) (ended : m.run budget sink = some outcome) : P outcome.machine := by
  obtain ⟨n, _, _, ends⟩ := Progress.ends_of_complete? ended
  -- The step that ends a run, if it failed, is a step as well.
  have earlier : P ((Progress.start m sink).after n).machine := kept.progress holds n
  cases ends with
  | stopped | exhausted => exact earlier
  | failed => exact kept.step _ earlier

theorem Kept.perform (kept : Kept P) {budget : Nat} {sink : Sink} {command : Command}
    {outcome : Outcome Reply} (holds : P m)
    (performed : command.perform budget m sink = some outcome) : P outcome.machine := by
  cases Command.does_of_perform performed with
  | step => exact kept.step sink holds
  | run ended => exact kept.run holds ended
  | update updates => exact kept.update updates holds
  | keep => exact holds

/-! ## Reachable machines -/

/-- The machines that calls lead to.  Each call may print to a sink of its own,
and may be a run of any length. -/
inductive Reaches (start : Machine) : Machine → Prop
  | refl : Reaches start start
  | call {m : Machine} {budget : Nat} {sink : Sink} {command : Command} {outcome : Outcome Reply}
      (before : Reaches start m) (performed : command.perform budget m sink = some outcome) :
      Reaches start outcome.machine

/-- A machine is reachable if calls lead to it from a machine at power-on. -/
def Reachable (m : Machine) : Prop :=
  ∃ config start, ofConfig config = .ok start ∧ start.Reaches m

theorem Reaches.step {start : Machine} (reaches : start.Reaches m) (sink : Sink) :
    start.Reaches (m.step sink).machine := by
  have performed : Command.step.perform 0 m sink = some ((m.step sink).map .status) := rfl
  exact .call reaches performed

theorem Reaches.load {start loaded : Machine} {program : List UInt8} (reaches : start.Reaches m)
    (fits : m.load program = .ok () loaded) : start.Reaches loaded := by
  have performed : (Command.load program).perform 0 m {} = some
      { result := .ok .done, machine := loaded, sink := {}, log := [.loaded program.length] } := by
    simp only [Command.perform, Machine.loadRecorded, Outcome.ofCall, fits]
  exact .call reaches performed

theorem Reaches.writeRegister {start written : Machine} {index value : UInt8}
    (reaches : start.Reaches m) (stored : m.writeRegister index value = .ok () written) :
    start.Reaches written := by
  have performed : (Command.writeRegister index value).perform 0 m {} =
      some { result := .ok .done, machine := written, sink := {}, log := [] } := by
    simp only [Command.perform, Outcome.ofAccess, Outcome.ofCall,
      Action.adaptExcept_eq_ok_iff.mpr stored]
  exact .call reaches performed

theorem Kept.reaches (kept : Kept P) {start : Machine} (holds : P start)
    (reaches : start.Reaches m) : P m := by
  induction reaches with
  | refl => exact holds
  | call _ performed ih => exact kept.perform ih performed

end Machine

end LS8
