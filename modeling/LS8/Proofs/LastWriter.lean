import LS8.Proofs.Atomicity
import LS8.Proofs.History
import LS8.Proofs.StackRefinement
import LS8.Proofs.Stores

/-!
# The last writer wins

Each cell of memory holds what has been stored there last, by a load, a write, a
push or a call, and zero if nothing has (`Session.last_writer_wins`).  Every
call obeys one law, `Command.cell?_perform`: a cell is what the call stores
there, or else what it was.  What execution alone can change follows from where
it stores.
-/

namespace LS8

/-- The byte that a command stores at an address of memory if it succeeds, not
counting the instructions it executes. -/
def Command.stored? (address : Nat) : Command → Option UInt8
  | load program => program[address]?
  | loadText text => (Listing.parse text).bytes[address]?
  | write target value => if target = address then some value else none
  | _ => none

/-- The byte that an event has stored at an address of memory.  A call that fails
stores nothing. -/
def Event.stored? (address : Nat) : Event → Option UInt8
  | instruction before => before.stored? address
  | call command (.ok _) => command.stored? address
  | call _ (.error _) => none

/-! ## What a call stores -/

theorem Machine.cell?_load {m loaded : Machine} {program : List UInt8} {done : Unit}
    (fits : m.load program = .ok done loaded) (address : Nat) :
    loaded.memory.cell? address = program[address]?.or (m.memory.cell? address) := by
  obtain ⟨memory, copied, rfl⟩ := load_eq_ok_iff.mp fits
  rw [Memory.cell?_load? copied]
  split
  · case isTrue inside => rw [List.getElem?_eq_getElem inside, Option.some_or]
  · case isFalse outside =>
    rw [List.getElem?_eq_none (Nat.le_of_not_lt outside), Option.none_or]

namespace Command

variable {budget address : Nat} {s : Session} {command : Command} {outcome : Outcome Reply}
  {reply : Reply}

theorem cell?_of_ok (notStep : command ≠ .step) (notRun : command ≠ .run)
    (performed : command.perform budget s.machine s.sink = some outcome)
    (succeeded : outcome.result = .ok reply) (address : Nat) :
    outcome.machine.memory.cell? address =
      (command.stored? address).or (s.machine.memory.cell? address) := by
  cases command with
  | step => exact absurd rfl notStep
  | run => exact absurd rfl notRun
  | load | loadText =>
    obtain rfl := Option.some.inj performed
    obtain ⟨_, fits⟩ := Outcome.exists_of_ofCall succeeded
    exact Machine.cell?_load fits address
  | write target value =>
    obtain rfl := Option.some.inj performed
    obtain ⟨_, stored⟩ := Outcome.exists_of_ofAccess succeeded
    obtain ⟨memory, written, machine_eq⟩ := Machine.write_eq_ok_iff.mp stored
    rw [machine_eq, Command.stored?, Memory.cell?_write written]
    split <;> rfl
  | reset | trace =>
    obtain rfl := Option.some.inj performed
    rfl
  | read target =>
    obtain rfl := Option.some.inj performed
    obtain ⟨_, read⟩ := Outcome.exists_of_ofAccess succeeded
    rw [(Machine.read_eq_ok_iff.mp read).2]
    rfl
  | readRegister index =>
    obtain rfl := Option.some.inj performed
    obtain ⟨_, read⟩ := Outcome.exists_of_ofAccess succeeded
    obtain ⟨_, _, _, machine_eq⟩ := Machine.readRegister_eq_ok_iff.mp read
    rw [machine_eq]
    rfl
  | writeRegister index value =>
    obtain rfl := Option.some.inj performed
    obtain ⟨_, stored⟩ := Outcome.exists_of_ofAccess succeeded
    obtain ⟨_, _, machine_eq⟩ := Machine.writeRegister_eq_ok_iff.mp stored
    rw [machine_eq]
    rfl
  | arithmetic op a b =>
    obtain rfl := Option.some.inj performed
    obtain ⟨_, stored⟩ := Outcome.exists_of_ofAccess succeeded
    obtain ⟨_, _, _, _, machine_eq⟩ := Machine.arithmetic_eq_ok_iff.mp stored
    rw [machine_eq]
    rfl
  | arithmeticNamed name a b =>
    obtain rfl := Option.some.inj performed
    obtain ⟨_, stored⟩ := Outcome.exists_of_ofCall succeeded
    obtain ⟨_, _, computed⟩ := Machine.arithmeticNamed_eq_ok_iff.mp stored
    obtain ⟨_, _, _, _, machine_eq⟩ := Machine.arithmetic_eq_ok_iff.mp computed
    rw [machine_eq]
    rfl

end Command

/-- A cell after some single steps is what the latest of them has stored there, or
else what it was. -/
theorem Session.cell?_after (s : Session) (n address : Nat) :
    (s.after n).machine.memory.cell? address =
      (latest? (·.stored? address) (s.instructions n)).or (s.machine.memory.cell? address) := by
  induction n with
  | zero => rfl
  | succ n ih =>
    change (s.after n).step.machine.memory.cell? address = _
    rw [cell?_step, ih, instructions_succ, latest?_append, latest?_singleton, Option.or_assoc]
    rfl

theorem Command.cell?_perform {budget : Nat} {s : Session} {command : Command}
    {outcome : Outcome Reply}
    (performed : command.perform budget s.machine s.sink = some outcome) (address : Nat) :
    outcome.machine.memory.cell? address =
      (latest? (·.stored? address) (command.events s outcome)).or
        (s.machine.memory.cell? address) := by
  by_cases step : command = .step
  · subst step
    obtain rfl := Option.some.inj performed
    have led : s.step.machine = (s.after s.step.executed).machine :=
      congrArg (·.machine) s.session_step
    exact (congrArg (·.memory.cell? address) led).trans (s.cell?_after _ address)
  by_cases run : command = .run
  · subst run
    obtain ⟨whole, ended, rfl⟩ := Option.map_eq_some_iff.mp performed
    have led : whole.machine = (s.after whole.executed).machine :=
      congrArg (·.machine) (Session.run_eq_after ended)
    exact (congrArg (·.memory.cell? address) led).trans (s.cell?_after _ address)
  have events : command.events s outcome = [.call command outcome.result] := by
    cases command with
    | step => exact absurd rfl step
    | run => exact absurd rfl run
    | _ => rfl
  rw [events, latest?_singleton]
  cases result : outcome.result with
  | ok reply => exact cell?_of_ok step run performed result address
  | error error =>
    obtain ⟨machine_eq, _⟩ := Machine.unchanged_of_failed step run performed result
    rw [machine_eq]
    rfl

theorem History.cell?_eq {start m : Machine} {events : List Event}
    (history : History start events m) (address : Nat) :
    m.memory.cell? address =
      (latest? (·.stored? address) events).or (start.memory.cell? address) := by
  induction history with
  | start => rfl
  | call _ performed ih =>
    rw [latest?_append, Option.or_assoc, ← ih]
    exact Command.cell?_perform (s := ⟨_, _⟩) performed address

/-! ## What execution can change -/

namespace Session

variable {s : Session} {n address : Nat}

/-- The lowest value that the stack pointer takes during some single steps. -/
def lowestSp (s : Session) : Nat → Nat
  | 0 => s.machine.sp.toNat
  | n + 1 => min (s.lowestSp n) (s.after (n + 1)).machine.sp.toNat

theorem lowestSp_le {k : Nat} (atMost : k ≤ n) :
    s.lowestSp n ≤ (s.after k).machine.sp.toNat := by
  induction n with
  | zero =>
    obtain rfl := Nat.le_zero.mp atMost
    exact Nat.le_refl _
  | succ n ih =>
    obtain rfl | before := Nat.eq_or_lt_of_le atMost
    · exact Nat.min_le_right _ _
    · exact Nat.le_trans (Nat.min_le_left _ _) (ih (Nat.le_of_lt_succ before))

theorem exists_stored_of_changed
    (changed : (s.after n).machine.memory.cell? address ≠ s.machine.memory.cell? address) :
    ∃ k < n, ∃ value, (s.after k).stored? address = some value := by
  by_contra none
  apply changed
  apply cell?_after_of_not_stored
  intro k before
  apply Option.eq_none_iff_forall_ne_some.mpr
  intro value stored
  exact none ⟨k, before, value, stored⟩

theorem lt_of_changed
    (changed : (s.after n).machine.memory.cell? address ≠ s.machine.memory.cell? address) :
    address < 255 := by
  obtain ⟨k, _, value, stored⟩ := exists_stored_of_changed changed
  exact lt_of_stored? stored

/-- The only cell that a step can change is where it leaves the stack pointer. -/
theorem sp_of_changed
    (changed : s.step.machine.memory.cell? address ≠ s.machine.memory.cell? address) :
    s.step.machine.sp.toNat = address := by
  cases stored : s.stored? address with
  | none =>
    rw [cell?_step, stored, Option.none_or] at changed
    exact absurd rfl changed
  | some value => exact (sp_of_stored? stored).1

/-- Without an assignment to the stack pointer, only the cells are changed that
belong to the stack at some time. -/
theorem onStack_of_changed (inMemory : s.machine.StackInMemory)
    (quiet : ∀ k < n, ¬(s.after k).machine.AssignsStackPointer (s.after k).sink)
    (changed : (s.after n).machine.memory.cell? address ≠ s.machine.memory.cell? address) :
    s.lowestSp n ≤ address ∧ address < s.machine.config.stackTop.toNat := by
  obtain ⟨k, before, value, stored⟩ := exists_stored_of_changed changed
  obtain ⟨newSp, oldSp⟩ := sp_of_stored? stored
  have still : (s.after k).machine.StackInMemory := by
    rw [machine_after]
    refine inMemory.after _ k fun j less => ?_
    rw [← machine_after]
    exact quiet j (Nat.lt_trans less before)
  have low := still.sp_toNat_le
  rw [config_after] at low
  have lowest : s.lowestSp n ≤ (s.after k).step.machine.sp.toNat := lowestSp_le before
  omega

/-- Whatever calls are made on a machine from a valid configuration, each cell
holds what has been stored there last, or zero.  Execution alone changes at most
one cell a step, and none from 255 on.  If it does not assign the stack pointer
and starts with the stack pointer at or below the stack top, it changes no cell
outside of the stack at its largest. -/
theorem last_writer_wins {config : Config} {start m : Machine} {events : List Event}
    (built : Machine.ofConfig config = .ok start) (history : History start events m) :
    (∀ address, m.memory.cell? address = if address < config.memorySize then
      some ((latest? (·.stored? address) events).getD 0) else none) ∧
    (∀ sink address other,
      (m.step sink).machine.memory.cell? address ≠ m.memory.cell? address →
      (m.step sink).machine.memory.cell? other ≠ m.memory.cell? other → other = address) ∧
    (∀ sink n address,
      let s : Session := ⟨m, sink⟩
      (s.after n).machine.memory.cell? address ≠ m.memory.cell? address →
      address < 255 ∧ (m.sp ≤ config.stackTop →
        (∀ k < n, ¬(s.after k).machine.AssignsStackPointer (s.after k).sink) →
        s.lowestSp n ≤ address ∧ address < config.stackTop.toNat)) ∧
    ∀ sink budget outcome, m.run budget sink = some outcome →
      outcome.machine = (Session.after ⟨m, sink⟩ outcome.executed).machine := by
  have ⟨valid, bounds⟩ := Machine.inBounds_of_reaches built history.reaches
  refine ⟨?_, ?_, ?_, ?_⟩
  · intro address
    obtain ⟨_, rfl⟩ := Machine.ofConfig_eq_ok_iff.mp built
    split
    · case isTrue inside =>
      have zero : (Machine.powerOn config).memory.cell? address = some 0 :=
        (Memory.cell?_zeros _ _).trans (if_pos inside)
      rw [history.cell?_eq, zero, Option.or_some]
    · case isFalse outside =>
      rw [Memory.cell?_eq_none_iff, bounds.memory_size]
      exact Nat.le_of_not_lt outside
  · intro sink address other changed changedToo
    have here := sp_of_changed (s := ⟨m, sink⟩) changed
    rw [← here]
    exact (sp_of_changed (s := ⟨m, sink⟩) changedToo).symm
  · intro sink n address s changed
    refine ⟨lt_of_changed (s := s) changed, fun low quiet => ?_⟩
    have inMemory : m.StackInMemory := by
      refine ⟨by rwa [bounds.config_eq], ?_⟩
      rw [bounds.config_eq, bounds.memory_size]
      exact valid.2.2
    have onStack := onStack_of_changed (s := s) inMemory quiet changed
    rwa [← bounds.config_eq]
  · intro sink budget outcome ended
    exact congrArg (·.machine) (run_eq_after (s := ⟨m, sink⟩) ended)

/-- A cell that is pushed to and then written; a shorter program that is loaded
afterwards and a write that fails leave it. -/
theorem last_writer_wins_write_after_push :
    ∃ (config : Config) (start m : Machine) (events : List Event),
      Machine.ofConfig config = .ok start ∧ History start events m ∧ events.length = 7 ∧
        latest? (·.stored? 9) events = some 5 ∧ m.memory.cell? 9 = some 5 := by
  let config : Config := { memorySize := 12, stackTop := 10 }
  have valid : config.Valid := by
    unfold Config.Valid
    decide
  have built := Machine.ofConfig_eq_ok_iff.mpr ⟨valid, rfl⟩
  let program : List UInt8 := [Opcode.loadImmediate.byte, 0, 7, Opcode.push.byte, 0,
    Opcode.halt.byte]
  let start := Machine.powerOn config
  let loaded := ((Command.load program).perform 0 start {}).get rfl
  let ran := (Command.run.perform 3 loaded.machine {}).get (by decide +kernel)
  let written := ((Command.write 9 5).perform 0 ran.machine {}).get rfl
  let reloaded := ((Command.load [1, 2, 3]).perform 0 written.machine {}).get rfl
  let refused := ((Command.write 12 6).perform 0 reloaded.machine {}).get rfl
  have load : (Command.load program).perform 0 start {} = some loaded := (Option.some_get _).symm
  have run : Command.run.perform 3 loaded.machine {} = some ran := (Option.some_get _).symm
  have write : (Command.write 9 5).perform 0 ran.machine {} = some written :=
    (Option.some_get _).symm
  have reload : (Command.load [1, 2, 3]).perform 0 written.machine {} = some reloaded :=
    (Option.some_get _).symm
  have refuse : (Command.write 12 6).perform 0 reloaded.machine {} = some refused :=
    (Option.some_get _).symm
  have history := ((((History.start.call load).call run).call write).call reload).call refuse
  obtain ⟨cells, _⟩ := last_writer_wins built history
  refine ⟨config, start, refused.machine, _, built, history, by decide +kernel, ?_, ?_⟩
  · decide +kernel
  · rw [cells, if_pos (by decide)]
    decide +kernel

end Session

end LS8
