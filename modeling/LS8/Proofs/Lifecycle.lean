import LS8.Proofs.Calls

/-!
# The life of a machine that has stopped

A status is not only a label: it says where a machine stopped and at which byte,
and the machine shows the same in its program counter and in what it has fetched
(`Status.Describes`).  It stays so, because a machine that has stopped keeps its
whole control unit, whatever is done to its memory and its registers, until it
is reset (`Session.stopped_until_reset`).
-/

namespace LS8

/-- What a status says about the machine that has it. -/
def Status.Describes (m : Machine) : Status → Prop
  | active => True
  | halted => m.fetched.instruction = Opcode.halt.byte
  | trapped address opcode =>
    m.pc = address ∧ m.fetched.instruction = opcode ∧ Opcode.ofByte? opcode = none
  | faulted address => m.pc = address

/-! ## Stopping -/

namespace Machine

variable {m after : Machine}

theorem KeepsControl.describes (kept : m.KeepsControl after) (described : m.status.Describes m) :
    after.status.Describes after := by
  rw [kept.status]
  -- The status looks at the program counter and the fetched bytes alone.
  cases status : m.status <;> simp only [status, Status.Describes] at described ⊢
  case halted => rw [kept.fetched, described]
  case trapped => rwa [kept.pc, kept.fetched]
  case faulted => rw [kept.pc, described]

theorem describes_step (m : Machine) (sink : Sink) (described : m.status.Describes m) :
    (m.step sink).machine.status.Describes (m.step sink).machine := by
  have steps := stepsTo_step m sink
  generalize m.step sink = outcome at steps ⊢
  cases steps with
  | stopped => exact described
  | trapped _ _ unknown => exact ⟨rfl, rfl, unknown⟩
  | unfetched | failed | refused => exact rfl
  | @done i effect found executes _ =>
    obtain ⟨active, _⟩ := instruction?_eq_some_iff.mp found
    change effect.machine.status.Describes effect.machine
    obtain status | ⟨op, machine_eq⟩ := executes.status_cases
    · have still : effect.machine.status = .active := status.trans active
      rw [still]
      trivial
    · rw [machine_eq]
      exact congrArg Opcode.byte op

theorem kept_describes : Kept fun m => m.status.Describes m where
  step := fun sink described => describes_step _ sink described
  update := by
    intro m updated updates described
    cases updates with
    | reset => trivial
    | load fits => exact (keepsControl_load fits).describes described
    | write inRange => exact (keepsControl_write inRange).describes described
    | setRegister r value =>
      have kept : m.KeepsControl (m.setRegister r value) := ⟨rfl, rfl, rfl, rfl, rfl⟩
      exact kept.describes described

end Machine

/-! ## Having stopped -/

namespace Session

variable {s t : Session} {made : List Call} {budget : Nat} {command : Command}
  {outcome : Outcome Reply}

/-- A run on a machine that has stopped is over at once. -/
theorem run_of_stopped (stopped : s.machine.status ≠ .active) (budget : Nat) :
    s.run budget = some
      { result := .ok s.machine.status
        machine := s.machine
        sink := s.sink
        log := [.stopped 0 s.machine.status] } :=
  Progress.complete?_of_ends (p := .start s.machine s.sink) (Nat.zero_le budget)
    (fun k before => absurd before (Nat.not_lt_zero k)) (.stopped stopped)

theorem keepsControl_of_stopped (stopped : s.machine.status ≠ .active)
    (notReset : command ≠ .reset) (performed : s.perform budget command = some outcome) :
    s.machine.KeepsControl outcome.machine ∧ outcome.sink = s.sink := by
  obtain ⟨_, led⟩ | ⟨notStep, notRun⟩ := after_of_perform performed
  · rw [after_of_stopped stopped] at led
    have machine : outcome.machine = s.machine := congrArg (·.machine) led
    rw [machine]
    exact ⟨Machine.keepsControl_refl s.machine, congrArg (·.sink) led⟩
  · exact ⟨Command.keepsControl_of_perform notStep notRun notReset performed,
      Command.sink_of_perform notStep notRun performed⟩

theorem Calls.keepsControl (stopped : s.machine.status ≠ .active) (calls : s.Calls made t)
    (noReset : ∀ call ∈ made, call.command ≠ .reset) :
    s.machine.KeepsControl t.machine ∧ t.sink = s.sink := by
  induction calls with
  | start => exact ⟨Machine.keepsControl_refl s.machine, rfl⟩
  | call _ performed ih =>
    obtain ⟨kept, sink⟩ := ih fun call earlier => noReset call (List.mem_append_left _ earlier)
    have stillStopped := kept.status ▸ stopped
    have notReset := noReset _ (List.mem_append_right _ (List.mem_singleton_self _))
    obtain ⟨keptToo, sinkToo⟩ := keepsControl_of_stopped stillStopped notReset performed
    exact ⟨kept.trans keptToo, sinkToo.trans sink⟩

/-- The only call after which a stopped machine is active is a reset. -/
theorem active_iff_reset (stopped : s.machine.status ≠ .active)
    (performed : s.perform budget command = some outcome) :
    outcome.machine.status = .active ↔ command = .reset := by
  constructor
  · intro active
    apply Decidable.byContradiction
    intro notReset
    obtain ⟨kept, _⟩ := keepsControl_of_stopped stopped notReset performed
    exact stopped (kept.status.symm.trans active)
  · rintro rfl
    obtain rfl := Option.some.inj performed
    rfl

/-- The status of every machine that can be reached is true of the machine.  Once
it is no longer active, no calls but a reset change the control unit or the sink:
every step is refused, and every run is over at once with the status, whatever
the step limit, and whatever has been put in memory or registers. -/
theorem stopped_until_reset {config : Config} {start m : Machine}
    (built : Machine.ofConfig config = .ok start) (reaches : start.Reaches m) (sink : Sink) :
    m.status.Describes m ∧
      (m.status ≠ .active → ∀ made t, Calls ⟨m, sink⟩ made t →
        (∀ call ∈ made, call.command ≠ .reset) →
          (m.KeepsControl t.machine ∧ t.sink = sink) ∧
          t.step = { result := .error .notActive, machine := t.machine, sink, log := [] } ∧
          (∀ budget, t.run budget = some
            { result := .ok m.status, machine := t.machine, sink, log := [.stopped 0 m.status] }) ∧
          ∀ budget command outcome, t.perform budget command = some outcome →
            (outcome.machine.status = .active ↔ command = .reset)) := by
  refine ⟨?_, ?_⟩
  · obtain ⟨_, rfl⟩ := Machine.ofConfig_eq_ok_iff.mp built
    have active : (Machine.powerOn config).status.Describes (Machine.powerOn config) := trivial
    exact Machine.kept_describes.reaches active reaches
  · intro stopped made t calls noReset
    obtain ⟨kept, rfl⟩ := calls.keepsControl (s := ⟨m, sink⟩) stopped noReset
    have status : t.machine.status = m.status := kept.status
    have stillStopped : t.machine.status ≠ .active := status ▸ stopped
    refine ⟨⟨kept, rfl⟩, Machine.step_of_stopped stillStopped t.sink, ?_, ?_⟩
    · intro budget
      rw [← status]
      exact run_of_stopped stillStopped budget
    · intro budget command outcome performed
      exact active_iff_reset stillStopped performed

/-- A machine that has halted, with a program loaded afterwards and a byte
written at its program counter. -/
theorem stopped_until_reset_reloaded :
    ∃ (start m : Machine) (t : Session) (made : List Call),
      Machine.ofConfig { memorySize := 3, stackTop := 3, stepLimit := some 0 } = .ok start ∧
        start.Reaches m ∧ m.status = .halted ∧ Calls ⟨m, {}⟩ made t ∧ made.length = 3 ∧
        t.machine.memory.cell? 0 = some Opcode.jump.byte ∧
        t.step.result = .error .notActive ∧
        (∀ budget, (t.run budget).map (·.result) = some (.ok .halted)) := by
  let start := Machine.powerOn { memorySize := 3, stackTop := 3, stepLimit := some 0 }
  let loaded : Machine := { start with memory := ⟨#[Opcode.halt.byte, 0, 0]⟩ }
  let m := (loaded.step {}).machine
  have built : Machine.ofConfig { memorySize := 3, stackTop := 3, stepLimit := some 0 } =
    .ok start := rfl
  have fits : start.load [Opcode.halt.byte, 0, 0] = .ok () loaded := rfl
  have reaches : start.Reaches m := (Machine.Reaches.refl.load fits).step {}
  have halted : m.status = .halted := by decide +kernel
  let s : Session := ⟨m, {}⟩
  let reloaded := (s.perform 0 (.load [Opcode.print.byte])).get rfl
  let ran := (reloaded.session.perform 0 .run).get (by decide +kernel)
  let written := (ran.session.perform 0 (.write 0 Opcode.jump.byte)).get rfl
  have reload : s.perform 0 (.load [Opcode.print.byte]) = some reloaded :=
    (Option.some_get _).symm
  have run : reloaded.session.perform 0 .run = some ran := (Option.some_get _).symm
  have write : ran.session.perform 0 (.write 0 Opcode.jump.byte) = some written :=
    (Option.some_get _).symm
  have calls := ((Calls.start.call reload).call run).call write
  obtain ⟨_, lasting⟩ := stopped_until_reset built reaches {}
  obtain ⟨_, refused, ends, _⟩ := lasting (by rw [halted]; decide) _ _ calls (by simp)
  refine ⟨start, m, _, _, built, reaches, halted, calls, rfl, by decide +kernel, ?_, ?_⟩
  · rw [refused]
  · intro budget
    rw [ends, halted]
    rfl

end Session

end LS8
