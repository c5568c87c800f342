import LS8.Proofs.Session

/-!
# Failures change nothing

A command that fails leaves machine and sink as they were.  A step that fails
may have fetched, and stops the machine where it is; besides that only a print
whose line is refused leaves something behind, the part of the line that still
fitted.  A run that fails has the machine of its last successful instruction.
-/

namespace LS8

/-- Of a text that is refused, a part is written and not all of it. -/
theorem Sink.fitting_of_not_accepts {sink : Sink} {text : List Char}
    (refused : sink.accepts text = false) :
    sink.fitting text <+: text ∧ sink.fitting text ≠ text := by
  unfold accepts at refused
  unfold fitting
  cases room_eq : sink.room with
  | none => simp [room_eq] at refused
  | some room =>
    simp only [room_eq, decide_eq_false_iff_not, Nat.not_le] at refused
    refine ⟨List.take_prefix room text, ?_⟩
    intro same
    have length := congrArg List.length same
    rw [List.length_take] at length
    omega

/-- What a failure leaves behind: nothing if the machine had stopped before, and
otherwise a machine that has stopped where it was, and in the sink, only if a
line was refused, a part of that line. -/
structure FailsInPlace (m : Machine) (sink : Sink) (error : Error) (outcome : Outcome Status) :
    Prop where
  unmoved : Machine.Undisturbed m outcome.machine
  stopped : error = .notActive → outcome.machine = m
  status : error ≠ .notActive → outcome.machine.status = .faulted m.pc
  silent : error ≠ .fault .outputRefused → outcome.sink = sink
  refused : error = .fault .outputRefused → ∃ i value part, m.instruction? = some i ∧
    i.op = .print ∧ m.readRegister i.first = .ok value m ∧ part <+: printedLine value ∧
      part ≠ printedLine value ∧ outcome.sink.text = sink.text ++ part

namespace Machine

variable {m : Machine} {sink : Sink} {error : Error}

theorem failsInPlace_of_silent {cause : Fault} {log : List LogRecord} (fetched : Fetched)
    (silent : cause ≠ .outputRefused) :
    FailsInPlace m sink (.fault cause)
      (Cycle.stopAtFault ⟨{ m with fetched }, sink, log⟩ m.pc cause) where
  unmoved := undisturbed_with m fetched _
  stopped := by
    intro same
    cases same
  status := fun _ => rfl
  silent := fun _ => rfl
  refused := by
    intro same
    cases same
    exact absurd rfl silent

theorem ne_outputRefused_of_fails {i : Instruction} {cause : Fault} (fails : Fails m i cause) :
    cause ≠ .outputRefused := by
  rintro rfl
  cases fails with
  | first _ _ missing | second _ _ missing =>
    obtain ⟨_, same⟩ := Register.ofByte_eq_error_iff.mp missing
    cases same
  | push _ failed | call _ _ failed =>
    obtain ⟨⟨_, same⟩ | ⟨_, _, same⟩, _⟩ := push_eq_error_iff.mp failed <;> cases same
  | pop _ failed | ret failed =>
    obtain ⟨⟨_, same⟩ | ⟨_, _, same⟩, _⟩ := pop_eq_error_iff.mp failed <;> cases same

theorem failsInPlace_step (failed : (m.step sink).result = .error error) :
    FailsInPlace m sink error (m.step sink) := by
  have steps := stepsTo_step m sink
  generalize m.step sink = outcome at steps failed ⊢
  cases steps with
  | stopped =>
    obtain rfl := Except.error.inj failed
    exact ⟨undisturbed_with m _ _, fun _ => rfl, fun other => absurd rfl other, fun _ => rfl,
      by simp⟩
  | unfetched =>
    obtain rfl := Except.error.inj failed
    exact failsInPlace_of_silent _ (by simp)
  | trapped | done => cases failed
  | failed _ fails =>
    obtain rfl := Except.error.inj failed
    exact failsInPlace_of_silent _ (ne_outputRefused_of_fails fails)
  | @refused i effect found executes full =>
    obtain rfl := Except.error.inj failed
    refine ⟨undisturbed_with m _ _, by simp, fun _ => rfl, fun other => absurd rfl other, ?_⟩
    intro _
    -- Only a print emits text, so only a print can be refused.
    cases executes with
    | @print a b r source =>
      have read : m.readRegister a = .ok (m.registers.get r) m :=
        readRegister_eq_ok_iff.mpr ⟨r, source, rfl, rfl⟩
      obtain ⟨isPart, shorter⟩ := Sink.fitting_of_not_accepts full
      exact ⟨_, _, _, found, rfl, read, isPart, shorter, Sink.text_write sink _⟩
    | _ => simp [Emission.text] at full

/-- A run that fails, and not because of its limit, has succeeded for some
instructions and failed at the next. -/
theorem failsInPlace_run {budget : Nat} {outcome : Outcome Status}
    (ended : m.run budget sink = some outcome) (failed : outcome.result = .error error)
    (unlimited : ∀ limit, error ≠ .stepLimitExceeded limit) :
    ∃ n, (∀ k < n, ((Progress.start m sink).after k).Succeeds) ∧
      let last := (Progress.start m sink).after n
      last.machine.status = .active ∧ (last.machine.step last.sink).result = .error error ∧
        FailsInPlace last.machine last.sink error outcome := by
  obtain ⟨n, _, earlier, ends⟩ := Progress.ends_of_complete? ended
  refine ⟨n, fun k before => (earlier k before).succeeds, ?_⟩
  -- Of the ways to end, only a failed step gives an error that is not the limit.
  cases ends with
  | stopped => cases failed
  | exhausted =>
    obtain rfl := Except.error.inj failed
    exact absurd rfl (unlimited _)
  | failed active _ stepFailed =>
    obtain rfl := Except.error.inj failed
    obtain ⟨unmoved, stopped, status, silent, refused⟩ := failsInPlace_step stepFailed
    exact ⟨active, stepFailed, unmoved, stopped, status, silent, refused⟩

theorem unchanged_of_failed {budget : Nat} {command : Command} {outcome : Outcome Reply}
    (notStep : command ≠ .step) (notRun : command ≠ .run)
    (performed : command.perform budget m sink = some outcome)
    (failed : outcome.result = .error error) : outcome.machine = m ∧ outcome.sink = sink := by
  cases Command.does_of_perform performed with
  | step => exact absurd rfl notStep
  | run => exact absurd rfl notRun
  | update => cases failed
  | keep => exact ⟨rfl, rfl⟩

/-- Failures are atomic: of commands, of steps, and of runs, which fail at an instruction
of an active machine and leave what the instructions before it have led to. -/
theorem failures_are_atomic (m : Machine) (sink : Sink) :
    (∀ (budget : Nat) (command : Command) outcome error, command ≠ .step → command ≠ .run →
      command.perform budget m sink = some outcome → outcome.result = .error error →
        outcome.machine = m ∧ outcome.sink = sink) ∧
    (∀ error, (m.step sink).result = .error error → FailsInPlace m sink error (m.step sink)) ∧
    ∀ budget outcome error, m.run budget sink = some outcome → outcome.result = .error error →
      (∀ limit, error ≠ .stepLimitExceeded limit) →
        ∃ n, (∀ k < n, ((Progress.start m sink).after k).Succeeds) ∧
          let last := (Progress.start m sink).after n
          last.machine.status = .active ∧ (last.machine.step last.sink).result = .error error ∧
            FailsInPlace last.machine last.sink error outcome := by
  refine ⟨?_, ?_, ?_⟩
  · intro budget command outcome error notStep notRun performed failed
    exact unchanged_of_failed notStep notRun performed failed
  · intro error failed
    exact failsInPlace_step failed
  · intro budget outcome error ended failed unlimited
    exact failsInPlace_run ended failed unlimited

/-- A program that is too long is not loaded in part.  A run that loads a register and is
then refused a line of three digits leaves the register as it was loaded, and two of the
digits in a sink with room for two; so does a step that prints the line. -/
theorem failures_are_atomic_refused_line :
    ∃ (m : Machine) (sink : Sink) (loaded : Outcome Reply) (ran : Outcome Status),
      (Command.load [0, 0, 0, 0, 0, 0, 0]).perform 0 m sink = some loaded ∧ loaded.machine = m ∧
        m.run 1 sink = some ran ∧ ran.result = .error (.fault .outputRefused) ∧
        m.registers.get 0 = 0 ∧ ran.machine.registers.get 0 = 255 ∧ ran.machine.pc = 3 ∧
        ran.machine.status = .faulted 3 ∧ ran.sink.text = ['2', '5'] ∧
        FailsInPlace (m.step sink).machine (m.step sink).sink (.fault .outputRefused)
          ((m.step sink).machine.step (m.step sink).sink) := by
  let program : Array UInt8 := #[Opcode.loadImmediate.byte, 0, 255, Opcode.print.byte, 0, 0]
  let m : Machine :=
    { powerOn { memorySize := 6, stackTop := 6 } with memory := ⟨program⟩ }
  let sink : Sink := { room := some 2 }
  obtain ⟨commands, _, runs⟩ := failures_are_atomic m sink
  obtain ⟨loaded, performed, tooLarge⟩ : ∃ loaded,
      (Command.load [0, 0, 0, 0, 0, 0, 0]).perform 0 m sink = some loaded ∧
        loaded.result = .error (.programTooLarge 7 6) := ⟨_, rfl, rfl⟩
  obtain ⟨unchanged, _⟩ := commands 0 _ loaded _ (by simp) (by simp) performed tooLarge
  let ran := (m.run 1 sink).get (by decide +kernel)
  have ended : m.run 1 sink = some ran := (Option.some_get _).symm
  have refused : ran.result = .error (.fault .outputRefused) := by decide +kernel
  obtain ⟨n, earlier, active, failed, inPlace⟩ := runs 1 ran _ ended refused (by simp)
  have loads : (m.step sink).result = .ok .active := by decide +kernel
  have prints : ((m.step sink).machine.step (m.step sink).sink).result =
      .error (.fault .outputRefused) := by decide +kernel
  -- The first instruction does not fail, and the second does not succeed.
  have second : n = 1 := by
    match n, earlier, failed with
    | 0, _, failed => cases loads.symm.trans failed
    | 1, _, _ => rfl
    | n + 2, earlier, _ =>
      obtain ⟨status, succeeded⟩ := earlier 1 (Nat.lt_add_left n (by decide))
      cases prints.symm.trans succeeded
  subst second
  have register : ran.machine.registers.get 0 = 255 := by
    rw [inPlace.unmoved.registers]
    decide +kernel
  have pc : ran.machine.pc = 3 := inPlace.unmoved.pc
  obtain ⟨_, steps, _⟩ := failures_are_atomic (m.step sink).machine (m.step sink).sink
  exact ⟨m, sink, loaded, ran, performed, unchanged, ended, refused, by decide, register, pc,
    inPlace.status (by simp), by decide +kernel, steps _ prints⟩

end Machine

end LS8
