import LS8.Proofs.Stores

/-!
# Slicing an execution

An execution can be cut into steps and runs in any way.  Wherever such calls lead
a session, as many single steps as they have executed instructions lead there
too, so that nothing but the number of instructions is left of how it was cut.

* `Session.Drives` — some steps and runs, one after the other;
* `Session.RunsOut` — runs that all give up at the step limit;
* `Session.slicing_independent` — the three things that follow from
  `Session.run_eq_after`.
-/

namespace LS8

/-- What a call leaves behind, with another step limit. -/
def Outcome.withStepLimit {α : Type} (limit : Option Nat) (outcome : Outcome α) : Outcome α :=
  { outcome with machine.config.stepLimit := limit }

@[simp] theorem Outcome.result_withStepLimit {α : Type} (limit : Option Nat)
    (outcome : Outcome α) : (outcome.withStepLimit limit).result = outcome.result := rfl

namespace Session

/-- Steps and runs in any mix, which have executed so many instructions in all,
lead from one session to another. -/
inductive Drives (s : Session) : Nat → Session → Prop
  | start : Drives s 0 s
  | step {k : Nat} {t : Session} (earlier : Drives s k t) :
      Drives s (k + t.step.executed) t.step.session
  | run {k budget : Nat} {t : Session} {outcome : Outcome Status} (earlier : Drives s k t)
      (ended : t.run budget = some outcome) : Drives s (k + outcome.executed) outcome.session

/-- So many runs, each of which gives up at the step limit, lead from one session
to another. -/
inductive RunsOut (s : Session) : Nat → Session → Prop
  | start : RunsOut s 0 s
  | run {count budget limit : Nat} {t : Session} {outcome : Outcome Status}
      (earlier : RunsOut s count t) (ended : t.run budget = some outcome)
      (exhausted : outcome.result = .error (.stepLimitExceeded limit)) :
      RunsOut s (count + 1) outcome.session

def withStepLimit (limit : Option Nat) (s : Session) : Session :=
  { s with machine.config.stepLimit := limit }

variable {s t : Session} {k n : Nat}

/-! ## What a call executes -/

theorem active_of_lt_executed_step (before : k < s.step.executed) :
    (s.after k).machine.status = .active := by
  by_cases active : s.machine.status = .active
  · rw [executed_step_of_active active] at before
    obtain rfl := Nat.lt_one_iff.mp before
    exact active
  · rw [executed_step_of_stopped active] at before
    exact absurd before (Nat.not_lt_zero k)

/-! ## Any mix of calls -/

/-- What goes on from an active stretch and stays active makes the stretch longer. -/
theorem active_of_lt_add (active : ∀ j < k, (s.after j).machine.status = .active)
    (later : ∀ j < n, ((s.after k).after j).machine.status = .active) :
    ∀ j < k + n, (s.after j).machine.status = .active := by
  intro j before
  by_cases old : j < k
  · exact active j old
  · obtain ⟨more, rfl⟩ := Nat.exists_eq_add_of_le (Nat.le_of_not_lt old)
    rw [after_add]
    exact later more (Nat.lt_of_add_lt_add_left before)

/-- Every instruction that is executed is executed on an active machine. -/
theorem Drives.eq_after (drives : s.Drives k t) :
    t = s.after k ∧ ∀ j < k, (s.after j).machine.status = .active := by
  induction drives with
  | start => exact ⟨rfl, fun j before => absurd before (Nat.not_lt_zero j)⟩
  | step earlier ih =>
    obtain ⟨rfl, active⟩ := ih
    refine ⟨?_, active_of_lt_add active fun j => active_of_lt_executed_step⟩
    rw [session_step, after_add]
  | run earlier ended ih =>
    obtain ⟨rfl, active⟩ := ih
    obtain ⟨same, later, _⟩ := endsAfter_of_run ended
    refine ⟨?_, active_of_lt_add active later⟩
    rw [same, after_add]

/-! ## Runs that give up -/

theorem RunsOut.eq_after {limit count : Nat} (limited : s.machine.config.stepLimit = some limit)
    (runsOut : s.RunsOut count t) : t = s.after (count * limit) := by
  induction runsOut with
  | start =>
    rw [Nat.zero_mul]
    rfl
  | run earlier ended exhausted ih =>
    obtain ⟨reached, _⟩ := executed_run_of_exhausted ended exhausted
    rw [ih, config_after, limited] at reached
    obtain rfl := Option.some.inj reached
    rw [run_eq_after ended, ih, ← after_add, Nat.succ_mul]

/-! ## Another step limit -/

/-- A step does not look at the step limit. -/
theorem outcome_withStepLimit (s : Session) (limit : Option Nat) :
    (s.withStepLimit limit).step = s.step.withStepLimit limit := by
  have mirrors : s.machine.Mirrors (s.withStepLimit limit).machine :=
    ⟨⟨rfl, rfl, rfl, rfl, rfl, rfl⟩, Nat.le_refl _, fun _ _ _ => rfl, fun _ => rfl⟩
  have inStep : InStep s.sink s.sink s.step (s.withStepLimit limit).step :=
    mirrors.inStep rfl (.inl rfl)
  have config : (s.withStepLimit limit).step.machine.config =
      { s.step.machine.config with stepLimit := limit } := by
    rw [step, step, Machine.config_step, Machine.config_step]
    rfl
  have memory : (s.withStepLimit limit).step.machine.memory = s.step.machine.memory := by
    apply Memory.ext_cell?
    intro address
    rw [cell?_step_of_mirrors mirrors inStep.result, cell?_step]
    rfl
  exact inStep.eq config memory

theorem step_withStepLimit (s : Session) (limit : Option Nat) :
    (s.withStepLimit limit).step.session = s.step.session.withStepLimit limit :=
  congrArg Outcome.session (s.outcome_withStepLimit limit)

theorem after_withStepLimit (s : Session) (limit : Option Nat) (n : Nat) :
    (s.withStepLimit limit).after n = (s.after n).withStepLimit limit := by
  induction n with
  | zero => rfl
  | succ n ih =>
    change ((s.withStepLimit limit).after n).step.session = _
    rw [ih, step_withStepLimit]
    rfl

/-- An execution may be cut into steps and runs in any way: they lead where as
many single steps lead, each of which executes one instruction of an active
machine; calls on a machine that has stopped execute none.  With a step limit,
some runs that give up have executed that many times as many instructions, and a
further run goes on from there.  And what is reached in the end depends neither
on how the execution was cut nor on the step limit. -/
theorem slicing_independent (s : Session) :
    (∀ k t, s.Drives k t → t = s.after k ∧ (∀ j < k, (s.after j).machine.status = .active) ∧
      (t.machine.status = .active → t.step.executed = 1) ∧
      (t.machine.status ≠ .active → t.step.executed = 0 ∧
        ∀ budget outcome, t.run budget = some outcome → outcome.executed = 0)) ∧
    (∀ limit count t, s.machine.config.stepLimit = some limit → s.RunsOut count t →
      t = s.after (count * limit) ∧ ∀ budget outcome, t.run budget = some outcome →
        outcome.session = s.after (count * limit + outcome.executed)) ∧
    ∀ limit k n t u, s.Drives k t → (s.withStepLimit limit).Drives n u →
      t.machine.status ≠ .active → u.machine.status ≠ .active →
        n = k ∧ u = t.withStepLimit limit := by
  refine ⟨?_, ?_, ?_⟩
  · intro k t drives
    obtain ⟨same, active⟩ := drives.eq_after
    refine ⟨same, active, executed_step_of_active, fun stopped => ?_⟩
    exact ⟨executed_step_of_stopped stopped, fun _ _ => executed_run_of_stopped stopped⟩
  · intro limit count t limited runsOut
    have same := runsOut.eq_after limited
    refine ⟨same, fun budget outcome ended => ?_⟩
    rw [run_eq_after ended, same, after_add]
  · intro limit k n t u drives other stopped alsoStopped
    obtain ⟨rfl, active⟩ := drives.eq_after
    obtain ⟨rfl, alsoActive⟩ := other.eq_after
    -- The status does not tell the two sessions apart.
    simp only [after_withStepLimit] at alsoActive alsoStopped ⊢
    obtain rfl := stop_unique active stopped alsoActive alsoStopped
    exact ⟨rfl, rfl⟩

/-- Two runs of one instruction each and a step reach what a run without limit
reaches. -/
theorem slicing_independent_print :
    ∃ s t u : Session, s.machine.config.stepLimit = some 1 ∧ s.RunsOut 2 (s.after 2) ∧
      s.Drives 3 t ∧ (s.withStepLimit none).Drives 3 u ∧ t.sink.text = ['5', '\n'] ∧
      u = t.withStepLimit none := by
  let program : Array UInt8 := #[Opcode.loadImmediate.byte, 0, 5, Opcode.print.byte, 0,
    Opcode.halt.byte, 0, 0]
  let s : Session :=
    ⟨{ Machine.powerOn { memorySize := 8, stackTop := 8, stepLimit := some 1 } with
        memory := ⟨program⟩ }, {}⟩
  let first := (s.run 1).get (by decide +kernel)
  let second := (first.session.run 1).get (by decide +kernel)
  let whole := ((s.withStepLimit none).run 3).get (by decide +kernel)
  have ended : s.run 1 = some first := (Option.some_get _).symm
  have ended' : first.session.run 1 = some second := (Option.some_get _).symm
  have exhausted : first.result = .error (.stepLimitExceeded 1) := by decide +kernel
  have exhausted' : second.result = .error (.stepLimitExceeded 1) := by decide +kernel
  have runsOut : s.RunsOut 2 second.session := .run (.run .start ended exhausted) ended' exhausted'
  have executed : 0 + first.executed + second.executed + second.session.step.executed = 3 := by
    decide +kernel
  have drives : s.Drives 3 second.session.step.session :=
    executed ▸ .step (.run (.run .start ended) ended')
  have executed' : 0 + whole.executed = 3 := by decide +kernel
  have other : (s.withStepLimit none).Drives 3 whole.session :=
    executed' ▸ .run .start (Option.some_get _).symm
  obtain ⟨_, limited, unlimited⟩ := slicing_independent s
  obtain ⟨_, same⟩ := unlimited none 3 3 _ _ drives other (by decide +kernel) (by decide +kernel)
  obtain ⟨steps, _⟩ := limited 1 2 _ rfl runsOut
  exact ⟨s, _, _, rfl, steps ▸ runsOut, drives, other, by decide +kernel, same⟩

end Session

end LS8
