import LS8.Proofs.Bounds

/-!
# Sessions

All that a step or a run works on is a machine and the sink it prints to.  A
`Session` is the two together, and this module says where steps and runs take
it.

* `Session.after` — a session after some single steps, whatever they give back;
* `Session.carriedOut?` — the instruction that the next step carries out;
* `Outcome.executed` — how many instructions a call has executed, counted in its
  records;
* `Session.run_eq_after` — a run that is over has led where as many single
  steps lead.
-/

namespace LS8

structure Session where
  machine : Machine
  sink : Sink
  deriving DecidableEq, Repr

/-- Results can be compared if values and errors can. -/
instance decidableEqResult {ε α : Type} [DecidableEq ε] [DecidableEq α] :
    DecidableEq (Except ε α)
  | .ok value, .ok other => decidable_of_iff (value = other) (by simp)
  | .error error, .error other => decidable_of_iff (error = other) (by simp)
  | .ok _, .error _ => isFalse (by simp)
  | .error _, .ok _ => isFalse (by simp)

/-- The session that a call leaves behind. -/
def Outcome.session {α : Type} (outcome : Outcome α) : Session :=
  { machine := outcome.machine, sink := outcome.sink }

namespace Session

def step (s : Session) : Outcome Status :=
  s.machine.step s.sink

def run (budget : Nat) (s : Session) : Option (Outcome Status) :=
  s.machine.run budget s.sink

/-- A session after some single steps, whatever they give back. -/
def after (s : Session) : Nat → Session
  | 0 => s
  | n + 1 => (s.after n).step.session

theorem after_add (s : Session) (m n : Nat) : s.after (m + n) = (s.after m).after n := by
  induction n with
  | zero => rfl
  | succ n ih =>
    change (s.after (m + n)).step.session = ((s.after m).after n).step.session
    rw [ih]

theorem after_of_stopped {s : Session} (stopped : s.machine.status ≠ .active) (n : Nat) :
    s.after n = s := by
  induction n with
  | zero => rfl
  | succ n ih =>
    change (s.after n).step.session = s
    rw [ih, step, Machine.step_of_stopped stopped]
    rfl

/-- The machine after some steps that share a sink, as one after steps with a sink
of their own. -/
theorem machine_after (s : Session) (n : Nat) :
    (s.after n).machine = s.machine.after (fun k => (s.after k).sink) n := by
  induction n with
  | zero => rfl
  | succ n ih =>
    change (s.after n).step.machine = ((s.machine.after _ n).step (s.after n).sink).machine
    rw [← ih]
    rfl

theorem config_after (s : Session) (n : Nat) : (s.after n).machine.config = s.machine.config := by
  induction n with
  | zero => rfl
  | succ n ih => exact (Machine.config_step _ _).trans ih

theorem memory_size_after (s : Session) (n : Nat) :
    (s.after n).machine.memory.size = s.machine.memory.size := by
  induction n with
  | zero => rfl
  | succ n ih => exact (Machine.memory_size_step _ _).trans ih

/-- There is one number of steps after which a session stops. -/
theorem stop_unique {s : Session} {m n : Nat}
    (active : ∀ k < m, (s.after k).machine.status = .active)
    (stopped : (s.after m).machine.status ≠ .active)
    (alsoActive : ∀ k < n, (s.after k).machine.status = .active)
    (alsoStopped : (s.after n).machine.status ≠ .active) : m = n := by
  apply Nat.le_antisymm
  · exact Nat.le_of_not_lt fun less => alsoStopped (active n less)
  · exact Nat.le_of_not_lt fun less => stopped (alsoActive m less)

end Session

/-! ## What a step carries out -/

namespace Session

/-- The instruction that the next step carries out, if it does not fail. -/
def carriedOut? (s : Session) : Option Instruction :=
  match s.step.result with
  | .ok _ => s.machine.instruction?
  | .error _ => none

/-- Either a step carries out an instruction, and all of its effect, or the machine
stays as it is but for fetched bytes and status, and the sink as well unless it has
refused a line. -/
theorem carriedOut_cases (s : Session) :
    (∃ i effect, s.carriedOut? = some i ∧ Executes (s.machine.fetching i) i effect ∧
      s.step.machine = effect.machine ∧ s.step.sink = s.sink.write effect.emission.text) ∨
    s.carriedOut? = none ∧ Machine.Undisturbed s.machine s.step.machine ∧
      (s.sink.room = none → s.step.sink = s.sink) := by
  have steps := Machine.stepsTo_step s.machine s.sink
  have stepped : s.step = s.machine.step s.sink := rfl
  unfold carriedOut?
  rw [stepped]
  generalize s.machine.step s.sink = outcome at steps ⊢
  cases steps with
  | stopped => exact .inr ⟨rfl, Machine.undisturbed_with s.machine _ _, fun _ => rfl⟩
  | unfetched | failed =>
    exact .inr ⟨rfl, Machine.undisturbed_with s.machine _ _, fun _ => rfl⟩
  | refused _ _ full =>
    refine .inr ⟨rfl, Machine.undisturbed_with s.machine _ _, fun unbounded => ?_⟩
    simp [Sink.accepts, unbounded] at full
  | trapped active fetched unknown =>
    exact .inr ⟨Machine.instruction?_of_unknown (Machine.cell?_pc_of_fetch fetched) unknown,
      Machine.undisturbed_with s.machine _ _, fun _ => rfl⟩
  | done found executes => exact .inl ⟨_, _, found, executes, rfl, rfl⟩

end Session

/-! ## Counting instructions -/

def LogRecord.isTrace : LogRecord → Bool
  | traced _ => true
  | _ => false

/-- How many instructions a call has executed.  Each instruction is traced once,
before it is fetched. -/
def Outcome.executed {α : Type} (outcome : Outcome α) : Nat :=
  outcome.log.countP LogRecord.isTrace

theorem Emission.countP_records (emission : Emission) :
    emission.records.countP LogRecord.isTrace = 0 := by
  cases emission <;> rfl

/-- An active machine fails only because of its instruction. -/
theorem Machine.fault_of_active {m : Machine} {sink : Sink} {error : Error}
    (active : m.status = .active) (failed : (m.step sink).result = .error error) :
    ∃ cause, error = .fault cause := by
  have steps := stepsTo_step m sink
  generalize m.step sink = outcome at steps failed
  cases steps with
  | stopped inactive => exact absurd active inactive
  | trapped | done => cases failed
  | unfetched | failed | refused => exact ⟨_, (Except.error.inj failed).symm⟩

namespace Session

theorem executed_step_of_active {s : Session} (active : s.machine.status = .active) :
    s.step.executed = 1 := by
  have steps := Machine.stepsTo_step s.machine s.sink
  unfold step
  generalize s.machine.step s.sink = outcome at steps ⊢
  cases steps with
  | stopped inactive => exact absurd active inactive
  | unfetched | trapped | failed | refused => rfl
  | @done i effect =>
    -- What an instruction records besides is no trace.
    have others := effect.emission.countP_records
    simp only [Outcome.executed, Cycle.finish, Effect.cycle, List.countP_append, others]
    rfl

theorem executed_step_of_stopped {s : Session} (stopped : s.machine.status ≠ .active) :
    s.step.executed = 0 := by
  rw [step, Machine.step_of_stopped stopped]
  rfl

/-- A step makes as many single steps as it executes instructions: one or none. -/
theorem session_step (s : Session) : s.step.session = s.after s.step.executed := by
  by_cases active : s.machine.status = .active
  · rw [executed_step_of_active active]
    rfl
  · rw [executed_step_of_stopped active]
    exact after_of_stopped active 1

end Session

namespace Progress

variable {p : Progress} {n : Nat}

def session (p : Progress) : Session :=
  { machine := p.machine, sink := p.sink }

theorem session_after (p : Progress) (n : Nat) : (p.after n).session = p.session.after n := by
  induction n with
  | zero => rfl
  | succ n ih =>
    change (p.after n).session.step.session = (p.session.after n).step.session
    rw [ih]

theorem steps_after (p : Progress) (n : Nat) : (p.after n).steps = p.steps + n := by
  induction n with
  | zero => rfl
  | succ n ih =>
    change (p.after n).steps + 1 = p.steps + (n + 1)
    rw [ih, Nat.add_assoc]

/-- A run that goes on records one trace for each instruction. -/
theorem countP_log_after (continued : ∀ k < n, (p.after k).Continues) :
    (p.after n).log.toList.countP LogRecord.isTrace =
      p.log.toList.countP LogRecord.isTrace + n := by
  induction n with
  | zero => rfl
  | succ n ih =>
    have earlier := ih fun k before => continued k (Nat.lt_succ_of_lt before)
    have one : (p.after n).session.step.executed = 1 :=
      Session.executed_step_of_active (continued n (Nat.lt_succ_self n)).active
    have log : (p.after (n + 1)).log.toList =
        (p.after n).log.toList ++ (p.after n).session.step.log := by
      change ((p.after n).log ++ (p.after n).session.step.log).toList = _
      simp
    rw [log, List.countP_append, earlier, Nat.add_assoc]
    exact congrArg _ (congrArg _ one)

theorem executed_finish {log : List LogRecord} (untraced : log.countP LogRecord.isTrace = 0)
    (result : Except Error Status) :
    (p.finish result log).executed = p.log.toList.countP LogRecord.isTrace := by
  simp only [Outcome.executed, finish, List.countP_append, untraced, Nat.add_zero]

end Progress

namespace Session

/-! ## Runs -/

/-- How a run has ended that has executed so many instructions.  If it failed,
the instruction that failed is one of them. -/
inductive EndsAfter (s : Session) (n : Nat) (outcome : Outcome Status) : Prop
  | stopped (inactive : (s.after n).machine.status ≠ .active)
      (result : outcome.result = .ok (s.after n).machine.status)
      (recorded : ∃ earlier, outcome.log = earlier ++ [.stopped n (s.after n).machine.status])
  | exhausted (active : (s.after n).machine.status = .active)
      (limit : s.machine.config.stepLimit = some n)
      (result : outcome.result = .error (.stepLimitExceeded n))
  | failed {last : Nat} {cause : Fault} (succ : n = last + 1)
      (failed : (s.after last).step.result = .error (.fault cause))
      (result : outcome.result = .error (.fault cause))

variable {s : Session} {budget n : Nat} {outcome : Outcome Status}

/-- A run that reaches its limit has executed exactly as many instructions,
because it looks at the limit before each of them. -/
theorem limit_of_exhausted {p : Progress} {limit : Nat} (start : p.steps = 0)
    (continued : ∀ k < n, (p.after k).Continues) (reached : (p.after n).exhausted? = some limit) :
    p.machine.config.stepLimit = some n ∧ limit = n := by
  obtain ⟨limited, atLeast⟩ := Progress.exhausted?_eq_some_iff.mp reached
  have config (k : Nat) : (p.after k).machine.config = p.machine.config :=
    (congrArg (·.machine.config) (p.session_after k)).trans (config_after p.session k)
  rw [config] at limited
  rw [Progress.steps_after, start, Nat.zero_add] at atLeast
  have atMost : n ≤ limit := by
    cases n with
    | zero => exact Nat.zero_le limit
    | succ k =>
      have within := Progress.exhausted?_eq_none_iff.mp (continued k (Nat.lt_succ_self k)).within
      have below := within limit (by rw [config, limited])
      rw [Progress.steps_after] at below
      omega
  obtain rfl := Nat.le_antisymm atLeast atMost
  exact ⟨limited, rfl⟩

/-- A run that is over has executed its instructions as single steps, each of
them on an active machine. -/
theorem endsAfter_of_run (ended : s.run budget = some outcome) :
    outcome.session = s.after outcome.executed ∧
      (∀ k < outcome.executed, (s.after k).machine.status = .active) ∧
        s.EndsAfter outcome.executed outcome := by
  obtain ⟨n, _, continued, ends⟩ := Progress.ends_of_complete? ended
  have stands (k : Nat) : ((Progress.start s.machine s.sink).after k).session = s.after k :=
    Progress.session_after (Progress.start s.machine s.sink) k
  have active : ∀ k < n, (s.after k).machine.status = .active := by
    intro k before
    rw [← stands k]
    exact (continued k before).active
  have limited {limit : Nat}
      (reached : ((Progress.start s.machine s.sink).after n).exhausted? = some limit) :
      s.machine.config.stepLimit = some n ∧ limit = n := limit_of_exhausted rfl continued reached
  have steps : ((Progress.start s.machine s.sink).after n).steps = n :=
    (Progress.steps_after _ n).trans (Nat.zero_add n)
  have traces : ((Progress.start s.machine s.sink).after n).log.toList.countP LogRecord.isTrace =
      n := (Progress.countP_log_after continued).trans (Nat.zero_add n)
  have here := stands n
  -- From here on only the last state of the loop matters.
  generalize (Progress.start s.machine s.sink).after n = p at *
  have status : p.machine.status = (s.after n).machine.status := congrArg (·.machine.status) here
  cases ends with
  | stopped inactive =>
    rw [Progress.executed_finish rfl, traces]
    refine ⟨here, active, .stopped ?_ ?_ ⟨p.log.toList, ?_⟩⟩
    · rwa [← status]
    · rw [← status]
      rfl
    · rw [← status]
      subst steps
      rfl
  | exhausted stillActive reached =>
    obtain ⟨limit, rfl⟩ := limited reached
    rw [Progress.executed_finish rfl, traces]
    refine ⟨here, active, .exhausted ?_ limit rfl⟩
    rwa [← status]
  | failed stillActive within failed =>
    obtain ⟨cause, rfl⟩ := Machine.fault_of_active stillActive failed
    have last : (p.machine.step p.sink).log.countP LogRecord.isTrace = 1 :=
      executed_step_of_active (s := p.session) stillActive
    have next : p.session.step.session = s.after (n + 1) := congrArg (·.step.session) here
    simp only [Outcome.executed, List.countP_append, traces, last]
    refine ⟨next, ?_, .failed rfl (here ▸ failed) rfl⟩
    intro k before
    obtain earlier | rfl := Nat.lt_succ_iff_lt_or_eq.mp before
    · exact active k earlier
    · rwa [← status]

theorem run_eq_after (ended : s.run budget = some outcome) :
    outcome.session = s.after outcome.executed :=
  (endsAfter_of_run ended).1

theorem executed_run_of_stopped (stopped : s.machine.status ≠ .active)
    (ended : s.run budget = some outcome) : outcome.executed = 0 := by
  obtain ⟨_, active, _⟩ := endsAfter_of_run ended
  apply Nat.eq_zero_of_not_pos
  intro positive
  exact stopped (active 0 positive)

theorem executed_run_of_exhausted {limit : Nat} (ended : s.run budget = some outcome)
    (exhausted : outcome.result = .error (.stepLimitExceeded limit)) :
    s.machine.config.stepLimit = some outcome.executed ∧ limit = outcome.executed := by
  obtain ⟨_, active, ends⟩ := endsAfter_of_run ended
  cases ends with
  | stopped _ result => cases exhausted.symm.trans result
  | exhausted _ limited result =>
    cases exhausted.symm.trans result
    exact ⟨limited, rfl⟩
  | failed _ _ result => cases exhausted.symm.trans result

end Session

end LS8
