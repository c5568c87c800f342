import LS8.Proofs.Calls
import LS8.Proofs.RunEnds

/-!
# Calls and the steps they make

A sequence of calls is looked at here together with the sessions on which the
calls were made, and a call together with the single steps that it makes.  How
many steps these are is a matter of the machine alone: a step is one if the
machine is active, a run goes on until the machine is no longer active or the
limit is reached (`Command.Takes`), and no other call makes any.

* `Stage`, `Session.stages` — calls with the sessions on which they were made;
* `Session.steps`, `Stage.steps` — the sessions on which single steps are made;
* `Stage.takes` — a call executes as many instructions as it takes.
-/

namespace LS8

/-- A call with the session on which it is made. -/
structure Stage where
  before : Session
  call : Call

namespace Session

/-- Calls with the sessions on which they are made, one after the other. -/
def stages (s : Session) : List Call → List Stage
  | [] => []
  | call :: later => ⟨s, call⟩ :: call.outcome.session.stages later

/-- The sessions on which some single steps are made. -/
def steps (s : Session) (n : Nat) : List Session :=
  (List.range n).map s.after

variable {s t : Session} {n : Nat}

@[simp] theorem steps_zero (s : Session) : s.steps 0 = [] := rfl

theorem steps_succ (s : Session) (n : Nat) : s.steps (n + 1) = s.steps n ++ [s.after n] := by
  simp [steps, List.range_succ]

theorem mem_steps_iff {u : Session} : u ∈ s.steps n ↔ ∃ k < n, u = s.after k := by
  simp [steps, eq_comm]

theorem Calls.stages_append {made : List Call} (calls : s.Calls made t) (later : List Call) :
    s.stages (made ++ later) = s.stages made ++ t.stages later := by
  induction calls generalizing later with
  | start => rfl
  | call _ _ ih =>
    rw [List.append_assoc, ih, ih, List.append_assoc]
    rfl

end Session

/-! ## How many steps a call makes -/

/-- How many instructions a command executes on a session.  A run stops at the first
state that is not active, and does not go beyond the step limit. -/
inductive Command.Takes (s : Session) : Command → Nat → Prop
  | step (active : s.machine.status = .active) : Takes s .step 1
  | refused (inactive : s.machine.status ≠ .active) : Takes s .step 0
  | run {n : Nat} (active : ∀ k < n, (s.after k).machine.status = .active) (within : s.Within n)
      (finished : (s.after n).machine.status ≠ .active ∨ s.machine.config.stepLimit = some n) :
      Takes s .run n
  | other {command : Command} (notStep : command ≠ .step) (notRun : command ≠ .run) :
      Takes s command 0

theorem Command.Takes.active {s : Session} {command : Command} {n : Nat}
    (takes : command.Takes s n) : ∀ k < n, (s.after k).machine.status = .active := by
  intro k before
  cases takes with
  | step active =>
    obtain rfl := Nat.lt_one_iff.mp before
    exact active
  | run active => exact active k before
  | refused | other => exact absurd before (Nat.not_lt_zero k)

/-- A command and a session leave no choice. -/
theorem Command.takes_unique {s : Session} {command : Command} {m n : Nat}
    (first : command.Takes s m) (second : command.Takes s n) : m = n := by
  have notLess {m n : Nat} (finished : (s.after m).machine.status ≠ .active ∨
      s.machine.config.stepLimit = some m) (active : ∀ k < n, (s.after k).machine.status = .active)
      (within : s.Within n) : n ≤ m := by
    apply Nat.le_of_not_lt
    intro less
    obtain inactive | limited := finished
    · exact inactive (active m less)
    · exact Nat.not_lt.mpr (within m limited) less
  cases first with
  | step active =>
    cases second with
    | step => rfl
    | refused inactive => exact absurd active inactive
    | other notStep => exact absurd rfl notStep
  | refused inactive =>
    cases second with
    | step active => exact absurd active inactive
    | refused => rfl
    | other notStep => exact absurd rfl notStep
  | run active within finished =>
    cases second with
    | run active' within' finished' =>
      exact Nat.le_antisymm (notLess finished' active within) (notLess finished active' within')
    | other _ notRun => exact absurd rfl notRun
  | other notStep notRun =>
    cases second with
    | step | refused => exact absurd rfl notStep
    | run => exact absurd rfl notRun
    | other => rfl

namespace Session

variable {s : Session} {budget n : Nat} {outcome : Outcome Status}

/-- Steps of an active machine record one trace each. -/
theorem countP_log_steps (active : ∀ k < n, (s.after k).machine.status = .active) :
    ((s.steps n).flatMap fun u => u.step.log).countP LogRecord.isTrace = n := by
  induction n with
  | zero => rfl
  | succ n ih =>
    have earlier := ih fun k before => active k (Nat.lt_succ_of_lt before)
    have one : (s.after n).step.log.countP LogRecord.isTrace = 1 :=
      executed_step_of_active (active n (Nat.lt_succ_self n))
    simp [steps_succ, earlier, one]

theorem log_progress (s : Session) (n : Nat) :
    ((Progress.start s.machine s.sink).after n).log.toList =
      (s.steps n).flatMap fun u => u.step.log := by
  induction n with
  | zero => rfl
  | succ n ih =>
    have here : (((Progress.start s.machine s.sink).after n).machine.step
        ((Progress.start s.machine s.sink).after n).sink).log = (s.after n).step.log :=
      congrArg (·.step.log) (s.progress_after n)
    simp [steps_succ, ← ih, ← here, Progress.after, Progress.next]

/-- A run records what its steps record, and if it does not fail a last record. -/
theorem exists_log_of_run (ended : s.run budget = some outcome) :
    ∃ n, s.Within n ∧ (∀ k < n, (s.after k).machine.status = .active) ∧
      outcome.log = ((s.steps n).flatMap fun u => u.step.log) ++
        match outcome.result with
        | .ok status => [.stopped n status]
        | .error _ => [] := by
  obtain ⟨n, _, continued, ends⟩ := Progress.ends_of_complete? ended
  have within := within_of_continues continued
  have active : ∀ k < n, (s.after k).machine.status = .active :=
    fun k before => (continues_iff.mp (continued k before)).1
  have here := s.progress_after n
  have log := s.log_progress n
  cases ends with
  | stopped inactive =>
    refine ⟨n, within, active, ?_⟩
    have steps : ((Progress.start s.machine s.sink).after n).steps = n :=
      (Progress.steps_after _ n).trans (Nat.zero_add n)
    simp [Progress.finish, log, steps]
  | exhausted stillActive reached =>
    refine ⟨n, within, active, ?_⟩
    simp [Progress.finish, log]
  | failed stillActive unlimited failed =>
    refine ⟨n + 1, exhausted?_progress_eq_none_iff.mp unlimited, ?_, ?_⟩
    · intro k before
      obtain earlier | rfl := Nat.lt_succ_iff_lt_or_eq.mp before
      · exact active k earlier
      · exact (congrArg (·.machine.status) here).symm.trans stillActive
    · have last : (((Progress.start s.machine s.sink).after n).machine.step
          ((Progress.start s.machine s.sink).after n).sink).log = (s.after n).step.log :=
        congrArg (·.step.log) here
      simp [steps_succ, log, last]

/-- The instructions that a run has executed are the steps that it has made. -/
theorem log_run (ended : s.run budget = some outcome) :
    outcome.log = ((s.steps outcome.executed).flatMap fun u => u.step.log) ++
      (match outcome.result with
      | .ok status => [.stopped outcome.executed status]
      | .error _ => []) ∧ s.Within outcome.executed := by
  obtain ⟨n, within, active, log⟩ := exists_log_of_run ended
  have executed : outcome.executed = n := by
    have untraced : (match outcome.result with
        | .ok status => [LogRecord.stopped n status]
        | .error _ => []).countP LogRecord.isTrace = 0 := by
      cases outcome.result <;> rfl
    rw [Outcome.executed, log, List.countP_append, countP_log_steps active, untraced]
    rfl
  rw [executed]
  exact ⟨log, within⟩

theorem takes_run (ended : s.run budget = some outcome) :
    Command.run.Takes s outcome.executed := by
  obtain ⟨_, active, ends⟩ := endsAfter_of_run ended
  obtain ⟨_, within⟩ := log_run ended
  refine .run active within ?_
  cases ends with
  | stopped inactive => exact .inl inactive
  | exhausted _ limited => exact .inr limited
  | @failed last _ succ failed =>
    have faulted : (s.after (last + 1)).machine.status = .faulted (s.after last).machine.pc :=
      (Machine.failsInPlace_step failed).status (by simp)
    rw [succ, faulted]
    exact .inl (by simp)

end Session

/-! ## Calls that make no steps -/

theorem Outcome.executed_ofCall {α : Type} {m : Machine} {sink : Sink} {log : List LogRecord}
    {call : Action Error Machine α} {reply : α → Reply}
    (untraced : log.countP LogRecord.isTrace = 0) :
    (ofCall m sink log call reply).executed = 0 := by
  unfold ofCall
  cases call m with
  | ok => exact untraced
  | error => rfl

theorem Command.executed_of_perform {budget : Nat} {s : Session} {command : Command}
    {outcome : Outcome Reply} (notStep : command ≠ .step) (notRun : command ≠ .run)
    (performed : s.perform budget command = some outcome) : outcome.executed = 0 := by
  cases command with
  | step => exact absurd rfl notStep
  | run => exact absurd rfl notRun
  | loadText text =>
    obtain rfl := Option.some.inj performed
    have loads : (s.machine.loadRecorded s.sink (Listing.parse text).bytes).log.countP
        LogRecord.isTrace = 0 := Outcome.executed_ofCall rfl
    have skips : ((Listing.parse text).skipped.map LogRecord.skipped).countP
        LogRecord.isTrace = 0 := by simp [List.countP_map, LogRecord.isTrace]
    simp only [Outcome.executed, Machine.loadText, List.countP_append, loads, skips]
  | load | reset | read | write | readRegister | writeRegister | arithmetic | arithmeticNamed
  | trace =>
    obtain rfl := Option.some.inj performed
    exact Outcome.executed_ofCall rfl

/-- What a call is made of: it is a step, or a run, or it executes no instruction. -/
inductive Session.Makes (s : Session) : Command → Outcome Reply → Prop
  | step : Makes s .step (s.step.map .status)
  | run {budget : Nat} {outcome : Outcome Status} (ended : s.run budget = some outcome) :
      Makes s .run (outcome.map .status)
  | other {command : Command} {outcome : Outcome Reply} (notStep : command ≠ .step)
      (notRun : command ≠ .run) (idle : outcome.executed = 0) : Makes s command outcome

theorem Session.makes_of_perform {budget : Nat} {s : Session} {command : Command}
    {outcome : Outcome Reply} (performed : s.perform budget command = some outcome) :
    s.Makes command outcome := by
  by_cases step : command = .step
  · subst step
    obtain rfl := Option.some.inj performed
    exact .step
  by_cases run : command = .run
  · subst run
    obtain ⟨whole, ended, rfl⟩ := perform_run_eq_some_iff.mp performed
    exact .run ended
  · exact .other step run (Command.executed_of_perform step run performed)

/-- A call executes as many instructions as it takes. -/
theorem Session.Makes.takes {s : Session} {command : Command} {outcome : Outcome Reply}
    (makes : s.Makes command outcome) : command.Takes s outcome.executed := by
  cases makes with
  | step =>
    change Command.step.Takes s s.step.executed
    by_cases active : s.machine.status = .active
    · rw [executed_step_of_active active]
      exact .step active
    · rw [executed_step_of_stopped active]
      exact .refused active
  | run ended => exact takes_run ended
  | other notStep notRun idle =>
    rw [idle]
    exact .other notStep notRun

/-! ## The steps of a call -/

namespace Stage

/-- The sessions on which a call makes single steps. -/
def steps (stage : Stage) : List Session :=
  stage.before.steps stage.call.outcome.executed

/-- The call is made on the session, and gives its outcome. -/
def Made (stage : Stage) : Prop :=
  ∃ budget, stage.before.perform budget stage.call.command = some stage.call.outcome

variable {stage : Stage}

theorem makes (made : stage.Made) : stage.before.Makes stage.call.command stage.call.outcome := by
  obtain ⟨budget, performed⟩ := made
  exact Session.makes_of_perform performed

theorem takes (made : stage.Made) :
    stage.call.command.Takes stage.before stage.call.outcome.executed :=
  (makes made).takes

theorem active_of_mem_steps (made : stage.Made) {u : Session} (member : u ∈ stage.steps) :
    u.machine.status = .active := by
  obtain ⟨k, before, rfl⟩ := Session.mem_steps_iff.mp member
  exact (takes made).active k before

/-- Where the steps of a call lead.  Without any the call stops no machine; otherwise
only the last of them can stop the machine, and it leads where the call leads. -/
inductive Leads (stage : Stage) : Prop
  | idle (steps : stage.steps = [])
      (kept : stage.before.machine.status = .active →
        stage.call.outcome.machine.status = .active) : Leads stage
  | moved {earlier : List Session} {last : Session} (steps : stage.steps = earlier ++ [last])
      (active : stage.before.machine.status = .active)
      (unstopped : ∀ u ∈ earlier, u.step.machine.status = .active)
      (led : stage.call.outcome.session = last.step.session)
      (failed : ∀ {cause : Fault}, last.step.result = .error (.fault cause) →
        stage.call.outcome.result = .error (.fault cause)) : Leads stage

end Stage

namespace Session

variable {s : Session} {budget n : Nat} {command : Command} {outcome : Outcome Reply}

/-- A call that executes nothing stops no machine. -/
theorem kept_of_executed_zero (performed : s.perform budget command = some outcome)
    (idle : outcome.executed = 0) (active : s.machine.status = .active) :
    outcome.machine.status = .active := by
  obtain ⟨_, led⟩ | ⟨notStep, notRun⟩ := after_of_perform performed
  · rw [idle] at led
    exact (congrArg (·.machine.status) led).trans active
  by_cases reset : command = .reset
  · subst reset
    obtain rfl := Option.some.inj performed
    rfl
  · exact (Command.keepsControl_of_perform notStep notRun reset performed).status.trans active

/-- If the last step of a call fails, the call fails with its fault. -/
theorem failed_of_last_failed {cause : Fault} (performed : s.perform budget command = some outcome)
    (executed : outcome.executed = n + 1)
    (failed : (s.after n).step.result = .error (.fault cause)) :
    outcome.result = .error (.fault cause) := by
  cases makes_of_perform performed with
  | step =>
    change s.step.executed = n + 1 at executed
    by_cases active : s.machine.status = .active
    · rw [executed_step_of_active active] at executed
      obtain rfl : n = 0 := (Nat.succ.inj executed).symm
      exact congrArg (Except.map Reply.status) failed
    · cases executed.symm.trans (executed_step_of_stopped active)
  | @run _ whole ended =>
    change whole.executed = n + 1 at executed
    obtain ⟨_, active, ends⟩ := endsAfter_of_run ended
    rw [executed] at active ends
    have faulted : (s.after (n + 1)).machine.status = .faulted (s.after n).machine.pc :=
      (Machine.failsInPlace_step failed).status (by simp)
    cases ends with
    | stopped _ result =>
      -- No run succeeds with the status of a fault.
      obtain ⟨_, ends, _⟩ := runEnds_of_run (active 0 (Nat.succ_pos n)) ended
      rw [result, faulted] at ends
      cases ends
    | exhausted active => cases active.symm.trans faulted
    | failed succ failed' result =>
      obtain rfl := Nat.succ.inj succ
      exact congrArg (Except.map Reply.status) (result.trans (failed'.symm.trans failed))
  | other _ _ idle => cases executed.symm.trans idle

end Session

theorem Stage.leads {stage : Stage} (made : stage.Made) : stage.Leads := by
  have takes := takes made
  obtain ⟨budget, performed⟩ := made
  cases executed : stage.call.outcome.executed with
  | zero =>
    refine .idle ?_ (Session.kept_of_executed_zero performed executed)
    rw [steps, executed, Session.steps_zero]
  | succ n =>
    rw [executed] at takes
    have whole : stage.steps = stage.before.steps n ++ [stage.before.after n] := by
      rw [steps, executed, Session.steps_succ]
    refine .moved whole (takes.active 0 (Nat.succ_pos n)) ?_ ?_
      (Session.failed_of_last_failed performed executed)
    · intro u member
      obtain ⟨k, before, rfl⟩ := Session.mem_steps_iff.mp member
      exact takes.active (k + 1) (Nat.succ_lt_succ before)
    · obtain ⟨_, led⟩ | ⟨notStep, notRun⟩ := Session.after_of_perform performed
      · rw [led, executed]
        rfl
      · cases executed.symm.trans (Command.executed_of_perform notStep notRun performed)

/-- Every call of a sequence has been made where it stands. -/
theorem Session.Calls.made_of_mem {s t : Session} {made : List Call} (calls : s.Calls made t)
    {stage : Stage} (member : stage ∈ s.stages made) : stage.Made := by
  induction calls with
  | start => cases member
  | call earlier performed ih =>
    rw [earlier.stages_append] at member
    obtain old | new := List.mem_append.mp member
    · exact ih old
    · obtain rfl := List.mem_singleton.mp new
      exact ⟨_, performed⟩

end LS8
