import LS8.Proofs.Slicing
import LS8.Proofs.TruthfulLog

/-!
# A run is bounded iteration of steps

A run makes single steps until the machine is no longer active, but not more of them
than the step limit allows.  Both numbers belong to the session alone, so it is known
before a run what it will give back: the result of its last step, or, if the limit comes
first, the error that says so (`Session.run_iterates_steps`).

* `Session.StopsAfter` — the least number of steps after which a session has stopped;
* `Session.lastResult` — what the last of some steps gives back;
* `Session.concluded` — the outcome of a run that makes so many steps.

How many steps a run makes has been said before, by `Command.Takes`; what is new is that
a budget of as many instructions is enough (`Session.exists_run_of_takes`).
-/

namespace LS8

/-- The statuses that a run can give back after so many instructions.  A fault is not
among them, unless it has been there before. -/
def Status.EndsRun (n : Nat) : Status → Prop
  | .active => False
  | .halted | .trapped _ _ => True
  | .faulted _ => n = 0

namespace Session

/-- The least number of single steps after which a session is no longer active. -/
structure StopsAfter (s : Session) (n : Nat) : Prop where
  active : ∀ k < n, (s.after k).machine.status = .active
  stopped : (s.after n).machine.status ≠ .active

/-- What the last of some single steps gives back.  Without any it is the status as it
is. -/
def lastResult (s : Session) : Nat → Except Error Status
  | 0 => .ok s.machine.status
  | n + 1 => (s.after n).step.result

/-- The record at the end of a run, if it does not fail. -/
def stopRecord (n : Nat) : Except Error Status → List LogRecord
  | .ok status => [.stopped n status]
  | .error _ => []

/-- The outcome of a run that makes so many single steps and gives back a result. -/
def concluded (s : Session) (n : Nat) (result : Except Error Status) : Outcome Status :=
  { result
    machine := (s.after n).machine
    sink := (s.after n).sink
    log := ((s.steps n).flatMap fun u => u.step.log) ++ stopRecord n result }

@[simp] theorem result_concluded (s : Session) (n : Nat) (result : Except Error Status) :
    (s.concluded n result).result = result := rfl

variable {s : Session} {budget limit n : Nat} {outcome : Outcome Status}

/-! ## When a session stops -/

theorem StopsAfter.takes (stops : s.StopsAfter n) (within : s.Within n) :
    Command.run.Takes s n :=
  .run stops.active within (.inl stops.stopped)

/-- A session that does not stop is active. -/
theorem active_of_not_stopsAfter (unstopped : ∀ k ≤ n, ¬s.StopsAfter k) :
    ∀ k ≤ n, (s.after k).machine.status = .active := by
  intro k
  induction k using Nat.strongRecOn with
  | ind k ih =>
    intro atMost
    have earlier : ∀ j < k, (s.after j).machine.status = .active :=
      fun j before => ih j before (Nat.le_trans (Nat.le_of_lt before) atMost)
    exact Decidable.byContradiction fun stopped => unstopped k atMost ⟨earlier, stopped⟩

theorem takes_of_not_stopsAfter (limited : s.machine.config.stepLimit = some limit)
    (unstopped : ∀ k ≤ limit, ¬s.StopsAfter k) : Command.run.Takes s limit := by
  refine .run ?_ ?_ (.inr limited)
  · intro k before
    exact active_of_not_stopsAfter unstopped k (Nat.le_of_lt before)
  · intro other same
    exact Nat.le_of_eq (Option.some.inj (limited.symm.trans same))

/-- With a limit, a run knows when to stop. -/
theorem exists_takes (limited : s.machine.config.stepLimit = some limit) :
    ∃ n ≤ limit, Command.run.Takes s n := by
  by_cases stops : ∃ n ≤ limit, s.StopsAfter n
  · obtain ⟨n, atMost, stops⟩ := stops
    refine ⟨n, atMost, stops.takes fun other same => ?_⟩
    obtain rfl := Option.some.inj (limited.symm.trans same)
    exact atMost
  · have unstopped : ∀ k ≤ limit, ¬s.StopsAfter k :=
      fun k atMost stopsHere => stops ⟨k, atMost, stopsHere⟩
    exact ⟨limit, Nat.le_refl limit, takes_of_not_stopsAfter limited unstopped⟩

/-! ## What a run gives back -/

/-- A run is over within as many instructions as it executes. -/
theorem exists_run_of_takes (takes : Command.run.Takes s n) (le : n ≤ budget) :
    ∃ outcome, s.run budget = some outcome ∧ outcome.executed = n := by
  cases ended : s.run budget with
  | some outcome => exact ⟨outcome, rfl, Command.takes_unique (takes_run ended) takes⟩
  | none =>
    -- Otherwise it would go on after these instructions.
    obtain ⟨active, within, _⟩ :=
      continues_iff.mp (Progress.complete?_eq_none_iff.mp ended n le)
    cases takes with
    | run _ _ finished =>
      obtain stopped | limited := finished
      · exact absurd active stopped
      · exact absurd (within n limited) (Nat.not_succ_le_self n)
    | other _ notRun => exact absurd rfl notRun

theorem eq_concluded_of_run (ended : s.run budget = some outcome) :
    outcome = s.concluded outcome.executed outcome.result := by
  have led := run_eq_after ended
  obtain ⟨log, _⟩ := log_run ended
  apply Outcome.ext
  · rfl
  · exact congrArg (·.machine) led
  · exact congrArg (·.sink) led
  · rw [log]
    cases outcome.result <;> rfl

/-- A run that stops the machine, or finds it stopped, gives back the result of its last
step. -/
theorem result_of_run (ended : s.run budget = some outcome)
    (inactive : (s.after outcome.executed).machine.status ≠ .active) :
    outcome.result = s.lastResult outcome.executed := by
  obtain ⟨_, active, ends⟩ := endsAfter_of_run ended
  cases executed : outcome.executed with
  | zero =>
    rw [executed] at ends inactive
    cases ends with
    | stopped _ result => exact result
    | exhausted stillActive => exact absurd stillActive inactive
    | failed succ => cases succ
  | succ last =>
    have lastActive := active last (executed ▸ Nat.lt_succ_self last)
    cases result : (s.after last).step.result with
    | error error =>
      obtain ⟨cause, rfl⟩ := Machine.fault_of_active lastActive result
      have performed : s.perform budget .run = some (outcome.map .status) :=
        perform_run_eq_some_iff.mpr ⟨outcome, ended, rfl⟩
      have failed := failed_of_last_failed performed executed result
      exact (Outcome.error_of_map failed).trans result.symm
    | ok status =>
      obtain ⟨same, _⟩ := status_of_succeeded result
      rw [executed] at ends inactive
      cases ends with
      | stopped _ given => exact given.trans ((congrArg Except.ok same).trans result.symm)
      | exhausted stillActive => exact absurd stillActive inactive
      | failed succ failed =>
        obtain rfl := Nat.succ.inj succ
        cases result.symm.trans failed

/-- A run that leaves the machine active has reached the limit. -/
theorem result_of_run_of_active (ended : s.run budget = some outcome)
    (active : (s.after outcome.executed).machine.status = .active) :
    outcome.result = .error (.stepLimitExceeded outcome.executed) := by
  obtain ⟨_, _, ends⟩ := endsAfter_of_run ended
  cases ends with
  | stopped inactive => exact absurd active inactive
  | exhausted _ _ result => exact result
  | @failed last _ succ failed =>
    have faulted : (s.after (last + 1)).machine.status = .faulted (s.after last).machine.pc :=
      (Machine.failsInPlace_step failed).status (by simp)
    rw [succ] at active
    cases active.symm.trans faulted

theorem run_of_stopsAfter (stops : s.StopsAfter n) (within : s.Within n) (le : n ≤ budget) :
    s.run budget = some (s.concluded n (s.lastResult n)) := by
  obtain ⟨outcome, ended, rfl⟩ := exists_run_of_takes (stops.takes within) le
  rw [ended, ← result_of_run ended stops.stopped]
  exact congrArg some (eq_concluded_of_run ended)

theorem run_of_not_stopsAfter (limited : s.machine.config.stepLimit = some limit)
    (unstopped : ∀ k ≤ limit, ¬s.StopsAfter k) (le : limit ≤ budget) :
    s.run budget = some (s.concluded limit (.error (.stepLimitExceeded limit))) := by
  obtain ⟨outcome, ended, rfl⟩ :=
    exists_run_of_takes (takes_of_not_stopsAfter limited unstopped) le
  have active := active_of_not_stopsAfter unstopped _ (Nat.le_refl _)
  rw [ended, ← result_of_run_of_active ended active]
  exact congrArg some (eq_concluded_of_run ended)

theorem stopsAfter_of_run (ended : s.run budget = some outcome)
    (within : ∀ reached, outcome.result ≠ .error (.stepLimitExceeded reached)) :
    s.StopsAfter outcome.executed ∧ outcome.result = s.lastResult outcome.executed := by
  obtain ⟨_, active, _⟩ := endsAfter_of_run ended
  have stopped : (s.after outcome.executed).machine.status ≠ .active :=
    fun stillActive => within _ (result_of_run_of_active ended stillActive)
  exact ⟨⟨active, stopped⟩, result_of_run ended stopped⟩

/-! ## What a last result can be -/

theorem endsRun_of_lastResult {status : Status} (stops : s.StopsAfter n)
    (succeeded : s.lastResult n = .ok status) :
    (s.after n).machine.status = status ∧ status.EndsRun n := by
  cases n with
  | zero =>
    obtain rfl := Except.ok.inj succeeded
    refine ⟨rfl, ?_⟩
    cases status : s.machine.status with
    | active => exact absurd status stops.stopped
    | halted | trapped => trivial
    | faulted => rfl
  | succ last =>
    obtain ⟨same, notFaulted⟩ := status_of_succeeded succeeded
    have stopped : status ≠ .active := same ▸ stops.stopped
    refine ⟨same, ?_⟩
    cases status with
    | active => exact absurd rfl stopped
    | halted | trapped => trivial
    | faulted address => exact absurd rfl (notFaulted address)

theorem fault_of_lastResult {error : Error} (stops : s.StopsAfter n)
    (failed : s.lastResult n = .error error) : ∃ cause, error = .fault cause := by
  cases n with
  | zero => cases failed
  | succ last => exact Machine.fault_of_active (stops.active last (Nat.lt_succ_self last)) failed

/-- Until a session stops its steps succeed. -/
theorem succeeds_of_active (active : ∀ k ≤ n, (s.after k).machine.status = .active) :
    ∀ k < n, ∃ status, (s.after k).step.result = .ok status := by
  intro k before
  apply succeeds_of_not_faulted (active k (Nat.le_of_lt before))
  intro address faulted
  cases (active (k + 1) before).symm.trans faulted

/-! ## What a run records -/

/-- No step records the end of a run. -/
theorem filter_isStop_log_step (u : Session) : u.step.log.filter LogRecord.isStop = [] := by
  have steps := Machine.stepsTo_step u.machine u.sink
  unfold step
  generalize u.machine.step u.sink = outcome at steps ⊢
  cases steps with
  | stopped | unfetched | trapped | failed | refused => rfl
  | @done i effect =>
    have others : effect.emission.records.filter LogRecord.isStop = [] := by
      cases effect.emission <;> rfl
    simp only [Cycle.finish, Effect.cycle, List.filter_append, others]
    rfl

theorem filter_isStop_concluded (s : Session) (n : Nat) (result : Except Error Status) :
    (s.concluded n result).log.filter LogRecord.isStop = stopRecord n result := by
  have steps : ((s.steps n).flatMap fun u => u.step.log).filter LogRecord.isStop = [] := by
    simp [List.filter_flatMap, filter_isStop_log_step]
  rw [concluded, List.filter_append, steps, List.nil_append]
  cases result <;> rfl

theorem executed_concluded (active : ∀ k < n, (s.after k).machine.status = .active)
    (result : Except Error Status) : (s.concluded n result).executed = n := by
  have untraced : (stopRecord n result).countP LogRecord.isTrace = 0 := by
    cases result <;> rfl
  rw [Outcome.executed, concluded, List.countP_append, countP_log_steps active, untraced]
  rfl

/-! ## Another step limit -/

theorem lastResult_withStepLimit (s : Session) (other : Option Nat) (n : Nat) :
    (s.withStepLimit other).lastResult n = s.lastResult n := by
  cases n with
  | zero => rfl
  | succ last =>
    rw [lastResult, after_withStepLimit, outcome_withStepLimit]
    rfl

/-- What steps leave behind and record does not depend on the step limit. -/
theorem concluded_withStepLimit (s : Session) (other : Option Nat) (n : Nat)
    (result : Except Error Status) :
    (s.withStepLimit other).concluded n result = (s.concluded n result).withStepLimit other := by
  have steps : ((s.withStepLimit other).steps n).flatMap (fun u => u.step.log) =
      (s.steps n).flatMap fun u => u.step.log := by
    simp only [Session.steps, List.flatMap_map, after_withStepLimit, outcome_withStepLimit]
    rfl
  rw [concluded, steps, after_withStepLimit]
  rfl

theorem StopsAfter.withStepLimit (stops : s.StopsAfter n) (other : Option Nat) :
    (s.withStepLimit other).StopsAfter n := by
  constructor
  · intro k before
    rw [after_withStepLimit]
    exact stops.active k before
  · rw [after_withStepLimit]
    exact stops.stopped

theorem run_withStepLimit {larger : Option Nat} (limited : s.machine.config.stepLimit = some limit)
    (ended : s.run budget = some outcome)
    (unreached : ∀ reached, outcome.result ≠ .error (.stepLimitExceeded reached))
    (atLeast : ∀ other ∈ larger, limit ≤ other) {enough : Nat} (le : outcome.executed ≤ enough) :
    (s.withStepLimit larger).run enough = some (outcome.withStepLimit larger) := by
  obtain ⟨stops, result⟩ := stopsAfter_of_run ended unreached
  obtain ⟨_, within⟩ := log_run ended
  have withinToo : (s.withStepLimit larger).Within outcome.executed :=
    fun other same => Nat.le_trans (within limit limited) (atLeast other same)
  rw [run_of_stopsAfter (stops.withStepLimit larger) withinToo le, lastResult_withStepLimit,
    concluded_withStepLimit, ← result, ← eq_concluded_of_run ended]

/-! ## The run as a whole -/

/-- The record at the end of a run says how many instructions there were, and how the
machine has stopped. -/
theorem worded_of_mem_stopRecord {result : Except Error Status} {record : LogRecord}
    (member : record ∈ stopRecord n result) :
    record.severity = .debug ∧ ∃ status shown, result = .ok status ∧ status.ShownAs shown ∧
      record.message = s!"stopped after {n} instructions: {shown}" := by
  cases result with
  | error error => cases member
  | ok status =>
    obtain rfl := List.mem_singleton.mp member
    have shows : status.ShownAs status.describe := Status.shownAs_iff.mpr rfl
    obtain ⟨severity, message⟩ := LogRecord.readsAs_iff.mp (.stopped n shows)
    exact ⟨severity.symm, status, _, rfl, shows, message.symm⟩

/-- A run makes single steps until the machine has stopped.  If that takes no more steps
than the limit allows, even if it takes exactly as many, it gives back the result of the
last of them, and if that is no error records how many they were, in words too.  A run that finds the
machine stopped makes none.  If it takes more steps, the run makes as many as the limit
allows, none of which fails, and reports the limit, with the machine still active.  Any
larger limit, or none, gives the same as a limit that was not reached, and with a limit
every run is over. -/
theorem run_iterates_steps (s : Session) :
    (∀ n, s.StopsAfter n → s.Within n →
      (∀ budget, n ≤ budget → s.run budget = some (s.concluded n (s.lastResult n))) ∧
      (s.concluded n (s.lastResult n)).executed = n ∧
      (∀ status, s.lastResult n = .ok status →
        (s.after n).machine.status = status ∧ status.EndsRun n) ∧
      (∀ error, s.lastResult n = .error error → ∃ cause, error = .fault cause)) ∧
    (∀ limit, s.machine.config.stepLimit = some limit → (∀ n ≤ limit, ¬s.StopsAfter n) →
      (∀ budget, limit ≤ budget →
        s.run budget = some (s.concluded limit (.error (.stepLimitExceeded limit)))) ∧
      (s.concluded limit (.error (.stepLimitExceeded limit))).executed = limit ∧
      (∀ k < limit, ∃ status, (s.after k).step.result = .ok status) ∧
      (s.after limit).machine.status = .active) ∧
    (∀ n result, (s.concluded n result).log.filter LogRecord.isStop = stopRecord n result ∧
      ∀ record ∈ stopRecord n result, record.severity = .debug ∧
        ∃ status shown, result = .ok status ∧ status.ShownAs shown ∧
          record.message = s!"stopped after {n} instructions: {shown}") ∧
    (∀ limit larger budget outcome, s.machine.config.stepLimit = some limit →
      (∀ other ∈ larger, limit ≤ other) → s.run budget = some outcome →
      (∀ reached, outcome.result ≠ .error (.stepLimitExceeded reached)) →
        ∀ enough, outcome.executed ≤ enough →
          (s.withStepLimit larger).run enough = some (outcome.withStepLimit larger)) ∧
    ∀ limit, s.machine.config.stepLimit = some limit →
      ∀ budget, limit ≤ budget → ∃ outcome, s.run budget = some outcome := by
  refine ⟨?_, ?_, ?_, ?_, ?_⟩
  · intro n stops within
    exact ⟨fun _ le => run_of_stopsAfter stops within le, executed_concluded stops.active _,
      fun _ => endsRun_of_lastResult stops, fun _ => fault_of_lastResult stops⟩
  · intro limit limited unstopped
    have active := active_of_not_stopsAfter unstopped
    refine ⟨fun _ le => run_of_not_stopsAfter limited unstopped le, ?_,
      succeeds_of_active active, active limit (Nat.le_refl limit)⟩
    exact executed_concluded (fun k before => active k (Nat.le_of_lt before)) _
  · intro n result
    exact ⟨s.filter_isStop_concluded n result, fun _ member => worded_of_mem_stopRecord member⟩
  · intro limit larger budget outcome limited atLeast ended unreached enough le
    exact run_withStepLimit limited ended unreached atLeast le
  · intro limit limited budget le
    obtain ⟨n, atMost, takes⟩ := exists_takes limited
    obtain ⟨outcome, ended, _⟩ := exists_run_of_takes takes (Nat.le_trans atMost le)
    exact ⟨outcome, ended⟩

/-- A program that halts with its third instruction does so under a limit of three, and
under none; a limit of two comes before. -/
theorem run_iterates_steps_last_instruction :
    ∃ s : Session, s.machine.config.stepLimit = some 3 ∧ s.StopsAfter 3 ∧
      (s.run 3).map (fun outcome => (outcome.result, outcome.executed)) = some (.ok .halted, 3) ∧
      ((s.withStepLimit none).run 3).map (·.result) = some (.ok .halted) ∧
      ((s.withStepLimit (some 2)).run 2).map (fun outcome => (outcome.result, outcome.executed)) =
        some (.error (.stepLimitExceeded 2), 2) := by
  let program : Array UInt8 := #[Opcode.loadImmediate.byte, 0, 5, Opcode.print.byte, 0,
    Opcode.halt.byte, 0, 0]
  let s : Session :=
    ⟨{ Machine.powerOn { memorySize := 8, stackTop := 8, stepLimit := some 3 } with
      memory := ⟨program⟩ }, {}⟩
  have active : ∀ k < 3, (s.after k).machine.status = .active := by decide +kernel
  have stops : s.StopsAfter 3 := ⟨active, by decide +kernel⟩
  have within : s.Within 3 := fun limit limited => Nat.le_of_eq (Option.some.inj limited)
  have halts : s.lastResult 3 = .ok .halted := by decide +kernel
  have unstopped : ∀ n ≤ 2, ¬(s.withStepLimit (some 2)).StopsAfter n := by
    intro n atMost other
    apply other.stopped
    rw [after_withStepLimit]
    exact active n (Nat.lt_succ_of_le atMost)
  obtain ⟨stopped, _, _, larger, _⟩ := run_iterates_steps s
  obtain ⟨_, exceeded, _⟩ := run_iterates_steps (s.withStepLimit (some 2))
  obtain ⟨ran, executed, _⟩ := stopped 3 stops within
  obtain ⟨gaveUp, executed', _⟩ := exceeded 2 rfl unstopped
  rw [halts] at ran executed
  have unlimited := larger 3 none 3 _ rfl (fun _ none => by cases none) (ran 3 (Nat.le_refl 3))
    (by simp) 3 (Nat.le_of_eq executed)
  refine ⟨s, rfl, stops, ?_, ?_, ?_⟩
  · rw [ran 3 (Nat.le_refl 3)]
    simp [executed]
  · rw [unlimited]
    simp
  · rw [gaveUp 2 (Nat.le_refl 2)]
    simp [executed']

end Session

end LS8
