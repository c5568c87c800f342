import LS8.Proofs.Atomicity
import LS8.Proofs.Session

/-!
# The four ends of a run

A run of an active machine ends because its last instruction halted, trapped or
failed, or because it has reached the step limit.  It never ends in any other way:
the status that it gives back is not the active one, since a machine that is
active runs on, and not that of a fault, since an instruction that fails ends the
run with its error.

* `Session.RunEnds` — the four ends;
* `Session.runEnds_of_run`, `Session.exists_run_of_runEnds` — a run has one of them,
  and each of them is that of a run;
* `Session.run_eq_none_iff` — the runs that have none;
* `Session.steps_lt_of_limited` — how far a run counts that has a limit.
-/

namespace LS8.Session

/-- So many instructions do not exceed the step limit. -/
def Within (s : Session) (n : Nat) : Prop :=
  ∀ limit, s.machine.config.stepLimit = some limit → n ≤ limit

/-- How a run ends, and how many instructions it executes.  If it fails, the
instruction that fails is one of them. -/
inductive RunEnds (s : Session) : Nat → Except Error Status → Prop
  | halted {n : Nat} (active : ∀ k < n, (s.after k).machine.status = .active)
      (within : s.Within n) (halted : (s.after n).machine.status = .halted) :
      RunEnds s n (.ok .halted)
  | trapped {n address : Nat} {opcode : UInt8}
      (active : ∀ k < n, (s.after k).machine.status = .active) (within : s.Within n)
      (trapped : (s.after n).machine.status = .trapped address opcode) :
      RunEnds s n (.ok (.trapped address opcode))
  | faulted {last : Nat} {cause : Fault}
      (active : ∀ k ≤ last, (s.after k).machine.status = .active) (within : s.Within (last + 1))
      (failed : (s.after last).step.result = .error (.fault cause)) :
      RunEnds s (last + 1) (.error (.fault cause))
  | exhausted {limit : Nat} (active : ∀ k ≤ limit, (s.after k).machine.status = .active)
      (limited : s.machine.config.stepLimit = some limit) :
      RunEnds s limit (.error (.stepLimitExceeded limit))

variable {s : Session} {budget n : Nat} {status : Status} {result : Except Error Status}
  {outcome : Outcome Status}

/-! ## Steps of an active machine -/

/-- What a successful step gives back is the status of the machine, and it is not that
of a fault. -/
theorem status_of_succeeded (succeeded : s.step.result = .ok status) :
    s.step.machine.status = status ∧ ∀ address, status ≠ .faulted address := by
  have steps := Machine.stepsTo_step s.machine s.sink
  unfold step at succeeded ⊢
  generalize s.machine.step s.sink = outcome at steps succeeded ⊢
  cases steps with
  | stopped | unfetched | failed | refused => cases succeeded
  | trapped =>
    obtain rfl := Except.ok.inj succeeded
    exact ⟨rfl, fun _ same => by cases same⟩
  | @done i effect found executes =>
    obtain rfl := Except.ok.inj succeeded
    obtain ⟨active, _⟩ := Machine.instruction?_eq_some_iff.mp found
    refine ⟨rfl, fun address same => ?_⟩
    change effect.machine.status = .faulted address at same
    obtain unchanged | ⟨_, halted⟩ := executes.status_cases
    · cases same.symm.trans (unchanged.trans active)
    · rw [halted] at same
      cases same

/-- A step that fails leaves a fault behind. -/
theorem succeeds_of_not_faulted (active : s.machine.status = .active)
    (notFaulted : ∀ address, s.step.machine.status ≠ .faulted address) :
    ∃ status, s.step.result = .ok status := by
  cases result : s.step.result with
  | ok status => exact ⟨status, rfl⟩
  | error error =>
    obtain ⟨cause, rfl⟩ := Machine.fault_of_active active result
    have faulted := (Machine.failsInPlace_step result).status (by simp)
    exact absurd faulted (notFaulted s.machine.pc)

/-- An instruction that fails does not move the program counter. -/
theorem pc_step_of_failed {error : Error} (failed : s.step.result = .error error) :
    s.step.machine.pc = s.machine.pc :=
  (Machine.failsInPlace_step failed).unmoved.pc

/-! ## The turns of a run -/

/-- A run stands where single steps lead. -/
theorem progress_after (s : Session) (n : Nat) :
    ((Progress.start s.machine s.sink).after n).session = s.after n :=
  (Progress.start s.machine s.sink).session_after n

theorem exhausted?_progress (s : Session) (n : Nat) :
    ((Progress.start s.machine s.sink).after n).exhausted? =
      s.machine.config.stepLimit.filter (· ≤ n) := by
  have config : ((Progress.start s.machine s.sink).after n).machine.config = s.machine.config :=
    (congrArg (·.machine.config) (s.progress_after n)).trans (s.config_after n)
  rw [Progress.exhausted?, config, Progress.steps_after, Progress.start, Nat.zero_add]

theorem exhausted?_progress_eq_none_iff :
    ((Progress.start s.machine s.sink).after n).exhausted? = none ↔ s.Within (n + 1) := by
  rw [exhausted?_progress, Option.filter_eq_none_iff]
  simp only [Within, decide_eq_true_eq, Nat.not_le, Nat.succ_le_iff]

theorem continues_iff :
    ((Progress.start s.machine s.sink).after n).Continues ↔
      (s.after n).machine.status = .active ∧ s.Within (n + 1) ∧
        ∃ status, (s.after n).step.result = .ok status := by
  rw [← exhausted?_progress_eq_none_iff, ← progress_after]
  exact ⟨fun ⟨active, within, succeeds⟩ => ⟨active, within, succeeds⟩,
    fun ⟨active, within, succeeds⟩ => ⟨active, within, succeeds⟩⟩

/-- A run goes on as long as it is active and within the limit, unless it has led to
a fault in the end. -/
theorem continues_of_active (active : ∀ k < n, (s.after k).machine.status = .active)
    (within : s.Within n) (notFaulted : ∀ address, (s.after n).machine.status ≠ .faulted address) :
    ∀ k < n, ((Progress.start s.machine s.sink).after k).Continues := by
  intro k before
  refine continues_iff.mpr ⟨active k before, fun limit limited => ?_, ?_⟩
  · exact Nat.le_trans before (within limit limited)
  · apply succeeds_of_not_faulted (active k before)
    intro address faulted
    obtain last | next := Nat.eq_or_lt_of_le (Nat.succ_le_of_lt before)
    · exact notFaulted address (last ▸ faulted)
    · cases (active (k + 1) next).symm.trans faulted

theorem within_of_continues
    (continued : ∀ k < n, ((Progress.start s.machine s.sink).after k).Continues) : s.Within n := by
  cases n with
  | zero => exact fun limit _ => Nat.zero_le limit
  | succ k => exact (continues_iff.mp (continued k (Nat.lt_succ_self k))).2.1

/-- With a limit of 64 bits a run counts its instructions in 64 bits.  Without a limit it
may count any number of them. -/
theorem steps_lt_of_limited {limit : UInt64}
    (limited : s.machine.config.stepLimit = some limit.toNat)
    (continued : ∀ k < n, ((Progress.start s.machine s.sink).after k).Continues) :
    ((Progress.start s.machine s.sink).after n).steps < UInt64.size := by
  have steps : ((Progress.start s.machine s.sink).after n).steps = n :=
    (Progress.steps_after _ n).trans (Nat.zero_add n)
  have atMost := within_of_continues continued limit.toNat limited
  rw [steps]
  exact Nat.lt_of_le_of_lt atMost limit.toNat_lt_size

/-! ## The ends -/

/-- A machine that stops without a fault has halted or trapped. -/
theorem runEnds_of_stopped (active : ∀ k < n, (s.after k).machine.status = .active)
    (within : s.Within n) (inactive : (s.after n).machine.status ≠ .active)
    (notFaulted : ∀ address, (s.after n).machine.status ≠ .faulted address) :
    s.RunEnds n (.ok (s.after n).machine.status) := by
  cases status : (s.after n).machine.status with
  | active => exact absurd status inactive
  | faulted address => exact absurd status (notFaulted address)
  | halted => exact .halted active within status
  | trapped address opcode => exact .trapped active within status

theorem runEnds_of_run (active : s.machine.status = .active)
    (ended : s.run budget = some outcome) :
    ∃ n, s.RunEnds n outcome.result ∧ outcome.session = s.after n := by
  obtain ⟨n, _, continued, ends⟩ := Progress.ends_of_complete? ended
  have before : ∀ k < n, (s.after k).machine.status = .active :=
    fun k less => (continues_iff.mp (continued k less)).1
  have within := within_of_continues continued
  have here := s.progress_after n
  have status : ((Progress.start s.machine s.sink).after n).machine.status =
      (s.after n).machine.status := congrArg (·.machine.status) here
  have upTo (stillActive : ((Progress.start s.machine s.sink).after n).machine.status = .active) :
      ∀ k ≤ n, (s.after k).machine.status = .active := by
    intro k le
    obtain rfl | less := Nat.eq_or_lt_of_le le
    · exact status.symm.trans stillActive
    · exact before k less
  cases ends with
  | stopped inactive =>
    refine ⟨n, ?_, here⟩
    change s.RunEnds n (.ok ((Progress.start s.machine s.sink).after n).machine.status)
    rw [status] at inactive ⊢
    refine runEnds_of_stopped before within inactive fun address faulted => ?_
    -- There is a last instruction, and it has succeeded.
    cases n with
    | zero => exact inactive active
    | succ k =>
      obtain ⟨_, _, _, succeeded⟩ := continues_iff.mp (continued k (Nat.lt_succ_self k))
      obtain ⟨same, notFaulted⟩ := status_of_succeeded succeeded
      exact notFaulted address (same.symm.trans faulted)
  | exhausted stillActive reached =>
    obtain ⟨limited, rfl⟩ := limit_of_exhausted rfl continued reached
    exact ⟨_, .exhausted (upTo stillActive) limited, here⟩
  | failed stillActive limited failed =>
    obtain ⟨cause, rfl⟩ := Machine.fault_of_active stillActive failed
    have within := exhausted?_progress_eq_none_iff.mp limited
    refine ⟨n + 1, .faulted (upTo stillActive) within (here ▸ failed), ?_⟩
    exact congrArg (·.step.session) here

theorem exists_run_of_runEnds (ends : s.RunEnds n result) :
    ∃ budget outcome, s.run budget = some outcome ∧ outcome.result = result ∧
      outcome.session = s.after n := by
  have run {n : Nat} {outcome : Outcome Status}
      (active : ∀ k < n, (s.after k).machine.status = .active) (within : s.Within n)
      (notFaulted : ∀ address, (s.after n).machine.status ≠ .faulted address)
      (ends : ((Progress.start s.machine s.sink).after n).Ends outcome) :
      s.run n = some outcome :=
    Progress.complete?_of_ends (Nat.le_refl n) (continues_of_active active within notFaulted) ends
  have status (n : Nat) : ((Progress.start s.machine s.sink).after n).machine.status =
      (s.after n).machine.status := congrArg (·.machine.status) (s.progress_after n)
  cases ends with
  | halted active within halted =>
    have stopped := (status n).trans halted
    have ended := run active within (by simp [halted]) (.stopped (by simp [stopped]))
    exact ⟨n, _, ended, congrArg Except.ok stopped, s.progress_after n⟩
  | trapped active within trapped =>
    have stopped := (status n).trans trapped
    have ended := run active within (by simp [trapped]) (.stopped (by simp [stopped]))
    exact ⟨n, _, ended, congrArg Except.ok stopped, s.progress_after n⟩
  | @faulted last cause active within failed =>
    have still := active last (Nat.le_refl last)
    have before : s.Within last := fun limit limited => Nat.le_of_succ_le (within limit limited)
    rw [← s.progress_after last] at failed
    have ended := run (fun k less => active k (Nat.le_of_lt less)) before (by simp [still])
      (.failed ((status last).trans still) (exhausted?_progress_eq_none_iff.mpr within) failed)
    exact ⟨last, _, ended, rfl, congrArg (·.step.session) (s.progress_after last)⟩
  | exhausted active limited =>
    have still := active n (Nat.le_refl n)
    have reached : ((Progress.start s.machine s.sink).after n).exhausted? = some n := by
      simp [exhausted?_progress, limited]
    have atMost : s.Within n :=
      fun limit same => Nat.le_of_eq (Option.some.inj (limited.symm.trans same))
    have ended := run (fun k less => active k (Nat.le_of_lt less)) atMost (by simp [still])
      (.exhausted ((status n).trans still) reached)
    exact ⟨n, _, ended, rfl, s.progress_after n⟩

/-- A run is never over exactly if there is no limit and the machine stays active. -/
theorem run_eq_none_iff :
    (∀ budget, s.run budget = none) ↔
      s.machine.config.stepLimit = none ∧ ∀ n, (s.after n).machine.status = .active := by
  constructor
  · intro unfinished
    have continued (n : Nat) := continues_iff.mp
      (Progress.complete?_eq_none_iff.mp (unfinished n) n (Nat.le_refl n))
    refine ⟨?_, fun n => (continued n).1⟩
    apply Option.eq_none_iff_forall_ne_some.mpr
    intro limit limited
    obtain ⟨_, within, _⟩ := continued limit
    exact Nat.not_succ_le_self limit (within limit limited)
  · rintro ⟨unlimited, active⟩ budget
    refine Progress.complete?_eq_none_iff.mpr fun k _ => ?_
    refine continues_of_active (n := k + 1) (fun j _ => active j) ?_ ?_ k (Nat.lt_succ_self k)
    · intro limit limited
      cases unlimited.symm.trans limited
    · intro address
      simp [active (k + 1)]

end LS8.Session
