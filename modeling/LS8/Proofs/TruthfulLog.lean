import Mathlib.Data.List.Basic
import LS8.Proofs.LatestComparison
import LS8.Proofs.Stages
import LS8.Proofs.Wording

/-!
# The log tells what has happened

Whatever calls are made, the log can be written down from what happened alone:
each step of an active machine records the machine as it is before, the
instruction if there is one, and how the step ended (`Session.records`), and a
call records its steps and then, if it is a load or a run, how it ended itself
(`Stage.records`).  So each stop of a machine is recorded once, with the place and
the reason (`Session.stops_are_logged_once`).

The records of a kind are counted by comparing the whole of them, in order, with
those that the calls ask for: `Stage.trapRecord?`, `Stage.faultRecord?`,
`Stage.stopRecord?` and `Stage.loadRecord?`.  Their texts are those of `LogRecord.ReadsAs`.
-/

namespace LS8

/-! ## What is recorded -/

namespace Session

/-- The record of how a step ends: at a byte that is no instruction, at a fault, or
as it should.  Only a comparison has something to say about itself. -/
def conclusion (s : Session) : List LogRecord :=
  match s.step.machine.status, s.step.result with
  | .trapped address opcode, _ => [.unknownInstruction address opcode]
  | .faulted address, .error (.fault cause) => [.faulted address cause]
  | _, _ => (s.compared?.map fun (left, right) => .compared left right).toList

/-- What a step of an active machine records.  The instruction is named if the fetch
succeeds and its byte is known. -/
def records (s : Session) : List LogRecord :=
  .traced s.machine.trace ::
    ((s.machine.instruction?.map fun i => .decoded s.machine.pc i.op).toList ++ s.conclusion)

end Session

namespace Stage

def status (stage : Stage) : Status :=
  stage.call.outcome.machine.status

def log (stage : Stage) : List LogRecord :=
  stage.call.outcome.log

/-- The record of a machine that was active and is trapped. -/
def trapRecord? (stage : Stage) : Option LogRecord :=
  match stage.before.machine.status, stage.status with
  | .active, .trapped address opcode => some (.unknownInstruction address opcode)
  | _, _ => none

/-- The record of a machine that was active and is at a fault, which is the error that
the call gives back. -/
def faultRecord? (stage : Stage) : Option LogRecord :=
  match stage.before.machine.status, stage.status, stage.call.outcome.result with
  | .active, .faulted address, .error (.fault cause) => some (.faulted address cause)
  | _, _, _ => none

/-- The record of a run that does not fail. -/
def stopRecord? (stage : Stage) : Option LogRecord :=
  match stage.call.command, stage.call.outcome.result with
  | .run, .ok _ => some (.stopped stage.call.outcome.executed stage.status)
  | _, _ => none

/-- The record of a load that does not fail. -/
def loadRecord? (stage : Stage) : Option LogRecord :=
  match stage.call.command, stage.call.outcome.result with
  | .load program, .ok _ => some (.loaded program.length)
  | .loadText text, .ok _ => some (.loaded (Listing.parse text).bytes.length)
  | _, _ => none

/-- The lines that are skipped in reading a program text. -/
def skipRecords (stage : Stage) : List LogRecord :=
  match stage.call.command with
  | .loadText text => (Listing.parse text).skipped.map .skipped
  | _ => []

/-- What a call records. -/
def records (stage : Stage) : List LogRecord :=
  stage.steps.flatMap Session.records ++ stage.skipRecords ++ stage.loadRecord?.toList ++
    stage.stopRecord?.toList

end Stage

/-! ## Kinds of records -/

namespace LogRecord

def trace? : LogRecord → Option Trace
  | traced trace => some trace
  | _ => none

def isFault : LogRecord → Bool
  | faulted .. => true
  | _ => false

def isStop : LogRecord → Bool
  | stopped .. => true
  | _ => false

def isLoad : LogRecord → Bool
  | loaded .. => true
  | _ => false

/-- A choice of kinds among the records that a call gives at most once.  The other
records of a machine are not chosen. -/
structure Selects (pick : LogRecord → Bool) (trap fault load stop : Bool) : Prop where
  unknown : ∀ address opcode, pick (.unknownInstruction address opcode) = trap
  faulted : ∀ address cause, pick (.faulted address cause) = fault
  loaded : ∀ bytes, pick (.loaded bytes) = load
  stopped : ∀ steps status, pick (.stopped steps status) = stop
  traced : ∀ trace, pick (.traced trace) = false
  decoded : ∀ address op, pick (.decoded address op) = false
  compared : ∀ left right, pick (.compared left right) = false
  skipped : ∀ line, pick (.skipped line) = false

theorem selects_warn : Selects (·.severity = .warn) true false false false := by
  constructor <;> simp [severity]

theorem selects_isFault : Selects isFault false true false false := by
  constructor <;> simp [isFault]

theorem selects_isLoad : Selects isLoad false false true false := by
  constructor <;> simp [isLoad]

theorem selects_isStop : Selects isStop false false false true := by
  constructor <;> simp [isStop]

end LogRecord

/-! ## Steps -/

/-- Only a comparison records something of its own. -/
theorem Executes.records_eq {m : Machine} {i : Instruction} {effect : Effect}
    (executes : Executes (m.fetching i) i effect) :
    effect.emission.records =
      ((i.compared? m).map fun (left, right) => .compared left right).toList := by
  cases executes with
  | compare left right => simp [Instruction.compared?, left, right, Emission.records]
  | halt | loadImmediate | print | push | pop | ret | call => rfl
  | @arithmetic op _ _ _ _ _ kind | @jump op _ _ _ kind | @fallThrough op _ _ _ kind =>
    have other : op ≠ .compare := by
      rintro rfl
      cases kind
    rw [Instruction.compared?_eq_none other]
    rfl

namespace Session

variable {s : Session}

/-- The three ways in which a step of an active machine ends. -/
inductive Concludes (s : Session) : Prop
  | trapped {address : Nat} {opcode : UInt8}
      (status : s.step.machine.status = .trapped address opcode)
      (result : s.step.result = .ok (.trapped address opcode))
  | faulted {address : Nat} {cause : Fault} (status : s.step.machine.status = .faulted address)
      (result : s.step.result = .error (.fault cause))
  | done {status : Status} (same : s.step.machine.status = status)
      (unstopped : status = .active ∨ status = .halted) (result : s.step.result = .ok status)

theorem concludes (active : s.machine.status = .active) : s.Concludes := by
  cases result : s.step.result with
  | error error =>
    obtain ⟨cause, rfl⟩ := Machine.fault_of_active active result
    exact .faulted ((Machine.failsInPlace_step result).status (by simp)) result
  | ok status =>
    obtain ⟨same, notFaulted⟩ := status_of_succeeded result
    cases status with
    | trapped address opcode => exact .trapped same result
    | faulted address => exact absurd rfl (notFaulted address)
    | active => exact .done same (.inl rfl) result
    | halted => exact .done same (.inr rfl) result

theorem log_step (active : s.machine.status = .active) : s.step.log = s.records := by
  have steps := Machine.stepsTo_step s.machine s.sink
  have stepped : s.step = s.machine.step s.sink := rfl
  unfold records conclusion compared? carriedOut?
  rw [stepped]
  generalize s.machine.step s.sink = outcome at steps ⊢
  cases steps with
  | stopped inactive => exact absurd active inactive
  | unfetched _ missing =>
    have idle : s.machine.instruction? = none := by
      apply Option.eq_none_iff_forall_ne_some.mpr
      intro i found
      cases missing.symm.trans (Machine.fetch_of_instruction? found)
    simp [Cycle.stopAtFault, idle]
  | trapped _ found unknown =>
    have idle := Machine.instruction?_of_unknown (Machine.cell?_pc_of_fetch found) unknown
    simp [idle]
  | failed found | refused found =>
    simp [Cycle.stopAtFault, found]
  | @done i effect found executes =>
    have recorded := executes.records_eq
    obtain ⟨active', _⟩ := Machine.instruction?_eq_some_iff.mp found
    have status : effect.machine.status = .active ∨ effect.machine.status = .halted := by
      rw [executes.status_eq]
      by_cases halts : i.op = .halt
      · exact .inr (if_pos halts)
      · exact .inl ((if_neg halts).trans active')
    obtain status | status := status
    all_goals simp [Cycle.finish, Effect.cycle, status, found, recorded]

/-- A step of a machine that has stopped is none, and records nothing. -/
theorem log_step_eq_steps (s : Session) :
    s.step.log = (s.steps s.step.executed).flatMap fun u => u.step.log := by
  by_cases active : s.machine.status = .active
  · rw [executed_step_of_active active]
    simp [steps, after]
  · rw [executed_step_of_stopped active, step, Machine.step_of_stopped active]
    rfl

end Session

/-! ## Calls -/

theorem Outcome.log_ofCall {α : Type} (m : Machine) (sink : Sink) (log : List LogRecord)
    (call : Action Error Machine α) (reply : α → Reply) :
    (ofCall m sink log call reply).log =
      match (ofCall m sink log call reply).result with
      | .ok _ => log
      | .error _ => [] := by
  unfold ofCall
  cases call m <;> rfl

theorem Outcome.exists_of_failed_ofCall {α : Type} {m : Machine} {sink : Sink}
    {log : List LogRecord} {call : Action Error Machine α} {reply : α → Reply} {error : Error}
    (failed : (ofCall m sink log call reply).result = .error error) :
    ∃ left, call m = .error error left := by
  unfold ofCall at failed
  cases called : call m with
  | ok => simp [called] at failed
  | error other left =>
    simp only [called, Except.error.injEq] at failed
    exact ⟨left, congrArg (EStateM.Result.error · left) failed⟩

theorem Outcome.error_of_map {α β : Type} {f : α → β} {outcome : Outcome α} {error : Error}
    (failed : (outcome.map f).result = .error error) : outcome.result = .error error := by
  change outcome.result.map f = .error error at failed
  cases result : outcome.result with
  | ok value =>
    rw [result] at failed
    cases failed
  | error other =>
    rw [result] at failed
    exact congrArg Except.error (Except.error.inj failed)

/-- What a run that does not fail gives back is the status of the machine. -/
theorem Session.status_of_run {s : Session} {budget : Nat} {outcome : Outcome Status}
    {status : Status} (ended : s.run budget = some outcome)
    (succeeded : outcome.result = .ok status) : outcome.machine.status = status := by
  obtain ⟨led, _, ends⟩ := endsAfter_of_run ended
  have stands : outcome.machine.status = (s.after outcome.executed).machine.status :=
    congrArg (·.machine.status) led
  cases ends with
  | stopped _ result => exact stands.trans (Except.ok.inj (result.symm.trans succeeded))
  | exhausted _ _ result => cases result.symm.trans succeeded
  | failed _ _ result => cases result.symm.trans succeeded

namespace Stage

variable {stage : Stage}

/-- The steps of a call record what steps of an active machine record. -/
theorem log_steps (made : stage.Made) :
    (stage.steps.flatMap fun u => u.step.log) = stage.steps.flatMap Session.records := by
  apply List.flatMap_congr
  intro u member
  exact Session.log_step (active_of_mem_steps made member)

theorem stopRecord?_of_run {before : Session} {budget : Nat} {whole : Outcome Status}
    (ended : before.run budget = some whole) :
    (stopRecord? ⟨before, .run, whole.map .status⟩).toList =
      match whole.result with
      | .ok status => [.stopped whole.executed status]
      | .error _ => [] := by
  cases result : whole.result with
  | error error =>
    have failed : (whole.map Reply.status).result = .error error :=
      congrArg (Except.map Reply.status) result
    simp [stopRecord?, failed]
  | ok status =>
    have succeeded : (whole.map Reply.status).result = .ok (.status status) :=
      congrArg (Except.map Reply.status) result
    obtain rfl := Session.status_of_run ended result
    simp only [stopRecord?, succeeded]
    rfl

/-- A call that executes no instruction records the lines it skips and what it loads. -/
theorem log_of_no_steps (made : stage.Made) (notStep : stage.call.command ≠ .step)
    (notRun : stage.call.command ≠ .run) :
    stage.log = stage.skipRecords ++ stage.loadRecord?.toList := by
  obtain ⟨before, command, outcome⟩ := stage
  obtain ⟨budget, performed⟩ := made
  change before.perform budget command = some outcome at performed
  cases command with
  | step | run => contradiction
  | load program =>
    obtain rfl := Option.some.inj performed
    refine (Outcome.log_ofCall ..).trans ?_
    simp only [skipRecords, loadRecord?, Machine.loadRecorded]
    split <;> simp_all
  | loadText text =>
    obtain rfl := Option.some.inj performed
    refine congrArg _ ((Outcome.log_ofCall ..).trans ?_)
    simp only [loadRecord?, Machine.loadText, Machine.loadRecorded]
    split <;> simp_all
  | _ =>
    obtain rfl := Option.some.inj performed
    refine (Outcome.log_ofCall ..).trans ?_
    split <;> rfl

/-- What a call records can be told without looking at its log. -/
theorem log_eq (made : stage.Made) : stage.log = stage.records := by
  rw [records, ← log_steps made]
  obtain ⟨before, command, outcome⟩ := stage
  have makes : before.Makes command outcome := makes made
  cases makes with
  | step =>
    simp only [skipRecords, loadRecord?, stopRecord?, Option.toList_none, List.append_nil]
    exact before.log_step_eq_steps
  | run ended =>
    obtain ⟨log, _⟩ := Session.log_run ended
    simp only [skipRecords, loadRecord?, Option.toList_none, List.append_nil]
    rw [stopRecord?_of_run ended]
    exact log
  | other notStep notRun idle =>
    have still : Stage.steps ⟨before, command, outcome⟩ = [] := by
      rw [steps, idle, Session.steps_zero]
    have unstopped : stopRecord? ⟨before, command, outcome⟩ = none := by
      unfold stopRecord?
      split <;> simp_all
    rw [still, unstopped, log_of_no_steps made notStep notRun]
    simp

/-! ## Records of a kind -/

section Selection

variable {pick : LogRecord → Bool} {trap fault load stop : Bool}

theorem filter_session_records (selects : LogRecord.Selects pick trap fault load stop)
    (u : Session) : u.records.filter pick = u.conclusion.filter pick := by
  cases known : u.machine.instruction? <;>
    simp [Session.records, known, selects.traced, selects.decoded]

/-- A step that goes on or halts records no stop. -/
theorem filter_conclusion_eq_nil (selects : LogRecord.Selects pick trap fault load stop)
    {u : Session} (unstopped : u.step.machine.status = .active ∨ u.step.machine.status = .halted) :
    u.conclusion.filter pick = [] := by
  have comparison : u.conclusion =
      (u.compared?.map fun (left, right) => LogRecord.compared left right).toList := by
    unfold Session.conclusion
    obtain status | status := unstopped <;> rw [status]
  rw [comparison]
  cases u.compared? <;> simp [selects.compared]

theorem unstopped_of_kept
    (kept : stage.before.machine.status = .active → stage.status = .active) :
    stage.trapRecord? = none ∧ stage.faultRecord? = none := by
  constructor
  · unfold trapRecord?
    split <;> simp_all
  · unfold faultRecord?
    split <;> simp_all

/-- Only the last step of a call can stop the machine, so a call records the stop that its
last step ends with. -/
theorem filter_steps (selects : LogRecord.Selects pick trap fault load stop) (made : stage.Made) :
    (stage.steps.flatMap Session.records).filter pick =
      stage.trapRecord?.toList.filter pick ++ stage.faultRecord?.toList.filter pick := by
  cases leads made with
  | idle steps kept =>
    obtain ⟨untrapped, unfaulted⟩ := unstopped_of_kept kept
    rw [steps, untrapped, unfaulted]
    rfl
  | @moved earlier last steps active unstopped led failed =>
    have lastActive : last.machine.status = .active := active_of_mem_steps made (by simp [steps])
    have same : stage.status = last.step.machine.status := congrArg (·.machine.status) led
    have silent : (earlier.flatMap Session.records).filter pick = [] := by
      simp only [List.filter_flatMap, List.flatMap_eq_nil_iff, filter_session_records selects]
      exact fun u member => filter_conclusion_eq_nil selects (.inl (unstopped u member))
    rw [steps, List.flatMap_append, List.filter_append, silent, List.nil_append,
      List.flatMap_singleton, filter_session_records selects]
    cases last.concludes lastActive with
    | trapped status =>
      simp [Session.conclusion, trapRecord?, faultRecord?, active, same, status]
    | faulted status result =>
      simp [Session.conclusion, trapRecord?, faultRecord?, active, same, status, result,
        failed result]
    | done status unstopped =>
      subst status
      rw [filter_conclusion_eq_nil selects unstopped]
      unfold trapRecord? faultRecord?
      rw [active, same]
      obtain unstopped | unstopped := unstopped <;> simp [unstopped]

theorem filter_records (selects : LogRecord.Selects pick trap fault load stop)
    (made : stage.Made) :
    stage.records.filter pick =
      (if trap then stage.trapRecord?.toList else []) ++
        (if fault then stage.faultRecord?.toList else []) ++
          (if load then stage.loadRecord?.toList else []) ++
            if stop then stage.stopRecord?.toList else [] := by
  have toList {record? : Option LogRecord} {kept : Bool}
      (same : ∀ record ∈ record?, pick record = kept) :
      record?.toList.filter pick = if kept then record?.toList else [] := by
    cases record? <;> cases kept <;> simp_all
  have traps : ∀ record ∈ stage.trapRecord?, pick record = trap := by
    unfold trapRecord?
    split <;> simp [selects.unknown]
  have faults : ∀ record ∈ stage.faultRecord?, pick record = fault := by
    unfold faultRecord?
    split <;> simp [selects.faulted]
  have loads : ∀ record ∈ stage.loadRecord?, pick record = load := by
    unfold loadRecord?
    split <;> simp [selects.loaded]
  have stops : ∀ record ∈ stage.stopRecord?, pick record = stop := by
    unfold stopRecord?
    split <;> simp [selects.stopped]
  have skips : stage.skipRecords.filter pick = [] := by
    unfold skipRecords
    split <;> simp [selects.skipped]
  rw [records, List.filter_append, List.filter_append, List.filter_append,
    filter_steps selects made, skips, toList traps, toList faults, toList loads, toList stops,
    List.append_nil]

end Selection

theorem filterMap_trace_records (stage : Stage) :
    stage.records.filterMap LogRecord.trace? = stage.steps.map (·.machine.trace) := by
  have ofStep (u : Session) : u.records.filterMap LogRecord.trace? = [u.machine.trace] := by
    have untraced : u.conclusion.filterMap LogRecord.trace? = [] := by
      unfold Session.conclusion
      split
      · simp [LogRecord.trace?]
      · simp [LogRecord.trace?]
      · cases u.compared? <;> simp [LogRecord.trace?]
    have named : (u.machine.instruction?.map fun i =>
        LogRecord.decoded u.machine.pc i.op).toList.filterMap LogRecord.trace? = [] := by
      cases u.machine.instruction? <;> rfl
    change u.machine.trace :: List.filterMap _ (_ ++ _) = _
    rw [List.filterMap_append, named, untraced]
    rfl
  have skips : stage.skipRecords.filterMap LogRecord.trace? = [] := by
    unfold skipRecords
    split <;> simp [LogRecord.trace?]
  have loads : stage.loadRecord?.toList.filterMap LogRecord.trace? = [] := by
    unfold loadRecord?
    split <;> simp [LogRecord.trace?]
  have stops : stage.stopRecord?.toList.filterMap LogRecord.trace? = [] := by
    unfold stopRecord?
    split <;> simp [LogRecord.trace?]
  simp only [records, List.filterMap_append, skips, loads, stops, List.append_nil,
    List.filterMap_flatMap, ofStep, List.map_eq_flatMap]

/-! ## Calls that fail -/

/-- Calls that execute no instruction have errors of their own. -/
theorem error_of_no_steps {error : Error} (made : stage.Made)
    (notStep : stage.call.command ≠ .step) (notRun : stage.call.command ≠ .run)
    (failed : stage.call.outcome.result = .error error) :
    error ≠ .notActive ∧ ∀ limit, error ≠ .stepLimitExceeded limit := by
  obtain ⟨before, command, outcome⟩ := stage
  obtain ⟨budget, performed⟩ := made
  change before.perform budget command = some outcome at performed
  cases command with
  | step | run => contradiction
  | load | loadText =>
    obtain rfl := Option.some.inj performed
    obtain ⟨left, refused⟩ := Outcome.exists_of_failed_ofCall failed
    obtain ⟨_, rfl, _⟩ := Machine.load_eq_error_iff.mp refused
    simp
  | arithmeticNamed =>
    obtain rfl := Option.some.inj performed
    obtain ⟨left, refused⟩ := Outcome.exists_of_failed_ofCall failed
    obtain ⟨_, rfl, _⟩ | ⟨_, _, _, _, rfl⟩ := Machine.arithmeticNamed_eq_error_iff.mp refused
    all_goals simp
  | _ =>
    obtain rfl := Option.some.inj performed
    obtain ⟨left, refused⟩ := Outcome.exists_of_failed_ofCall failed
    obtain ⟨_, _, rfl⟩ := Action.adaptExcept_eq_error_iff.mp refused
    simp

/-- A machine that has stopped refuses a step without a record. -/
theorem log_of_refused (made : stage.Made)
    (refused : stage.call.outcome.result = .error .notActive) : stage.log = [] := by
  obtain ⟨before, command, outcome⟩ := stage
  have makes : before.Makes command outcome := makes made
  cases makes with
  | step =>
    have failed : before.step.result = .error .notActive := Outcome.error_of_map refused
    have inactive : before.machine.status ≠ .active := by
      intro active
      obtain ⟨cause, same⟩ := Machine.fault_of_active active failed
      cases same
    change before.step.log = []
    rw [Session.step, Machine.step_of_stopped inactive]
  | run ended =>
    have failed := Outcome.error_of_map refused
    obtain ⟨_, _, ends⟩ := Session.endsAfter_of_run ended
    cases ends with
    | stopped _ result | exhausted _ _ result | failed _ _ result => cases result.symm.trans failed
  | other notStep notRun => exact absurd rfl (error_of_no_steps made notStep notRun refused).1

/-- A run that is given up records its steps and nothing else. -/
theorem log_of_exhausted {limit : Nat} (made : stage.Made)
    (exhausted : stage.call.outcome.result = .error (.stepLimitExceeded limit)) :
    stage.log = stage.steps.flatMap Session.records := by
  have unstopped : stage.stopRecord? = none := by
    unfold stopRecord?
    split <;> simp_all
  have unloaded : stage.loadRecord? = none := by
    unfold loadRecord?
    split <;> simp_all
  have unskipped : stage.skipRecords = [] := by
    obtain ⟨before, command, outcome⟩ := stage
    have makes : before.Makes command outcome := makes made
    cases makes with
    | step | run => rfl
    | other notStep notRun =>
      exact absurd rfl ((error_of_no_steps made notStep notRun exhausted).2 limit)
  rw [log_eq made, records, unstopped, unloaded, unskipped]
  simp

end Stage

/-! ## The log -/

/-- What the records of some calls, which were made one after the other, tell of them. -/
structure TruthfulLog (stages : List Stage) (log : List LogRecord) : Prop where
  -- How many steps a call makes is a matter of the machine, whatever is recorded.
  counted : ∀ stage ∈ stages,
    stage.call.command.Takes stage.before stage.call.outcome.executed
  whole : log = stages.flatMap Stage.log
  recorded : ∀ stage ∈ stages, stage.log = stage.records
  traces : log.filterMap LogRecord.trace? =
    stages.flatMap fun stage => stage.steps.map (·.machine.trace)
  warnings : log.filter (·.severity = .warn) = stages.filterMap Stage.trapRecord?
  faults : log.filter LogRecord.isFault = stages.filterMap Stage.faultRecord?
  loads : log.filter LogRecord.isLoad = stages.filterMap Stage.loadRecord?
  stops : log.filter LogRecord.isStop = stages.filterMap Stage.stopRecord?
  worded : ∀ record ∈ log, record.ReadsAs record.severity record.message
  -- A fault comes with an error, and is recorded with its wording.
  faulted : ∀ stage ∈ stages, ∀ address, stage.before.machine.status = .active →
    stage.status = .faulted address → ∃ error record, stage.call.outcome.result = .error error ∧
      stage.faultRecord? = some record ∧ record.severity = .debug ∧
      record.message = s!"fault at 0x{Text.Numeral.hex 2 address}: {error.message}"
  refused : ∀ stage ∈ stages, stage.call.outcome.result = .error .notActive → stage.log = []
  exhausted : ∀ stage ∈ stages, ∀ limit,
    stage.call.outcome.result = .error (.stepLimitExceeded limit) →
      stage.log = stage.steps.flatMap Session.records

theorem Stage.faulted_reported {stage : Stage} {address : Nat} (made : stage.Made)
    (active : stage.before.machine.status = .active)
    (faulted : stage.status = .faulted address) :
    ∃ cause, stage.call.outcome.result = .error (.fault cause) ∧
      stage.faultRecord? = some (.faulted address cause) := by
  cases leads made with
  | idle steps kept => cases (kept active).symm.trans faulted
  | @moved earlier last steps _ unstopped led failed =>
    have lastActive : last.machine.status = .active := active_of_mem_steps made (by simp [steps])
    have same : last.step.machine.status = .faulted address :=
      (congrArg (·.machine.status) led).symm.trans faulted
    cases last.concludes lastActive with
    | trapped status => cases status.symm.trans same
    | done status unstopped =>
      obtain rfl := status.symm.trans same
      obtain absurd | absurd := unstopped <;> cases absurd
    | @faulted _ cause _ result =>
      refine ⟨cause, failed result, ?_⟩
      simp [faultRecord?, active, faulted, failed result]

namespace Session

theorem log_stages (s : Session) (made : List Call) :
    (s.stages made).flatMap Stage.log = made.flatMap (·.outcome.log) := by
  induction made generalizing s with
  | nil => rfl
  | cons call later ih =>
    exact congrArg (call.outcome.log ++ ·) (ih call.outcome.session)

/-- Whatever calls are made on whatever machine, each trap, each fault, each run that
does not fail and each load that does not fail is recorded once, as it was, and so is each
step of an active machine with what it found.  Each record has the severity and the text of
its kind. -/
theorem stops_are_logged_once {s t : Session} {made : List Call} (calls : s.Calls made t) :
    TruthfulLog (s.stages made) (made.flatMap (·.outcome.log)) := by
  have mades {stage : Stage} (member : stage ∈ s.stages made) : stage.Made :=
    calls.made_of_mem member
  have whole := (s.log_stages made).symm
  have recorded : made.flatMap (·.outcome.log) = (s.stages made).flatMap Stage.records := by
    rw [whole]
    exact List.flatMap_congr fun stage member => Stage.log_eq (mades member)
  have filtered {pick : LogRecord → Bool} {record? : Stage → Option LogRecord}
      (each : ∀ stage, stage.Made → stage.records.filter pick = (record? stage).toList) :
      (made.flatMap (·.outcome.log)).filter pick = (s.stages made).filterMap record? := by
    rw [recorded, List.filter_flatMap, List.filterMap_eq_flatMap_toList]
    exact List.flatMap_congr fun stage member => each stage (mades member)
  exact {
    counted := fun stage member => Stage.takes (mades member)
    whole
    recorded := fun stage member => Stage.log_eq (mades member)
    traces := by
      rw [recorded, List.filterMap_flatMap]
      exact List.flatMap_congr fun stage _ => stage.filterMap_trace_records
    warnings := filtered fun stage made => by
      simpa using Stage.filter_records LogRecord.selects_warn made
    faults := filtered fun stage made => by
      simpa using Stage.filter_records LogRecord.selects_isFault made
    loads := filtered fun stage made => by
      simpa using Stage.filter_records LogRecord.selects_isLoad made
    stops := filtered fun stage made => by
      simpa using Stage.filter_records LogRecord.selects_isStop made
    worded := fun record _ => LogRecord.readsAs_iff.mpr ⟨rfl, rfl⟩
    faulted := by
      intro stage member address active faulted
      obtain ⟨cause, failed, record⟩ := Stage.faulted_reported (mades member) active faulted
      exact ⟨_, _, failed, record, rfl, rfl⟩
    refused := fun stage member => Stage.log_of_refused (mades member)
    exhausted := fun stage member limit => Stage.log_of_exhausted (mades member) }

/-- A run traps after one instruction and the next step is refused; after a reset another
program fails at its first instruction. -/
theorem stops_are_logged_once_reset :
    ∃ (s t : Session) (made : List Call), s.Calls made t ∧
      made.map (·.command) =
        [.load [255], .run, .step, .load [Opcode.print.byte, 9], .reset, .step] ∧
      let log := made.flatMap (·.outcome.log)
      log.filter (·.severity = .warn) = [.unknownInstruction 0 255] ∧
        log.filter LogRecord.isFault = [.faulted 0 (.noSuchRegister 9)] ∧
        log.filter LogRecord.isLoad = [.loaded 1, .loaded 2] ∧
        log.filter LogRecord.isStop = [.stopped 1 (.trapped 0 255)] := by
  let s : Session := ⟨Machine.powerOn { memorySize := 3, stackTop := 3 }, {}⟩
  let loaded := (s.perform 0 (.load [255])).get rfl
  let ran := (loaded.session.perform 1 .run).get (by decide +kernel)
  let refused := (ran.session.perform 0 .step).get rfl
  let replaced := (refused.session.perform 0 (.load [Opcode.print.byte, 9])).get rfl
  let started := (replaced.session.perform 0 .reset).get rfl
  let failed := (started.session.perform 0 .step).get rfl
  have load : s.perform 0 (.load [255]) = some loaded := (Option.some_get _).symm
  have run : loaded.session.perform 1 .run = some ran := (Option.some_get _).symm
  have refuse : ran.session.perform 0 .step = some refused := (Option.some_get _).symm
  have replace : refused.session.perform 0 (.load [Opcode.print.byte, 9]) = some replaced :=
    (Option.some_get _).symm
  have reset : replaced.session.perform 0 .reset = some started := (Option.some_get _).symm
  have fail : started.session.perform 0 .step = some failed := (Option.some_get _).symm
  have calls := ((((((Calls.start.call load).call run).call refuse).call replace).call reset).call
    fail)
  have tells := stops_are_logged_once calls
  refine ⟨s, _, _, calls, rfl, ?_, ?_, ?_, ?_⟩
  · rw [tells.warnings]
    decide +kernel
  · rw [tells.faults]
    decide +kernel
  · rw [tells.loads]
    decide +kernel
  · rw [tells.stops]
    decide +kernel

end Session

end LS8
