import Mathlib.Data.List.Basic
import LS8.CommandLine.Execution
import LS8.Proofs.Printing
import LS8.Proofs.RunEnds
import LS8.Proofs.Streaming

/-!
# What a request reports

Ending, exit code, output and error report of a request follow from how its program ends:
the stages before the run fail for reasons that the request and its file show, and the
run has one of its four ends.

* `Request.FailsBefore` — the failures of the stages before the run, with the lines that
  report them, and `Request.Starts` — where the run begins if there is none;
* `Request.EndsIn` — how a request ends, with which output and with which report;
* `Request.Stops` — the program stops within the limit;
* `Request.report_follows_program` — a report says just that.
-/

namespace LS8

open Text

theorem Machine.size_memory_powerOn (config : Config) :
    (powerOn config).memory.size = config.memorySize := Memory.size_zeros _

namespace CommandLine.Request

variable {request : Request} {contents : Except ReadError ByteArray} {budget : Nat}
  {ending : Ending} {output : List Char} {lines : List String} {report : Report}

/-! ## The stages before the run -/

/-- The first stage that fails before the run, in the order of the stages, and the lines
that report it. -/
inductive FailsBefore (request : Request) (contents : Except ReadError ByteArray) :
    Failure → List String → Prop
  -- The file system has no contents for the file.
  | missing {cause : ReadError} (unread : contents = .error cause) :
      FailsBefore request contents (.reading request.path cause)
        ["Error: " ++ s!"could not read {request.path}", "", "Caused by:", s!"    {cause.message}"]
  -- The contents are not UTF-8.
  | notText {bytes : ByteArray} (read : contents = .ok bytes) (invalid : ¬bytes.IsValidUTF8) :
      FailsBefore request contents (.reading request.path .notText)
        ["Error: " ++ s!"could not read {request.path}", "", "Caused by:",
          "    stream did not contain valid UTF-8"]
  | memorySize {text : String} {size : Nat} (read : contents = .ok text.toUTF8)
      (asked : request.memorySize.toNat = size) (outside : size < 3 ∨ 65536 < size) :
      FailsBefore request contents (.configuring (.memorySize size))
        ["Error: " ++ s!"invalid configuration: memory size {size} is outside {3}..={65536}"]
  | stackTop {text : String} {size : Nat} {top : UInt8} (read : contents = .ok text.toUTF8)
      (asked : request.memorySize.toNat = size) (askedTop : request.stackTop = top)
      (inside : 3 ≤ size ∧ size ≤ 65536) (beyond : size < top.toNat) :
      FailsBefore request contents (.configuring (.stackTop top size))
        ["Error: " ++
          s!"invalid configuration: stack top 0x{Numeral.hex 2 top.toNat} lies beyond {size} bytes of memory"]
  | loading {text : String} {size length : Nat} (read : contents = .ok text.toUTF8)
      (asked : request.memorySize.toNat = size) (valid : request.config.Valid)
      (program : (Listing.parse text.toList).bytes.length = length) (tooLarge : size < length) :
      FailsBefore request contents (.loading (.programTooLarge length size))
        ["Error: " ++ s!"program of {length} bytes does not fit in {size} bytes of memory"]

/-- The session with which the run begins, if no stage before it fails: a machine at
power-on with the program in memory, and nothing printed. -/
inductive Starts (request : Request) (contents : Except ReadError ByteArray) : Session → Prop
  | intro {text : String} {loaded : Machine} (read : contents = .ok text.toUTF8)
      (valid : request.config.Valid)
      (fits : (Machine.powerOn request.config).load (Listing.parse text.toList).bytes =
        .ok () loaded) :
      Starts request contents ⟨loaded, {}⟩

theorem build_of_valid (valid : request.config.Valid) (program : List UInt8) :
    request.build program =
      match (Machine.powerOn request.config).load program with
      | .ok _ loaded => .ok loaded
      | .error cause _ => .error (.loading cause) := by
  rw [build, Machine.ofConfig_eq_ok_iff.mpr ⟨valid, rfl⟩]
  rfl

theorem prepare_of_read {text : String} (read : contents = .ok text.toUTF8) :
    (request.prepare contents).machine = request.build (Listing.parse text.toList).bytes := by
  have listed := Listing.ofFile_eq_ok_iff.mpr ⟨text, read, rfl⟩
  simp only [prepare, listed]
  cases request.build (Listing.parse text.toList).bytes <;> rfl

theorem prepare_of_unread {cause : ReadError} (unread : Listing.ofFile contents = .error cause) :
    (request.prepare contents).machine = .error (.reading request.path cause) := by
  rw [prepare, unread]

theorem build_of_problem {problem : Config.Problem} (invalid : request.config.problem? = some problem)
    (program : List UInt8) : request.build program = .error (.configuring problem) := by
  have unbuilt : Machine.ofConfig request.config = .error problem := by
    rw [Machine.ofConfig, invalid]
  rw [build, unbuilt]
  rfl

theorem prepare_of_failsBefore {failure : Failure}
    (fails : request.FailsBefore contents failure lines) :
    (request.prepare contents).machine = .error failure ∧ failure.lines = lines := by
  cases fails with
  | missing unread =>
    exact ⟨prepare_of_unread (Listing.ofFile_eq_error_iff.mpr (.inl unread)), rfl⟩
  | @notText bytes read invalid =>
    exact ⟨prepare_of_unread (Listing.ofFile_eq_error_iff.mpr (.inr ⟨bytes, read, invalid, rfl⟩)),
      rfl⟩
  | memorySize read asked outside =>
    subst asked
    have invalid : request.config.problem? = some (.memorySize request.memorySize.toNat) :=
      if_pos outside
    rw [prepare_of_read read, build_of_problem invalid]
    exact ⟨rfl, rfl⟩
  | stackTop read asked askedTop inside beyond =>
    subst asked askedTop
    obtain ⟨enough, fewEnough⟩ := inside
    have invalid : request.config.problem? =
        some (.stackTop request.stackTop request.memorySize.toNat) :=
      (if_neg (not_or.mpr ⟨Nat.not_lt.mpr enough, Nat.not_lt.mpr fewEnough⟩)).trans (if_pos beyond)
    rw [prepare_of_read read, build_of_problem invalid]
    exact ⟨rfl, rfl⟩
  | @loading text _ _ read asked valid program tooLarge =>
    subst asked program
    have large : (Machine.powerOn request.config).memory.size <
        (Listing.parse text.toList).bytes.length := by
      rw [Machine.size_memory_powerOn]
      exact tooLarge
    have refused := Machine.load_eq_error_iff.mpr ⟨large, rfl, rfl⟩
    rw [prepare_of_read read, build_of_valid valid, refused, Machine.size_memory_powerOn]
    exact ⟨rfl, rfl⟩

theorem prepare_of_starts {s : Session} (starts : request.Starts contents s) :
    (request.prepare contents).machine = .ok s.machine := by
  obtain ⟨read, valid, fits⟩ := starts
  rw [prepare_of_read read, build_of_valid valid, fits]

/-- Either a stage before the run fails, or the run begins. -/
theorem failsBefore_or_starts (request : Request) (contents : Except ReadError ByteArray) :
    (∃ failure lines, request.FailsBefore contents failure lines) ∨
      ∃ s, request.Starts contents s := by
  cases listed : Listing.ofFile contents with
  | error cause =>
    obtain unread | ⟨bytes, read, invalid, rfl⟩ := Listing.ofFile_eq_error_iff.mp listed
    · exact .inl ⟨_, _, .missing unread⟩
    · exact .inl ⟨_, _, .notText read invalid⟩
  | ok listing =>
    obtain ⟨text, read, rfl⟩ := Listing.ofFile_eq_ok_iff.mp listed
    by_cases outside : request.memorySize.toNat < 3 ∨ 65536 < request.memorySize.toNat
    · exact .inl ⟨_, _, .memorySize read rfl outside⟩
    have inside : 3 ≤ request.memorySize.toNat ∧ request.memorySize.toNat ≤ 65536 := by omega
    by_cases beyond : request.memorySize.toNat < request.stackTop.toNat
    · exact .inl ⟨_, _, .stackTop read rfl rfl inside beyond⟩
    have valid : request.config.Valid := ⟨inside.1, inside.2, Nat.le_of_not_lt beyond⟩
    cases loaded : (Machine.powerOn request.config).load (Listing.parse text.toList).bytes with
    | ok done machine => exact .inr ⟨_, .intro read valid loaded⟩
    | error error left =>
      obtain ⟨tooLarge, _⟩ := Machine.load_eq_error_iff.mp loaded
      rw [Machine.size_memory_powerOn] at tooLarge
      exact .inl ⟨_, _, .loading read rfl valid rfl tooLarge⟩

theorem Starts.active {s : Session} (starts : request.Starts contents s) :
    s.machine.status = .active := by
  obtain ⟨_, _, fits⟩ := starts
  obtain ⟨_, _, rfl⟩ := Machine.load_eq_ok_iff.mp fits
  rfl

theorem Starts.config {s : Session} (starts : request.Starts contents s) :
    s.machine.config = request.config := by
  obtain ⟨_, _, fits⟩ := starts
  obtain ⟨_, _, rfl⟩ := Machine.load_eq_ok_iff.mp fits
  rfl

theorem Starts.sink {s : Session} (starts : request.Starts contents s) : s.sink = {} := by
  obtain ⟨_, _, _⟩ := starts
  rfl

/-! ## Ending and output -/

/-- How a request ends, what its program has printed by then, and the lines that report a
failure. -/
inductive EndsIn (request : Request) (contents : Except ReadError ByteArray) :
    Ending → List Char → List String → Prop
  | unstarted {failure : Failure} {lines : List String}
      (fails : request.FailsBefore contents failure lines) :
      EndsIn request contents (.error failure) [] lines
  -- The program has stopped by itself.
  | stopped {s : Session} {n : Nat} {status : Status} (starts : request.Starts contents s)
      (ends : s.RunEnds n (.ok status)) :
      EndsIn request contents (.ok status) (s.printedText n) []
  -- The report names the address of the instruction that failed.
  | faulted {s : Session} {last pc : Nat} {cause : Fault} (starts : request.Starts contents s)
      (ends : s.RunEnds (last + 1) (.error (.fault cause)))
      (address : (s.after last).machine.pc = pc) :
      EndsIn request contents (.error (.running pc (.fault cause))) (s.printedText (last + 1))
        ["Error: " ++ s!"machine fault at pc 0x{Numeral.hex 2 pc}", "", "Caused by:",
          s!"    {cause.message}"]
  -- The report names the address of the instruction that would have been next.
  | exhausted {s : Session} {limit pc : Nat} (starts : request.Starts contents s)
      (ends : s.RunEnds limit (.error (.stepLimitExceeded limit)))
      (address : (s.after limit).machine.pc = pc) :
      EndsIn request contents (.error (.running pc (.stepLimitExceeded limit)))
        (s.printedText limit)
        ["Error: " ++ s!"machine fault at pc 0x{Numeral.hex 2 pc}", "", "Caused by:",
          "    " ++ s!"gave up after {limit} instructions"]

theorem endsIn_of_runEnds {s : Session} {n : Nat} {result : Except Error Status}
    (starts : request.Starts contents s) (ends : s.RunEnds n result)
    (ended : ending = result.mapError (.running (s.after n).machine.pc)) :
    request.EndsIn contents ending (s.printedText n) ending.lines := by
  subst ended
  cases ends with
  | halted active within halted => exact .stopped starts (.halted active within halted)
  | trapped active within trapped => exact .stopped starts (.trapped active within trapped)
  | exhausted active limited => exact .exhausted starts (.exhausted active limited) rfl
  | @faulted last cause active within failed =>
    have address := Session.pc_step_of_failed failed
    exact .faulted starts (.faulted active within failed) address.symm

theorem execute_of_starts {s : Session} (starts : request.Starts contents s) (budget : Nat) :
    request.execute budget contents = (s.run budget).map fun outcome =>
      { ending := .ofOutcome outcome
        output := outcome.sink.text
        log := (request.prepare contents).log ++ outcome.log } := by
  simp only [execute, prepare_of_starts starts, Session.run, starts.sink]
  cases s.machine.run budget {} <;> rfl

theorem execute_of_failsBefore {failure : Failure}
    (fails : request.FailsBefore contents failure lines) :
    request.execute budget contents =
      some { ending := .error failure, output := [], log := (request.prepare contents).log } := by
  simp only [execute, (prepare_of_failsBefore fails).1]

/-- What a run that begins at power-on reports and prints. -/
theorem report_of_run {s : Session} {n : Nat} {outcome : Outcome Status}
    (starts : request.Starts contents s) (led : outcome.session = s.after n) :
    Ending.ofOutcome outcome = outcome.result.mapError (.running (s.after n).machine.pc) ∧
      outcome.sink.text = s.printedText n := by
  refine ⟨?_, ?_⟩
  · rw [← led]
    rfl
  · have text := Session.text_after (s := s) (by rw [starts.sink]) n
    rw [← led, starts.sink] at text
    exact text

theorem endsIn_of_execute (done : request.execute budget contents = some report) :
    request.EndsIn contents report.ending report.output report.ending.lines := by
  obtain ⟨failure, lines, fails⟩ | ⟨s, starts⟩ := request.failsBefore_or_starts contents
  · rw [execute_of_failsBefore fails] at done
    obtain rfl := Option.some.inj done
    obtain ⟨_, rfl⟩ := prepare_of_failsBefore fails
    exact .unstarted fails
  · rw [execute_of_starts starts] at done
    obtain ⟨outcome, ended, rfl⟩ := Option.map_eq_some_iff.mp done
    obtain ⟨n, ends, led⟩ := Session.runEnds_of_run starts.active ended
    obtain ⟨ending, text⟩ := report_of_run starts led
    rw [text]
    exact endsIn_of_runEnds starts ends ending

/-- A program whose run has an end leads to a report of it. -/
theorem exists_execute_of_runEnds {s : Session} {n : Nat} {result : Except Error Status}
    (starts : request.Starts contents s) (ends : s.RunEnds n result)
    (ended : ending = result.mapError (.running (s.after n).machine.pc)) :
    ∃ budget report, request.execute budget contents = some report ∧
      report.ending = ending ∧ report.output = s.printedText n ∧
        report.ending.lines = ending.lines := by
  subst ended
  obtain ⟨budget, outcome, finished, rfl, led⟩ := Session.exists_run_of_runEnds ends
  obtain ⟨ending, text⟩ := report_of_run starts led
  have executed := execute_of_starts starts budget
  rw [finished] at executed
  exact ⟨budget, _, executed, ending, text, congrArg Ending.lines ending⟩

theorem exists_execute_of_endsIn (ends : request.EndsIn contents ending output lines) :
    ∃ budget report, request.execute budget contents = some report ∧
      report.ending = ending ∧ report.output = output ∧ report.ending.lines = lines := by
  cases ends with
  | unstarted fails =>
    obtain ⟨_, rfl⟩ := prepare_of_failsBefore fails
    exact ⟨0, _, execute_of_failsBefore fails, rfl, rfl, rfl⟩
  | stopped starts ends => exact exists_execute_of_runEnds starts ends rfl
  | exhausted starts ends address =>
    subst address
    exact exists_execute_of_runEnds starts ends rfl
  | @faulted s last _ cause starts ends address =>
    subst address
    have unmoved : (s.after (last + 1)).machine.pc = (s.after last).machine.pc := by
      cases ends with
      | faulted active within failed => exact Session.pc_step_of_failed failed
    apply exists_execute_of_runEnds starts ends
    rw [unmoved]
    rfl

theorem execute_eq_none_iff :
    (∀ budget, request.execute budget contents = none) ↔
      ∃ s, request.Starts contents s ∧ request.config.stepLimit = none ∧
        ∀ n, (s.after n).machine.status = .active := by
  constructor
  · intro unfinished
    obtain ⟨failure, _, fails⟩ | ⟨s, starts⟩ := request.failsBefore_or_starts contents
    · cases (unfinished 0).symm.trans (execute_of_failsBefore fails)
    · have unfinished : ∀ budget, s.run budget = none := by
        intro budget
        have none := unfinished budget
        rw [execute_of_starts starts] at none
        exact Option.map_eq_none_iff.mp none
      obtain ⟨unlimited, active⟩ := Session.run_eq_none_iff.mp unfinished
      exact ⟨s, starts, starts.config ▸ unlimited, active⟩
  · rintro ⟨s, starts, unlimited, active⟩ budget
    have unfinished := Session.run_eq_none_iff.mpr ⟨starts.config ▸ unlimited, active⟩ budget
    rw [execute_of_starts starts, unfinished]
    rfl

/-- A run that is shown turn by turn, each turn with its own text and records, shows
the output of the report and what the report records of the run. -/
theorem execute_iff_streams {s : Session} (starts : request.Starts contents s) :
    (∃ budget, request.execute budget contents = some report) ↔
      ∃ text log last, (Progress.start s.machine {}).Streams text log last ∧
        report = ⟨.ofOutcome last, text, (request.prepare contents).log ++ log⟩ := by
  have shows (text : List Char) (log : List LogRecord) (last : Outcome Status) :
      ((Progress.start s.machine {}).concluding text log last).sink.text = text :=
    Sink.text_write_of_unbounded text rfl
  have unbounded : (Progress.start s.machine {}).sink.room = none := rfl
  simp only [execute_of_starts starts, Session.run, starts.sink]
  constructor
  · rintro ⟨budget, done⟩
    obtain ⟨outcome, ended, rfl⟩ := Option.map_eq_some_iff.mp done
    obtain ⟨text, log, last, streams, rfl⟩ :=
      (Progress.complete?_iff_streams unbounded).mp ⟨budget, ended⟩
    exact ⟨text, log, last, streams, by rw [shows]; rfl⟩
  · rintro ⟨text, log, last, streams, rfl⟩
    obtain ⟨budget, ended⟩ :=
      (Progress.complete?_iff_streams unbounded).mpr ⟨text, log, last, streams, rfl⟩
    refine ⟨budget, Option.map_eq_some_iff.mpr ⟨_, ended, ?_⟩⟩
    rw [shows]
    rfl

/-! ## Exit codes -/

/-- The program stops by itself, within the step limit. -/
def Stops (request : Request) (contents : Except ReadError ByteArray) (status : Status) : Prop :=
  ∃ s n, request.Starts contents s ∧ s.RunEnds n (.ok status)

theorem execute_unique {budget' : Nat} {other : Report}
    (done : request.execute budget contents = some report)
    (done' : request.execute budget' contents = some other) : report = other := by
  obtain ⟨failure, _, fails⟩ | ⟨s, starts⟩ := request.failsBefore_or_starts contents
  · rw [execute_of_failsBefore fails] at done done'
    exact Option.some.inj (done.symm.trans done')
  · rw [execute_of_starts starts] at done done'
    obtain ⟨outcome, ended, rfl⟩ := Option.map_eq_some_iff.mp done
    obtain ⟨outcome', ended', rfl⟩ := Option.map_eq_some_iff.mp done'
    have larger := Machine.run_mono (Nat.le_max_left budget budget') ended
    have larger' := Machine.run_mono (Nat.le_max_right budget budget') ended'
    rw [Option.some.inj (larger.symm.trans larger')]

theorem ending_eq_ok_iff {status : Status} (done : request.execute budget contents = some report) :
    report.ending = .ok status ↔ request.Stops contents status := by
  constructor
  · intro ending
    have ends := endsIn_of_execute done
    rw [ending] at ends
    generalize report.output = output, Ending.lines (.ok status) = lines at ends
    cases ends with
    | stopped starts ends => exact ⟨_, _, starts, ends⟩
  · rintro ⟨s, n, starts, ends⟩
    obtain ⟨budget', other, done', ending, _⟩ := exists_execute_of_runEnds starts ends rfl
    obtain rfl := execute_unique done done'
    exact ending

/-- The three exit codes: a report is that of a halt, of a trap, or of a failure. -/
theorem exitCode_iff (done : request.execute budget contents = some report) :
    (report.ending.exitCode = 0 ↔ request.Stops contents .halted) ∧
    (report.ending.exitCode = 2 ↔
      ∃ address opcode, request.Stops contents (.trapped address opcode)) ∧
    (report.ending.exitCode = 1 ↔ ¬request.Stops contents .halted ∧
      ¬∃ address opcode, request.Stops contents (.trapped address opcode)) := by
  simp only [← ending_eq_ok_iff done]
  have ends := endsIn_of_execute done
  generalize report.ending.lines = lines, report.ending = ending, report.output = output at ends ⊢
  cases ends with
  | unstarted | faulted | exhausted => simp [Ending.exitCode]
  | stopped starts ends => cases ends <;> simp [Ending.exitCode]

/-! ## Logging -/

theorem rank_threshold_le {louder : Request} (more : request.verbosity ≤ louder.verbosity) :
    request.threshold.rank ≤ louder.threshold.rank := by
  have more := UInt8.le_iff_toNat_le.mp more
  unfold threshold
  generalize request.verbosity.toNat = few, louder.verbosity.toNat = many at more ⊢
  match few, many with
  | 0, 0 | 0, 1 | 0, _ + 2 | 1, 1 | 1, _ + 2 | _ + 2, _ + 2 => simp [Severity.rank]
  | 1, 0 | _ + 2, 0 | _ + 2, 1 => omega

/-- Asking for more logging hides no record. -/
theorem visible_sublist {louder : Request} (more : request.verbosity ≤ louder.verbosity)
    (log : List LogRecord) :
    (Log.visible request.threshold log).Sublist (Log.visible louder.threshold log) := by
  apply List.monotone_filter_right
  intro record shown
  rw [decide_eq_true_eq] at shown ⊢
  exact Nat.le_trans shown (rank_threshold_le more)

/-- A request ends in one way, with one output and one error report, which its file, its
numbers and the run of its program decide; it does not end only if the program does not
stop and there is no limit.  Its output is what the turns of the run show, each as it
comes.  The exit code tells a halt from a trap and both from every failure.  And how much
logging is asked for changes none of this, and only hides or shows records. -/
theorem report_follows_program (request : Request) (contents : Except ReadError ByteArray) :
    (request.config.memorySize = request.memorySize.toNat ∧
      request.config.stackTop = request.stackTop ∧
      request.config.stepLimit = request.stepLimit.map UInt64.toNat ∧
      ({ path := request.path } : Request).config = {}) ∧
    (∀ ending output lines,
      (∃ budget report, request.execute budget contents = some report ∧
        report.ending = ending ∧ report.output = output ∧ report.ending.lines = lines) ↔
      request.EndsIn contents ending output lines) ∧
    ((∀ budget, request.execute budget contents = none) ↔
      ∃ s, request.Starts contents s ∧ request.config.stepLimit = none ∧
        ∀ n, (s.after n).machine.status = .active) ∧
    (∀ s report, request.Starts contents s →
      ((∃ budget, request.execute budget contents = some report) ↔
        ∃ text log last, (Progress.start s.machine {}).Streams text log last ∧
          report = ⟨.ofOutcome last, text, (request.prepare contents).log ++ log⟩)) ∧
    (∀ budget report, request.execute budget contents = some report →
      (report.ending.exitCode = 0 ↔ request.Stops contents .halted) ∧
      (report.ending.exitCode = 2 ↔
        ∃ address opcode, request.Stops contents (.trapped address opcode)) ∧
      (report.ending.exitCode = 1 ↔ ¬request.Stops contents .halted ∧
        ¬∃ address opcode, request.Stops contents (.trapped address opcode))) ∧
    ∀ verbosity, let louder := { request with verbosity }
      (∀ budget, louder.execute budget contents = request.execute budget contents) ∧
        (request.verbosity ≤ verbosity → ∀ log : List LogRecord,
          (Log.visible request.threshold log).Sublist (Log.visible louder.threshold log)) := by
  refine ⟨⟨rfl, rfl, rfl, config_defaults _⟩, ?_, execute_eq_none_iff,
    fun s report starts => execute_iff_streams starts,
    fun budget report done => exitCode_iff done, ?_⟩
  · intro ending output lines
    constructor
    · rintro ⟨budget, report, done, rfl, rfl, rfl⟩
      exact endsIn_of_execute done
    · exact exists_execute_of_endsIn
  · intro verbosity
    exact ⟨fun budget => rfl, fun more log => visible_sublist more log⟩

/-- A program prints a line and is then stopped by the step limit, with or without
logging. -/
theorem report_follows_program_limited :
    ∃ (request : Request) (contents : Except ReadError ByteArray) (report : Report),
      request.execute 2 contents = some report ∧ report.output = ['7', '\n'] ∧
        report.ending.exitCode = 1 ∧ ¬request.Stops contents .halted ∧
        report.ending.lines = ["Error: machine fault at pc 0x05", "", "Caused by:",
          "    gave up after 2 instructions"] ∧
        { request with verbosity := 2 }.execute 2 contents = some report := by
  let program := "10000010\n00000000\n00000111\n01000111 # print\n00000000\n00000001\n"
  let contents : Except ReadError ByteArray := .ok program.toUTF8
  let request : Request :=
    { path := "prog.ls8", memorySize := 8, stackTop := 8, stepLimit := some 2 }
  obtain ⟨report, done, ending, printed⟩ : ∃ report, request.execute 2 contents = some report ∧
      report.ending = .error (.running 5 (.stepLimitExceeded 2)) ∧
      report.output = ['7', '\n'] := by
    have shown : (request.execute 2 contents).map (fun report => (report.ending, report.output)) =
        some (.error (.running 5 (.stepLimitExceeded 2)), ['7', '\n']) := by
      decide +kernel
    obtain ⟨report, done, same⟩ := Option.map_eq_some_iff.mp shown
    exact ⟨report, done, congrArg Prod.fst same, congrArg Prod.snd same⟩
  obtain ⟨_, _, _, _, codes, verbose⟩ := report_follows_program request contents
  obtain ⟨_, _, failure⟩ := codes 2 report done
  have code : report.ending.exitCode = 1 := by rw [ending]; rfl
  obtain ⟨noHalt, _⟩ := failure.mp code
  obtain ⟨same, _⟩ := verbose 2
  refine ⟨request, contents, report, done, printed, code, noHalt, ?_, (same 2).trans done⟩
  rw [ending]
  decide +kernel

end CommandLine.Request

end LS8
