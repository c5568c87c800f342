import LS8.Proofs.Calls
import LS8.Proofs.Determinism
import LS8.Proofs.History

/-!
# The flags report the latest comparison

A comparison sets the flags, a reset clears them, and nothing else touches them.
So whatever has happened to a machine, its flags are those of the latest
comparison that has been carried out since the latest reset, however long ago
that was, and a conditional jump goes by that comparison
(`Session.flags_report_latest_comparison`).
-/

namespace LS8

/-- The two bytes that an instruction compares, if it is a comparison. -/
def Instruction.compared? (i : Instruction) (m : Machine) : Option (UInt8 × UInt8) :=
  match i.op, Register.ofByte i.first, Register.ofByte i.second with
  | .compare, .ok left, .ok right => some (m.registers.get left, m.registers.get right)
  | _, _, _ => none

/-- The two bytes that the next step compares. -/
def Session.compared? (s : Session) : Option (UInt8 × UInt8) :=
  s.carriedOut?.bind (·.compared? s.machine)

/-- The latest comparison, as an event leaves it: a comparison is remembered, and
a reset forgets it.  Other events do not say. -/
def Event.comparison? : Event → Option (Option (UInt8 × UInt8))
  | instruction before => before.compared?.map some
  | call .reset _ => some none
  | call _ _ => none

/-- The two bytes that were compared last, unless there was a reset since. -/
def latestComparison? (events : List Event) : Option (UInt8 × UInt8) :=
  (latest? Event.comparison? events).join

namespace Flags

/-- The flags of the latest comparison, if there was one. -/
def ofLatest : Option (UInt8 × UInt8) → Flags
  | some (left, right) => .ofComparison left right
  | none => .clear

theorem isEqual_ofLatest {latest : Option (UInt8 × UInt8)} :
    (ofLatest latest).isEqual = true ↔ ∃ value, latest = some (value, value) := by
  cases latest with
  | none => simp [ofLatest]
  | some pair =>
    obtain ⟨left, right⟩ := pair
    rw [isEqual_iff_byte, ofLatest, byte_ofComparison]
    by_cases same : left = right
    · simp [same]
    · have other : (if right < left then 0b010 else 0b001 : UInt8) &&& 0b100 = 0 := by
        split <;> decide
      simp [same, other, eq_comm]

end Flags

/-! ## What changes the flags -/

theorem Instruction.compared?_eq_none {i : Instruction} (other : i.op ≠ .compare) (m : Machine) :
    i.compared? m = none := by
  unfold compared?
  split
  · contradiction
  · rfl

/-- Of all instructions only a comparison changes the flags. -/
theorem Executes.flags_eq {m : Machine} {i : Instruction} {effect : Effect}
    (executes : Executes (m.fetching i) i effect) :
    effect.machine.flags =
      ((i.compared? m).map fun pair => .ofComparison pair.1 pair.2).getD m.flags := by
  cases executes with
  | compare left right =>
    simp only [Instruction.compared?, left, right]
    rfl
  | push _ stored | call _ _ stored =>
    obtain ⟨_, _, _, rfl⟩ := Machine.push_eq_ok_iff.mp stored
    rfl
  | pop _ taken | ret taken =>
    obtain ⟨_, _, rfl⟩ := Machine.pop_eq_ok_iff.mp taken
    rfl
  | halt | loadImmediate | print => rfl
  | @arithmetic op _ _ _ _ _ kind | @jump op _ _ _ kind | @fallThrough op _ _ _ kind =>
    have other : op ≠ .compare := by
      rintro rfl
      cases kind
    rw [Instruction.compared?_eq_none other]
    rfl

/-- The flags after some events, given the flags before them. -/
def Flags.following (flags : Flags) (events : List Event) : Flags :=
  ((latest? Event.comparison? events).map ofLatest).getD flags

theorem Flags.following_append (flags : Flags) (earlier later : List Event) :
    flags.following (earlier ++ later) = (flags.following earlier).following later := by
  unfold following
  rw [latest?_append]
  cases latest? Event.comparison? later <;> rfl

theorem Flags.following_clear (events : List Event) :
    clear.following events = ofLatest (latestComparison? events) := by
  unfold following latestComparison?
  obtain _ | _ | _ := latest? Event.comparison? events <;> rfl

namespace Session

theorem flags_step (s : Session) :
    s.step.machine.flags = s.machine.flags.following [.instruction s] := by
  rw [Flags.following, latest?_singleton]
  obtain ⟨i, effect, carriedOut, executes, machine_eq, _⟩ | ⟨idle, same, _⟩ := s.carriedOut_cases
  · rw [machine_eq, executes.flags_eq]
    simp only [Event.comparison?, compared?, carriedOut, Option.bind_some]
    cases i.compared? s.machine <;> rfl
  · rw [same.flags]
    simp only [Event.comparison?, compared?, idle]
    rfl

theorem flags_after (s : Session) (n : Nat) :
    (s.after n).machine.flags = s.machine.flags.following (s.instructions n) := by
  induction n with
  | zero => rfl
  | succ n ih =>
    rw [instructions_succ, Flags.following_append, ← ih]
    exact flags_step (s.after n)

end Session

theorem Command.flags_perform {budget : Nat} {s : Session} {command : Command}
    {outcome : Outcome Reply} (performed : s.perform budget command = some outcome) :
    outcome.machine.flags = s.machine.flags.following (command.events s outcome) := by
  obtain ⟨rfl | rfl, led⟩ | ⟨notStep, notRun⟩ := Session.after_of_perform performed
  · exact (congrArg (·.machine.flags) led).trans (s.flags_after outcome.executed)
  · exact (congrArg (·.machine.flags) led).trans (s.flags_after outcome.executed)
  by_cases reset : command = .reset
  · subst reset
    obtain rfl := Option.some.inj performed
    rfl
  · rw [(keepsControl_of_perform notStep notRun reset performed).flags]
    cases command with
    | step | run | reset => contradiction
    | _ => rfl

theorem History.flags_eq {start m : Machine} {events : List Event}
    (history : History start events m) : m.flags = start.flags.following events := by
  induction history with
  | start => rfl
  | call _ performed ih =>
    rw [Flags.following_append, ← ih]
    exact Command.flags_perform (s := ⟨_, _⟩) performed

/-! ## Conditional jumps -/

namespace Machine

/-- A jump through a register that exists is carried out, and goes to its target if
it is taken and past itself if not. -/
theorem step_jump {m : Machine} {i : Instruction} {r : Register} {taken : Bool} (sink : Sink)
    (found : m.instruction? = some i) (kind : i.op.taken? m.flags = some taken)
    (target : Register.ofByte i.first = .ok r) :
    (m.step sink).result = .ok .active ∧ (m.step sink).machine.pc =
      if taken then (m.registers.get r).toNat else m.pc + i.op.width := by
  obtain ⟨active, _⟩ := instruction?_eq_some_iff.mp found
  cases taken with
  | true =>
    have executes : Executes (m.fetching i) i _ := .jump kind target
    rw [step_of_stepsTo (.done found executes (Sink.accepts_nil sink))]
    exact ⟨congrArg Except.ok active, rfl⟩
  | false =>
    have executes : Executes (m.fetching i) i _ := .fallThrough kind target
    rw [step_of_stepsTo (.done found executes (Sink.accepts_nil sink))]
    exact ⟨congrArg Except.ok active, rfl⟩

end Machine

namespace Session

/-- At every point of every execution, after any calls on a machine that was built,
the flags are those of the latest comparison since the latest reset, or zero if
there is none.  A conditional jump through a register that exists goes by that
comparison: one is taken exactly if there is such a comparison and it found two
equal bytes, and the other one in all other cases. -/
theorem flags_report_latest_comparison {config : Config} {start m : Machine} {events : List Event}
    (built : Machine.ofConfig config = .ok start) (history : History start events m)
    (sink : Sink) (n : Nat) :
    let s := (⟨m, sink⟩ : Session).after n
    let latest := latestComparison? (events ++ (⟨m, sink⟩ : Session).instructions n)
    let equal := ∃ value, latest = some (value, value)
    (s.machine.flags.byte = match latest with
      | none => 0
      | some (left, right) =>
        if left = right then 0b100 else if right < left then 0b010 else 0b001) ∧
    ∀ i r, s.machine.instruction? = some i → Register.ofByte i.first = .ok r →
      let target := (s.machine.registers.get r).toNat
      (i.op = .jumpIfEqual → s.step.result = .ok .active ∧
        (equal → s.step.machine.pc = target) ∧ (¬equal → s.step.machine.pc = s.machine.pc + 2)) ∧
      (i.op = .jumpIfNotEqual → s.step.result = .ok .active ∧
        (¬equal → s.step.machine.pc = target) ∧ (equal → s.step.machine.pc = s.machine.pc + 2)) := by
  intro s latest equal
  have flags : s.machine.flags = Flags.ofLatest latest := by
    obtain ⟨_, rfl⟩ := Machine.ofConfig_eq_ok_iff.mp built
    have clear : (Machine.powerOn config).flags = .clear := rfl
    rw [← Flags.following_clear, Flags.following_append, ← clear, ← history.flags_eq]
    exact flags_after ⟨m, sink⟩ n
  have isEqual : s.machine.flags.isEqual = true ↔ equal := by
    rw [flags]
    exact Flags.isEqual_ofLatest
  refine ⟨?_, ?_⟩
  · rw [flags]
    cases latest with
    | none => rfl
    | some pair => exact Flags.byte_ofComparison pair.1 pair.2
  · intro i r found named target
    -- Whether a jump is taken is read off the flags, and these say whether it was equality.
    have jumps (taken : Bool) (kind : i.op.taken? s.machine.flags = some taken) :
        s.step.result = .ok .active ∧
          s.step.machine.pc = if taken then target else s.machine.pc + i.op.width :=
      Machine.step_jump s.sink found kind named
    refine ⟨?_, ?_⟩
    · intro op
      rw [op] at jumps
      obtain ⟨result, pc⟩ := jumps _ rfl
      refine ⟨result, fun same => ?_, fun differ => ?_⟩
      · rw [pc, if_pos (isEqual.mpr same)]
      · rw [pc, if_neg (mt isEqual.mp differ)]
        rfl
    · intro op
      rw [op] at jumps
      obtain ⟨result, pc⟩ := jumps _ rfl
      refine ⟨result, fun differ => ?_, fun same => ?_⟩
      · rw [pc, eq_false_of_ne_true (mt isEqual.mp differ)]
        rfl
      · rw [pc, isEqual.mpr same]
        rfl

/-- Two equal bytes are compared, and a jump goes by that although one of them has
been changed since. -/
theorem flags_report_latest_comparison_overwritten :
    ∃ (config : Config) (start m : Machine) (events : List Event),
      Machine.ofConfig config = .ok start ∧ History start events m ∧
        latestComparison? events = some (5, 5) ∧ m.registers.get 0 = 5 ∧ m.registers.get 1 = 9 ∧
        m.flags.byte = 0b100 ∧ m.pc = 9 ∧ (m.step {}).machine.pc = 0 := by
  let config : Config := { memorySize := 12, stackTop := 12, stepLimit := some 3 }
  have valid : config.Valid := by
    unfold Config.Valid
    decide
  have built := Machine.ofConfig_eq_ok_iff.mpr ⟨valid, rfl⟩
  let program : List UInt8 := [Opcode.loadImmediate.byte, 0, 5, Opcode.loadImmediate.byte, 1, 5,
    Opcode.compare.byte, 0, 1, Opcode.jumpIfEqual.byte, 2]
  let start := Machine.powerOn config
  let loaded := ((Command.load program).perform 0 start {}).get rfl
  let ran := (Command.run.perform 3 loaded.machine {}).get (by decide +kernel)
  let assigned := ((Command.writeRegister 1 9).perform 0 ran.machine {}).get rfl
  have load : (Command.load program).perform 0 start {} = some loaded := (Option.some_get _).symm
  have run : Command.run.perform 3 loaded.machine {} = some ran := (Option.some_get _).symm
  have assign : (Command.writeRegister 1 9).perform 0 ran.machine {} = some assigned :=
    (Option.some_get _).symm
  have history := ((History.start.call load).call run).call assign
  obtain ⟨m, events, history, compared, found, first, second, pc, target⟩ :
      ∃ m events, History start events m ∧ latestComparison? events = some (5, 5) ∧
        m.instruction? = some ⟨.jumpIfEqual, 2, 0⟩ ∧ m.registers.get 0 = 5 ∧
        m.registers.get 1 = 9 ∧ m.pc = 9 ∧ (m.registers.get 2).toNat = 0 := by
    refine ⟨assigned.machine, _, history, ?_, ?_, ?_, ?_, ?_, ?_⟩ <;> decide +kernel
  obtain ⟨byte, jumps⟩ := flags_report_latest_comparison built history {} 0
  have latest : latestComparison? (events ++ (⟨m, {}⟩ : Session).instructions 0) = some (5, 5) :=
    (congrArg latestComparison? (List.append_nil events)).trans compared
  rw [latest] at byte
  obtain ⟨jumpsIfEqual, _⟩ := jumps _ 2 found rfl
  obtain ⟨_, taken, _⟩ := jumpsIfEqual rfl
  have jumped : (m.step {}).machine.pc = 0 := (taken ⟨5, latest⟩).trans target
  exact ⟨config, start, m, events, built, history, compared, first, second, byte, pc, jumped⟩

end Session

end LS8
