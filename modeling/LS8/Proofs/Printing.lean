import LS8.Proofs.Calls
import LS8.Proofs.Determinism

/-!
# What execution prints

A step writes at most one line, and only a print does.  So whatever is done to a
session, all that its sink has taken is one text that has been written to it
(`Session.exists_write_perform`), and a sink that takes everything holds the lines
of the bytes that have been printed, in order (`Session.text_after`).

* `Session.printed?` — the byte that the next step prints;
* `Session.printed`, `Session.printedText` — the bytes that some single steps print,
  and their lines.
-/

namespace LS8

namespace Sink

variable {sink : Sink} (text : List Char)

theorem text_write_of_unbounded (unbounded : sink.room = none) :
    (sink.write text).text = sink.text ++ text := by
  rw [text_write, fitting_of_accepts (by simp [accepts, unbounded])]

theorem room_write_of_unbounded (unbounded : sink.room = none) :
    (sink.write text).room = none := by
  simp [write, unbounded]

/-- A sink that has no room left does not change. -/
theorem write_of_full (full : sink.room = some 0) : sink.write text = sink := by
  obtain ⟨written, room⟩ := sink
  obtain rfl : room = some 0 := full
  simp [write, fitting]

/-- Two texts written one after the other are one text. -/
theorem write_write (sink : Sink) (first second : List Char) :
    (sink.write first).write second = sink.write (first ++ second) := by
  obtain ⟨written, room⟩ := sink
  cases room with
  | none => simp [write, fitting, ← Array.toList_inj]
  | some room => simp [write, fitting, ← Array.toList_inj, List.take_append, Nat.sub_sub]

end Sink

/-! ## Writing to the sink -/

/-- A step goes the same way with every sink that takes what it prints. -/
theorem Machine.exists_line_step (m : Machine) {sink : Sink} (unbounded : sink.room = none) :
    ∃ line, (m.step sink).sink = sink.write line ∧ ∀ other : Sink, other.accepts line = true →
      m.step other = { m.step sink with sink := other.write line } := by
  have steps := stepsTo_step m sink
  generalize m.step sink = outcome at steps ⊢
  -- Only an instruction that is carried out prints, so all other ways are silent.
  have silent {result : Outcome Status} (same : result.sink = sink)
      (steps : ∀ other : Sink, StepsTo m other { result with sink := other }) :
      ∃ line, result.sink = sink.write line ∧ ∀ other : Sink, other.accepts line = true →
        m.step other = { result with sink := other.write line } := by
    refine ⟨[], same.trans (Sink.write_nil sink).symm, fun other _ => ?_⟩
    rw [Sink.write_nil]
    exact step_of_stepsTo (steps other)
  cases steps with
  | stopped inactive => exact silent rfl fun _ => .stopped inactive
  | unfetched active missing => exact silent rfl fun _ => .unfetched active missing
  | trapped active found unknown => exact silent rfl fun _ => .trapped active found unknown
  | failed found fails => exact silent rfl fun _ => .failed found fails
  | refused _ _ full => simp [Sink.accepts, unbounded] at full
  | done found executes _ =>
    exact ⟨_, rfl, fun other accepted => step_of_stepsTo (.done found executes accepted)⟩

namespace Session

variable {s : Session}

theorem exists_write_step (s : Session) : ∃ text, s.step.sink = s.sink.write text := by
  have steps := Machine.stepsTo_step s.machine s.sink
  unfold step
  generalize s.machine.step s.sink = outcome at steps ⊢
  cases steps with
  | stopped | unfetched | trapped | failed => exact ⟨[], (Sink.write_nil s.sink).symm⟩
  | refused | done => exact ⟨_, rfl⟩

theorem exists_write_after (s : Session) (n : Nat) :
    ∃ text, (s.after n).sink = s.sink.write text := by
  induction n with
  | zero => exact ⟨[], (Sink.write_nil s.sink).symm⟩
  | succ n ih =>
    obtain ⟨text, earlier⟩ := ih
    obtain ⟨line, last⟩ := (s.after n).exists_write_step
    refine ⟨text ++ line, ?_⟩
    rw [← Sink.write_write, ← earlier]
    exact last

/-- Whatever a call does, it writes one text to the sink, which may be empty. -/
theorem exists_write_perform {budget : Nat} {command : Command} {outcome : Outcome Reply}
    (performed : s.perform budget command = some outcome) :
    ∃ text, outcome.sink = s.sink.write text := by
  obtain ⟨_, led⟩ | ⟨notStep, notRun⟩ := after_of_perform performed
  · obtain ⟨text, prints⟩ := s.exists_write_after outcome.executed
    exact ⟨text, (congrArg (·.sink) led).trans prints⟩
  · refine ⟨[], ?_⟩
    rw [Sink.write_nil, Command.sink_of_perform notStep notRun performed]

theorem room_after_of_unbounded (unbounded : s.sink.room = none) (n : Nat) :
    (s.after n).sink.room = none := by
  obtain ⟨text, prints⟩ := s.exists_write_after n
  rw [prints]
  exact Sink.room_write_of_unbounded text unbounded

/-- The text of a sink that takes everything only grows. -/
theorem prefix_after (unbounded : s.sink.room = none) {j k : Nat} (le : j ≤ k) :
    (s.after j).sink.text <+: (s.after k).sink.text := by
  obtain ⟨more, rfl⟩ := Nat.exists_eq_add_of_le le
  obtain ⟨text, prints⟩ := (s.after j).exists_write_after more
  have still := room_after_of_unbounded unbounded j
  refine ⟨text, ?_⟩
  rw [after_add, prints, Sink.text_write_of_unbounded text still]

end Session

/-! ## Printed bytes -/

/-- The byte that an instruction prints, if it is a print. -/
def Instruction.printed? (i : Instruction) (m : Machine) : Option UInt8 :=
  match i.op, Register.ofByte i.first with
  | .print, .ok r => some (m.registers.get r)
  | _, _ => none

theorem Instruction.printed?_eq_none {i : Instruction} (other : i.op ≠ .print) (m : Machine) :
    i.printed? m = none := by
  unfold printed?
  split
  · contradiction
  · rfl

theorem Executes.text_eq {m : Machine} {i : Instruction} {effect : Effect}
    (executes : Executes (m.fetching i) i effect) :
    effect.emission.text = (i.printed? m).toList.flatMap printedLine := by
  cases executes with
  | print source => simp [Instruction.printed?, source, Emission.text]
  | halt | loadImmediate | push | pop | ret | call | compare => rfl
  | @arithmetic op _ _ _ _ _ kind | @jump op _ _ _ kind | @fallThrough op _ _ _ kind =>
    have other : op ≠ .print := by
      rintro rfl
      cases kind
    rw [Instruction.printed?_eq_none other]
    rfl

namespace Session

/-- The byte that the next step prints. -/
def printed? (s : Session) : Option UInt8 :=
  s.carriedOut?.bind (·.printed? s.machine)

/-- The bytes that some single steps print, in order. -/
def printed (s : Session) (n : Nat) : List UInt8 :=
  (List.range n).filterMap fun k => (s.after k).printed?

/-- The lines that some single steps print. -/
def printedText (s : Session) (n : Nat) : List Char :=
  (s.printed n).flatMap printedLine

variable {s : Session}

theorem printed_succ (s : Session) (n : Nat) :
    s.printed (n + 1) = s.printed n ++ (s.after n).printed?.toList := by
  simp only [printed, List.range_succ, List.filterMap_append]
  cases found : (s.after n).printed? <;> simp [found]

theorem text_step (unbounded : s.sink.room = none) :
    s.step.sink.text = s.sink.text ++ s.printed?.toList.flatMap printedLine := by
  obtain ⟨i, effect, carriedOut, executes, _, sink⟩ | ⟨idle, _, sink⟩ := s.carriedOut_cases
  · rw [sink, Sink.text_write_of_unbounded _ unbounded, executes.text_eq, printed?, carriedOut]
    rfl
  · rw [sink unbounded, printed?, idle]
    simp

/-- A sink that takes everything holds what it held and then one line for each
byte that was printed. -/
theorem text_after (unbounded : s.sink.room = none) (n : Nat) :
    (s.after n).sink.text = s.sink.text ++ s.printedText n := by
  induction n with
  | zero => simp [after, printedText, printed]
  | succ n ih =>
    have still := room_after_of_unbounded unbounded n
    rw [printedText, printed_succ, List.flatMap_append, ← List.append_assoc, ← printedText, ← ih]
    exact text_step still

end Session

end LS8
