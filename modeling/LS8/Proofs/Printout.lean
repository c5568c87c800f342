import LS8.Proofs.Numeral
import LS8.Proofs.Printing
import LS8.Proofs.Stages

/-!
# What has been printed can be read back

After any calls, a sink that takes everything holds what it held before and then one
line for each byte that was printed, in order: the shortest decimal numeral of the
byte, and a newline.  Nothing else is written.  A newline is no digit, so the lines can
be told apart whatever their lengths, and the text says which bytes were printed
(`Session.output_is_faithful`).

* `Printout` — the texts that consist of such lines;
* `Printout.values` — the bytes of a text;
* `Session.printouts` — the bytes that calls print.
-/

namespace LS8

open Text.Numeral

/-! ## Lines -/

/-- A text with one line for each of some bytes, and nothing else: a decimal numeral
of the byte than which none is shorter, and a newline. -/
inductive Printout : List UInt8 → List Char → Prop
  | nil : Printout [] []
  | cons {value : UInt8} {values : List UInt8} {digits text : List Char}
      (numeral : IsNumeral 10 digits value.toNat)
      (shortest : ∀ other, IsNumeral 10 other value.toNat → digits.length ≤ other.length)
      (rest : Printout values text) : Printout (value :: values) (digits ++ '\n' :: text)

namespace Printout

/-- The bytes of a text of lines. -/
def values (text : List Char) : List UInt8 :=
  (Listing.pieces text).dropLast.map fun digits => (Nat.ofDigitChars 10 digits 0).toUInt8

theorem of_values (values : List UInt8) : Printout values (values.flatMap printedLine) := by
  induction values with
  | nil => exact .nil
  | cons value values ih =>
    rw [List.flatMap_cons, printedLine, List.append_assoc]
    exact .cons (isNumeral_decimalDigits _) (fun _ => length_decimalDigits_le) ih

/-- The bytes of a text can be read back from it. -/
theorem values_eq {values : List UInt8} {text : List Char} (printout : Printout values text) :
    Printout.values text = values := by
  induction printout with
  | nil => rfl
  | @cons value values digits text numeral _ _ ih =>
    have unbroken : '\n' ∉ digits := by
      intro member
      obtain ⟨digit, _⟩ := numeral.isDigit _ member
      simp at digit
    have cut : Listing.pieces (digits ++ '\n' :: text) = digits :: Listing.pieces text := by
      rw [Listing.pieces_append_newline, Listing.pieces_of_unbroken unbroken]
      rfl
    rw [Printout.values, cut, List.dropLast_cons_of_ne_nil (Listing.pieces_ne_nil text),
      List.map_cons, numeral.value]
    exact List.cons_eq_cons.mpr ⟨UInt8.ofNat_toNat, ih⟩

end Printout

/-! ## Calls -/

/-- A sink that never fails takes everything. -/
theorem Sink.room_eq_none {sink : Sink} (neverFails : ∀ text, sink.accepts text = true) :
    sink.room = none := by
  cases bounded : sink.room with
  | none => rfl
  | some room =>
    have tooLong := neverFails (List.replicate (room + 1) '\n')
    simp only [accepts, bounded, List.length_replicate, decide_eq_true_eq] at tooLong
    exact absurd tooLong (Nat.not_succ_le_self room)

/-- The bytes that the steps of a call print. -/
def Stage.printouts (stage : Stage) : List UInt8 :=
  stage.steps.filterMap Session.printed?

/-- The bytes that some calls print. -/
def Session.printouts (s : Session) (made : List Call) : List UInt8 :=
  (s.stages made).flatMap Stage.printouts

/-- What a call writes to a sink that takes everything are the lines of its steps. -/
theorem Stage.text_eq {stage : Stage} (unbounded : stage.before.sink.room = none)
    (made : stage.Made) :
    stage.call.outcome.sink.text =
      stage.before.sink.text ++ stage.printouts.flatMap printedLine := by
  obtain ⟨budget, performed⟩ := made
  obtain ⟨_, led⟩ | ⟨notStep, notRun⟩ := Session.after_of_perform performed
  · have printed : stage.printouts = stage.before.printed stage.call.outcome.executed := by
      simp only [printouts, steps, Session.steps, Session.printed, List.filterMap_map]
      rfl
    rw [printed]
    exact (congrArg (·.sink.text) led).trans (Session.text_after unbounded _)
  · have silent : stage.printouts = [] := by
      rw [printouts, steps, Command.executed_of_perform notStep notRun performed]
      rfl
    rw [silent, Command.sink_of_perform notStep notRun performed]
    exact (List.append_nil _).symm

namespace Session

variable {s t : Session} {made : List Call}

theorem room_of_calls (unbounded : s.sink.room = none) (calls : s.Calls made t) :
    t.sink.room = none := by
  induction calls with
  | start => exact unbounded
  | call _ performed ih =>
    obtain ⟨text, written⟩ := exists_write_perform performed
    exact (congrArg Sink.room written).trans (Sink.room_write_of_unbounded text ih)

theorem text_of_calls (unbounded : s.sink.room = none) (calls : s.Calls made t) :
    t.sink.text = s.sink.text ++ (s.printouts made).flatMap printedLine := by
  induction calls with
  | start => simp [printouts, stages]
  | @call made t budget command outcome earlier performed ih =>
    have last : outcome.sink.text = _ :=
      @Stage.text_eq ⟨t, command, outcome⟩ (room_of_calls unbounded earlier) ⟨budget, performed⟩
    have printed : s.printouts (made ++ [⟨command, outcome⟩]) =
        s.printouts made ++ Stage.printouts ⟨t, command, outcome⟩ := by
      rw [printouts, earlier.stages_append, List.flatMap_append]
      exact congrArg _ (List.append_nil _)
    rw [printed, List.flatMap_append, ← List.append_assoc, ← ih]
    exact last

/-- After any calls with a sink that never fails, what has been written is one line for
each print that was carried out, in order, and nothing else.  The bytes can be read back
from it, so two executions that write the same have printed the same. -/
theorem output_is_faithful (neverFails : ∀ text, s.sink.accepts text = true)
    (calls : s.Calls made t) :
    (∀ stage ∈ s.stages made,
      stage.call.command.Takes stage.before stage.call.outcome.executed) ∧
    ∃ written, t.sink.text = s.sink.text ++ written ∧ Printout (s.printouts made) written ∧
      Printout.values written = s.printouts made ∧
      ∀ (s' t' : Session) (made' : List Call), (∀ text, s'.sink.accepts text = true) →
        s'.Calls made' t' → t'.sink.text = s'.sink.text ++ written →
          s'.printouts made' = s.printouts made := by
  have prints {s t : Session} {made : List Call} (neverFails : ∀ text, s.sink.accepts text = true)
      (calls : s.Calls made t) := text_of_calls (Sink.room_eq_none neverFails) calls
  have lines := Printout.of_values (s.printouts made)
  refine ⟨fun stage member => Stage.takes (calls.made_of_mem member), _, prints neverFails calls,
    lines, lines.values_eq, ?_⟩
  intro s' t' made' neverFails' calls' same
  have sameLines := List.append_cancel_left ((prints neverFails' calls').symm.trans same)
  rw [← lines.values_eq, ← sameLines]
  exact (Printout.of_values _).values_eq.symm

/-- Two bytes are printed, one of them with two digits, in a run that is given up by its
limit, and a step prints a third. -/
theorem output_is_faithful_limited :
    ∃ (s t : Session) (made : List Call), (∀ text, s.sink.accepts text = true) ∧
      s.Calls made t ∧ made.map (·.command) = [.run, .step] ∧
      t.sink.text = ['1', '0', '\n', '0', '\n', '1', '0', '\n'] ∧
      Printout.values t.sink.text = [10, 0, 10] := by
  let program : Array UInt8 := #[Opcode.loadImmediate.byte, 0, 10, Opcode.print.byte, 0,
    Opcode.print.byte, 1, Opcode.print.byte, 0, 0]
  let s : Session :=
    ⟨{ Machine.powerOn { memorySize := 10, stackTop := 10, stepLimit := some 3 } with
      memory := ⟨program⟩ }, {}⟩
  let ran := (s.perform 3 .run).get (by decide +kernel)
  let stepped := (ran.session.perform 0 .step).get rfl
  have run : s.perform 3 .run = some ran := (Option.some_get _).symm
  have step : ran.session.perform 0 .step = some stepped := (Option.some_get _).symm
  have calls := (Calls.start.call run).call step
  obtain ⟨_, written, text, _, values, _⟩ := output_is_faithful (fun _ => rfl) calls
  have printed : s.printouts [⟨.run, ran⟩, ⟨.step, stepped⟩] = [10, 0, 10] := by decide +kernel
  have fresh : stepped.session.sink.text = written := text
  refine ⟨s, _, _, fun _ => rfl, calls, rfl, by decide +kernel, ?_⟩
  rw [fresh, values]
  exact printed

end Session

end LS8
