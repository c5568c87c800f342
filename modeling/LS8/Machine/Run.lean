import LS8.Machine.Step

/-!
# Runs

A run makes steps until the machine stops, a step fails, or the step limit is
reached.  A machine without a limit may run for ever, so a run is given a
budget of instructions: with an answer inside the budget, a larger budget
gives the same answer.

* `Progress` — a run under way;
* `Progress.turn` — one turn of the loop: either the run is over or one more
  instruction has been executed;
* `Machine.run` — a whole run.
-/

namespace LS8

structure Progress where
  machine : Machine
  sink : Sink
  -- How many instructions this run has executed.  Only a step limit bounds this number.
  steps : Nat
  -- What has been recorded so far.
  log : Array LogRecord

inductive Turn where
  | ended (outcome : Outcome Status)
  | again (next : Progress)

namespace Progress

def start (machine : Machine) (sink : Sink) : Progress :=
  { machine, sink, steps := 0, log := #[] }

/-- End a run with a result, and with some last records. -/
def finish (p : Progress) (result : Except Error Status) (log : List LogRecord) :
    Outcome Status :=
  { result, machine := p.machine, sink := p.sink, log := p.log.toList ++ log }

/-- The step limit, if the run has reached it. -/
def exhausted? (p : Progress) : Option Nat :=
  p.machine.config.stepLimit.filter (· ≤ p.steps)

def advance (p : Progress) : Turn :=
  let outcome := p.machine.step p.sink
  match outcome.result with
  | .ok _ =>
    .again {
      machine := outcome.machine
      sink := outcome.sink
      steps := p.steps + 1
      log := p.log ++ outcome.log }
  | .error error =>
    .ended {
      result := .error error
      machine := outcome.machine
      sink := outcome.sink
      log := p.log.toList ++ outcome.log }

/-- One turn of the loop.  A machine that has stopped ends the run; the limit
is looked at only while the machine is active. -/
def turn (p : Progress) : Turn :=
  if p.machine.status = .active then
    match p.exhausted? with
    | some limit => .ended (p.finish (.error (.stepLimitExceeded limit)) [])
    | none => p.advance
  else
    .ended (p.finish (.ok p.machine.status) [.stopped p.steps p.machine.status])

/-- Take turns until the run is over.  The budget is the number of instructions
that may be completed before that; a run that completes more has no answer. -/
def complete? (budget : Nat) (p : Progress) : Option (Outcome Status) :=
  match p.turn with
  | .ended outcome => some outcome
  | .again next =>
    match budget with
    | 0 => none
    | budget + 1 => next.complete? budget

/-! ## Basic facts -/

theorem complete?_succ (budget : Nat) (p : Progress) :
    p.complete? (budget + 1) =
      match p.turn with
      | .ended outcome => some outcome
      | .again next => next.complete? budget := by
  rw [complete?]

/-- A run that is over within a budget is over in the same way within any
larger one. -/
theorem complete?_mono {budget larger : Nat} {p : Progress} {outcome : Outcome Status}
    (le : budget ≤ larger) (done : p.complete? budget = some outcome) :
    p.complete? larger = some outcome := by
  induction budget generalizing larger p with
  | zero =>
    rw [complete?] at done
    cases larger <;> rw [complete?] <;> cases turned : p.turn <;> simp_all
  | succ budget ih =>
    obtain ⟨larger, rfl⟩ : ∃ n, larger = n + 1 := ⟨larger - 1, by omega⟩
    rw [complete?_succ] at done ⊢
    cases turned : p.turn with
    | ended other => simpa [turned] using done
    | again next =>
      simp only [turned] at done
      exact ih (by omega) done

end Progress

def Machine.run (budget : Nat) (m : Machine) (sink : Sink) : Option (Outcome Status) :=
  (Progress.start m sink).complete? budget

theorem Machine.run_mono {budget larger : Nat} {m : Machine} {sink : Sink}
    {outcome : Outcome Status} (le : budget ≤ larger) (done : m.run budget sink = some outcome) :
    m.run larger sink = some outcome :=
  Progress.complete?_mono le done

end LS8
