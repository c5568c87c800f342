import LS8.Proofs.Session

/-!
# Histories

What has happened to a machine, in order: every call with its result, and where
a call executes instructions, every instruction instead.  Facts of the form "as
the latest such event has left it" are about histories.

* `Event` — something that has happened;
* `History` — a machine at power-on, what has happened since, and the machine it
  has led to;
* `latest?` — what the latest event reports that reports anything.
-/

namespace LS8

inductive Event where
  -- An instruction was executed, or tried, on this session.
  | instruction (before : Session)
  -- A call that executes no instruction gave this result.
  | call (command : Command) (result : Except Error Reply)

/-- The instructions that some single steps execute. -/
def Session.instructions (s : Session) (n : Nat) : List Event :=
  (List.range n).map fun k => .instruction (s.after k)

/-- What happens in a call with this outcome.  A step or a run is the instructions
that it executes. -/
def Command.events (s : Session) (outcome : Outcome Reply) : Command → List Event
  | step | run => s.instructions outcome.executed
  | command => [.call command outcome.result]

/-- The histories that begin with a machine.  Each call may print to a sink of its
own, and may be a run of any length. -/
inductive History (start : Machine) : List Event → Machine → Prop
  | start : History start [] start
  | call {events : List Event} {m : Machine} {budget : Nat} {sink : Sink} {command : Command}
      {outcome : Outcome Reply} (earlier : History start events m)
      (performed : command.perform budget m sink = some outcome) :
      History start (events ++ command.events ⟨m, sink⟩ outcome) outcome.machine

theorem History.reaches {start m : Machine} {events : List Event}
    (history : History start events m) : start.Reaches m := by
  induction history with
  | start => exact .refl
  | call _ performed ih => exact .call ih performed

theorem Session.instructions_succ (s : Session) (n : Nat) :
    s.instructions (n + 1) = s.instructions n ++ [.instruction (s.after n)] := by
  simp [instructions, List.range_succ]

/-! ## The latest event -/

/-- What the latest event reports that reports anything. -/
def latest? {α : Type} (report : Event → Option α) (events : List Event) : Option α :=
  events.reverse.findSome? report

section

variable {α : Type} {report : Event → Option α} {event : Event}

theorem latest?_append (earlier later : List Event) :
    latest? report (earlier ++ later) = (latest? report later).or (latest? report earlier) := by
  simp [latest?, List.findSome?_append]

@[simp] theorem latest?_singleton : latest? report [event] = report event := by
  simp [latest?]

end

end LS8
