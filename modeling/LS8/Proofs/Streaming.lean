import LS8.Proofs.Printing

/-!
# Runs shown as they come

Whoever follows a run turn by turn, shows the text and the records of each turn and
goes on with an empty sink and an empty log, shows in all just what the run as a whole
prints and records: no turn depends on what was printed or recorded before it.

* `Progress.flushed` — a run of which everything so far has been shown;
* `Progress.Streams` — what the turns of a run show, one after the other;
* `Progress.complete?_iff_streams` — that it is what the run prints and records.
-/

namespace LS8

namespace Progress

variable {p : Progress} {outcome : Outcome Status}

/-- A run of which all text and records so far have been shown. -/
def flushed (p : Progress) : Progress :=
  { p with sink := {}, log := #[] }

/-- The text and the records that the turns of a run show until it ends, each turn
only its own, and how it ends. -/
inductive Streams : Progress → List Char → List LogRecord → Outcome Status → Prop
  | ended {p : Progress} {last : Outcome Status} (turned : p.turn = .ended last) :
      Streams p last.sink.text last.log last
  | again {p next : Progress} {text : List Char} {log : List LogRecord} {last : Outcome Status}
      (turned : p.turn = .again next) (rest : next.flushed.Streams text log last) :
      Streams p (next.sink.text ++ text) (next.log.toList ++ log) last

/-- A run under way with what it has printed and recorded before. -/
def following (p shown : Progress) : Progress :=
  { shown with
    sink := p.sink.write shown.sink.text
    log := p.log ++ shown.log }

/-- The outcome of a run that still prints a text, makes some records, and then ends. -/
def concluding (p : Progress) (text : List Char) (log : List LogRecord) (last : Outcome Status) :
    Outcome Status :=
  { last with
    sink := p.sink.write text
    log := p.log.toList ++ log }

theorem concluding_following (p shown : Progress) (text : List Char) (log : List LogRecord)
    (last : Outcome Status) :
    (p.following shown).concluding text log last =
      p.concluding (shown.sink.text ++ text) (shown.log.toList ++ log) last := by
  simp only [concluding, following, Sink.write_write, Array.toList_append, List.append_assoc]

theorem concluding_finish (p : Progress) (result : Except Error Status) (log : List LogRecord) :
    let last := p.flushed.finish result log
    p.concluding last.sink.text last.log last = p.finish result log := by
  simp [concluding, finish, flushed, Sink.text, Sink.write_nil]

/-- A step does the same when everything before it has been shown. -/
theorem step_of_flushed (unbounded : p.sink.room = none) :
    let shown := p.flushed.machine.step p.flushed.sink
    p.machine.step p.sink = { shown with sink := p.sink.write shown.sink.text } := by
  obtain ⟨line, prints, same⟩ := p.machine.exists_line_step unbounded
  -- The empty sink takes every line.
  have fresh : p.flushed.machine.step p.flushed.sink =
      { p.machine.step p.sink with sink := Sink.write {} line } := same {} rfl
  have shown : (Sink.write {} line).text = line := Sink.text_write_of_unbounded line rfl
  simp only [fresh, shown, ← prints]

/-- A turn goes the same way when everything before it has been shown. -/
theorem turn_of_flushed (unbounded : p.sink.room = none) :
    p.turn =
      match p.flushed.turn with
      | .ended last => .ended (p.concluding last.sink.text last.log last)
      | .again shown => .again (p.following shown) := by
  have steps := step_of_flushed unbounded
  obtain ⟨last, turned, ends⟩ | ⟨turned, active, within, status, succeeded⟩ :=
    turn_cases p.flushed
  · rw [turned]
    refine turn_of_ends ?_
    cases ends with
    | stopped inactive =>
      rw [concluding_finish]
      exact .stopped inactive
    | exhausted active reached =>
      rw [concluding_finish]
      exact .exhausted active reached
    | failed active within failed =>
      have ends : p.Ends _ := .failed active within ((congrArg Outcome.result steps).trans failed)
      rw [steps] at ends
      exact ends
  · have continues : p.Continues :=
      ⟨active, within, status, (congrArg Outcome.result steps).trans succeeded⟩
    have follows : p.next = p.following p.flushed.next := by
      rw [next, steps]
      simp [following, next, flushed, ← Array.toList_inj]
    rw [turned, turn_of_continues continues, follows]

theorem exists_streams_of_complete? {budget : Nat} (unbounded : p.sink.room = none)
    (done : p.complete? budget = some outcome) :
    ∃ text log last, p.flushed.Streams text log last ∧ outcome = p.concluding text log last := by
  induction budget generalizing p with
  | zero =>
    rw [complete?, turn_of_flushed unbounded] at done
    cases turned : p.flushed.turn with
    | ended last =>
      rw [turned] at done
      obtain rfl := Option.some.inj done
      exact ⟨_, _, last, .ended turned, rfl⟩
    | again shown =>
      rw [turned] at done
      cases done
  | succ budget ih =>
    rw [complete?_succ, turn_of_flushed unbounded] at done
    cases turned : p.flushed.turn with
    | ended last =>
      rw [turned] at done
      obtain rfl := Option.some.inj done
      exact ⟨_, _, last, .ended turned, rfl⟩
    | again shown =>
      rw [turned] at done
      obtain ⟨text, log, last, rest, rfl⟩ := ih (Sink.room_write_of_unbounded _ unbounded) done
      exact ⟨_, _, last, .again turned rest, concluding_following ..⟩

theorem exists_complete?_of_streams {text : List Char} {log : List LogRecord}
    {last : Outcome Status} (unbounded : p.sink.room = none)
    (streams : p.flushed.Streams text log last) :
    ∃ budget, p.complete? budget = some (p.concluding text log last) := by
  generalize begun : p.flushed = q at streams
  induction streams generalizing p with
  | ended turned =>
    subst begun
    refine ⟨0, ?_⟩
    rw [complete?, turn_of_flushed unbounded, turned]
  | @again _ shown text log last turned _ ih =>
    subst begun
    have still : (p.following shown).sink.room = none := Sink.room_write_of_unbounded _ unbounded
    obtain ⟨budget, done⟩ := ih still rfl
    refine ⟨budget + 1, ?_⟩
    rw [complete?_succ, turn_of_flushed unbounded, turned, ← concluding_following]
    exact done

/-- A run prints and records what its turns show, one after the other. -/
theorem complete?_iff_streams (unbounded : p.sink.room = none) :
    (∃ budget, p.complete? budget = some outcome) ↔
      ∃ text log last, p.flushed.Streams text log last ∧ outcome = p.concluding text log last := by
  constructor
  · rintro ⟨budget, done⟩
    exact exists_streams_of_complete? unbounded done
  · rintro ⟨text, log, last, streams, rfl⟩
    exact exists_complete?_of_streams unbounded streams

end Progress

end LS8
