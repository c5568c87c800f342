import LS8.Proofs.Printing

/-!
# A sink that takes a limited number of characters

The same calls are made on a machine that prints to a sink without limit, and on
one whose sink takes `n` characters in all.  They go the same way up to the first
print whose line needs more; there the second machine fails, and its sink holds
the first `n` characters of what the other holds, and will hold them for ever.

* `Session.bounded` — the session on the other side, while all that is printed fits;
* `Session.Attempts` — which instructions a call gets to;
* `RefusesLine` — how a call ends at the print whose line does not fit;
* `Session.bounded_sink_sees_prefix` — all of this for any sequence of calls.
-/

namespace LS8

/-- A sink that takes `n` characters in all and has taken the same so far. -/
def Sink.bounded (n : Nat) (sink : Sink) : Sink :=
  { sink with room := some (n - sink.text.length) }

def Session.bounded (n : Nat) (s : Session) : Session :=
  { s with sink := s.sink.bounded n }

def Outcome.bounded {α : Type} (n : Nat) (outcome : Outcome α) : Outcome α :=
  { outcome with sink := outcome.sink.bounded n }

def Progress.bounded (n : Nat) (p : Progress) : Progress :=
  { p with sink := p.sink.bounded n }

def Call.bounded (n : Nat) (call : Call) : Call :=
  { call with outcome := call.outcome.bounded n }

/-! ## Lines that fit and lines that do not -/

namespace Sink

variable {n : Nat} {sink : Sink} {text : List Char}

theorem accepts_bounded (n : Nat) (sink : Sink) (text : List Char) :
    (sink.bounded n).accepts text = decide (text.length ≤ n - sink.text.length) := rfl

theorem bounded_write (unbounded : sink.room = none)
    (fits : (sink.write text).text.length ≤ n) :
    (sink.bounded n).accepts text = true ∧
      (sink.bounded n).write text = (sink.write text).bounded n := by
  rw [text_write_of_unbounded text unbounded, List.length_append] at fits
  have accepted : (sink.bounded n).accepts text = true := by
    rw [accepts_bounded, decide_eq_true_eq]
    omega
  refine ⟨accepted, ?_⟩
  have whole : (sink.bounded n).fitting text = sink.fitting text := by
    rw [fitting_of_accepts accepted, fitting_of_accepts (by simp [accepts, unbounded])]
  have room : n - sink.text.length - text.length = n - (sink.write text).text.length := by
    rw [text_write_of_unbounded text unbounded, List.length_append]
    omega
  rw [write, whole]
  change ({ written := _, room := some (n - sink.text.length - text.length) } : Sink) = _
  rw [room]
  rfl

/-- Of a line that does not fit, as much is kept as there is room for. -/
theorem bounded_write_of_overflow (unbounded : sink.room = none) (within : sink.text.length ≤ n)
    (overflows : n < (sink.write text).text.length) :
    (sink.bounded n).accepts text = false ∧
      ((sink.bounded n).write text).text = (sink.write text).text.take n := by
  rw [text_write_of_unbounded text unbounded] at overflows ⊢
  rw [List.length_append] at overflows
  refine ⟨?_, ?_⟩
  · rw [accepts_bounded, decide_eq_false_iff_not]
    omega
  · rw [text_write, List.take_append, List.take_of_length_le within]
    rfl

end Sink

/-- The next step prints a line with which a sink without limit holds more than `n`
characters for the first time. -/
def Session.Crosses (n : Nat) (s : Session) : Prop :=
  s.sink.text.length ≤ n ∧ n < s.step.sink.text.length

/-- How a call ends that gets to a print whose line does not fit.  Without the limit,
`before` would be the session before the print. -/
structure RefusesLine {α : Type} (n : Nat) (before : Session) (outcome : Outcome α) : Prop where
  print : ∃ i, before.machine.instruction? = some i ∧ i.op = .print
  result : outcome.result = .error (.fault .outputRefused)
  status : outcome.machine.status = .faulted before.machine.pc
  unmoved : Machine.Undisturbed before.machine outcome.machine
  text : outcome.sink.text = before.step.sink.text.take n
  full : outcome.sink.room = some 0

theorem RefusesLine.map {α β : Type} {n : Nat} {before : Session} {outcome : Outcome α}
    {f : α → β} (refuses : RefusesLine n before outcome) :
    RefusesLine n before (outcome.map f) where
  print := refuses.print
  result := by
    rw [Outcome.map, refuses.result]
    rfl
  status := refuses.status
  unmoved := refuses.unmoved
  text := refuses.text
  full := refuses.full

namespace Session

variable {n : Nat} {s : Session}

/-- A step goes the same way with a limit if what it prints fits. -/
theorem step_bounded (unbounded : s.sink.room = none) (fits : s.step.sink.text.length ≤ n) :
    (s.bounded n).step = s.step.bounded n := by
  obtain ⟨line, prints, same⟩ := s.machine.exists_line_step unbounded
  rw [step, prints] at fits
  obtain ⟨accepted, written⟩ := Sink.bounded_write unbounded fits
  have stepped := same (s.sink.bounded n) accepted
  rw [written, ← prints] at stepped
  exact stepped

theorem refusesLine_step (unbounded : s.sink.room = none) (crosses : s.Crosses n) :
    RefusesLine n s (s.bounded n).step := by
  obtain ⟨within, overflows⟩ := crosses
  have steps := Machine.stepsTo_step s.machine s.sink
  have stepped : s.step = s.machine.step s.sink := rfl
  rw [stepped] at overflows
  generalize s.machine.step s.sink = outcome at steps stepped overflows
  cases steps with
  | stopped | unfetched | trapped | failed => exact absurd overflows (Nat.not_lt.mpr within)
  | refused _ _ full => simp [Sink.accepts, unbounded] at full
  | @done i effect found executes _ =>
    obtain ⟨refused, text⟩ := Sink.bounded_write_of_overflow unbounded within overflows
    have full := Sink.room_write_of_not_accepts refused
    have steps : StepsTo s.machine (s.sink.bounded n) _ := .refused found executes refused
    have failed : (s.bounded n).step = _ := Machine.step_of_stepsTo steps
    rw [failed]
    refine ⟨⟨i, found, ?_⟩, rfl, rfl, Machine.undisturbed_with s.machine _ _, ?_, full⟩
    · -- Only a print emits text.
      cases executes with
      | print => rfl
      | _ => simp [Emission.text] at refused
    · rw [stepped]
      exact text

end Session

/-! ## Which instructions a call gets to -/

theorem Progress.sink_after (p : Progress) (k : Nat) :
    (p.after k).sink = (p.session.after k).sink := congrArg (·.sink) (p.session_after k)

namespace Session

variable {s : Session} {command : Command} {budget k : Nat}

/-- A call gets to an instruction, after so many others that have succeeded. -/
inductive Attempts (s : Session) : Command → Nat → Prop
  | step (active : s.machine.status = .active) : Attempts s .step 0
  | run {k : Nat}
      (continued : ∀ j < k, ((Progress.start s.machine s.sink).after j).Continues)
      (active : ((Progress.start s.machine s.sink).after k).machine.status = .active)
      (within : ((Progress.start s.machine s.sink).after k).exhausted? = none) :
      Attempts s .run k

theorem attempts_of_continues
    (continued : ∀ j ≤ k, ((Progress.start s.machine s.sink).after j).Continues) :
    s.Attempts .run k := by
  have here := continued k (Nat.le_refl k)
  exact .run (fun j before => continued j (Nat.le_of_lt before)) here.active here.within

theorem Attempts.earlier {j : Nat} (attempts : s.Attempts command k) (le : j ≤ k) :
    s.Attempts command j := by
  obtain rfl | before := Nat.eq_or_lt_of_le le
  · exact attempts
  · cases attempts with
    | step => exact absurd before (Nat.not_lt_zero j)
    | run continued =>
      exact attempts_of_continues fun i le => continued i (Nat.lt_of_le_of_lt le before)

theorem sink_progress (s : Session) (k : Nat) :
    ((Progress.start s.machine s.sink).after k).sink = (s.after k).sink :=
  (Progress.start s.machine s.sink).sink_after k

/-- A run that is over has got to some number of instructions, and has written what
these have written. -/
theorem exists_attempts_of_run {outcome : Outcome Status} (ended : s.run budget = some outcome) :
    ∃ reached, outcome.sink = (s.after reached).sink ∧ ∀ k, s.Attempts .run k ↔ k < reached := by
  obtain ⟨n, _, continued, ends⟩ := Progress.ends_of_complete? ended
  have before {k : Nat} (less : k < n) : s.Attempts .run k :=
    attempts_of_continues fun j le => continued j (Nat.lt_of_le_of_lt le less)
  cases ends with
  | stopped inactive =>
    refine ⟨n, s.sink_progress n, fun k => ⟨fun attempts => ?_, before⟩⟩
    apply Nat.lt_of_not_le
    intro le
    obtain _ | ⟨_, active, _⟩ := attempts.earlier le
    exact inactive active
  | exhausted _ reached =>
    refine ⟨n, s.sink_progress n, fun k => ⟨fun attempts => ?_, before⟩⟩
    apply Nat.lt_of_not_le
    intro le
    obtain _ | ⟨_, _, within⟩ := attempts.earlier le
    cases reached.symm.trans within
  | failed active within failed =>
    -- The instruction that failed is one of those that the run got to.
    refine ⟨n + 1, s.sink_progress (n + 1), fun k => ⟨fun attempts => ?_, fun less => ?_⟩⟩
    · apply Nat.lt_of_not_le
      intro le
      obtain _ | ⟨continues, _, _⟩ := attempts.earlier le
      obtain ⟨_, succeeded⟩ := (continues n (Nat.lt_succ_self n)).succeeds
      cases failed.symm.trans succeeded
    · have last : s.Attempts .run n := .run continued active within
      exact last.earlier (Nat.le_of_lt_succ less)

/-- The same holds of any call: what it writes, its instructions write. -/
theorem exists_attempts {outcome : Outcome Reply}
    (performed : s.perform budget command = some outcome) :
    ∃ reached, outcome.sink = (s.after reached).sink ∧ ∀ k, s.Attempts command k ↔ k < reached := by
  by_cases step : command = .step
  · subst step
    obtain rfl := Option.some.inj performed
    by_cases active : s.machine.status = .active
    · refine ⟨1, rfl, fun k => ⟨fun attempts => ?_, fun less => ?_⟩⟩
      · cases attempts
        exact Nat.zero_lt_one
      · obtain rfl := Nat.lt_one_iff.mp less
        exact .step active
    · refine ⟨0, ?_, fun k => ⟨fun attempts => ?_, fun less => absurd less (Nat.not_lt_zero k)⟩⟩
      · rw [Machine.step_of_stopped active]
        rfl
      · cases attempts with
        | step => contradiction
  by_cases run : command = .run
  · subst run
    obtain ⟨whole, ended, rfl⟩ := perform_run_eq_some_iff.mp performed
    exact exists_attempts_of_run ended
  · refine ⟨0, Command.sink_of_perform step run performed, fun k => ⟨fun attempts => ?_, ?_⟩⟩
    · cases attempts <;> contradiction
    · exact fun less => absurd less (Nat.not_lt_zero k)

theorem perform_unique {budget' : Nat} {outcome other : Outcome Reply}
    (performed : s.perform budget command = some outcome)
    (performed' : s.perform budget' command = some other) : outcome = other := by
  by_cases run : command = .run
  · subst run
    obtain ⟨whole, ended, rfl⟩ := perform_run_eq_some_iff.mp performed
    obtain ⟨whole', ended', rfl⟩ := perform_run_eq_some_iff.mp performed'
    have larger := Machine.run_mono (Nat.le_max_left budget budget') ended
    have larger' := Machine.run_mono (Nat.le_max_right budget budget') ended'
    rw [Option.some.inj (larger.symm.trans larger')]
  · have same : s.perform budget command = s.perform budget' command := by
      cases command with
      | run => contradiction
      | _ => rfl
    exact Option.some.inj (performed.symm.trans (same.trans performed'))

end Session

/-! ## While everything fits -/

namespace Progress

variable {n k : Nat} {p : Progress} {outcome : Outcome Status}

theorem room_after (unbounded : p.sink.room = none) (k : Nat) : (p.after k).sink.room = none := by
  rw [sink_after]
  exact Session.room_after_of_unbounded (s := p.session) unbounded k

theorem prefix_after (unbounded : p.sink.room = none) {j k : Nat} (le : j ≤ k) :
    (p.after j).sink.text <+: (p.after k).sink.text := by
  rw [sink_after, sink_after]
  exact Session.prefix_after (s := p.session) unbounded le

theorem step_bounded (unbounded : p.sink.room = none) (fits : p.next.sink.text.length ≤ n) :
    (p.bounded n).machine.step (p.bounded n).sink = (p.machine.step p.sink).bounded n :=
  Session.step_bounded (s := p.session) unbounded fits

theorem after_bounded (unbounded : p.sink.room = none)
    (fits : (p.after k).sink.text.length ≤ n) : (p.bounded n).after k = (p.after k).bounded n := by
  induction k with
  | zero => rfl
  | succ k ih =>
    have grows := prefix_after unbounded (Nat.le_succ k)
    have still := room_after unbounded k
    change ((p.bounded n).after k).next = _
    rw [ih (Nat.le_trans grows.length_le fits), next, step_bounded still fits]
    rfl

theorem Continues.bounded (continues : p.Continues) (unbounded : p.sink.room = none)
    (fits : p.next.sink.text.length ≤ n) : (p.bounded n).Continues := by
  refine ⟨continues.active, continues.within, ?_⟩
  unfold Succeeds
  rw [step_bounded unbounded fits]
  exact continues.succeeds

theorem Ends.bounded (ends : p.Ends outcome) (unbounded : p.sink.room = none)
    (fits : outcome.sink.text.length ≤ n) : (p.bounded n).Ends (outcome.bounded n) := by
  cases ends with
  | stopped inactive => exact .stopped inactive
  | exhausted active reached => exact .exhausted active reached
  | @failed error active within failed =>
    have stepped := step_bounded unbounded fits
    have failed' : ((p.bounded n).machine.step (p.bounded n).sink).result = .error error := by
      rw [stepped]
      exact failed
    have ends : (p.bounded n).Ends _ := .failed active within failed'
    rw [stepped] at ends
    exact ends

theorem continues_after_bounded (unbounded : p.sink.room = none)
    (fits : (p.after (k + 1)).sink.text.length ≤ n) (continues : (p.after k).Continues) :
    ((p.bounded n).after k).Continues := by
  have grows := prefix_after unbounded (Nat.le_succ k)
  rw [after_bounded unbounded (Nat.le_trans grows.length_le fits)]
  exact continues.bounded (room_after unbounded k) fits

theorem Ends.prefix_text (ends : p.Ends outcome) (unbounded : p.sink.room = none) :
    p.sink.text <+: outcome.sink.text := by
  cases ends with
  | stopped | exhausted => exact List.prefix_rfl
  | failed => exact prefix_after unbounded (Nat.zero_le 1)

theorem ends_after_bounded (unbounded : p.sink.room = none)
    (fits : outcome.sink.text.length ≤ n) (ends : (p.after k).Ends outcome) :
    ((p.bounded n).after k).Ends (outcome.bounded n) := by
  have still := room_after unbounded k
  have grows := ends.prefix_text still
  rw [after_bounded unbounded (Nat.le_trans grows.length_le fits)]
  exact ends.bounded still fits

end Progress

namespace Session

variable {n k budget : Nat} {s t b : Session} {command : Command} {made : List Call}

theorem after_bounded (unbounded : s.sink.room = none)
    (fits : (s.after k).sink.text.length ≤ n) : (s.bounded n).after k = (s.after k).bounded n := by
  let p := Progress.start s.machine s.sink
  have here : (p.after k).session = s.after k := p.session_after k
  rw [← here] at fits ⊢
  have same : (p.bounded n).after k = (p.after k).bounded n := Progress.after_bounded unbounded fits
  exact ((p.bounded n).session_after k).symm.trans (congrArg Progress.session same)

theorem run_bounded (unbounded : s.sink.room = none) (fits : s.sink.text.length ≤ n)
    (within : ∀ k, s.Attempts .run k → (s.after (k + 1)).sink.text.length ≤ n) (budget : Nat) :
    (s.bounded n).run budget = (s.run budget).map (·.bounded n) := by
  let p := Progress.start s.machine s.sink
  have continues {k : Nat} (continued : ∀ j ≤ k, (p.after j).Continues) :
      ((p.bounded n).after k).Continues := by
    have fits := within k (attempts_of_continues continued)
    rw [← s.sink_progress] at fits
    exact Progress.continues_after_bounded (p := p) unbounded fits (continued k (Nat.le_refl k))
  cases ended : s.run budget with
  | none =>
    have continued := Progress.complete?_eq_none_iff.mp ended
    refine Progress.complete?_eq_none_iff.mpr fun k atMost => ?_
    exact continues fun j le => continued j (Nat.le_trans le atMost)
  | some outcome =>
    obtain ⟨reached, written, attempts⟩ := exists_attempts_of_run ended
    have fits : outcome.sink.text.length ≤ n := by
      rw [written]
      cases reached with
      | zero => exact fits
      | succ last => exact within last ((attempts last).mpr (Nat.lt_succ_self last))
    obtain ⟨k, atMost, continued, ends⟩ := Progress.ends_of_complete? ended
    refine Progress.complete?_of_ends atMost ?_ ?_
    · exact fun j less => continues fun i le => continued i (Nat.lt_of_le_of_lt le less)
    · exact Progress.ends_after_bounded (p := p) unbounded fits ends

/-- If no instruction that a call gets to crosses the limit, all of them stay
within it. -/
theorem fits_of_not_crosses (fits : s.sink.text.length ≤ n)
    (never : ∀ k, s.Attempts command k → ¬(s.after k).Crosses n) (attempts : s.Attempts command k) :
    (s.after (k + 1)).sink.text.length ≤ n := by
  have before : (s.after k).sink.text.length ≤ n := by
    induction k with
    | zero => exact fits
    | succ k ih =>
      have attempted := attempts.earlier (Nat.le_succ k)
      apply Nat.le_of_not_lt
      exact fun beyond => never k attempted ⟨ih attempted, beyond⟩
  exact Nat.le_of_not_lt fun beyond => never k attempts ⟨before, beyond⟩

/-- A call that never crosses the limit goes the same way with it. -/
theorem perform_bounded (unbounded : s.sink.room = none) (fits : s.sink.text.length ≤ n)
    (never : ∀ k, s.Attempts command k → ¬(s.after k).Crosses n) (budget : Nat) :
    (s.bounded n).perform budget command = (s.perform budget command).map (·.bounded n) := by
  have within : ∀ k, s.Attempts command k → (s.after (k + 1)).sink.text.length ≤ n :=
    fun k => fits_of_not_crosses fits never
  by_cases step : command = .step
  · subst step
    have fits : s.step.sink.text.length ≤ n := by
      by_cases active : s.machine.status = .active
      · exact within 0 (.step active)
      · rw [Session.step, Machine.step_of_stopped active]
        exact fits
    rw [perform_step, perform_step, step_bounded unbounded fits]
    rfl
  by_cases run : command = .run
  · subst run
    change ((s.bounded n).run budget).map _ = ((s.run budget).map _).map _
    rw [run_bounded unbounded fits within budget, Option.map_map, Option.map_map]
    rfl
  · have other := Command.perform_sink step run budget s.machine s.sink (s.sink.bounded n)
    cases performed : s.perform budget command with
    | none => exact other.trans (congrArg _ performed)
    | some outcome =>
      refine other.trans ((congrArg _ performed).trans ?_)
      rw [Option.map_some, Option.map_some, Outcome.bounded,
        Command.sink_of_perform step run performed]

/-! ## The line that does not fit -/

theorem run_refuses (unbounded : s.sink.room = none) (attempts : s.Attempts .run k)
    (crosses : (s.after k).Crosses n) (enough : k ≤ budget) :
    ∃ outcome, (s.bounded n).run budget = some outcome ∧ RefusesLine n (s.after k) outcome := by
  let p := Progress.start s.machine s.sink
  have here : (p.after k).session = s.after k := p.session_after k
  have fits : (p.after k).sink.text.length ≤ n := by
    rw [s.sink_progress k]
    exact crosses.1
  have still := room_after_of_unbounded unbounded k
  rw [← here] at crosses still ⊢
  have refuses := refusesLine_step still crosses
  obtain _ | ⟨continued, active, within⟩ := attempts
  obtain ⟨outcome, ends, refuses⟩ : ∃ outcome, ((p.after k).bounded n).Ends outcome ∧
      RefusesLine n (p.after k).session outcome := by
    refine ⟨_, .failed active within refuses.result, ?_⟩
    exact ⟨refuses.print, rfl, refuses.status, refuses.unmoved, refuses.text, refuses.full⟩
  rw [← Progress.after_bounded (p := p) unbounded fits] at ends
  have continued' : ∀ j < k, ((p.bounded n).after j).Continues := by
    intro j before
    have grows := Progress.prefix_after (p := p) unbounded before
    exact Progress.continues_after_bounded unbounded (Nat.le_trans grows.length_le fits)
      (continued j before)
  exact ⟨outcome, Progress.complete?_of_ends enough continued' ends, refuses⟩

/-- A call that crosses the limit fails at the print whose line does not fit. -/
theorem perform_refuses (unbounded : s.sink.room = none) (attempts : s.Attempts command k)
    (crosses : (s.after k).Crosses n) (enough : k ≤ budget) :
    ∃ outcome, (s.bounded n).perform budget command = some outcome ∧
      RefusesLine n (s.after k) outcome := by
  cases command with
  | step =>
    cases attempts
    exact ⟨_, rfl, (refusesLine_step unbounded crosses).map⟩
  | run =>
    obtain ⟨outcome, ended, refuses⟩ := run_refuses unbounded attempts crosses enough
    exact ⟨_, perform_run_eq_some_iff.mpr ⟨outcome, ended, rfl⟩, refuses.map⟩
  | _ => cases attempts

/-! ## From then on -/

/-- What the same calls lead to without the limit and with it. -/
inductive Follows (n : Nat) (t : Session) : Session → Prop
  | within (fits : t.sink.text.length ≤ n) : Follows n t (t.bounded n)
  | beyond {b : Session} (more : n < t.sink.text.length)
      (text : b.sink.text = t.sink.text.take n) (full : b.sink.room = some 0) : Follows n t b

/-- Beyond the limit, what the sink has taken before is all that counts. -/
theorem Follows.of_grown {before : List Char} (grows : before <+: t.sink.text)
    (more : n < before.length) (text : b.sink.text = before.take n)
    (full : b.sink.room = some 0) : Follows n t b := by
  have same : before.take n = t.sink.text.take n := by
    obtain ⟨rest, whole⟩ := grows
    rw [← whole, List.take_append_of_le_length (Nat.le_of_lt more)]
  exact .beyond (Nat.lt_of_lt_of_le more grows.length_le) (text.trans same) full

theorem sink_of_full {outcome : Outcome Reply} (full : s.sink.room = some 0)
    (performed : s.perform budget command = some outcome) : outcome.sink = s.sink := by
  obtain ⟨text, prints⟩ := exists_write_perform performed
  rw [prints, Sink.write_of_full text full]

theorem room_of_unbounded {outcome : Outcome Reply} (unbounded : s.sink.room = none)
    (performed : s.perform budget command = some outcome) : outcome.sink.room = none := by
  obtain ⟨text, prints⟩ := exists_write_perform performed
  rw [prints, Sink.room_write_of_unbounded text unbounded]

theorem Follows.perform {budget' : Nat} {outcome other : Outcome Reply}
    (follows : Follows n t b) (unbounded : t.sink.room = none)
    (performed : t.perform budget command = some outcome)
    (performed' : b.perform budget' command = some other) :
    Follows n outcome.session other.session := by
  cases follows with
  | beyond more text full =>
    obtain ⟨line, prints⟩ := exists_write_perform performed
    have grown := congrArg Sink.text prints
    rw [Sink.text_write_of_unbounded line unbounded] at grown
    have still : other.session.sink = b.sink := sink_of_full full performed'
    refine .of_grown ⟨line, grown.symm⟩ more ?_ ?_
    · rw [still, text]
    · rw [still, full]
  | within fits =>
    obtain ⟨reached, written, attempts⟩ := exists_attempts performed
    by_cases never : ∀ k, t.Attempts command k → ¬(t.after k).Crosses n
    · have same := perform_bounded unbounded fits never budget
      rw [performed] at same
      obtain rfl := perform_unique performed' same
      refine .within ?_
      change outcome.sink.text.length ≤ n
      rw [written]
      cases reached with
      | zero => exact fits
      | succ last => exact fits_of_not_crosses fits never ((attempts last).mpr (Nat.lt_succ_self last))
    · obtain ⟨k, attempted, crosses⟩ : ∃ k, t.Attempts command k ∧ (t.after k).Crosses n := by
        simpa using never
      obtain ⟨cut, ended, refuses⟩ :=
        perform_refuses unbounded attempted crosses (Nat.le_max_right budget' k)
      obtain rfl := perform_unique performed' ended
      have grows := prefix_after unbounded ((attempts k).mp attempted)
      rw [← written] at grows
      exact .of_grown grows crosses.2 refuses.text refuses.full

theorem Calls.room_of_unbounded (calls : s.Calls made t) (unbounded : s.sink.room = none) :
    t.sink.room = none := by
  induction calls with
  | start => exact unbounded
  | call _ performed ih => exact Session.room_of_unbounded ih performed

theorem Calls.sink_of_full (calls : s.Calls made t) (full : s.sink.room = some 0) :
    t.sink = s.sink := by
  induction calls with
  | start => rfl
  | call _ performed ih => exact (Session.sink_of_full (ih ▸ full) performed).trans ih

/-- Calls that print no more than the limit go the same way with it. -/
theorem Calls.bounded (calls : s.Calls made t) (unbounded : s.sink.room = none)
    (fits : t.sink.text.length ≤ n) :
    (s.bounded n).Calls (made.map (·.bounded n)) (t.bounded n) := by
  induction calls with
  | start => exact .start
  | @call made t budget command outcome earlier performed ih =>
    have still := earlier.room_of_unbounded unbounded
    obtain ⟨reached, written, attempts⟩ := exists_attempts performed
    have grows {k : Nat} (le : k ≤ reached) : (t.after k).sink.text.length ≤ n := by
      have grows := prefix_after still le
      rw [← written] at grows
      exact Nat.le_trans grows.length_le fits
    have never : ∀ k, t.Attempts command k → ¬(t.after k).Crosses n := by
      rintro k attempted ⟨_, overflows⟩
      exact Nat.not_lt.mpr (grows ((attempts k).mp attempted)) overflows
    have before := grows (Nat.zero_le reached)
    have performed' := perform_bounded still before never budget
    rw [performed] at performed'
    rw [List.map_append]
    exact .call (ih before) performed'

theorem Calls.follows {cut : List Call} (calls : s.Calls made t)
    (unbounded : s.sink.room = none) (fits : s.sink.text.length ≤ n)
    (others : (s.bounded n).Calls cut b) (same : cut.map (·.command) = made.map (·.command)) :
    Follows n t b := by
  induction calls generalizing cut b with
  | start =>
    cases others with
    | start => exact .within fits
    | call => simp at same
  | call earlier performed ih =>
    cases others with
    | start => simp at same
    | call earlier' performed' =>
      rw [List.map_append, List.map_append] at same
      obtain ⟨before, last⟩ := List.append_inj' same rfl
      obtain rfl := List.singleton_inj.mp last
      exact (ih earlier' before).perform (earlier.room_of_unbounded unbounded) performed performed'

/-- A print to a sink that is full is refused, and stops the machine. -/
theorem step_print_of_full {i : Instruction} {r : Register} (full : s.sink.room = some 0)
    (found : s.machine.instruction? = some i) (op : i.op = .print)
    (source : Register.ofByte i.first = .ok r) :
    s.step.result = .error (.fault .outputRefused) := by
  obtain ⟨_, a, b⟩ := i
  obtain rfl : _ = Opcode.print := op
  have executes : Executes (s.machine.fetching ⟨.print, a, b⟩) ⟨.print, a, b⟩ _ := .print source
  have refused : s.sink.accepts (printedLine (s.machine.registers.get r)) = false := by
    simp [Sink.accepts, full, printedLine]
  have failed : s.step = _ := Machine.step_of_stepsTo (.refused found executes refused)
  rw [failed]
  rfl

/-- Calls are made on a machine that prints to a sink without limit, and on the same
machine with a sink that takes `n` characters in all.

As long as no more is printed, the same calls go the same way: results, machines,
output and records.  The next call goes the same way as well, finished or not, if
none of the instructions that it gets to crosses the limit.  If one does, all has
gone the same way before it, and there the call fails, with the machine as it was
and the first `n` characters in the sink.

Wherever the same calls lead after that, the sink holds the first `n` characters of
what is printed without limit; once it is full it does not change, whatever is
called, and refuses every print through a register that exists. -/
theorem bounded_sink_sees_prefix {m : Machine} (n : Nat) (calls : Calls ⟨m, {}⟩ made t) :
    (t.sink.text.length ≤ n →
      Calls ⟨m, { room := some n }⟩ (made.map (·.bounded n)) (t.bounded n) ∧
      ∀ command,
        ((∀ k, t.Attempts command k → ¬(t.after k).Crosses n) → ∀ budget,
          (t.bounded n).perform budget command =
            (t.perform budget command).map (·.bounded n)) ∧
        ∀ k, t.Attempts command k → (t.after k).Crosses n →
          (∀ j ≤ k, (t.bounded n).after j = (t.after j).bounded n) ∧
          ∀ budget ≥ k, ∃ outcome, (t.bounded n).perform budget command = some outcome ∧
            RefusesLine n (t.after k) outcome) ∧
    ∀ cut b, Calls ⟨m, { room := some n }⟩ cut b →
      (cut.map (·.command) = made.map (·.command) → b.sink.text = t.sink.text.take n ∧
        (n < t.sink.text.length → b.sink.room = some 0)) ∧
      (b.sink.room = some 0 → ∀ later c k, b.Calls later c → (c.after k).sink = b.sink ∧
        ∀ i r, (c.after k).machine.instruction? = some i → i.op = .print →
          Register.ofByte i.first = .ok r →
            (c.after k).step.result = .error (.fault .outputRefused)) := by
  have unbounded : t.sink.room = none := calls.room_of_unbounded rfl
  refine ⟨?_, ?_⟩
  · intro fits
    refine ⟨calls.bounded rfl fits, fun command => ⟨perform_bounded unbounded fits, ?_⟩⟩
    intro k attempts crosses
    refine ⟨?_, fun budget enough => perform_refuses unbounded attempts crosses enough⟩
    intro j le
    exact after_bounded unbounded (Nat.le_trans (prefix_after unbounded le).length_le crosses.1)
  · intro cut b others
    refine ⟨?_, ?_⟩
    · intro same
      cases calls.follows rfl (Nat.zero_le n) others same with
      | within fits =>
        exact ⟨(List.take_of_length_le fits).symm, fun more => absurd more (Nat.not_lt.mpr fits)⟩
      | beyond _ text full => exact ⟨text, fun _ => full⟩
    · intro full later c k calls'
      have lasting := calls'.sink_of_full full
      obtain ⟨line, prints⟩ := c.exists_write_after k
      have still : (c.after k).sink = b.sink := by
        rw [prints, lasting, Sink.write_of_full line full]
      refine ⟨still, fun i r found op source => ?_⟩
      exact step_print_of_full (still ▸ full) found op source

/-- The second line of a run is cut short, and after a reset the first line is
refused as well. -/
theorem bounded_sink_sees_prefix_cut_line :
    ∃ (m : Machine) (made cut later : List Call) (t b c : Session),
      Calls ⟨m, {}⟩ made t ∧ t.sink.text = ['2', '5', '5', '\n', '2', '5', '5', '\n'] ∧
        Calls ⟨m, { room := some 5 }⟩ cut b ∧ cut.map (·.command) = made.map (·.command) ∧
        b.sink.text = ['2', '5', '5', '\n', '2'] ∧ b.Calls later c ∧
        later.map (·.command) = [.reset] ∧ (c.after 1).sink = b.sink ∧
        (c.after 1).step.result = .error (.fault .outputRefused) := by
  let program : Array UInt8 := #[Opcode.loadImmediate.byte, 0, 255, Opcode.print.byte, 0,
    Opcode.print.byte, 0, Opcode.halt.byte, 0, 0]
  let m : Machine :=
    { Machine.powerOn { memorySize := 10, stackTop := 10 } with memory := ⟨program⟩ }
  let whole := ((⟨m, {}⟩ : Session).perform 4 .run).get (by decide +kernel)
  let short := ((⟨m, { room := some 5 }⟩ : Session).perform 4 .run).get (by decide +kernel)
  let started := (short.session.perform 0 .reset).get rfl
  have run : (⟨m, {}⟩ : Session).perform 4 .run = some whole := (Option.some_get _).symm
  have cutRun : (⟨m, { room := some 5 }⟩ : Session).perform 4 .run = some short :=
    (Option.some_get _).symm
  have reset : short.session.perform 0 .reset = some started := (Option.some_get _).symm
  obtain ⟨m, made, cut, later, t, b, c, calls, printed, others, same, again, resets, found⟩ :
      ∃ (m : Machine) (made cut later : List Call) (t b c : Session),
        Calls ⟨m, {}⟩ made t ∧ t.sink.text = ['2', '5', '5', '\n', '2', '5', '5', '\n'] ∧
          Calls ⟨m, { room := some 5 }⟩ cut b ∧ cut.map (·.command) = made.map (·.command) ∧
          b.Calls later c ∧ later.map (·.command) = [.reset] ∧
          (c.after 1).machine.instruction? = some ⟨.print, 0, Opcode.print.byte⟩ := by
    refine ⟨m, _, _, _, _, _, _, Calls.start.call run, ?_, Calls.start.call cutRun, ?_,
      Calls.start.call reset, rfl, ?_⟩
    · decide +kernel
    · simp
    · decide +kernel
  obtain ⟨_, lasting⟩ := bounded_sink_sees_prefix 5 calls
  obtain ⟨sameCalls, fullSink⟩ := lasting cut b others
  obtain ⟨text, full⟩ := sameCalls same
  rw [printed] at text full
  obtain ⟨still, refused⟩ := fullSink (full (by decide)) later c 1 again
  exact ⟨m, made, cut, later, t, b, c, calls, printed, others, same, text, again, resets, still,
    refused _ 0 found rfl rfl⟩

end Session

end LS8
