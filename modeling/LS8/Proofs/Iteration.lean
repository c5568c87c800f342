import LS8.Machine.Run

/-!
# Runs as repeated steps

A run executes instructions one at a time, so after `n` of them it stands where
`n` single steps lead.  This module says how far a run gets and how it ends:

* `Machine.after` — steps one after the other, each with a sink of its own;
* `Progress.after` — the same for a run, whose steps share a sink;
* `Progress.Continues`, `Progress.Ends` — what a turn of the loop decides;
* `Progress.ends_of_complete?` — a run that is over has continued for some
  number of instructions and then ended, and `Progress.complete?_of_ends` is the
  converse.
-/

namespace LS8

/-- A machine after some steps, of which the `k`-th prints to the `k`-th sink. -/
def Machine.after (m : Machine) (sinks : Nat → Sink) : Nat → Machine
  | 0 => m
  | n + 1 => ((m.after sinks n).step (sinks n)).machine

namespace Progress

variable {p : Progress} {outcome : Outcome Status}

def next (p : Progress) : Progress :=
  let outcome := p.machine.step p.sink
  { machine := outcome.machine
    sink := outcome.sink
    steps := p.steps + 1
    log := p.log ++ outcome.log }

/-- A run after some more steps, whatever they give back. -/
def after (p : Progress) : Nat → Progress
  | 0 => p
  | n + 1 => (p.after n).next

theorem after_next (p : Progress) (n : Nat) : p.next.after n = p.after (n + 1) := by
  induction n with
  | zero => rfl
  | succ n ih =>
    change (p.next.after n).next = (p.after (n + 1)).next
    rw [ih]

/-! ## What a turn decides -/

def Succeeds (p : Progress) : Prop :=
  ∃ status, (p.machine.step p.sink).result = .ok status

/-- The run goes on: the machine is active, the limit has not been reached, and
the next step succeeds. -/
structure Continues (p : Progress) : Prop where
  active : p.machine.status = .active
  within : p.exhausted? = none
  succeeds : p.Succeeds

/-- The ways in which a run ends. -/
inductive Ends (p : Progress) : Outcome Status → Prop
  | stopped (inactive : p.machine.status ≠ .active) :
      Ends p (p.finish (.ok p.machine.status) [.stopped p.steps p.machine.status])
  | exhausted {limit : Nat} (active : p.machine.status = .active)
      (reached : p.exhausted? = some limit) :
      Ends p (p.finish (.error (.stepLimitExceeded limit)) [])
  | failed {error : Error} (active : p.machine.status = .active) (within : p.exhausted? = none)
      (failed : (p.machine.step p.sink).result = .error error) :
      Ends p
        { result := .error error
          machine := (p.machine.step p.sink).machine
          sink := (p.machine.step p.sink).sink
          log := p.log.toList ++ (p.machine.step p.sink).log }

theorem exhausted?_eq_some_iff {limit : Nat} :
    p.exhausted? = some limit ↔ p.machine.config.stepLimit = some limit ∧ limit ≤ p.steps := by
  simp [exhausted?, Option.filter_eq_some_iff]

theorem exhausted?_eq_none_iff :
    p.exhausted? = none ↔ ∀ limit, p.machine.config.stepLimit = some limit → p.steps < limit := by
  simp [exhausted?, Option.filter_eq_none_iff]

theorem turn_cases (p : Progress) :
    (∃ outcome, p.turn = .ended outcome ∧ p.Ends outcome) ∨
      p.turn = .again p.next ∧ p.Continues := by
  unfold turn
  by_cases active : p.machine.status = .active
  · rw [if_pos active]
    cases within : p.exhausted? with
    | some limit => exact .inl ⟨_, rfl, .exhausted active within⟩
    | none =>
      simp only [advance]
      cases result : (p.machine.step p.sink).result with
      | ok status => exact .inr ⟨rfl, active, within, status, result⟩
      | error error => exact .inl ⟨_, rfl, .failed active within result⟩
  · rw [if_neg active]
    exact .inl ⟨_, rfl, .stopped active⟩

theorem turn_of_continues (continues : p.Continues) : p.turn = .again p.next := by
  obtain ⟨status, succeeded⟩ := continues.succeeds
  simp only [turn, if_pos continues.active, continues.within, advance, succeeded]
  rfl

theorem turn_of_ends (ends : p.Ends outcome) : p.turn = .ended outcome := by
  cases ends with
  | stopped inactive => rw [turn, if_neg inactive]
  | exhausted active reached => rw [turn, if_pos active, reached]
  | failed active within failed => simp only [turn, if_pos active, within, advance, failed]

theorem ends_of_complete? {budget : Nat} (done : p.complete? budget = some outcome) :
    ∃ n ≤ budget, (∀ k < n, (p.after k).Continues) ∧ (p.after n).Ends outcome := by
  induction budget generalizing p with
  | zero =>
    rw [complete?] at done
    obtain ⟨_, turned, ends⟩ | ⟨turned, _⟩ := turn_cases p
    · rw [turned] at done
      obtain rfl := Option.some.inj done
      exact ⟨0, Nat.le_refl 0, fun k before => absurd before (Nat.not_lt_zero k), ends⟩
    · rw [turned] at done
      cases done
  | succ budget ih =>
    rw [complete?_succ] at done
    obtain ⟨_, turned, ends⟩ | ⟨turned, continues⟩ := turn_cases p
    · rw [turned] at done
      obtain rfl := Option.some.inj done
      exact ⟨0, Nat.zero_le _, fun k before => absurd before (Nat.not_lt_zero k), ends⟩
    · rw [turned] at done
      obtain ⟨n, bound, earlier, ends⟩ := ih done
      refine ⟨n + 1, Nat.succ_le_succ bound, ?_, ?_⟩
      · -- The first instruction is this turn's; the others are those of the rest.
        intro k before
        cases k with
        | zero => exact continues
        | succ k =>
          rw [← after_next]
          exact earlier k (Nat.lt_of_succ_lt_succ before)
      · rw [← after_next]
        exact ends

/-- A run that has continued for some number of instructions and then ends is over
within any budget that allows for them. -/
theorem complete?_of_ends {budget n : Nat} (bound : n ≤ budget)
    (continued : ∀ k < n, (p.after k).Continues) (ends : (p.after n).Ends outcome) :
    p.complete? budget = some outcome := by
  refine complete?_mono bound ?_
  clear bound
  induction n generalizing p with
  | zero =>
    have now : p.Ends outcome := ends
    rw [complete?, turn_of_ends now]
  | succ n ih =>
    have first : p.Continues := continued 0 (Nat.zero_lt_succ n)
    rw [complete?_succ, turn_of_continues first]
    refine ih ?_ ?_
    · intro k before
      rw [after_next]
      exact continued (k + 1) (Nat.succ_lt_succ before)
    · rw [after_next]
      exact ends

/-- A run is not over within a budget exactly if it continues beyond it. -/
theorem complete?_eq_none_iff {budget : Nat} :
    p.complete? budget = none ↔ ∀ k ≤ budget, (p.after k).Continues := by
  constructor
  · intro unfinished k atMost
    induction k using Nat.strongRecOn with
    | ind k ih =>
      obtain ⟨outcome, _, ends⟩ | ⟨_, continues⟩ := turn_cases (p.after k)
      · -- An end so early would have been found within the budget.
        have done := complete?_of_ends atMost
          (fun j before => ih j before (Nat.le_trans (Nat.le_of_lt before) atMost)) ends
        cases unfinished.symm.trans done
      · exact continues
  · intro continued
    cases done : p.complete? budget with
    | none => rfl
    | some outcome =>
      obtain ⟨n, bound, _, ends⟩ := ends_of_complete? done
      cases (turn_of_continues (continued n bound)).symm.trans (turn_of_ends ends)

end Progress

end LS8
