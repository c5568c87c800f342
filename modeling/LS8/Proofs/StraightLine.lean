import Mathlib.Data.Nat.Count
import Mathlib.Data.Set.Card
import LS8.Proofs.BoundedRun

/-!
# Straight-line execution ends

An instruction that goes on behind itself is at least two bytes wide, and it has been
fetched together with the two bytes after it.  So with each of them the program counter
comes closer to the end of memory, and only so many of them fit in a row, whatever bytes
are there and even if they are overwritten on the way: the next instruction stops the
machine or transfers control.  An execution with finitely many transfers therefore stops
(`Machine.straight_line_ends`).

* `Opcode.transfers`, `Session.transfers` — instructions and steps that transfer control;
* `Machine.headway` — how far the program counter has come on its way to the end;
* `Machine.add_headway_le` — what steps gain in headway, only transfers can lose;
* `Session.finite_transfers_iff` — a session that never stops transfers control again and
  again.
-/

namespace LS8

/-! ## Transfers of control -/

/-- Whether an instruction goes to an address that it is given, and not on behind itself. -/
def Opcode.transfers (flags : Flags) : Opcode → Bool
  | jump | call | ret => true
  | jumpIfEqual => flags.isEqual
  | jumpIfNotEqual => !flags.isEqual
  | _ => false

/-- Whether the next step carries out an instruction that transfers control. -/
def Session.transfers (s : Session) : Bool :=
  s.carriedOut?.any fun i => i.op.transfers s.machine.flags

theorem Opcode.transfers_of_taken? {op : Opcode} {flags : Flags} {taken : Bool}
    (kind : op.taken? flags = some taken) : op.transfers flags = taken := by
  cases op <;> cases kind <;> rfl

/-- Only a halt and a return are a single byte. -/
theorem Opcode.two_le_width {op : Opcode} (notHalt : op ≠ .halt) (notRet : op ≠ .ret) :
    2 ≤ op.width := by
  revert notHalt notRet
  cases op <;> decide

/-- An instruction that neither stops the machine nor transfers control goes on behind
itself. -/
theorem Executes.pc_of_straight {m : Machine} {i : Instruction} {effect : Effect}
    (executes : Executes m i effect) (goesOn : effect.machine.status = .active)
    (straight : i.op.transfers m.flags = false) :
    effect.machine.pc = m.pc + i.op.width ∧ i.op ≠ .halt ∧ i.op ≠ .ret := by
  cases executes with
  | halt => cases goesOn
  | ret | call => cases straight
  | loadImmediate | print | compare => exact ⟨rfl, nofun, nofun⟩
  | push _ stored =>
    obtain ⟨_, _, _, rfl⟩ := Machine.push_eq_ok_iff.mp stored
    exact ⟨rfl, nofun, nofun⟩
  | pop _ taken =>
    obtain ⟨_, _, rfl⟩ := Machine.pop_eq_ok_iff.mp taken
    exact ⟨rfl, nofun, nofun⟩
  | arithmetic kind => refine ⟨rfl, ?_, ?_⟩ <;> rintro rfl <;> cases kind
  | jump taken => cases (Opcode.transfers_of_taken? taken).symm.trans straight
  | fallThrough untaken => refine ⟨rfl, ?_, ?_⟩ <;> rintro rfl <;> cases untaken

namespace Machine

variable {m : Machine} {sink : Sink} {sinks : Nat → Sink} {n : Nat}

/-- A machine that is active after a step has carried out an instruction. -/
theorem carriedOut_of_active (active : (m.step sink).machine.status = .active) :
    ∃ i effect, (Session.mk m sink).carriedOut? = some i ∧ m.instruction? = some i ∧
      Executes (m.fetching i) i effect ∧ (m.step sink).machine = effect.machine := by
  have steps := stepsTo_step m sink
  have stepped : (Session.mk m sink).step = m.step sink := rfl
  simp only [Session.carriedOut?, stepped]
  generalize m.step sink = outcome at steps active ⊢
  cases steps with
  | stopped inactive => exact absurd active inactive
  | unfetched | trapped | failed | refused => cases active
  | done found executes => exact ⟨_, _, found, found, executes, rfl⟩

/-! ## Headway -/

/-- The most instructions in a row that can go on behind themselves. -/
def longestLine (m : Machine) : Nat :=
  (m.memory.size - 1) / 2

/-- The most instructions in a row that can have led to the program counter by going on
behind themselves. -/
def headway (m : Machine) : Nat :=
  -- At the end of memory and behind it `m.pc / 2` can be more than fit in a row.
  min (m.pc / 2) m.longestLine

theorem headway_le (m : Machine) : m.headway ≤ m.longestLine :=
  Nat.min_le_right _ _

theorem longestLine_step (m : Machine) (sink : Sink) :
    (m.step sink).machine.longestLine = m.longestLine := by
  rw [longestLine, memory_size_step, longestLine]

/-- A step of a machine that goes on gains headway, unless it transfers control. -/
theorem headway_step (active : (m.step sink).machine.status = .active) :
    m.headway + 1 ≤ (m.step sink).machine.headway +
      if (Session.mk m sink).transfers then m.longestLine + 1 else 0 := by
  obtain ⟨i, effect, carriedOut, found, executes, same⟩ := carriedOut_of_active active
  have room := pc_of_instruction? found
  have line := longestLine_step m sink
  have transfers : (Session.mk m sink).transfers = i.op.transfers m.flags := by
    rw [Session.transfers, carriedOut, Option.any_some]
  cases straight : i.op.transfers m.flags with
  | true =>
    rw [transfers, straight, if_pos rfl]
    have most := headway_le m
    omega
  | false =>
    obtain ⟨pc, notHalt, notRet⟩ := executes.pc_of_straight (same ▸ active) straight
    have width := Opcode.two_le_width notHalt notRet
    have climbed : m.pc + 2 ≤ (m.step sink).machine.pc := by
      rw [same, pc, pc_fetching]
      omega
    have size : (m.step sink).machine.memory.size = m.memory.size := memory_size_step m sink
    simp only [transfers, straight, headway, longestLine, size, Bool.false_eq_true, if_false]
    omega

/-! ## Many steps -/

/-- The session on which the `k`-th of some steps is made, each of which prints to a sink
of its own. -/
def sessionAt (m : Machine) (sinks : Nat → Sink) (k : Nat) : Session :=
  ⟨m.after sinks k, sinks k⟩

theorem longestLine_after (m : Machine) (sinks : Nat → Sink) (n : Nat) :
    (m.after sinks n).longestLine = m.longestLine := by
  induction n with
  | zero => rfl
  | succ n ih => exact (longestLine_step _ _).trans ih

theorem active_of_step (active : (m.step sink).machine.status = .active) : m.status = .active := by
  obtain ⟨i, _, _, found, _⟩ := carriedOut_of_active active
  exact (instruction?_eq_some_iff.mp found).1

/-- While a machine is active, each of its steps has gained headway, but for those that
have transferred control. -/
theorem add_headway_le (active : (m.after sinks n).status = .active) :
    n + m.headway ≤ (m.after sinks n).headway +
      Nat.count (fun k => (m.sessionAt sinks k).transfers) n * (m.longestLine + 1) := by
  induction n with
  | zero => simp [after]
  | succ n ih =>
    have earlier := ih (active_of_step active)
    have gained : (m.after sinks n).headway + 1 ≤ (m.after sinks (n + 1)).headway +
        if (m.sessionAt sinks n).transfers then (m.after sinks n).longestLine + 1 else 0 :=
      headway_step active
    rw [longestLine_after] at gained
    rw [Nat.count_succ, Nat.add_mul, ite_mul, Nat.one_mul, Nat.zero_mul]
    omega

theorem lt_of_active (active : (m.after sinks n).status = .active) :
    n < (Nat.count (fun k => (m.sessionAt sinks k).transfers) n + 1) * (m.longestLine + 1) := by
  have steps := add_headway_le active
  have most := headway_le (m.after sinks n)
  rw [longestLine_after] at most
  rw [Nat.add_mul]
  omega

/-- Among as many steps as exceed the longest line one stops the machine or transfers
control. -/
theorem exists_stops_or_transfers (active : m.status = .active) (sinks : Nat → Sink) :
    ∃ k ≤ m.longestLine, (m.after sinks k).status = .active ∧
      ((m.after sinks (k + 1)).status ≠ .active ∨ (m.sessionAt sinks k).transfers) := by
  by_contra none
  push Not at none
  have allActive : ∀ k ≤ m.longestLine + 1, (m.after sinks k).status = .active := by
    intro k
    induction k with
    | zero => exact fun _ => active
    | succ k ih =>
      intro within
      exact (none k (Nat.le_of_succ_le_succ within) (ih (Nat.le_of_succ_le within))).1
  have untransferred :
      Nat.count (fun k => (m.sessionAt sinks k).transfers) (m.longestLine + 1) = 0 := by
    apply Nat.count_of_forall_not
    intro k before
    exact (none k (Nat.le_of_lt_succ before) (allActive k (Nat.le_of_lt before))).2
  have few := lt_of_active (allActive (m.longestLine + 1) (Nat.le_refl _))
  rw [untransferred] at few
  omega

/-- With finitely many transfers a machine stops, and their number says when at the
latest. -/
theorem after_ne_active (finite : {k | (m.sessionAt sinks k).transfers}.Finite) :
    (m.after sinks (({k | (m.sessionAt sinks k).transfers}.ncard + 1) *
      (m.longestLine + 1))).status ≠ .active := by
  intro active
  apply Nat.lt_irrefl _ (Nat.lt_of_lt_of_le (lt_of_active active) _)
  apply Nat.mul_le_mul_right
  apply Nat.succ_le_succ
  rw [Set.ncard_eq_toFinset_card _ finite]
  exact Nat.count_le_card finite _

end Machine

namespace Session

theorem sessionAt_after (s : Session) (k : Nat) :
    s.machine.sessionAt (fun n => (s.after n).sink) k = s.after k := by
  rw [Machine.sessionAt, ← machine_after]

/-- A session with finitely many transfers stops. -/
theorem exists_stopsAfter {s : Session} (finite : {k | (s.after k).transfers}.Finite) :
    ∃ n ≤ ({k | (s.after k).transfers}.ncard + 1) * (s.machine.longestLine + 1),
      s.StopsAfter n := by
  by_contra none
  push Not at none
  have active := active_of_not_stopsAfter none _ (Nat.le_refl _)
  have same : {k | (s.machine.sessionAt (fun n => (s.after n).sink) k).transfers} =
      {k | (s.after k).transfers} := by simp only [sessionAt_after]
  rw [machine_after, ← same] at active
  exact Machine.after_ne_active (same ▸ finite) active

/-- Only an active machine transfers control. -/
theorem active_of_transfers {s : Session} (transfers : s.transfers) :
    s.machine.status = .active := by
  obtain ⟨i, carriedOut, _⟩ := (Option.any_eq_true _ _).mp transfers
  have found : s.machine.instruction? = some i := by
    unfold carriedOut? at carriedOut
    split at carriedOut
    · exact carriedOut
    · cases carriedOut
  exact (Machine.instruction?_eq_some_iff.mp found).1

theorem StopsAfter.lt_of_transfers {s : Session} {n k : Nat} (stops : s.StopsAfter n)
    (transfers : (s.after k).transfers) : k < n := by
  apply Nat.lt_of_not_le
  intro reached
  rw [← Nat.add_sub_of_le reached, after_add, after_of_stopped stops.stopped] at transfers
  exact stops.stopped (active_of_transfers transfers)

/-- A session stops if and only if it transfers control only so many times. -/
theorem finite_transfers_iff {s : Session} :
    {k | (s.after k).transfers}.Finite ↔ ∃ n, s.StopsAfter n := by
  constructor
  · intro finite
    obtain ⟨n, _, stops⟩ := exists_stopsAfter finite
    exact ⟨n, stops⟩
  · rintro ⟨n, stops⟩
    exact (Set.finite_lt_nat n).subset fun k transfers => stops.lt_of_transfers transfers

end Session

namespace Machine

/-- Whatever an active machine prints to, among its next steps there is one that stops it
or transfers control, as soon as they are one more than half as many as the cells behind
the first.  If only finitely many of all its steps transfer control, the machine stops,
after no more than that number of steps for each of the transfers and once besides.  A run
without a step limit then is over. -/
theorem straight_line_ends (m : Machine) (sinks : Nat → Sink) :
    (m.status = .active →
      ∃ k ≤ (m.memory.size - 1) / 2, (m.sessionAt sinks k).machine.status = .active ∧
        ((m.sessionAt sinks k).step.machine.status ≠ .active ∨
          (m.sessionAt sinks k).transfers)) ∧
    ({k | (m.sessionAt sinks k).transfers}.Finite →
      (m.after sinks (({k | (m.sessionAt sinks k).transfers}.ncard + 1) *
        ((m.memory.size - 1) / 2 + 1))).status ≠ .active) ∧
    ∀ sink, let s : Session := ⟨m, sink⟩
      {k | (s.after k).transfers}.Finite →
        ∃ n ≤ ({k | (s.after k).transfers}.ncard + 1) * ((m.memory.size - 1) / 2 + 1),
          s.StopsAfter n ∧
            (m.config.stepLimit = none →
              ∀ budget, n ≤ budget → s.run budget = some (s.concluded n (s.lastResult n))) := by
  refine ⟨fun active => exists_stops_or_transfers active sinks, after_ne_active, ?_⟩
  intro sink s finite
  obtain ⟨n, atMost, stops⟩ := Session.exists_stopsAfter finite
  refine ⟨n, atMost, stops, fun unlimited budget enough => ?_⟩
  have within : s.Within n := fun limit limited => by cases unlimited.symm.trans limited
  exact Session.run_of_stopsAfter stops within enough

/-- A push turns the halt behind it into a print, and three steps are made in five bytes
of memory, as many as the bound allows: the push, the print, and one that finds a single
byte. -/
theorem straight_line_ends_overwritten :
    ∃ s : Session, s.machine.status = .active ∧ s.machine.memory.size = 5 ∧
      s.machine.memory.cell? 2 = some Opcode.halt.byte ∧
      (s.after 1).machine.memory.cell? 2 = some Opcode.print.byte ∧
      {k | (s.after k).transfers} = ∅ ∧
      (∃ k ≤ 2, (s.after (k + 1)).machine.status ≠ .active) ∧
      (s.after 3).machine.status ≠ .active ∧ s.StopsAfter 3 ∧
      s.run 3 = some (s.concluded 3 (.error (.fault (.outsideMemory 5)))) := by
  let start := powerOn { memorySize := 5, stackTop := 3 }
  let s : Session :=
    ⟨{ start with
        memory := ⟨#[Opcode.push.byte, 0, Opcode.halt.byte, 0, 0]⟩
        registers := start.registers.set 0 Opcode.print.byte }, {}⟩
  have size : s.machine.memory.size = 5 := rfl
  have active : ∀ k < 3, (s.after k).machine.status = .active := by decide +kernel
  have stops : s.StopsAfter 3 := ⟨active, by decide +kernel⟩
  have early : ∀ k < 3, (s.after k).transfers = false := by decide +kernel
  have straight : ∀ k, (s.after k).transfers = false := by
    intro k
    by_contra transfers
    have before := stops.lt_of_transfers (Bool.eq_true_of_not_eq_false transfers)
    exact transfers (early k before)
  have untransferred : {k | (s.after k).transfers} = ∅ := by simp [straight]
  have finite := Session.finite_transfers_iff.mpr ⟨3, stops⟩
  obtain ⟨line, ends, runs⟩ := straight_line_ends s.machine fun n => (s.after n).sink
  simp only [Session.sessionAt_after, ← Session.machine_after, straight, size] at line ends
  obtain ⟨k, within, _, stopsOrTransfers⟩ := line rfl
  have stopsWithin : (s.after (k + 1)).machine.status ≠ .active :=
    stopsOrTransfers.resolve_right Bool.false_ne_true
  have ended := ends (by simp)
  obtain ⟨n, atMost, stopsAfter, runs⟩ := runs s.sink finite
  rw [untransferred, Set.ncard_empty, size] at atMost
  obtain rfl : n = 3 := Nat.le_antisymm atMost <|
    Nat.le_of_not_lt fun before => stopsAfter.stopped (active n before)
  have fault : s.lastResult 3 = .error (.fault (.outsideMemory 5)) := by decide +kernel
  have ran := runs rfl 3 (Nat.le_refl 3)
  rw [fault] at ran
  refine ⟨s, rfl, size, rfl, by decide +kernel, untransferred, ⟨k, within, stopsWithin⟩, ?_,
    stopsAfter, ran⟩
  simpa using ended

end Machine

end LS8
