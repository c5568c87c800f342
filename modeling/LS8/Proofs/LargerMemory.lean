import LS8.Proofs.Stores

/-!
# More memory changes nothing

How much memory a machine has shows in nothing but the accesses that memory is
too small for.  As long as there is no such access, a machine with some spare
cells behind its memory goes exactly where the machine without them goes, and
leaves the spare cells alone: to enlarge memory commutes with a step
(`Session.step_enlarge`) and with a run (`Session.run_enlarge`).
-/

namespace LS8

/-! ## Spare cells -/

namespace Memory

variable {memory : Memory} {spare : Array UInt8} {address : Nat}

def append (memory : Memory) (spare : Array UInt8) : Memory :=
  ⟨memory.cells ++ spare⟩

theorem cell?_append (memory : Memory) (spare : Array UInt8) (address : Nat) :
    (memory.append spare).cell? address =
      (memory.cell? address).or spare[address - memory.size]? := by
  unfold append cell? size
  rw [Array.getElem?_append]
  split
  · case isTrue inside => rw [Array.getElem?_eq_getElem inside, Option.some_or]
  · case isFalse outside =>
    rw [Array.getElem?_eq_none (Nat.le_of_not_lt outside), Option.none_or]

theorem cell?_append_of_lt (inside : address < memory.size) :
    (memory.append spare).cell? address = memory.cell? address := by
  rw [append, cell?, Array.getElem?_append_left inside]
  rfl

/-- Memory that begins like another one is that one with spare cells. -/
theorem exists_eq_append {other : Memory} (size_le : memory.size ≤ other.size)
    (cells : ∀ address < memory.size, other.cell? address = memory.cell? address) :
    ∃ spare : Array UInt8, other = memory.append spare ∧
      other.size = memory.size + spare.size := by
  refine ⟨other.cells.extract memory.size other.size, ?_, ?_⟩
  · apply ext_cell?
    intro address
    by_cases inside : address < memory.size
    · rw [cell?_append_of_lt inside, cells address inside]
    · have outside := Nat.le_of_not_lt inside
      rw [cell?_append, cell?_eq_none_iff.mpr outside, Option.none_or, Array.getElem?_extract]
      split
      · rw [Nat.add_sub_cancel' outside]
        rfl
      · case isFalse beyond =>
        rw [cell?_eq_none_iff]
        unfold size at *
        omega
  · rw [Array.size_extract]
    unfold size at *
    omega

end Memory

attribute [ext] Config Session

/-- A machine with spare cells behind its memory. -/
def Machine.enlarge (spare : Array UInt8) (m : Machine) : Machine :=
  { m with
    config.memorySize := m.config.memorySize + spare.size
    memory := m.memory.append spare }

def Outcome.enlarge {α : Type} (spare : Array UInt8) (outcome : Outcome α) : Outcome α :=
  { outcome with machine := outcome.machine.enlarge spare }

/-- The call has not failed for want of a cell. -/
def Outcome.StaysInside {α : Type} (outcome : Outcome α) : Prop :=
  ∀ address, outcome.result ≠ .error (.fault (.outsideMemory address))

theorem Outcome.staysInside_of_ok {α : Type} {outcome : Outcome α}
    (ok : outcome.result.toBool = true) : outcome.StaysInside := by
  intro address failed
  rw [failed] at ok
  cases ok

namespace Session

def enlarge (spare : Array UInt8) (s : Session) : Session :=
  { s with machine := s.machine.enlarge spare }

/-- None of the first steps fails for want of a cell. -/
def StaysInside (s : Session) (n : Nat) : Prop :=
  ∀ k < n, (s.after k).step.StaysInside

variable {s : Session} {spare : Array UInt8}

/-! ## Steps -/

/-- An active machine that stays inside memory finds all three bytes of its
instruction there. -/
theorem lt_size_of_staysInside (active : s.machine.status = .active)
    (inside : s.step.StaysInside) : s.machine.pc + 2 < s.machine.memory.size := by
  apply Nat.lt_of_not_le
  intro short
  have missing := Machine.fetch_eq_error_iff.mpr ⟨short, rfl, rfl⟩
  have steps : s.step = _ := Machine.step_of_stepsTo (.unfetched active missing)
  apply inside (max s.machine.pc s.machine.memory.size)
  rw [steps]
  rfl

theorem mirrors_enlarge (top : s.machine.config.stackTop.toNat ≤ s.machine.memory.size)
    (inside : s.step.StaysInside) : s.machine.Mirrors (s.machine.enlarge spare) where
  control := ⟨rfl, rfl, rfl, rfl, rfl, rfl⟩
  size_le := by
    change s.machine.memory.cells.size ≤ (s.machine.memory.cells ++ spare).size
    rw [Array.size_append]
    exact Nat.le_add_right _ _
  code := by
    intro active offset atMost
    have fetched := lt_size_of_staysInside active inside
    exact Memory.cell?_append_of_lt (by omega)
  newest := by
    intro below
    exact Memory.cell?_append_of_lt (Nat.lt_of_lt_of_le (UInt8.lt_iff_toNat_lt.mp below) top)

theorem step_enlarge (top : s.machine.config.stackTop.toNat ≤ s.machine.memory.size)
    (inside : s.step.StaysInside) : (s.enlarge spare).step = s.step.enlarge spare := by
  have mirrors : s.machine.Mirrors (s.enlarge spare).machine := mirrors_enlarge top inside
  have inStep : InStep s.sink s.sink s.step (s.enlarge spare).step :=
    mirrors.inStep rfl (.inr inside)
  have config : (s.enlarge spare).step.machine.config = (s.step.machine.enlarge spare).config := by
    rw [Machine.enlarge, step, step, Machine.config_step, Machine.config_step]
    rfl
  have memory : (s.enlarge spare).step.machine.memory = s.step.machine.memory.append spare := by
    apply Memory.ext_cell?
    intro address
    have size : s.step.machine.memory.size = s.machine.memory.size :=
      Machine.memory_size_step s.machine s.sink
    rw [cell?_step_of_mirrors mirrors inStep.result, Memory.cell?_append, cell?_step,
      Option.or_assoc, size, ← Memory.cell?_append]
    rfl
  exact inStep.eq config memory

theorem top_after (top : s.machine.config.stackTop.toNat ≤ s.machine.memory.size) (n : Nat) :
    (s.after n).machine.config.stackTop.toNat ≤ (s.after n).machine.memory.size := by
  rw [config_after, memory_size_after]
  exact top

theorem after_enlarge (top : s.machine.config.stackTop.toNat ≤ s.machine.memory.size) {n : Nat}
    (inside : s.StaysInside n) : (s.enlarge spare).after n = (s.after n).enlarge spare := by
  induction n with
  | zero => rfl
  | succ n ih =>
    have earlier := ih fun k before => inside k (Nat.lt_succ_of_lt before)
    change ((s.enlarge spare).after n).step.session = (s.after n).step.session.enlarge spare
    rw [earlier, step_enlarge (top_after top n) (inside n (Nat.lt_succ_self n))]
    rfl

end Session

/-! ## Runs -/

def Progress.enlarge (spare : Array UInt8) (p : Progress) : Progress :=
  { p with machine := p.machine.enlarge spare }

def Turn.enlarge (spare : Array UInt8) : Turn → Turn
  | ended outcome => ended (outcome.enlarge spare)
  | again next => again (next.enlarge spare)

namespace Progress

variable {p : Progress} {spare : Array UInt8}

theorem advance_enlarge (top : p.machine.config.stackTop.toNat ≤ p.machine.memory.size)
    (inside : p.session.step.StaysInside) :
    (p.enlarge spare).advance = p.advance.enlarge spare := by
  have step : (p.machine.enlarge spare).step p.sink = (p.machine.step p.sink).enlarge spare :=
    Session.step_enlarge (s := p.session) top inside
  simp only [advance, enlarge, step, Outcome.enlarge]
  split <;> rfl

/-- A turn that does not end the run for want of a cell goes the same way. -/
theorem turn_enlarge (spare : Array UInt8)
    (top : p.machine.config.stackTop.toNat ≤ p.machine.memory.size)
    (inside : ∀ outcome, p.turn = .ended outcome → outcome.StaysInside) :
    (p.enlarge spare).turn = p.turn.enlarge spare := by
  have status : (p.enlarge spare).machine.status = p.machine.status := rfl
  have limit : (p.enlarge spare).exhausted? = p.exhausted? := rfl
  by_cases active : p.machine.status = .active
  · cases within : p.exhausted? with
    | some reached =>
      simp only [turn, status, limit, if_pos active, within]
      rfl
    | none =>
      have stays : p.session.step.StaysInside := fun address failed =>
        inside _ (turn_of_ends (.failed active within failed)) address rfl
      simp only [turn, status, limit, if_pos active, within]
      exact advance_enlarge top stays
  · simp only [turn, status, if_neg active]
    rfl

theorem complete?_enlarge {budget : Nat}
    (top : p.machine.config.stackTop.toNat ≤ p.machine.memory.size)
    (inside : ∀ outcome, p.complete? budget = some outcome → outcome.StaysInside) :
    (p.enlarge spare).complete? budget = (p.complete? budget).map (Outcome.enlarge spare) := by
  induction budget generalizing p with
  | zero =>
    rw [complete?] at inside
    have turned := turn_enlarge spare top fun outcome ended => inside outcome (by rw [ended])
    rw [complete?, complete?, turned]
    cases p.turn <;> rfl
  | succ budget ih =>
    rw [complete?_succ] at inside
    have turned := turn_enlarge spare top fun outcome ended => inside outcome (by rw [ended])
    rw [complete?_succ, complete?_succ, turned]
    obtain ⟨outcome, turn, _⟩ | ⟨turn, _⟩ := turn_cases p
    · rw [turn]
      rfl
    · rw [turn] at inside ⊢
      refine ih ?_ inside
      exact Session.top_after (s := p.session) top 1

end Progress

namespace Session

variable {s large : Session} {spare : Array UInt8}

theorem run_enlarge {budget : Nat}
    (top : s.machine.config.stackTop.toNat ≤ s.machine.memory.size)
    (inside : ∀ outcome, s.run budget = some outcome → outcome.StaysInside) :
    (s.enlarge spare).run budget = (s.run budget).map (Outcome.enlarge spare) :=
  Progress.complete?_enlarge (p := .start s.machine s.sink) top inside

/-! ## Any two sizes of memory -/

/-- Two sessions that differ at most in how much memory there is, and in what it
holds behind the smaller one. -/
structure EnlargedTo (s large : Session) : Prop where
  control : Machine.SameControl s.machine large.machine
  stepLimit : large.machine.config.stepLimit = s.machine.config.stepLimit
  size : s.machine.memory.size = s.machine.config.memorySize
  largeSize : large.machine.memory.size = large.machine.config.memorySize
  size_le : s.machine.memory.size ≤ large.machine.memory.size
  cells : ∀ address < s.machine.memory.size,
    large.machine.memory.cell? address = s.machine.memory.cell? address
  sink : large.sink = s.sink

theorem EnlargedTo.exists_eq (enlarged : s.EnlargedTo large) :
    ∃ spare, large = s.enlarge spare := by
  obtain ⟨spare, memory, more⟩ := Memory.exists_eq_append enlarged.size_le enlarged.cells
  have control := enlarged.control
  have config : large.machine.config = (s.machine.enlarge spare).config := by
    apply Config.ext
    · change _ = s.machine.config.memorySize + spare.size
      rw [← enlarged.size, ← more, enlarged.largeSize]
    · exact control.stackTop
    · exact enlarged.stepLimit
  have machine : large.machine = s.machine.enlarge spare := by
    apply Machine.SameControl.eq (m := s.machine.enlarge spare) _ config memory
    exact ⟨control.stackTop, control.registers, control.pc, control.fetched, control.flags,
        control.status⟩
  exact ⟨spare, Session.ext machine enlarged.sink⟩

/-- Two machines with the same stack top and step limit, of which one has more
memory, take the same steps with the same results and the same output, as long as
no step of the smaller one fails for want of a cell: all the time the larger one
is the smaller one with some cells behind its memory, and these never change.
So it is for a run, unless the smaller machine's run ends for want of a cell. -/
theorem larger_memory_changes_nothing (valid : s.machine.config.Valid)
    (enlarged : s.EnlargedTo large) :
    ∃ spare, large = s.enlarge spare ∧
      (∀ n, s.StaysInside n →
        (∀ k < n, (large.after k).step = (s.after k).step.enlarge spare) ∧
          large.after n = (s.after n).enlarge spare) ∧
      ∀ budget, (∀ outcome, s.run budget = some outcome → outcome.StaysInside) →
        large.run budget = (s.run budget).map (Outcome.enlarge spare) := by
  obtain ⟨spare, rfl⟩ := enlarged.exists_eq
  have top : s.machine.config.stackTop.toNat ≤ s.machine.memory.size := by
    rw [enlarged.size]
    exact valid.2.2
  refine ⟨spare, rfl, ?_, fun _ => run_enlarge top⟩
  intro n inside
  refine ⟨?_, after_enlarge top inside⟩
  intro k before
  have earlier : s.StaysInside k := fun j less => inside j (Nat.lt_trans less before)
  rw [after_enlarge top earlier, step_enlarge (top_after top k) (inside k before)]

/-- A program that calls itself until the return addresses have overwritten its
own code. -/
theorem larger_memory_changes_nothing_self_calls :
    ∃ s large : Session, s.machine.memory.size = 8 ∧ large.machine.memory.size = 12 ∧
      (s.after 9).machine.status = .trapped 0 2 ∧
      (∀ k < 9, (large.after k).step.result = (s.after k).step.result) ∧
      ∃ spare, large.after 9 = (s.after 9).enlarge spare ∧
        large.run 9 = (s.run 9).map (Outcome.enlarge spare) := by
  let program : Array UInt8 := #[Opcode.call.byte, 0, 0, 0, 0, 0, 0, 0]
  let s : Session :=
    ⟨{ Machine.powerOn { memorySize := 8, stackTop := 8 } with memory := ⟨program⟩ }, {}⟩
  let large : Session := s.enlarge #[7, 7, 7, 7]
  have valid : s.machine.config.Valid := by
    unfold Config.Valid
    decide
  have enlarged : s.EnlargedTo large := by
    refine ⟨⟨rfl, rfl, rfl, rfl, rfl, rfl⟩, rfl, rfl, rfl, ?_, ?_, rfl⟩ <;> decide +kernel
  have steps : ∀ k < 9, (s.after k).step.result.toBool = true := by decide +kernel
  have run : (s.run 9).all (·.result.toBool) = true := by decide +kernel
  obtain ⟨spare, _, lockstep, runs⟩ := larger_memory_changes_nothing valid enlarged
  obtain ⟨same, after⟩ := lockstep 9 fun k before => Outcome.staysInside_of_ok (steps k before)
  refine ⟨s, large, rfl, rfl, by decide +kernel, ?_, spare, after, ?_⟩
  · intro k before
    rw [same k before]
    rfl
  · apply runs
    intro outcome ended
    rw [ended] at run
    exact Outcome.staysInside_of_ok run

end Session

end LS8
