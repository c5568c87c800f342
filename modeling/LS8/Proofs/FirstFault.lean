import LS8.Proofs.Bounds
import LS8.Proofs.Printing

/-!
# The first fault decides

Each instruction can fail in a few ways, and the conditions of several of them
may hold at once.  They are looked for in a fixed order, which
`Instruction.faultConditions` lists, and the first whose condition holds is the
error of the step; if none holds, the step succeeds
(`Machine.step_fails_by_first_fault`).

The list has no entry for a pop that reads outside of memory or cannot store what
it took, nor for a call that cannot read its target: on a machine that can be
reached these do not occur.

* `Fault.first?` — the first of some faults whose condition holds;
* `Instruction.faultConditions` — the faults of an instruction, in order;
* `Machine.firstFault?` — the fault of the next step, if it has one.
-/

namespace LS8

/-! ## The conditions, in order -/

/-- The first of some faults whose condition holds. -/
def Fault.first? : List (Bool × Fault) → Option Fault
  | [] => none
  | (holds, fault) :: later => if holds then some fault else first? later

namespace Machine

def pushConditions (m : Machine) : List (Bool × Fault) :=
  [(m.sp = 0, .stackOverflow),
    (m.config.memorySize ≤ (m.sp - 1).toNat, .outsideMemory (m.sp - 1).toNat)]

def popConditions (m : Machine) : List (Bool × Fault) :=
  [(m.config.stackTop ≤ m.sp, .stackUnderflow m.sp)]

end Machine

/-- The condition under which an operand byte names no register. -/
def Register.condition (index : UInt8) : Bool × Fault :=
  (7 < index, .noSuchRegister index)

/-- The faults that an instruction can have, in the order in which they are looked
for.  A conditional jump has the same whether or not it is taken. -/
def Instruction.faultConditions (i : Instruction) (m : Machine) (sink : Sink) :
    List (Bool × Fault) :=
  match i.op with
  | .halt => []
  | .loadImmediate | .jump | .jumpIfEqual | .jumpIfNotEqual => [Register.condition i.first]
  | .print =>
    [Register.condition i.first,
      ((i.printed? m).any fun value => !sink.accepts (printedLine value), .outputRefused)]
  | .add | .multiply | .compare => [Register.condition i.first, Register.condition i.second]
  | .push => Register.condition i.first :: m.pushConditions
  | .pop => Register.condition i.first :: m.popConditions
  | .ret => m.popConditions
  | .call =>
    (255 < m.pc + 2, .returnAddressTooLarge (m.pc + 2)) :: Register.condition i.first ::
      m.pushConditions

/-- The fault of the next step of an active machine.  The fetch comes before the
instruction, and a byte that is no instruction is no fault. -/
def Machine.firstFault? (m : Machine) (sink : Sink) : Option Fault :=
  if m.config.memorySize ≤ m.pc + 2 then
    some (.outsideMemory (max m.pc m.config.memorySize))
  else m.instruction?.bind fun i => Fault.first? (i.faultConditions m sink)

/-! ## Single conditions -/

theorem Register.condition_of_ok {index : UInt8} {r : Register}
    (named : Register.ofByte index = .ok r) :
    Register.condition index = (false, .noSuchRegister index) := by
  have inRange : index.toNat = r.val := Register.ofByte_eq_ok_iff.mp named
  have below := r.isLt
  have seven : (7 : UInt8).toNat = 7 := rfl
  have small : ¬7 < index := by
    rw [UInt8.lt_iff_toNat_lt]
    omega
  simp [condition, small]

theorem Register.condition_of_error {index : UInt8} {fault : Fault}
    (missing : Register.ofByte index = .error fault) :
    Register.condition index = (true, fault) := by
  obtain ⟨beyond, rfl⟩ := Register.ofByte_eq_error_iff.mp missing
  have seven : (7 : UInt8).toNat = 7 := rfl
  have large : 7 < index := by
    rw [UInt8.lt_iff_toNat_lt]
    omega
  simp [condition, large]

/-- Memory has the size that the configuration says, and the stack top lies in it. -/
structure Machine.WellSized (m : Machine) : Prop where
  size : m.memory.size = m.config.memorySize
  top : m.config.stackTop.toNat ≤ m.config.memorySize

namespace Machine

theorem WellSized.fetching {m : Machine} (sized : m.WellSized) (i : Instruction) :
    (m.fetching i).WellSized :=
  ⟨sized.size, sized.top⟩

variable {m pushed popped : Machine} {value : UInt8} {fault : Fault}

theorem first?_of_push_ok (sized : m.WellSized) (stored : m.push value = .ok () pushed) :
    Fault.first? m.pushConditions = none := by
  obtain ⟨nonzero, _, written, _⟩ := push_eq_ok_iff.mp stored
  have inside := Memory.lt_size_of_write written
  rw [sized.size] at inside
  simp [pushConditions, Fault.first?, nonzero, Nat.not_le.mpr inside]

theorem first?_of_push_error (sized : m.WellSized) (failed : m.push value = .error fault m) :
    Fault.first? m.pushConditions = some fault := by
  obtain ⟨⟨empty, rfl⟩ | ⟨nonzero, outside, rfl⟩, _⟩ := push_eq_error_iff.mp failed
  · simp [pushConditions, Fault.first?, empty]
  · rw [sized.size] at outside
    simp [pushConditions, Fault.first?, nonzero, outside]

theorem first?_of_pop_ok (taken : m.pop = .ok value popped) :
    Fault.first? m.popConditions = none := by
  obtain ⟨inside, _⟩ := pop_eq_ok_iff.mp taken
  simp [popConditions, Fault.first?, UInt8.not_le.mpr inside]

/-- A pop fails only because the stack is empty: below the stack top is a cell. -/
theorem first?_of_pop_error (sized : m.WellSized) (failed : m.pop = .error fault m) :
    Fault.first? m.popConditions = some fault := by
  obtain ⟨⟨empty, rfl⟩ | ⟨inside, outside, _⟩, _⟩ := pop_eq_error_iff.mp failed
  · simp [popConditions, Fault.first?, empty]
  · have below : m.sp.toNat < m.config.stackTop.toNat := UInt8.lt_iff_toNat_lt.mp inside
    have top := sized.top
    rw [sized.size] at outside
    omega

end Machine

/-! ## The conditions are those of the rules -/

section Rules

variable {m : Machine} {i : Instruction} {effect : Effect} {cause : Fault} {sink : Sink}

theorem Fails.first? (sized : m.WellSized) (fails : Fails m i cause) :
    Fault.first? (i.faultConditions m sink) = some cause := by
  cases fails with
  | returnAddress large => simp [Instruction.faultConditions, Fault.first?, large]
  | @first op a b fault named fits missing =>
    have holds := Register.condition_of_error missing
    cases op with
    | halt | ret => cases named
    | call =>
      have small := Nat.not_lt.mpr (fits rfl)
      simp [Instruction.faultConditions, Fault.first?, holds, small]
    | _ => simp [Instruction.faultConditions, Fault.first?, holds]
  | @second op a b r fault named found missing =>
    have passes := Register.condition_of_ok found
    have holds := Register.condition_of_error missing
    cases op <;> simp only [Opcode.registerOperands, reduceCtorEq, Nat.reduceEqDiff] at named
    case add | multiply | compare =>
      simp [Instruction.faultConditions, Fault.first?, passes, holds]
  | push source failed =>
    have passes := Register.condition_of_ok source
    have stackFull := Machine.first?_of_push_error sized failed
    simp [Instruction.faultConditions, Fault.first?, passes, stackFull]
  | pop target failed =>
    have passes := Register.condition_of_ok target
    have stackEmpty := Machine.first?_of_pop_error sized failed
    simp [Instruction.faultConditions, Fault.first?, passes, stackEmpty]
  | ret failed => exact Machine.first?_of_pop_error sized failed
  | @call a b next r fault after target failed =>
    have byte := next.toNat_lt
    have small : ¬255 < m.pc + 2 := by omega
    have passes := Register.condition_of_ok target
    have stackFull := Machine.first?_of_push_error sized failed
    simp [Instruction.faultConditions, Fault.first?, small, passes, stackFull]

/-- Of an instruction that could be executed, only the sink can refuse the text. -/
theorem Executes.first? (sized : m.WellSized) (executes : Executes m i effect) :
    Fault.first? (i.faultConditions m sink) =
      if sink.accepts effect.emission.text then none else some .outputRefused := by
  cases executes with
  | halt => simp [Instruction.faultConditions, Fault.first?, Emission.text]
  | loadImmediate target =>
    have passes := Register.condition_of_ok target
    simp [Instruction.faultConditions, Fault.first?, Emission.text, passes]
  | @print a b r source =>
    have passes := Register.condition_of_ok source
    have printed : (⟨.print, a, b⟩ : Instruction).printed? m = some (m.registers.get r) := by
      simp [Instruction.printed?, source]
    cases accepted : sink.accepts (printedLine (m.registers.get r)) <;>
      simp [Instruction.faultConditions, Fault.first?, Emission.text, passes, printed, accepted]
  | @arithmetic op operation a b r other kind target operand =>
    have passes := Register.condition_of_ok target
    have passesToo := Register.condition_of_ok operand
    cases op <;> simp only [Opcode.operation?, reduceCtorEq] at kind
    case add | multiply =>
      simp [Instruction.faultConditions, Fault.first?, Emission.text, passes, passesToo]
  | push source stored =>
    have passes := Register.condition_of_ok source
    have room := Machine.first?_of_push_ok sized stored
    simp [Instruction.faultConditions, Fault.first?, Emission.text, passes, room]
  | pop target taken =>
    have passes := Register.condition_of_ok target
    have full := Machine.first?_of_pop_ok taken
    simp [Instruction.faultConditions, Fault.first?, Emission.text, passes, full]
  | ret taken =>
    have full := Machine.first?_of_pop_ok taken
    simp [Instruction.faultConditions, Emission.text, full]
  | @call a b next r pushed after target stored =>
    have byte := next.toNat_lt
    have small : ¬255 < m.pc + 2 := by omega
    have passes := Register.condition_of_ok target
    have room := Machine.first?_of_push_ok sized stored
    simp [Instruction.faultConditions, Fault.first?, Emission.text, small, passes, room]
  | compare left right =>
    have passes := Register.condition_of_ok left
    have passesToo := Register.condition_of_ok right
    simp [Instruction.faultConditions, Fault.first?, Emission.text, passes, passesToo]
  | @jump op a b r kind target | @fallThrough op a b r kind target =>
    have passes := Register.condition_of_ok target
    cases op <;> simp only [Opcode.taken?, reduceCtorEq] at kind
    case jump | jumpIfEqual | jumpIfNotEqual =>
      simp [Instruction.faultConditions, Fault.first?, Emission.text, passes]

end Rules

/-! ## Steps -/

namespace Machine

variable {m : Machine}

theorem wellSized_of_reachable (reachable : m.Reachable) : m.WellSized := by
  obtain ⟨config, start, built, reaches⟩ := reachable
  obtain ⟨valid, bounds⟩ := inBounds_of_reaches built reaches
  have size := bounds.memory_size
  rw [← bounds.config_eq] at size
  have top := valid.2.2
  rw [← bounds.config_eq] at top
  exact ⟨size, top⟩

/-- How an active machine steps: it fails by its first fault, or traps at a byte that
is no instruction, or carries its instruction out. -/
theorem result_step_cases (sized : m.WellSized) (active : m.status = .active) (sink : Sink) :
    (∃ fault, m.firstFault? sink = some fault ∧
      (m.step sink).result = .error (.fault fault)) ∨
    m.firstFault? sink = none ∧
      ((∃ byte, m.memory.cell? m.pc = some byte ∧ Opcode.ofByte? byte = none ∧
        (m.step sink).result = .ok (.trapped m.pc byte)) ∨
      ∃ i, m.instruction? = some i ∧
        (m.step sink).result = .ok (if i.op = .halt then .halted else .active)) := by
  have fetched {i : Instruction} (found : m.instruction? = some i) :
      m.firstFault? sink = Fault.first? (i.faultConditions (m.fetching i) sink) := by
    have inside := pc_of_instruction? found
    rw [sized.size] at inside
    rw [firstFault?, if_neg (Nat.not_le.mpr inside), found]
    rfl
  have steps := stepsTo_step m sink
  generalize m.step sink = outcome at steps ⊢
  cases steps with
  | stopped inactive => exact absurd active inactive
  | unfetched _ missing =>
    obtain ⟨outside, fault, _⟩ := fetch_eq_error_iff.mp missing
    rw [sized.size] at outside fault
    refine .inl ⟨_, ?_, rfl⟩
    rw [firstFault?, if_pos outside, fault]
  | trapped _ found unknown =>
    have atPc := cell?_pc_of_fetch found
    obtain ⟨_, _, _, atSecond, _⟩ := fetch_eq_ok_iff.mp found
    have inside := Memory.lt_size_of_cell? atSecond
    rw [sized.size] at inside
    refine .inr ⟨?_, .inl ⟨_, atPc, unknown, rfl⟩⟩
    rw [firstFault?, if_neg (Nat.not_le.mpr inside), instruction?_of_unknown atPc unknown]
    rfl
  | failed found fails =>
    exact .inl ⟨_, (fetched found).trans (fails.first? (sized.fetching _)), rfl⟩
  | refused found executes full =>
    refine .inl ⟨.outputRefused, ?_, rfl⟩
    rw [fetched found, executes.first? (sized.fetching _), full]
    rfl
  | @done i effect found executes accepted =>
    refine .inr ⟨?_, .inr ⟨i, found, ?_⟩⟩
    · rw [fetched found, executes.first? (sized.fetching _), if_pos accepted]
    · change Except.ok effect.machine.status = _
      rw [executes.status_eq]
      exact congrArg (fun status => Except.ok (if i.op = .halt then .halted else status)) active

/-- An active machine that can be reached fails in a step exactly if the condition of
some fault holds, and by the first of these faults.  A byte that is no instruction
traps it, which is no failure, and in all other cases it goes on or halts. -/
theorem step_fails_by_first_fault (reachable : m.Reachable) (active : m.status = .active)
    (sink : Sink) :
    (∀ error, (m.step sink).result = .error error ↔
      ∃ fault, m.firstFault? sink = some fault ∧ error = .fault fault) ∧
    (∀ byte, m.pc + 2 < m.config.memorySize → m.memory.cell? m.pc = some byte →
      Opcode.ofByte? byte = none → (m.step sink).result = .ok (.trapped m.pc byte)) ∧
    ∀ i, m.instruction? = some i → m.firstFault? sink = none →
      (m.step sink).result = .ok (if i.op = .halt then .halted else .active) := by
  have ways := result_step_cases (wellSized_of_reachable reachable) active sink
  refine ⟨?_, ?_, ?_⟩
  · intro error
    obtain ⟨fault, first, failed⟩ | ⟨none, ⟨byte, _, _, trapped⟩ | ⟨i, _, done⟩⟩ := ways
    · simp [first, failed, eq_comm]
    · simp [none, trapped]
    · simp [none, done]
  · intro byte inside atPc unknown
    have idle := instruction?_of_unknown atPc unknown
    have none : m.firstFault? sink = none := by
      rw [firstFault?, if_neg (Nat.not_le.mpr inside), idle]
      rfl
    obtain ⟨fault, first, _⟩ | ⟨_, ⟨same, atPc', _, trapped⟩ | ⟨i, found, _⟩⟩ := ways
    · cases none.symm.trans first
    · obtain rfl := Option.some.inj (atPc.symm.trans atPc')
      exact trapped
    · cases idle.symm.trans found
  · intro i found none
    obtain ⟨fault, first, _⟩ | ⟨_, ⟨byte, atPc, unknown, _⟩ | ⟨same, found', done⟩⟩ := ways
    · cases none.symm.trans first
    · cases (instruction?_of_unknown atPc unknown).symm.trans found
    · obtain rfl := Option.some.inj (found.symm.trans found')
      exact done

/-- A call at the end of the addresses that fit into a byte, through a register that
does not exist, with no room for a push: the return address is looked at first. -/
theorem step_fails_by_first_fault_call :
    ∃ (m : Machine) (i : Instruction), m.Reachable ∧ m.status = .active ∧
      m.instruction? = some i ∧
      (i.faultConditions m {}).filterMap
          (fun (holds, fault) => if holds then some fault else none) =
        [.returnAddressTooLarge 256, .noSuchRegister 9, .stackOverflow] ∧
      (m.step {}).result = .error (.fault (.returnAddressTooLarge 256)) := by
  let config : Config := { memorySize := 258, stackTop := 0 }
  have valid : config.Valid := by
    unfold Config.Valid
    decide
  let start := powerOn config
  let program : List UInt8 :=
    Opcode.jump.byte :: List.replicate 253 0 ++ [Opcode.call.byte, 9]
  let loaded := ((Command.load program).perform 0 start {}).get rfl
  let aimed := ((Command.writeRegister 0 254).perform 0 loaded.machine {}).get rfl
  let m := (aimed.machine.step {}).machine
  have load : (Command.load program).perform 0 start {} = some loaded := (Option.some_get _).symm
  have aim : (Command.writeRegister 0 254).perform 0 loaded.machine {} = some aimed :=
    (Option.some_get _).symm
  have reaches : start.Reaches m := ((Reaches.refl.call load).call aim).step {}
  have reachable : m.Reachable := ⟨config, start, ofConfig_eq_ok_iff.mpr ⟨valid, rfl⟩, reaches⟩
  have active : m.status = .active := by decide +kernel
  have found : m.instruction? = some ⟨.call, 9, 0⟩ := by decide +kernel
  have first : m.firstFault? {} = some (.returnAddressTooLarge 256) := by decide +kernel
  obtain ⟨fails, _⟩ := step_fails_by_first_fault reachable active {}
  exact ⟨m, _, reachable, active, found, by decide +kernel, (fails _).mpr ⟨_, first, rfl⟩⟩

end Machine

end LS8
