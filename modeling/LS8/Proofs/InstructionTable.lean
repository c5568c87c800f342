import Mathlib.Logic.Function.Basic
import LS8.Proofs.LatestComparison
import LS8.Proofs.Printing

/-!
# The table of instructions

The instructions are told here once more, as a manual would: by a table with a row for
each of them, in terms of what a program can tell of the machine it runs on.  Such a
`View` has registers and memory cells that can be assigned, and knows nothing of accesses
that fail, so that a row is one expression, and says by what it leaves out what stays the
same.

* `View` — what a program can tell;
* `View.Row` — the table, which leaves nothing open (`View.Row.unique`);
* `Machine.step_follows_table` — a step that succeeds does what the row of its
  instruction says, or traps and does nothing.
-/

namespace LS8

/-- What a program can tell of a machine and of the text that it has printed. -/
structure View where
  pc : Nat
  -- The flag register as a byte.
  flags : UInt8
  register : Register → UInt8
  -- The memory cells; an address beyond the last has none.
  cell : Nat → Option UInt8
  printed : List Char

namespace View

/-- `r7` -/
def sp (v : View) : UInt8 :=
  v.register stackPointer

/-- `r[a] ← value` -/
def assign (v : View) (a : Register) (value : UInt8) : View :=
  { v with register := Function.update v.register a value }

/-- `m[address] ← value` -/
def store (v : View) (address : Nat) (value : UInt8) : View :=
  { v with cell := Function.update v.cell address (some value) }

/-- Go on behind an instruction, whose two high bits count its operands. -/
def advance (v : View) (op : Opcode) : View :=
  { v with pc := v.pc + 1 + (op.byte >>> 6).toNat }

def goTo (v : View) (target : UInt8) : View :=
  { v with pc := target.toNat }

/-- Print a number in decimal, and a newline. -/
def print (v : View) (value : UInt8) : View :=
  { v with printed := v.printed ++ Nat.toDigits 10 value.toNat ++ ['\n'] }

/-- The flags of a comparison: equal, greater, or less. -/
def compare (v : View) (left right : UInt8) : View :=
  { v with flags := if left = right then 0b100 else if right < left then 0b010 else 0b001 }

/-- `sp ← below; m[below] ← value` -/
def push (v : View) (below value : UInt8) : View :=
  (v.assign stackPointer below).store below.toNat value

/-- A byte that names a register. -/
def Names (index : UInt8) (r : Register) : Prop :=
  index.toNat = r.val

/-- The table.  An instruction has two bytes after it, `a` and `b`, and makes one view into
another. -/
inductive Row (v : View) : Opcode → UInt8 → UInt8 → View → Prop
  | halt {a b : UInt8} : Row v .halt a b v
  | loadImmediate {a b : UInt8} {r : Register} (target : Names a r) :
      Row v .loadImmediate a b ((v.assign r b).advance .loadImmediate)
  | print {a b : UInt8} {r : Register} (source : Names a r) :
      Row v .print a b ((v.print (v.register r)).advance .print)
  | add {a b : UInt8} {r other : Register} (target : Names a r) (operand : Names b other) :
      Row v .add a b ((v.assign r
        (.ofNat (((v.register r).toNat + (v.register other).toNat) % 256))).advance .add)
  | multiply {a b : UInt8} {r other : Register} (target : Names a r) (operand : Names b other) :
      Row v .multiply a b ((v.assign r
        (.ofNat (((v.register r).toNat * (v.register other).toNat) % 256))).advance .multiply)
  | compare {a b : UInt8} {r other : Register} (left : Names a r) (right : Names b other) :
      Row v .compare a b ((v.compare (v.register r) (v.register other)).advance .compare)
  | push {a b below : UInt8} {r : Register} (source : Names a r)
      (room : below.toNat + 1 = v.sp.toNat) :
      Row v .push a b ((v.push below (v.register r)).advance .push)
  | pop {a b above value : UInt8} {r : Register} (target : Names a r)
      (newest : v.cell v.sp.toNat = some value) (next : above.toNat = v.sp.toNat + 1) :
      Row v .pop a b (((v.assign stackPointer above).assign r value).advance .pop)
  | call {a b below after : UInt8} {r : Register} (target : Names a r)
      (next : after.toNat = v.pc + 2) (room : below.toNat + 1 = v.sp.toNat) :
      Row v .call a b ((v.push below after).goTo ((v.push below after).register r))
  | ret {a b above value : UInt8} (newest : v.cell v.sp.toNat = some value)
      (next : above.toNat = v.sp.toNat + 1) :
      Row v .ret a b ((v.assign stackPointer above).goTo value)
  | jump {a b : UInt8} {r : Register} (target : Names a r) :
      Row v .jump a b (v.goTo (v.register r))
  | jumpIfEqual {a b : UInt8} {r : Register} (target : Names a r)
      (set : v.flags &&& 0b100 ≠ 0) : Row v .jumpIfEqual a b (v.goTo (v.register r))
  | stayIfNotEqual {a b : UInt8} {r : Register} (target : Names a r)
      (clear : v.flags &&& 0b100 = 0) : Row v .jumpIfEqual a b (v.advance .jumpIfEqual)
  | jumpIfNotEqual {a b : UInt8} {r : Register} (target : Names a r)
      (clear : v.flags &&& 0b100 = 0) : Row v .jumpIfNotEqual a b (v.goTo (v.register r))
  | stayIfEqual {a b : UInt8} {r : Register} (target : Names a r)
      (set : v.flags &&& 0b100 ≠ 0) : Row v .jumpIfNotEqual a b (v.advance .jumpIfNotEqual)

/-! ## The table leaves nothing open -/

theorem Names.unique {index : UInt8} {r other : Register} (named : Names index r)
    (again : Names index other) : r = other :=
  Fin.ext (named.symm.trans again)

/-- An instruction has one row that applies, and the row leaves nothing open. -/
theorem Row.unique {v w w' : View} {op : Opcode} {a b : UInt8} (row : Row v op a b w)
    (other : Row v op a b w') : w = w' := by
  have byte {x y : UInt8} (same : x.toNat = y.toNat) : x = y := UInt8.toNat_inj.mp same
  cases row with
  | halt =>
    cases other
    rfl
  | loadImmediate target | print target | jump target =>
    cases other
    next target' =>
      obtain rfl := target.unique target'
      rfl
  | add target operand | multiply target operand | compare target operand =>
    cases other
    next target' operand' =>
      obtain rfl := target.unique target'
      obtain rfl := operand.unique operand'
      rfl
  | push source room =>
    cases other with
    | push source' room' =>
      obtain rfl := source.unique source'
      obtain rfl := byte (Nat.succ.inj (room.trans room'.symm))
      rfl
  | pop target newest next =>
    cases other with
    | pop target' newest' next' =>
      obtain rfl := target.unique target'
      obtain rfl := Option.some.inj (newest.symm.trans newest')
      obtain rfl := byte (next.trans next'.symm)
      rfl
  | call target next room =>
    cases other with
    | call target' next' room' =>
      obtain rfl := target.unique target'
      obtain rfl := byte (next.trans next'.symm)
      obtain rfl := byte (Nat.succ.inj (room.trans room'.symm))
      rfl
  | ret newest next =>
    cases other with
    | ret newest' next' =>
      obtain rfl := Option.some.inj (newest.symm.trans newest')
      obtain rfl := byte (next.trans next'.symm)
      rfl
  | jumpIfEqual target set =>
    cases other with
    | jumpIfEqual target' =>
      obtain rfl := target.unique target'
      rfl
    | stayIfNotEqual _ clear => exact absurd clear set
  | stayIfNotEqual _ clear =>
    cases other with
    | jumpIfEqual _ set => exact absurd clear set
    | stayIfNotEqual => rfl
  | jumpIfNotEqual target clear =>
    cases other with
    | jumpIfNotEqual target' =>
      obtain rfl := target.unique target'
      rfl
    | stayIfEqual _ set => exact absurd clear set
  | stayIfEqual _ set =>
    cases other with
    | jumpIfNotEqual _ clear => exact absurd clear set
    | stayIfEqual => rfl

end View

open View

namespace Machine

/-- A machine as a program sees it that has printed some text. -/
def view (m : Machine) (printed : List Char) : View :=
  { pc := m.pc
    flags := m.flags.byte
    register := m.registers.get
    cell := m.memory.cell?
    printed }

variable {m pushed popped : Machine} {value : UInt8}

/-! ## What actions do to a view -/

@[simp] theorem view_advance (m : Machine) (op : Opcode) (text : List Char) :
    (m.advance op).view text = (m.view text).advance op := by
  simp only [view, advance, View.advance, Opcode.width, Opcode.operandCount, Nat.add_assoc]

@[simp] theorem view_jumpTo (m : Machine) (target : UInt8) (text : List Char) :
    (m.jumpTo target).view text = (m.view text).goTo target := rfl

@[simp] theorem view_setRegister (m : Machine) (r : Register) (value : UInt8) (text : List Char) :
    (m.setRegister r value).view text = (m.view text).assign r value := by
  have registers : (m.registers.set r value).get = Function.update m.registers.get r value := by
    funext other
    rw [Registers.get_set, Function.update_apply]
    exact if_congr eq_comm rfl rfl
  rw [view, setRegister, registers]
  rfl

@[simp] theorem view_fetching (m : Machine) (i : Instruction) (text : List Char) :
    (m.fetching i).view text = m.view text := rfl

theorem view_push (text : List Char) (stored : m.push value = .ok () pushed) :
    ∃ below : UInt8, below.toNat + 1 = m.sp.toNat ∧
      pushed.view text = (m.view text).push below value := by
  obtain ⟨nonzero, memory, written, rfl⟩ := push_eq_ok_iff.mp stored
  have cells : memory.cell? =
      Function.update m.memory.cell? (m.sp - 1).toNat (some value) := by
    funext address
    rw [Memory.cell?_write written, Function.update_apply]
    exact if_congr eq_comm rfl rfl
  refine ⟨m.sp - 1, toNat_sp_sub_one nonzero, ?_⟩
  rw [View.push, ← view_setRegister]
  simp only [view, cells]
  rfl

theorem view_pop (text : List Char) (taken : m.pop = .ok value popped) :
    m.memory.cell? m.sp.toNat = some value ∧ ∃ above : UInt8, above.toNat = m.sp.toNat + 1 ∧
      popped.view text = (m.view text).assign stackPointer above := by
  obtain ⟨inside, cell, rfl⟩ := pop_eq_ok_iff.mp taken
  exact ⟨cell, m.sp + 1, toNat_sp_add_one inside, view_setRegister _ _ _ _⟩

theorem view_compare (m : Machine) (left right : UInt8) (text : List Char) :
    { m with flags := .ofComparison left right }.view text =
      (m.view text).compare left right := by
  rw [view, Flags.byte_ofComparison]
  rfl

/-! ## The table is what the instructions do -/

theorem apply_add_eq (left right : UInt8) :
    ArithmeticOp.add.apply left right = .ofNat ((left.toNat + right.toNat) % 256) := by
  rw [← ArithmeticOp.toNat_apply_add, UInt8.ofNat_toNat]

theorem apply_multiply_eq (left right : UInt8) :
    ArithmeticOp.multiply.apply left right = .ofNat ((left.toNat * right.toNat) % 256) := by
  rw [← ArithmeticOp.toNat_apply_multiply, UInt8.ofNat_toNat]

theorem row_of_executes {i : Instruction} {effect : Effect} (executes : Executes m i effect)
    (text : List Char) :
    Row (m.view text) i.op i.first i.second
      (effect.machine.view (text ++ effect.emission.text)) := by
  have names {index : UInt8} {r : Register} (named : Register.ofByte index = .ok r) :
      Names index r := Register.ofByte_eq_ok_iff.mp named
  have clear (unequal : m.flags.isEqual = false) : m.flags.byte &&& 0b100 = 0 := by
    apply Decidable.byContradiction
    intro set
    cases unequal.symm.trans (Flags.isEqual_iff_byte.mpr set)
  cases executes with
  | halt =>
    rw [Emission.text, List.append_nil]
    exact .halt
  | loadImmediate target =>
    rw [Emission.text, List.append_nil, view_advance, view_setRegister]
    exact .loadImmediate (names target)
  | print source =>
    rw [Emission.text, printedLine, ← List.append_assoc, view_advance]
    exact .print (names source)
  | @arithmetic op operation a b r other kind target operand =>
    rw [Emission.text, List.append_nil, view_advance, view_setRegister]
    -- One rule for two rows, which differ in the operation.
    cases op <;> simp only [Opcode.operation?, reduceCtorEq, Option.some.injEq] at kind
    case add =>
      subst kind
      rw [apply_add_eq]
      exact .add (names target) (names operand)
    case multiply =>
      subst kind
      rw [apply_multiply_eq]
      exact .multiply (names target) (names operand)
  | compare left right =>
    rw [Emission.text, List.append_nil, view_advance, view_compare]
    exact .compare (names left) (names right)
  | push source stored =>
    obtain ⟨below, room, view⟩ := view_push text stored
    rw [Emission.text, List.append_nil, view_advance, view]
    exact .push (names source) room
  | pop target taken =>
    obtain ⟨newest, above, next, view⟩ := view_pop text taken
    rw [Emission.text, List.append_nil, view_advance, view_setRegister, view]
    exact .pop (names target) newest next
  | ret taken =>
    obtain ⟨newest, above, next, view⟩ := view_pop text taken
    rw [Emission.text, List.append_nil, view_jumpTo, view]
    exact .ret newest next
  | @call a b after r pushed next target stored =>
    obtain ⟨below, room, view⟩ := view_push text stored
    have register : pushed.registers.get r = ((m.view text).push below after).register r :=
      congrArg (fun v : View => v.register r) view
    rw [Emission.text, List.append_nil, view_jumpTo, register, view]
    exact .call (names target) next room
  | @jump op a b r taken target =>
    rw [Emission.text, List.append_nil, view_jumpTo]
    -- A jump that is taken is one without a condition, or with one that holds.
    cases op <;> simp only [Opcode.taken?, reduceCtorEq, Option.some.injEq] at taken
    case jump => exact .jump (names target)
    case jumpIfEqual => exact .jumpIfEqual (names target) (Flags.isEqual_iff_byte.mp taken)
    case jumpIfNotEqual =>
      exact .jumpIfNotEqual (names target) (clear (by simpa using taken))
  | @fallThrough op a b r untaken target =>
    rw [Emission.text, List.append_nil, view_advance]
    cases op <;> simp only [Opcode.taken?, reduceCtorEq, Option.some.injEq] at untaken
    case jumpIfEqual => exact .stayIfNotEqual (names target) (clear untaken)
    case jumpIfNotEqual =>
      have equal : m.flags.isEqual = true := by simpa using untaken
      exact .stayIfEqual (names target) (Flags.isEqual_iff_byte.mp equal)

end Machine

/-! ## The stack pointer as an operand -/

namespace View

@[simp] theorem sp_assign (v : View) (value : UInt8) :
    (v.assign stackPointer value).sp = value := by
  simp only [sp, assign, Function.update_self]

@[simp] theorem sp_push (v : View) (below value : UInt8) : (v.push below value).sp = below :=
  v.sp_assign below

@[simp] theorem cell_push (v : View) (below value : UInt8) :
    (v.push below value).cell below.toNat = some value := by
  simp only [push, store, Function.update_self]

@[simp] theorem sp_advance (v : View) (op : Opcode) : (v.advance op).sp = v.sp := rfl

@[simp] theorem sp_goTo (v : View) (target : UInt8) : (v.goTo target).sp = v.sp := rfl

@[simp] theorem cell_advance (v : View) (op : Opcode) : (v.advance op).cell = v.cell := rfl

/-- What becomes of the stack pointer in an instruction that also names it: a push stores
it as it was, a call goes where it has been moved to, and a pop leaves the popped byte in
it. -/
structure KeepsOrder (v w : View) (op : Opcode) : Prop where
  push : op = .push → w.sp.toNat + 1 = v.sp.toNat ∧ w.cell w.sp.toNat = some v.sp
  call : op = .call → w.sp.toNat + 1 = v.sp.toNat ∧ w.pc = w.sp.toNat
  pop : op = .pop → v.cell v.sp.toNat = some w.sp

theorem Row.keepsOrder {v w : View} {op : Opcode} {b : UInt8} (row : Row v op 7 b w) :
    KeepsOrder v w op := by
  have same {r : Register} (named : Names 7 r) : r = stackPointer := Fin.ext named.symm
  constructor
  · rintro rfl
    cases row with
    | push source room =>
      obtain rfl := same source
      rw [sp_advance, sp_push, cell_advance, cell_push]
      exact ⟨room, rfl⟩
  · rintro rfl
    cases row with
    | @call _ _ below after r target next room =>
      obtain rfl := same target
      rw [sp_goTo, sp_push]
      -- The target is read where the push has left it.
      have moved : (v.push below after).register stackPointer = below := v.sp_push below after
      exact ⟨room, congrArg UInt8.toNat moved⟩
  · rintro rfl
    cases row with
    | pop target newest next =>
      obtain rfl := same target
      rw [sp_advance, sp_assign]
      exact newest

end View

namespace Machine

variable {m : Machine} {sink : Sink}

/-- A step of an active machine that succeeds has fetched three bytes.  If the first of
them is an instruction's, what a program can tell is now what the row of the instruction
says and nothing else, and only a halt stops the machine.  If it is not, the machine is
trapped, and nothing has changed. -/
theorem step_follows_table {status : Status} (active : m.status = .active)
    (succeeded : (m.step sink).result = .ok status) :
    ∃ byte a b, m.memory.cell? m.pc = some byte ∧ m.memory.cell? (m.pc + 1) = some a ∧
      m.memory.cell? (m.pc + 2) = some b ∧
      (m.step sink).machine.fetched = ⟨byte, a, b⟩ ∧ (m.step sink).machine.config = m.config ∧
      (m.step sink).machine.status = status ∧
      ((∃ op : Opcode, op.byte = byte ∧ status = (if op = .halt then .halted else .active) ∧
        (∀ w, Row (m.view sink.text) op a b w ↔
          w = (m.step sink).machine.view (m.step sink).sink.text) ∧
        (a = 7 → KeepsOrder (m.view sink.text)
          ((m.step sink).machine.view (m.step sink).sink.text) op)) ∨
      (∀ op : Opcode, op.byte ≠ byte) ∧ status = .trapped m.pc byte ∧
        (m.step sink).machine.view (m.step sink).sink.text = m.view sink.text) := by
  have config := config_step m sink
  have steps := stepsTo_step m sink
  generalize m.step sink = outcome at steps succeeded config ⊢
  cases steps with
  | stopped | unfetched | failed | refused => cases succeeded
  | trapped _ fetched unknown =>
    obtain rfl := Except.ok.inj succeeded
    obtain ⟨_, atPc, atFirst, atSecond, same⟩ := fetch_eq_ok_iff.mp fetched
    obtain rfl := congrArg Machine.fetched same
    exact ⟨_, _, _, atPc, atFirst, atSecond, rfl, config, rfl,
      .inr ⟨Opcode.ofByte?_eq_none_iff.mp unknown, rfl, rfl⟩⟩
  | @done i effect found executes accepted =>
    obtain rfl := Except.ok.inj succeeded
    obtain ⟨_, atPc, atFirst, atSecond⟩ := instruction?_eq_some_iff.mp found
    have row := row_of_executes executes sink.text
    have printed : (sink.write effect.emission.text).text = sink.text ++ effect.emission.text := by
      rw [Sink.text_write, Sink.fitting_of_accepts accepted]
    have returned := executes.status_eq.trans (congrArg (ite _ Status.halted) active)
    rw [view_fetching, ← printed] at row
    refine ⟨_, _, _, atPc, atFirst, atSecond, executes.fetched_eq, config, rfl,
      .inl ⟨i.op, rfl, returned, ?_, ?_⟩⟩
    · intro w
      constructor
      · exact fun other => other.unique row
      · rintro rfl
        exact row
    · intro named
      exact Row.keepsOrder (named ▸ row)

/-- A call through the stack pointer, in a memory of its own size, overwrites its last
byte with the address behind it and goes there. -/
theorem step_follows_table_self_call :
    ∃ m : Machine, m.status = .active ∧ (m.step {}).result = .ok .active ∧
      Row (m.view []) .call 7 0 ((m.step {}).machine.view []) ∧
        (m.step {}).machine.pc = 2 ∧ (m.step {}).machine.memory.cell? 2 = some 2 := by
  let start := powerOn { memorySize := 3, stackTop := 3 }
  let m : Machine := { start with memory := ⟨#[Opcode.call.byte, 7, 0]⟩ }
  have active : m.status = .active := rfl
  have succeeded : (m.step {}).result = .ok .active := by decide +kernel
  have moved : (m.step {}).machine.pc = 2 ∧ (m.step {}).machine.memory.cell? 2 = some 2 := by
    decide +kernel
  have silent : (m.step {}).sink.text = [] := by decide +kernel
  obtain ⟨byte, a, b, atPc, atFirst, atSecond, _, _, _, ⟨op, known, _, row, _⟩ | ⟨unknown, _⟩⟩ :=
    step_follows_table active succeeded
  · obtain rfl := Option.some.inj atPc
    obtain rfl := Option.some.inj atFirst
    obtain rfl := Option.some.inj atSecond
    obtain rfl : op = .call := Opcode.byte_injective known
    rw [silent] at row
    exact ⟨m, active, succeeded, (row _).mpr rfl, moved⟩
  · exact absurd (Option.some.inj atPc) (unknown .call)

end Machine

end LS8
