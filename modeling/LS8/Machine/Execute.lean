import LS8.Machine.Cycle
import LS8.Machine.Stack

/-!
# What instructions do

The actions of the thirteen instructions.  An instruction finds its operands in
the bytes that the machine has fetched, and moves the program counter itself,
as the last thing it does.  Nothing is undone when a part of an instruction
fails, so the order of the parts matters.
-/

namespace LS8

namespace Machine

def advance (m : Machine) (op : Opcode) : Machine :=
  { m with pc := m.pc + op.width }

/-- Go on at an address held in a byte. -/
def jumpTo (m : Machine) (target : UInt8) : Machine :=
  { m with pc := target.toNat }

end Machine

namespace Cycle

open Machine

/-- The bytes fetched for the instruction. -/
def operands : Work Fetched := do
  let cycle ← get
  return cycle.machine.fetched

def executeHalt : Work Unit :=
  change fun m => { m with status := .halted }

/-- `r[a] ← b` -/
def executeLoadImmediate : Work Unit := do
  let operands ← operands
  onMachine (writeRegister operands.first operands.second)
  change (·.advance .loadImmediate)

def executePrint : Work Unit := do
  let operands ← operands
  let value ← onMachine (readRegister operands.first)
  print value
  change (·.advance .print)

/-- `r[a] ← r[a] op r[b]`, for one of the two arithmetic instructions. -/
def executeArithmetic (op : Opcode) (operation : ArithmeticOp) : Work Unit := do
  let operands ← operands
  onMachine (arithmetic operation operands.first operands.second)
  change (·.advance op)

/-- `sp ← sp - 1; m[sp] ← r[a]` -/
def executePush : Work Unit := do
  let operands ← operands
  let value ← onMachine (readRegister operands.first)
  onMachine (push value)
  change (·.advance .push)

/-- `r[a] ← m[sp]; sp ← sp + 1`.  The register is looked up before the stack is
touched, and stored last, so that a popped stack pointer stays as it is. -/
def executePop : Work Unit := do
  let operands ← operands
  let _ ← onMachine (readRegister operands.first)
  let value ← onMachine pop
  onMachine (writeRegister operands.first value)
  change (·.advance .pop)

/-- `pc ← m[sp]; sp ← sp + 1` -/
def executeReturn : Work Unit := do
  let target ← onMachine pop
  change (·.jumpTo target)

/-- `sp ← sp - 1; m[sp] ← pc + 2; pc ← r[a]`.  The return address has to be a
byte.  The target is read after the push, so a call through the stack pointer
goes to the address just pushed to. -/
def executeCall : Work Unit := do
  let cycle ← get
  let next := cycle.machine.pc + Opcode.call.width
  if 255 < next then throw (.returnAddressTooLarge next)
  else
    let operands ← operands
    let _ ← onMachine (readRegister operands.first)
    onMachine (push next.toUInt8)
    let target ← onMachine (readRegister operands.first)
    change (·.jumpTo target)

def executeCompare : Work Unit := do
  let operands ← operands
  let left ← onMachine (readRegister operands.first)
  let right ← onMachine (readRegister operands.second)
  change fun m => { m with flags := .ofComparison left right }
  record (.compared left right)
  change (·.advance .compare)

/-- `pc ← r[a]` if the flags are as they should be.  The register has to exist
even if the jump is not taken. -/
def executeJumpIf (op : Opcode) (condition : Flags → Bool) : Work Unit := do
  let operands ← operands
  let target ← onMachine (readRegister operands.first)
  change fun m => if condition m.flags then m.jumpTo target else m.advance op

/-- `pc ← r[a]` -/
def executeJump : Work Unit := do
  let operands ← operands
  let target ← onMachine (readRegister operands.first)
  change (·.jumpTo target)

def execute : Opcode → Work Unit
  | .halt => executeHalt
  | .loadImmediate => executeLoadImmediate
  | .print => executePrint
  | .multiply => executeArithmetic .multiply .multiply
  | .add => executeArithmetic .add .add
  | .push => executePush
  | .pop => executePop
  | .ret => executeReturn
  | .call => executeCall
  | .compare => executeCompare
  | .jumpIfNotEqual => executeJumpIf .jumpIfNotEqual fun flags => !flags.isEqual
  | .jumpIfEqual => executeJumpIf .jumpIfEqual fun flags => flags.isEqual
  | .jump => executeJump

@[simp] theorem operands_bind {α : Type} (rest : Fetched → Work α) (cycle : Cycle) :
    (operands >>= rest : Work α) cycle = rest cycle.machine.fetched cycle := rfl

end Cycle

end LS8
