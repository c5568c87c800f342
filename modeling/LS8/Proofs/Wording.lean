import LS8.Log

/-!
# How the log reads

Each record stands in the log as one text at one severity.  `LogRecord.ReadsAs` lists them,
with the numbers that a text holds: counts and values are decimal, and places are
hexadecimal but for the address of a byte that is no instruction.
-/

namespace LS8

open Text

/-- The text of a status. -/
inductive Status.ShownAs : Status → String → Prop
  | active : ShownAs .active "Active"
  | halted : ShownAs .halted "Halted"
  | trapped (address : Nat) (opcode : UInt8) :
      ShownAs (.trapped address opcode)
        s!"Trapped \x7b address: {address}, opcode: {opcode.toNat} \x7d"
  | faulted (address : Nat) : ShownAs (.faulted address) s!"Faulted \x7b address: {address} \x7d"

/-- The severity and the text of a record. -/
inductive LogRecord.ReadsAs : LogRecord → Severity → String → Prop
  | loaded (bytes : Nat) : ReadsAs (.loaded bytes) .debug s!"loaded {bytes} bytes"
  | traced (trace : Trace) : ReadsAs (.traced trace) .trace trace.render
  | decoded (address : Nat) (op : Opcode) :
      ReadsAs (.decoded address op) .trace s!"{Numeral.hex 2 address}: {op.mnemonic}"
  | unknownInstruction (address : Nat) (opcode : UInt8) :
      ReadsAs (.unknownInstruction address opcode) .warn
        s!"unknown instruction 0b{Numeral.binary 8 opcode.toNat} at address {address}"
  | compared {left right : UInt8} {flags : String}
      (shown : flags = if left = right then "100" else if right < left then "010" else "001") :
      ReadsAs (.compared left right) .trace s!"CMP {left.toNat} {right.toNat} -> 0b{flags}"
  | faulted (address : Nat) (cause : Fault) :
      ReadsAs (.faulted address cause) .debug
        s!"fault at 0x{Numeral.hex 2 address}: {cause.message}"
  | stopped (steps : Nat) {status : Status} {shown : String} (shows : status.ShownAs shown) :
      ReadsAs (.stopped steps status) .debug s!"stopped after {steps} instructions: {shown}"
  | skipped (line : SkippedLine) :
      ReadsAs (.skipped line) .debug
        s!"skipping line {line.number}: {String.ofList (Quoted.encode line.code)}"
  | noInstructions (path : String) :
      ReadsAs (.noInstructions path) .warn s!"{path} contains no instructions"
  | programRead (path : String) (bytes : Nat) :
      ReadsAs (.programRead path bytes) .info s!"{path}: {bytes} bytes"

theorem Status.shownAs_iff {status : Status} {text : String} :
    status.ShownAs text ↔ text = status.describe := by
  constructor
  · intro shows
    cases shows <;> rfl
  · rintro rfl
    cases status <;> constructor

namespace LogRecord

theorem flags_of_comparison (left right : UInt8) :
    Numeral.binary 3 (Flags.ofComparison left right).byte.toNat =
      if left = right then "100" else if right < left then "010" else "001" := by
  rw [Flags.byte_ofComparison]
  split
  · decide
  · split <;> decide

/-- A record has one severity and one text. -/
theorem readsAs_iff {record : LogRecord} {severity : Severity} {text : String} :
    record.ReadsAs severity text ↔ severity = record.severity ∧ text = record.message := by
  constructor
  · intro reads
    cases reads with
    | compared shown =>
      rw [← flags_of_comparison] at shown
      subst shown
      exact ⟨rfl, rfl⟩
    | stopped steps shows =>
      obtain rfl := Status.shownAs_iff.mp shows
      exact ⟨rfl, rfl⟩
    | _ => exact ⟨rfl, rfl⟩
  · rintro ⟨rfl, rfl⟩
    cases record with
    | compared left right => exact .compared (flags_of_comparison left right)
    | stopped steps status => exact .stopped steps (Status.shownAs_iff.mpr rfl)
    | _ => constructor

end LogRecord

end LS8
