import Mathlib.Data.List.Basic
import LS8.Proofs.Bounds
import LS8.Proofs.Hexadecimal

/-!
# What a trace line tells

A trace line consists of words with a blank between each two of them.  No word contains a
blank, so the line can be taken apart however long the word for the program counter is,
and each word says what it stands for: a numeral its number, two dashes that there is no
cell.  So a line tells all that it was made from, and with it the next fetch, which takes
the three cells shown and fails at the first of them that is missing
(`Machine.trace_line_tells_fetch`).

* `Trace.words`, `Trace.cellColumns` — the words of a line, and those of them that show
  cells;
* `Trace.Shows` — how a word shows a cell;
* `Trace.render_injective` — no two traces have the same line.
-/

namespace LS8

open Text.Numeral

/-- The fetched bytes, in the order in which they are fetched. -/
def Fetched.bytes (fetched : Fetched) : List UInt8 :=
  [fetched.instruction, fetched.first, fetched.second]

theorem Registers.toList_injective {registers other : Registers}
    (same : registers.toList = other.toList) : registers = other := by
  rw [Registers.mk.injEq]
  exact Vector.toList_inj.mp same

namespace Trace

/-! ## Words -/

/-- The words of a trace line. -/
def words (trace : Trace) : List (List Char) :=
  "TRACE:".toList :: hexDigits 2 trace.pc :: ['|'] :: (trace.cells.map cellColumn ++
    ['|'] :: byteColumn trace.flags.byte :: ['|'] :: trace.registers.toList.map byteColumn)

/-- The words of a trace line that show cells. -/
def cellColumns (text : String) : List (List Char) :=
  ((text.toList.splitOn ' ').drop 3).take 3

theorem intercalate_blank_cons (word : List Char) (later : List (List Char)) :
    [' '].intercalate (word :: later) = word ++ later.flatMap (' ' :: ·) := by
  induction later generalizing word with
  | nil => rw [List.intercalate_singleton, List.flatMap_nil, List.append_nil]
  | cons next later ih =>
    rw [List.intercalate_cons_cons, ih, List.flatMap_cons, List.append_assoc]
    rfl

theorem line_eq_intercalate (trace : Trace) : trace.line = [' '].intercalate trace.words := by
  have title : "TRACE: ".toList = "TRACE:".toList ++ [' '] := by decide
  have bar : " |".toList = [' ', '|'] := by decide
  have blankAfter : " | ".toList = [' ', '|', ' '] := by decide
  rw [words, intercalate_blank_cons]
  delta line
  simp only [title, bar, blankAfter, List.flatMap_cons, List.flatMap_append, List.flatMap_map,
    List.append_assoc, List.cons_append, List.nil_append]

theorem blank_not_mem_hexDigits (width n : Nat) : ' ' ∉ hexDigits width n := by
  intro member
  have digit := (isHexNumeral_hexDigits width n).isDigit ' ' member
  revert digit
  decide

theorem blank_not_mem_cellColumn (cell : Option UInt8) : ' ' ∉ cellColumn cell := by
  cases cell with
  | none => decide
  | some value => exact blank_not_mem_hexDigits 2 value.toNat

theorem blank_not_mem_words {trace : Trace} {word : List Char} (member : word ∈ trace.words) :
    ' ' ∉ word := by
  simp only [words, List.mem_cons, List.mem_append, List.mem_map] at member
  obtain rfl | rfl | rfl | ⟨cell, _, rfl⟩ | rfl | rfl | rfl | ⟨value, _, rfl⟩ := member
  · decide
  · exact blank_not_mem_hexDigits 2 trace.pc
  · decide
  · exact blank_not_mem_cellColumn cell
  · decide
  · exact blank_not_mem_hexDigits 2 trace.flags.byte.toNat
  · decide
  · exact blank_not_mem_hexDigits 2 value.toNat

theorem splitOn_render (trace : Trace) : trace.render.toList.splitOn ' ' = trace.words := by
  rw [render, String.toList_ofList, line_eq_intercalate]
  exact List.splitOn_intercalate ' ' (fun _ => blank_not_mem_words) (List.cons_ne_nil _ _)

theorem cellColumns_render (trace : Trace) :
    cellColumns trace.render = trace.cells.map cellColumn := by
  rw [cellColumns, splitOn_render]
  rfl

/-! ## Columns -/

/-- The word for a cell that does not exist. -/
def dashes : List Char :=
  ['-', '-']

/-- How a word shows a cell. -/
inductive Shows : List Char → Option UInt8 → Prop
  | byte {digits : List Char} {value : UInt8} (numeral : IsHexNumeral digits value.toNat)
      (two : digits.length = 2) : Shows digits (some value)
  | absent : Shows dashes none

/-- The byte that two hexadecimal digits stand for. -/
def shownByte (digits : List Char) : UInt8 :=
  (hexValue digits).toUInt8

theorem shows_cellColumn (cell : Option UInt8) : Shows (cellColumn cell) cell := by
  cases cell with
  | none => exact .absent
  | some value =>
    exact .byte (isHexNumeral_hexDigits 2 value.toNat) (length_hexDigits (by decide) value.toNat_lt)

theorem not_shows_dashes (value : UInt8) : ¬Shows dashes (some value) := by
  intro shows
  cases shows with
  | byte numeral =>
    have digit := numeral.isDigit '-' (List.mem_cons_self ..)
    revert digit
    decide

theorem Shows.shownByte {column : List Char} {value : UInt8} (shows : Shows column (some value)) :
    shownByte column = value := by
  cases shows with
  | byte numeral =>
    rw [Trace.shownByte, numeral.value]
    exact UInt8.ofNat_toNat

theorem Shows.unique {column : List Char} {cell other : Option UInt8} (shows : Shows column cell)
    (again : Shows column other) : cell = other := by
  cases cell with
  | none =>
    cases shows
    cases other with
    | none => rfl
    | some value => exact absurd again (not_shows_dashes value)
  | some value =>
    cases other with
    | none =>
      cases again
      exact absurd shows (not_shows_dashes value)
    | some byte => rw [← shows.shownByte, again.shownByte]

theorem cellColumn_injective {cell other : Option UInt8} (same : cellColumn cell = cellColumn other) :
    cell = other :=
  (shows_cellColumn cell).unique (same ▸ shows_cellColumn other)

theorem byteColumn_injective {value other : UInt8} (same : byteColumn value = byteColumn other) :
    value = other := by
  have asCells : cellColumn (some value) = cellColumn (some other) := same
  exact Option.some.inj (cellColumn_injective asCells)

theorem cellColumn_eq_dashes_iff {cell : Option UInt8} : cellColumn cell = dashes ↔ cell = none := by
  constructor
  · intro same
    exact (shows_cellColumn cell).unique (same ▸ .absent)
  · rintro rfl
    rfl

theorem dashes_mem_iff {cells : List (Option UInt8)} :
    dashes ∈ cells.map cellColumn ↔ none ∈ cells := by
  simp [List.mem_map, cellColumn_eq_dashes_iff]

theorem idxOf_dashes (cells : List (Option UInt8)) :
    (cells.map cellColumn).idxOf dashes = cells.idxOf none := by
  induction cells with
  | nil => rfl
  | cons cell cells ih =>
    cases cell with
    | none =>
      rw [List.map_cons, cellColumn_eq_dashes_iff.mpr rfl, List.idxOf_cons_self,
        List.idxOf_cons_self]
    | some value =>
      have present : some value ≠ none := Option.some_ne_none value
      have shown : cellColumn (some value) ≠ dashes := mt cellColumn_eq_dashes_iff.mp present
      rw [List.map_cons, List.idxOf_cons_ne _ shown, List.idxOf_cons_ne _ present, ih]

/-! ## Lines -/

theorem words_injective {trace other : Trace} (same : trace.words = other.words) :
    trace = other := by
  simp only [words, cells, List.map_cons, List.map_nil, List.cons_append, List.nil_append,
    List.cons.injEq, true_and] at same
  obtain ⟨pc, instruction, first, second, flags, registers⟩ := same
  have bytes : trace.registers.toList = other.registers.toList :=
    (List.map_inj_right fun _ _ => byteColumn_injective).mp registers
  rw [Trace.mk.injEq]
  exact ⟨hexDigits_injective pc, cellColumn_injective instruction, cellColumn_injective first,
    cellColumn_injective second, Flags.byte_injective (byteColumn_injective flags),
    Registers.toList_injective bytes⟩

/-- A trace line says what it was made from. -/
theorem render_injective {trace other : Trace} (same : trace.render = other.render) :
    trace = other := by
  apply words_injective
  rw [← splitOn_render, same, splitOn_render]

end Trace

namespace Machine

open Trace

variable {m after : Machine} {sink : Sink}

/-! ## The next fetch -/

/-- What a fetch does with the cells at the program counter: it takes those before the
first that is missing, and fails there. -/
inductive Fetches (m : Machine) : List (Option UInt8) → EStateM.Result Fault Machine Unit → Prop
  | all (a b c : UInt8) :
      Fetches m [some a, some b, some c] (.ok () { m with fetched := ⟨a, b, c⟩ })
  | two (a b : UInt8) :
      Fetches m [some a, some b, none]
        (.error (.outsideMemory (m.pc + 2)) { m with fetched := ⟨a, b, m.fetched.second⟩ })
  | one (a : UInt8) :
      Fetches m [some a, none, none]
        (.error (.outsideMemory (m.pc + 1)) { m with fetched.instruction := a })
  | none : Fetches m [none, none, none] (.error (.outsideMemory m.pc) m)

theorem cell?_of_trace {i : Nat} {cell : Option UInt8} (shown : m.trace.cells[i]? = some cell) :
    m.memory.cell? (m.pc + i) = cell := by
  match i with
  | 0 | 1 | 2 => exact Option.some.inj shown
  | i + 3 => cases shown

theorem fetch_of_short (short : m.memory.size ≤ m.pc + 2) :
    m.fetch = .error (.outsideMemory (max m.pc m.memory.size)) { m with
      fetched.instruction := (m.memory.cell? m.pc).getD m.fetched.instruction
      fetched.first := (m.memory.cell? (m.pc + 1)).getD m.fetched.first } :=
  fetch_eq_error_iff.mpr ⟨short, rfl, rfl⟩

theorem fetches_cells (m : Machine) : m.Fetches m.trace.cells m.fetch := by
  have next {address : Nat} (missing : m.memory.cell? address = Option.none) :
      m.memory.cell? (address + 1) = Option.none :=
    Memory.cell?_eq_none_iff.mpr (Nat.le_succ_of_le (Memory.cell?_eq_none_iff.mp missing))
  change m.Fetches [m.memory.cell? m.pc, m.memory.cell? (m.pc + 1), m.memory.cell? (m.pc + 2)] _
  cases atPc : m.memory.cell? m.pc with
  | none =>
    have outside := Memory.cell?_eq_none_iff.mp atPc
    have last : max m.pc m.memory.size = m.pc := Nat.max_eq_left outside
    rw [fetch_of_short (by omega), last, atPc, next atPc, next (next atPc)]
    exact .none
  | some a =>
    have inside := Memory.lt_size_of_cell? atPc
    cases atFirst : m.memory.cell? (m.pc + 1) with
    | none =>
      have outside := Memory.cell?_eq_none_iff.mp atFirst
      have last : max m.pc m.memory.size = m.pc + 1 := by omega
      rw [fetch_of_short (by omega), last, atPc, atFirst, next atFirst]
      exact .one a
    | some b =>
      have insideToo := Memory.lt_size_of_cell? atFirst
      cases atSecond : m.memory.cell? (m.pc + 2) with
      | none =>
        have outside := Memory.cell?_eq_none_iff.mp atSecond
        have last : max m.pc m.memory.size = m.pc + 2 := by omega
        rw [fetch_of_short outside, last, atPc, atFirst]
        exact .two a b
      | some c =>
        rw [fetch_eq_ok_iff.mpr ⟨⟨a, b, c⟩, atPc, atFirst, atSecond, rfl⟩]
        exact .all a b c

/-- The fetch as the columns of its cells tell it. -/
theorem Fetches.of_columns {cells : List (Option UInt8)}
    {result : EStateM.Result Fault Machine Unit} (fetches : m.Fetches cells result) :
    ∃ fetched : Fetched,
      fetched.bytes = ((cells.map cellColumn).take (cells.idxOf .none)).map shownByte ++
        m.fetched.bytes.drop (cells.idxOf .none) ∧
      (.none ∉ cells → result = .ok () { m with fetched }) ∧
      (.none ∈ cells →
        result = .error (.outsideMemory (m.pc + cells.idxOf .none)) { m with fetched }) := by
  have shown (value : UInt8) : shownByte (cellColumn (some value)) = value :=
    (shows_cellColumn (some value)).shownByte
  cases fetches with
  | all a b c =>
    refine ⟨⟨a, b, c⟩, ?_, ?_, ?_⟩
    · simp [Fetched.bytes, shown]
    · simp
    · simp
  | two a b =>
    refine ⟨⟨a, b, m.fetched.second⟩, ?_, ?_, ?_⟩
    · simp [Fetched.bytes, shown]
    · simp
    · simp
  | one a =>
    refine ⟨⟨a, m.fetched.first, m.fetched.second⟩, ?_, ?_, ?_⟩
    · simp [Fetched.bytes, shown]
    · simp
    · simp
  | none =>
    refine ⟨m.fetched, ?_, ?_, ?_⟩
    · simp [Fetched.bytes]
    · simp
    · simp

/-- No instruction touches the bytes that were fetched for it. -/
theorem fetched_step_of_fetch (active : m.status = .active) (found : m.fetch = .ok () after)
    (sink : Sink) : (m.step sink).machine.fetched = after.fetched := by
  have steps := stepsTo_step m sink
  generalize m.step sink = outcome at steps ⊢
  cases steps with
  | stopped inactive => exact absurd active inactive
  | unfetched _ missing => cases found.symm.trans missing
  | trapped _ again =>
    cases found.symm.trans again
    rfl
  | failed instruction | refused instruction =>
    cases found.symm.trans (fetch_of_instruction? instruction)
    rfl
  | done instruction executes =>
    cases found.symm.trans (fetch_of_instruction? instruction)
    exact executes.fetched_eq

theorem step_of_fetch_error {cause : Fault} (active : m.status = .active)
    (failed : m.fetch = .error cause after) (sink : Sink) :
    m.step sink = Cycle.stopAtFault ⟨after, sink, [.traced m.trace]⟩ m.pc cause :=
  step_of_error active (Cycle.run_of_fetch_error failed)

/-! ## The line as a whole -/

theorem trace_eq_iff {other : Machine} :
    m.trace = other.trace ↔ m.pc = other.pc ∧ m.flags.byte = other.flags.byte ∧
      (∀ r, m.registers.get r = other.registers.get r) ∧
        ∀ i < 3, m.memory.cell? (m.pc + i) = other.memory.cell? (other.pc + i) := by
  simp only [trace, Trace.mk.injEq]
  constructor
  · rintro ⟨pc, atPc, atFirst, atSecond, flags, registers⟩
    refine ⟨pc, congrArg _ flags, fun r => congrArg (·.get r) registers, ?_⟩
    intro i inRange
    match i, inRange with
    | 0, _ => exact atPc
    | 1, _ => exact atFirst
    | 2, _ => exact atSecond
  · rintro ⟨pc, flags, registers, shown⟩
    exact ⟨pc, shown 0 (by decide), shown 1 (by decide), shown 2 (by decide),
      Flags.byte_injective flags, Registers.ext_get registers⟩

/-- Three words of a trace line show the cells from the program counter on.  The next fetch
takes the bytes up to the first pair of dashes and fails at its address, if there is one,
and leaves everything else as it was; a step of an active machine starts with this fetch.
And a trace line says what the program counter, the flags, the registers and the three
cells are, and nothing else. -/
theorem trace_line_tells_fetch (m : Machine) :
    let columns := cellColumns m.trace.render
    let shown := columns.idxOf dashes
    (columns.length = 3 ∧ ∀ i column, columns[i]? = some column →
      Shows column (m.memory.cell? (m.pc + i))) ∧
    (∃ fetched : Fetched,
      fetched.bytes = (columns.take shown).map shownByte ++ m.fetched.bytes.drop shown ∧
      (dashes ∉ columns → m.fetch = .ok () { m with fetched }) ∧
      (dashes ∈ columns → m.fetch = .error (.outsideMemory (m.pc + shown)) { m with fetched }) ∧
      (m.status = .active → ∀ sink, (m.step sink).machine.fetched = fetched ∧
        (dashes ∈ columns →
          (m.step sink).result = .error (.fault (.outsideMemory (m.pc + shown)))))) ∧
    ∀ other : Machine, m.trace.render = other.trace.render ↔
      m.pc = other.pc ∧ m.flags.byte = other.flags.byte ∧
        (∀ r, m.registers.get r = other.registers.get r) ∧
          ∀ i < 3, m.memory.cell? (m.pc + i) = other.memory.cell? (other.pc + i) := by
  intro columns shown
  have columns_eq : columns = m.trace.cells.map cellColumn := cellColumns_render m.trace
  have shown_eq : shown = m.trace.cells.idxOf none := by
    rw [← idxOf_dashes, ← columns_eq]
  have absent : dashes ∈ columns ↔ none ∈ m.trace.cells := by
    rw [columns_eq, dashes_mem_iff]
  obtain ⟨fetched, bytes, succeeds, fails⟩ := m.fetches_cells.of_columns
  rw [← columns_eq, ← shown_eq] at bytes
  rw [← absent] at succeeds
  rw [← absent, ← shown_eq] at fails
  refine ⟨⟨?_, ?_⟩, ⟨fetched, bytes, succeeds, fails, ?_⟩, ?_⟩
  · rw [columns_eq]
    rfl
  · intro i column found
    rw [columns_eq, List.getElem?_map] at found
    obtain ⟨cell, at_i, rfl⟩ := Option.map_eq_some_iff.mp found
    rw [cell?_of_trace at_i]
    exact shows_cellColumn cell
  · intro active sink
    by_cases missing : dashes ∈ columns
    · rw [step_of_fetch_error active (fails missing)]
      exact ⟨rfl, fun _ => rfl⟩
    · exact ⟨fetched_step_of_fetch active (succeeds missing) sink, fun found => absurd found missing⟩
  · intro other
    rw [← trace_eq_iff]
    exact ⟨render_injective, congrArg Trace.render⟩

/-- On the last of 300 cells a fetch finds one byte and takes it, and fails behind it. -/
theorem trace_line_tells_fetch_at_end :
    ∃ m : Machine, m.status = .active ∧
      m.trace.render = "TRACE: 12B | A7 -- -- | 00 | 00 00 00 00 00 00 00 F4" ∧
      ∀ sink, (m.step sink).machine.fetched.bytes = [0xA7, 2, 3] ∧
        (m.step sink).result = .error (.fault (.outsideMemory 300)) := by
  let start := powerOn { memorySize := 300 }
  let cells := (Array.replicate 300 0).set! 299 Opcode.compare.byte
  let m : Machine := { start with memory := ⟨cells⟩, pc := 299, fetched := ⟨1, 2, 3⟩ }
  have rendered : m.trace.render = "TRACE: 12B | A7 -- -- | 00 | 00 00 00 00 00 00 00 F4" := by
    decide +kernel
  have columns : cellColumns m.trace.render = [['A', '7'], dashes, dashes] := by
    rw [rendered]
    decide +kernel
  have shown : (cellColumns m.trace.render).idxOf dashes = 1 := by
    rw [columns]
    decide
  obtain ⟨_, ⟨fetched, bytes, _, _, stepped⟩, _⟩ := trace_line_tells_fetch m
  refine ⟨m, rfl, rendered, fun sink => ?_⟩
  obtain ⟨same, fails⟩ := stepped rfl sink
  rw [shown] at bytes fails
  rw [columns] at bytes fails
  refine ⟨?_, fails (by simp)⟩
  rw [same, bytes]
  decide

end Machine

end LS8
