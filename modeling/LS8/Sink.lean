import LS8.Text.Numeral

/-!
# Sinks

A sink takes the text that programs print.  It may have room for a limited
number of characters; of a line that needs more it keeps the part that still
fits and refuses the rest.  Printed text is digits and newlines only, so each
character takes one byte.
-/

namespace LS8

/-- Where printed text goes. -/
structure Sink where
  -- What has been written so far.
  written : Array Char := #[]
  -- How many more characters the sink takes; no limit if absent.
  room : Option Nat := none
  deriving DecidableEq, Repr

/-- The line that prints a byte: its decimal numeral and a newline. -/
def printedLine (value : UInt8) : List Char :=
  Text.Numeral.decimalDigits value.toNat ++ ['\n']

namespace Sink

def text (sink : Sink) : List Char :=
  sink.written.toList

/-- Whether a sink has room for a whole text. -/
def accepts (sink : Sink) (text : List Char) : Bool :=
  match sink.room with
  | none => true
  | some room => text.length ≤ room

/-- The part of a text that a sink has room for. -/
def fitting (sink : Sink) (text : List Char) : List Char :=
  match sink.room with
  | none => text
  | some room => text.take room

/-- A sink after writing what fits of a text. -/
def write (sink : Sink) (text : List Char) : Sink :=
  { written := sink.written.appendList (sink.fitting text)
    room := sink.room.map (· - text.length) }

def refusal : String := "sink is full"

/-! ## Basic facts -/

@[simp] theorem text_write (sink : Sink) (text : List Char) :
    (sink.write text).text = sink.text ++ sink.fitting text := by
  simp [Sink.text, write]

theorem fitting_of_accepts {sink : Sink} {text : List Char} (accepted : sink.accepts text = true) :
    sink.fitting text = text := by
  unfold accepts at accepted
  unfold fitting
  cases found : sink.room with
  | none => rfl
  | some room =>
    simp only [found, decide_eq_true_eq] at accepted
    exact List.take_of_length_le accepted

/-- A text that is not accepted is cut short, and the sink is full after it. -/
theorem room_write_of_not_accepts {sink : Sink} {text : List Char}
    (refused : sink.accepts text = false) : (sink.write text).room = some 0 := by
  unfold accepts at refused
  cases found : sink.room with
  | none => simp [found] at refused
  | some room =>
    simp only [found, decide_eq_false_iff_not] at refused
    simp only [write, found, Option.map_some, Option.some.injEq]
    omega

end Sink

end LS8
