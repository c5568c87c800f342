import LS8.Listing.Literal
import LS8.Text.Blank

/-!
# Lines of program text

What stands before the first `#` of a line is its code; the rest is a comment.
The code, without blanks around it, is a byte, or nothing, or something that
cannot be read.  A carriage return before the end of a line is a blank.
-/

namespace LS8.Listing

/-- What a line of program text says. -/
inductive Content where
  -- The code is a byte.
  | byte (value : UInt8)
  -- There is no code.
  | blank
  -- The code is not a byte.
  | unreadable (code : List Char)
  deriving DecidableEq, Repr

/-- The code of a line: what stands before the first `#`, trimmed. -/
def code (line : List Char) : List Char :=
  Text.trim (line.takeWhile (· ≠ '#'))

def Content.ofCode (code : List Char) : Content :=
  match byte? code with
  | some value => .byte value
  | none => if code.isEmpty then .blank else .unreadable code

def content (line : List Char) : Content :=
  .ofCode (code line)

namespace Content

/-- The byte that a line contributes to the program. -/
def byte? : Content → Option UInt8
  | byte value => some value
  | _ => none

/-- The code that has to be skipped because it cannot be read. -/
def unreadable? : Content → Option (List Char)
  | unreadable code => some code
  | _ => none

/-! ## Basic facts -/

@[simp] theorem ofCode_nil : ofCode [] = blank := rfl

end Content

end LS8.Listing
