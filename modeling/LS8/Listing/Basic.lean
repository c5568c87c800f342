import LS8.Listing.Line

/-!
# Program text

A program is written as a text with at most one byte a line.  Lines without a
byte add nothing to the program; those with unreadable code are remembered
with their number, counted from one.

* `Listing.pieces`, `Listing.lines` — what stands between the newlines of a text, and its
  lines;
* `Listing.parse` — the bytes of a text and the lines that had to be skipped.
-/

namespace LS8

/-- A line whose code could not be read. -/
structure SkippedLine where
  -- The number of the line; the first line is line one.
  number : Nat
  code : List Char
  deriving DecidableEq, Repr

structure Listing where
  -- The bytes of the program, in order.
  bytes : List UInt8
  -- The lines that were skipped although they have code, in order.
  skipped : List SkippedLine
  deriving DecidableEq, Repr

namespace Listing

/-- What stands between the newlines of a text, before the first and behind the last. -/
def pieces (text : List Char) : List (List Char) :=
  text.splitOn '\n'

/-- A line that ends with a newline, without a carriage return that belongs to this end. -/
def withoutReturn (piece : List Char) : List Char :=
  if piece.getLast? = some '\r' then piece.dropLast else piece

/-- The lines of a text without their ends.  A line ends with a newline, or with a carriage
return and a newline.  The last one need not end, and a text that ends with a newline has
no more lines. -/
def lines (text : List Char) : List (List Char) :=
  (pieces text).dropLast.map withoutReturn ++ (pieces text).getLast?.toList.filter (· ≠ [])

/-- The skipped lines among some lines, of which the first has the given
number. -/
def skippedFrom (number : Nat) (contents : List Content) : List SkippedLine :=
  (contents.zipIdx number).filterMap fun (content, number) =>
    content.unreadable?.map (SkippedLine.mk number)

def parse (text : List Char) : Listing :=
  let contents := (lines text).map content
  { bytes := contents.filterMap Content.byte?
    skipped := skippedFrom 1 contents }

/-! ## Basic facts -/

/-- A newline cuts a text into the pieces on either side of it. -/
theorem pieces_append_newline (first second : List Char) :
    pieces (first ++ '\n' :: second) = pieces first ++ pieces second := by
  simp only [pieces, List.splitOn_eq_splitOnP]
  exact List.splitOnP_append_cons first second (by decide)

theorem pieces_of_unbroken {line : List Char} (unbroken : '\n' ∉ line) : pieces line = [line] := by
  rw [pieces, List.splitOn_eq_splitOnP]
  apply List.splitOnP_eq_singleton
  intro c member
  rw [beq_eq_false_iff_ne]
  rintro rfl
  exact unbroken member

theorem pieces_ne_nil (text : List Char) : pieces text ≠ [] := by
  rw [pieces, List.splitOn_eq_splitOnP]
  exact List.splitOnP_ne_nil _ text

/-- Skipped lines that follow others are numbered on from them. -/
theorem skippedFrom_append (number : Nat) (first second : List Content) :
    skippedFrom number (first ++ second) =
      skippedFrom number first ++ skippedFrom (number + first.length) second := by
  simp only [skippedFrom, List.zipIdx_append, List.filterMap_append]

end Listing

end LS8
