import LS8.Proofs.Layout

/-!
# Joined program texts

Two texts with a newline between them are read as one after the other: the bytes of the
first and then those of the second, and the skipped lines likewise, with those of the
second further down (`Listing.parseFrom_joined`).  Nothing is lost at the seam, whether the
first text ends in a newline, in a carriage return, or not at all.  So it does not
matter how lines end, nor whether the last one does (`Listing.parse_joined`).

* `Listing.moveDown` and `++` — a listing further down, and one after another;
* `Listing.VariesEnds` — a text whose newlines may have got a carriage return.
-/

namespace LS8

/-- A skipped line in a text with more lines above it. -/
def SkippedLine.moveDown (count : Nat) (line : SkippedLine) : SkippedLine :=
  { line with number := line.number + count }

namespace Listing

def moveDown (count : Nat) (listing : Listing) : Listing :=
  { listing with skipped := listing.skipped.map (·.moveDown count) }

instance : Append Listing where
  append first second :=
    { bytes := first.bytes ++ second.bytes, skipped := first.skipped ++ second.skipped }

/-- A text with a carriage return before some newlines of another. -/
inductive VariesEnds : List Char → List Char → Prop
  | nil : VariesEnds [] []
  | same (c : Char) {text varied : List Char} (rest : VariesEnds text varied) :
      VariesEnds (c :: text) (c :: varied)
  | returned {text varied : List Char} (rest : VariesEnds text varied) :
      VariesEnds ('\n' :: text) ('\r' :: '\n' :: varied)

/-! ## Basic facts -/

variable {number : Nat} {text varied : List Char}

theorem append_add (first second : Listing) (content : Content) :
    content.add number first ++ second = content.add number (first ++ second) := by
  cases content <;> rfl

theorem append_empty (listing : Listing) : listing ++ { bytes := [], skipped := [] } = listing := by
  obtain ⟨bytes, skipped⟩ := listing
  exact congr (congrArg mk bytes.append_nil) skipped.append_nil

theorem moveDown_add (count : Nat) (later : Listing) (content : Content) :
    (content.add number later).moveDown count =
      content.add (number + count) (later.moveDown count) := by
  cases content <;> rfl

theorem parseFrom_unbroken (unbroken : '\n' ∉ text) :
    parseFrom number text = (content text).add number { bytes := [], skipped := [] } := by
  have last : parseFrom number (text ++ ([] ++ [])) = _ := parseFrom_line unbroken .last
  rw [List.append_nil, List.append_nil] at last
  exact last

/-! ## The seam -/

/-- The second of two joined texts begins as many lines down as the first has newlines,
and the one between them. -/
theorem parseFrom_joined (number : Nat) (first second : List Char) :
    parseFrom number (first ++ '\n' :: second) =
      parseFrom number first ++ parseFrom (number + (first.count '\n' + 1)) second := by
  induction first using linewise generalizing number with
  | line line unbroken =>
    -- The newline at the seam ends the line that the first text has left open.
    rw [parseFrom_newline unbroken, parseFrom_unbroken unbroken, append_add,
      List.count_eq_zero.mpr unbroken]
    rfl
  | newline line rest unbroken ih =>
    have count : (line ++ '\n' :: rest).count '\n' = rest.count '\n' + 1 := by
      rw [List.count_append, List.count_eq_zero.mpr unbroken, List.count_cons_self, Nat.zero_add]
    rw [List.append_assoc, List.cons_append, parseFrom_newline unbroken,
      parseFrom_newline unbroken, ih, append_add, count, Nat.add_right_comm _ 1, Nat.add_assoc]

theorem parseFrom_add (number count : Nat) (text : List Char) :
    parseFrom (number + count) text = (parseFrom number text).moveDown count := by
  induction text using linewise generalizing number with
  | line line unbroken =>
    rw [parseFrom_unbroken unbroken, parseFrom_unbroken unbroken, moveDown_add]
    rfl
  | newline line rest unbroken ih =>
    rw [parseFrom_newline unbroken, parseFrom_newline unbroken, moveDown_add, ← ih,
      Nat.add_right_comm]

theorem parse_append_newline (first second : List Char) :
    parse (first ++ '\n' :: second) =
      parse first ++ (parse second).moveDown (first.count '\n' + 1) := by
  have joined : parse (first ++ '\n' :: second) = _ := parseFrom_joined 1 first second
  rw [joined, parseFrom_add]
  rfl

/-! ## Ends of lines -/

/-- A carriage return at the end of a text says nothing. -/
theorem parseFrom_append_return (number : Nat) (text : List Char) :
    parseFrom number (text ++ ['\r']) = parseFrom number text := by
  induction text using linewise generalizing number with
  | line line unbroken =>
    rw [parseFrom_unbroken (by simp [unbroken]), parseFrom_unbroken unbroken,
      content_append_return]
  | newline line rest unbroken ih =>
    rw [List.append_assoc, List.cons_append, parseFrom_newline unbroken,
      parseFrom_newline unbroken, ih]

theorem parse_return_newline (first second : List Char) :
    parse (first ++ '\r' :: '\n' :: second) = parse (first ++ '\n' :: second) := by
  have returned : parse (first ++ ['\r']) = parse first := parseFrom_append_return 1 first
  have count : (first ++ ['\r']).count '\n' = first.count '\n' := by
    rw [List.count_append]
    rfl
  rw [List.append_cons, parse_append_newline, parse_append_newline, returned, count]

/-- The varied text may stand behind any other, which in the induction takes up what the
two have in common. -/
theorem VariesEnds.parse_append (varies : VariesEnds text varied) (before : List Char) :
    parse (before ++ varied) = parse (before ++ text) := by
  induction varies generalizing before with
  | nil => rfl
  | @same c text varied _ ih =>
    rw [List.append_cons before c varied, List.append_cons before c text]
    exact ih (before ++ [c])
  | @returned text varied _ ih =>
    rw [parse_return_newline, List.append_cons before _ varied, List.append_cons before _ text]
    exact ih (before ++ ['\n'])

/-- Two texts with a newline between them have the bytes of the first and then of the
second, and the skipped lines likewise, those of the second further down by the
newlines before it.  Carriage returns before newlines and a newline at the end change nothing. -/
theorem parse_joined (s t : List Char) :
    (parse (s ++ '\n' :: t)).bytes = (parse s).bytes ++ (parse t).bytes ∧
      (parse (s ++ '\n' :: t)).skipped = (parse s).skipped ++
        (parse t).skipped.map (fun line =>
          { line with number := line.number + (s.count '\n' + 1) }) ∧
      (∀ varied, VariesEnds s varied → parse varied = parse s) ∧ parse (s ++ ['\n']) = parse s := by
  refine ⟨?_, ?_, ?_, ?_⟩
  · rw [parse_append_newline]
    rfl
  · rw [parse_append_newline]
    rfl
  · intro varied varies
    exact varies.parse_append []
  · rw [parse_append_newline]
    exact append_empty (parse s)

/-- A text that ends in a lone carriage return, before one that begins with an empty line. -/
theorem parse_joined_lone_return :
    ∃ s t varied : List Char, s = ['1', '\n', '?', '\r'] ∧ t = ['\n', '-', '0', '\r', '\n', '0'] ∧
      VariesEnds s varied ∧ varied ≠ s ∧ parse varied = parse s ∧
        (parse (s ++ '\n' :: t)).bytes = [1, 0] ∧
          (parse (s ++ '\n' :: t)).skipped = [⟨2, ['?']⟩, ⟨4, ['-', '0']⟩] := by
  let s := ['1', '\n', '?', '\r']
  let t := ['\n', '-', '0', '\r', '\n', '0']
  have varies : VariesEnds s ['1', '\r', '\n', '?', '\r'] :=
    .same '1' (.returned (.same '?' (.same '\r' .nil)))
  have read : parse s = { bytes := [1], skipped := [⟨2, ['?']⟩] } := by decide +kernel
  have readNext : parse t = { bytes := [0], skipped := [⟨2, ['-', '0']⟩] } := by decide +kernel
  obtain ⟨bytes, skipped, same, _⟩ := parse_joined s t
  refine ⟨s, t, _, rfl, rfl, varies, by decide, same _ varies, ?_, ?_⟩
  · rw [bytes, read, readNext]
    rfl
  · rw [skipped, read, readNext]
    rfl

end Listing

end LS8
