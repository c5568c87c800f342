import LS8.Command
import LS8.Proofs.Literal

/-!
# Program text under any layout

A program can be laid out in many ways: blanks around a literal, zeros before it and a
comment after it, lines that say nothing, and two ways to end a line.  `Listing.Lays`
says which texts lay out which bytes, line by line, and which lines are skipped with a
note, without a word on how a text is taken apart.  Reading a text gives back what is
laid out in it, and there is no text in which nothing is
(`Listing.parse_reads_layout`).

* `Carries`, `IsCode` — the code of a line, with what may stand around it;
* `Ends` — the ends of a line;
* `Lays` — what a text lays out, its lines counted from a given number;
* `parseFrom_eq_pieces` — a text may be cut at its newlines alone, whatever its lines;
* `linewise` — induction on a text by its lines.
-/

namespace LS8.Listing

open Text

/-! ## What a text lays out -/

/-- A line has this code in it.  Blanks may be around it, and a comment may follow. -/
inductive Carries (code : List Char) : List Char → Prop
  | intro {before after comment : List Char} (blankBefore : ∀ c ∈ before, isBlank c = true)
      (blankAfter : ∀ c ∈ after, isBlank c = true)
      (commented : comment = [] ∨ ∃ text, comment = '#' :: text) :
      Carries code (before ++ (code ++ (after ++ comment)))

/-- A code has no comment in it, and no blank at either end. -/
structure IsCode (code : List Char) : Prop where
  uncommented : '#' ∉ code
  head : ∀ c ∈ code.head?, isBlank c = false
  last : ∀ c ∈ code.getLast?, isBlank c = false

/-- How a line ends.  Only the last line may lack an end. -/
inductive Ends : List Char → List Char → Prop
  | newline {rest : List Char} : Ends ['\n'] rest
  | returned {rest : List Char} : Ends ['\r', '\n'] rest
  | last : Ends [] []

/-- What a text lays out, if its first line has the given number. -/
inductive Lays : Nat → List Char → Listing → Prop
  | nothing {number : Nat} : Lays number [] { bytes := [], skipped := [] }
  | byte {number : Nat} {line code ending rest : List Char} {value : UInt8} {listing : Listing}
      (unbroken : '\n' ∉ line) (carries : Carries code line) (literal : IsLiteral value code)
      (ends : Ends ending rest) (later : Lays (number + 1) rest listing) :
      Lays number (line ++ (ending ++ rest)) { listing with bytes := value :: listing.bytes }
  | blank {number : Nat} {line ending rest : List Char} {listing : Listing}
      (unbroken : '\n' ∉ line) (carries : Carries [] line) (ends : Ends ending rest)
      (later : Lays (number + 1) rest listing) : Lays number (line ++ (ending ++ rest)) listing
  | unreadable {number : Nat} {line code ending rest : List Char} {listing : Listing}
      (unbroken : '\n' ∉ line) (carries : Carries code line) (proper : IsCode code)
      (nonempty : code ≠ []) (illiterate : ∀ value, ¬IsLiteral value code)
      (ends : Ends ending rest) (later : Lays (number + 1) rest listing) :
      Lays number (line ++ (ending ++ rest))
        { listing with skipped := { number, code } :: listing.skipped }

/-! ## Codes -/

theorem isCode_nil : IsCode [] where
  uncommented := by simp
  head := by simp
  last := by simp

theorem mem_isLiteral {value : UInt8} {code : List Char} {c : Char}
    (literal : IsLiteral value code) (member : c ∈ code) : c = '+' ∨ c = '0' ∨ c = '1' := by
  cases literal with
  | plain numeral => exact .inr (binary_iff.mp (numeral.isDigit c member))
  | signed numeral =>
    obtain rfl | digit := List.mem_cons.mp member
    · exact .inl rfl
    · exact .inr (binary_iff.mp (numeral.isDigit c digit))

/-- A literal consists of digits and a sign, none of them blank. -/
theorem isCode_of_isLiteral {value : UInt8} {code : List Char} (literal : IsLiteral value code) :
    IsCode code := by
  have solid {c : Char} (member : c ∈ code) : c ≠ '#' ∧ isBlank c = false := by
    obtain rfl | rfl | rfl := mem_isLiteral literal member <;> decide
  exact {
    uncommented := fun member => (solid member).1 rfl
    head := fun c member => (solid (List.mem_of_mem_head? member)).2
    last := fun c member => (solid (List.mem_of_mem_getLast? member)).2 }

theorem trimStart_append {before text : List Char} (blank : ∀ c ∈ before, isBlank c = true) :
    trimStart (before ++ text) = trimStart text :=
  List.dropWhile_append_of_pos blank

theorem trimStart_eq_self {text : List Char} (solid : ∀ c ∈ text.head?, isBlank c = false) :
    trimStart text = text := by
  cases text with
  | nil => rfl
  | cons c rest => simp [trimStart, solid c rfl]

theorem trim_eq {before code after : List Char} (blankBefore : ∀ c ∈ before, isBlank c = true)
    (blankAfter : ∀ c ∈ after, isBlank c = true) (proper : IsCode code) :
    trim (before ++ (code ++ after)) = code := by
  rw [trim, trimStart_append blankBefore]
  cases code with
  | nil =>
    have empty : trimStart (after ++ []) = [] := trimStart_append blankAfter
    rw [List.append_nil] at empty
    rw [List.nil_append, empty]
    rfl
  | cons c rest =>
    have start : trimStart (c :: rest ++ after) = c :: rest ++ after :=
      trimStart_eq_self proper.head
    have stop : trimStart (c :: rest).reverse = (c :: rest).reverse := by
      apply trimStart_eq_self
      rw [List.head?_reverse]
      exact proper.last
    rw [start, List.reverse_append, trimStart_append (by simpa using blankAfter), stop,
      List.reverse_reverse]

theorem exists_trimStart (text : List Char) :
    ∃ before, (∀ c ∈ before, isBlank c = true) ∧ text = before ++ trimStart text ∧
      ∀ c ∈ (trimStart text).head?, isBlank c = false := by
  refine ⟨text.takeWhile isBlank, List.all_eq_true.mp List.all_takeWhile,
    List.takeWhile_append_dropWhile.symm, ?_⟩
  intro c first
  have solid := List.head?_dropWhile_not isBlank text
  rw [← trimStart, Option.mem_def.mp first] at solid
  exact solid

/-- What is trimmed off a text are blanks, and no more of them can be. -/
theorem exists_trim (text : List Char) :
    ∃ before after, (∀ c ∈ before, isBlank c = true) ∧ (∀ c ∈ after, isBlank c = true) ∧
      text = before ++ (trim text ++ after) ∧ (∀ c ∈ (trim text).head?, isBlank c = false) ∧
        ∀ c ∈ (trim text).getLast?, isBlank c = false := by
  obtain ⟨before, blankBefore, whole, head⟩ := exists_trimStart text
  obtain ⟨after, blankAfter, reversed, last⟩ := exists_trimStart (trimStart text).reverse
  have kept : trimStart text = trim text ++ after.reverse := by
    rw [trim, ← List.reverse_append, ← reversed, List.reverse_reverse]
  refine ⟨before, after.reverse, blankBefore, by simpa using blankAfter, kept ▸ whole, ?_, ?_⟩
  · intro c first
    apply head
    rw [kept, List.head?_append, Option.mem_def.mp first]
    rfl
  · rw [trim, List.getLast?_reverse]
    exact last

/-- A line has one code. -/
theorem code_eq {code line : List Char} (carries : Carries code line) (proper : IsCode code) :
    Listing.code line = code := by
  obtain @⟨before, after, comment, blankBefore, blankAfter, commented⟩ := carries
  have unmarked {blanks : List Char} (blank : ∀ c ∈ blanks, isBlank c = true) :
      ∀ c ∈ blanks, decide (c ≠ '#') = true := by
    intro c member
    have white := blank c member
    rw [decide_eq_true_eq]
    rintro rfl
    revert white
    decide
  have cut : comment.takeWhile (· ≠ '#') = [] := by
    obtain rfl | ⟨text, rfl⟩ := commented <;> simp
  have plain : ∀ c ∈ code, decide (c ≠ '#') = true := by
    intro c member
    rw [decide_eq_true_eq]
    rintro rfl
    exact proper.uncommented member
  rw [Listing.code, List.takeWhile_append_of_pos (unmarked blankBefore),
    List.takeWhile_append_of_pos plain, List.takeWhile_append_of_pos (unmarked blankAfter), cut,
    List.append_nil]
  exact trim_eq blankBefore blankAfter proper

theorem carries_code (line : List Char) : Carries (code line) line ∧ IsCode (code line) := by
  obtain ⟨before, after, blankBefore, blankAfter, whole, head, last⟩ :=
    exists_trim (line.takeWhile (· ≠ '#'))
  have uncommented : '#' ∉ code line := by
    intro member
    have inside : '#' ∈ line.takeWhile (· ≠ '#') := by
      rw [whole]
      exact List.mem_append_right _ (List.mem_append_left _ member)
    simpa using List.all_eq_true.mp List.all_takeWhile _ inside
  have commented : line.dropWhile (· ≠ '#') = [] ∨
      ∃ text, line.dropWhile (· ≠ '#') = '#' :: text := by
    have marked := List.head?_dropWhile_not (· ≠ '#') line
    cases comment : line.dropWhile (· ≠ '#') with
    | nil => exact .inl rfl
    | cons c text =>
      rw [comment] at marked
      obtain rfl : c = '#' := by simpa using marked
      exact .inr ⟨text, rfl⟩
  have cut : before ++ (code line ++ (after ++ line.dropWhile (· ≠ '#'))) = line := by
    have code_eq : code line = trim (line.takeWhile (· ≠ '#')) := rfl
    rw [← List.append_assoc (code line), ← List.append_assoc, code_eq, ← whole,
      List.takeWhile_append_dropWhile]
  have carries : Carries (code line)
      (before ++ (code line ++ (after ++ line.dropWhile (· ≠ '#')))) :=
    .intro blankBefore blankAfter commented
  rw [cut] at carries
  exact ⟨carries, uncommented, head, last⟩

theorem Carries.append_return {code line : List Char} (carries : Carries code line) :
    Carries code (line ++ ['\r']) := by
  obtain @⟨before, after, comment, blankBefore, blankAfter, commented⟩ := carries
  obtain rfl | ⟨text, rfl⟩ := commented
  · have blank : ∀ c ∈ after ++ ['\r'], isBlank c = true := by
      intro c member
      obtain old | new := List.mem_append.mp member
      · exact blankAfter c old
      · obtain rfl := List.mem_singleton.mp new
        decide
    have carries : Carries code (before ++ (code ++ ((after ++ ['\r']) ++ []))) :=
      .intro blankBefore blank (.inl rfl)
    simpa using carries
  · have carries : Carries code (before ++ (code ++ (after ++ '#' :: (text ++ ['\r'])))) :=
      .intro blankBefore blankAfter (.inr ⟨_, rfl⟩)
    simpa using carries

/-- A carriage return at the end of a line does not change its code. -/
theorem code_append_return (line : List Char) : code (line ++ ['\r']) = code line := by
  obtain ⟨carries, proper⟩ := carries_code line
  exact code_eq carries.append_return proper

/-! ## Lines -/

/-- Read a text whose first line has the given number. -/
def parseFrom (number : Nat) (text : List Char) : Listing :=
  let contents := (lines text).map content
  { bytes := contents.filterMap Content.byte?
    skipped := skippedFrom number contents }

/-- What a line adds before what later lines give. -/
def Content.add (number : Nat) (later : Listing) : Content → Listing
  | byte value => { later with bytes := value :: later.bytes }
  | blank => later
  | unreadable code => { later with skipped := { number, code } :: later.skipped }

/-- A text is a line, or a line before a text. -/
@[elab_as_elim]
theorem linewise {motive : List Char → Prop} (line : ∀ line, '\n' ∉ line → motive line)
    (newline : ∀ line rest, '\n' ∉ line → motive rest → motive (line ++ '\n' :: rest))
    (text : List Char) : motive text := by
  induction length : text.length using Nat.strongRecOn generalizing text with
  | ind n ih =>
    subst length
    by_cases broken : '\n' ∈ text
    · obtain ⟨first, rest, rfl, unbroken⟩ := List.eq_append_cons_of_mem broken
      have shorter : rest.length < (first ++ '\n' :: rest).length := by
        rw [List.length_append, List.length_cons]
        omega
      exact newline first rest unbroken (ih rest.length shorter rest rfl)
    · exact line text broken

variable {number : Nat} {line ending rest text : List Char} {listing : Listing}

theorem skippedFrom_cons (number : Nat) (first : Content) (later : List Content) :
    skippedFrom number (first :: later) =
      (first.unreadable?.map (SkippedLine.mk number)).toList ++ skippedFrom (number + 1) later := by
  have alone : skippedFrom number [first] =
      (first.unreadable?.map (SkippedLine.mk number)).toList := by
    cases first <;> rfl
  rw [← List.singleton_append, skippedFrom_append, alone]
  rfl

theorem content_append_return (line : List Char) : content (line ++ ['\r']) = content line :=
  congrArg Content.ofCode (code_append_return line)

theorem content_withoutReturn (piece : List Char) : content (withoutReturn piece) = content piece := by
  unfold withoutReturn
  split
  · case isTrue returned =>
    obtain ⟨line, rfl⟩ := List.getLast?_eq_some_iff.mp returned
    rw [List.dropLast_concat, content_append_return]
  · rfl

/-- What the pieces of a text give is the same, with or without the carriage returns at
their ends, and with or without an empty piece at the end of the text. -/
theorem parseFrom_eq_pieces (number : Nat) (text : List Char) :
    parseFrom number text =
      { bytes := ((pieces text).map content).filterMap Content.byte?
        skipped := skippedFrom number ((pieces text).map content) } := by
  obtain none | ⟨earlier, last, whole⟩ := List.eq_nil_or_concat (pieces text)
  · exact absurd none (pieces_ne_nil text)
  rw [List.concat_eq_append] at whole
  have cut : lines text = earlier.map withoutReturn ++ [last].filter (· ≠ []) := by
    rw [lines, whole, List.dropLast_concat, List.getLast?_concat]
    rfl
  have same : (earlier.map withoutReturn).map content = earlier.map content := by
    simp [content_withoutReturn]
  rw [parseFrom, cut, whole, List.map_append, List.map_append, same]
  by_cases empty : last = []
  · -- An empty piece is blank, and what is blank gives nothing.
    have blank : content [] = .blank := rfl
    have nothing (number : Nat) : skippedFrom number [.blank] = [] := rfl
    simp [empty, blank, nothing, skippedFrom_append, Content.byte?]
  · simp [empty]

example : lines ['1', '\r', '\n'] = [['1']] ∧ pieces ['1', '\r', '\n'] = [['1', '\r'], []] := by
  decide

theorem parseFrom_newline (unbroken : '\n' ∉ line) :
    parseFrom number (line ++ '\n' :: rest) =
      (content line).add number (parseFrom (number + 1) rest) := by
  rw [parseFrom_eq_pieces, parseFrom_eq_pieces, pieces_append_newline,
    pieces_of_unbroken unbroken, List.singleton_append, List.map_cons, skippedFrom_cons]
  cases content line <;> rfl

theorem parseFrom_line (unbroken : '\n' ∉ line) (ends : Ends ending rest) :
    parseFrom number (line ++ (ending ++ rest)) =
      (content line).add number (parseFrom (number + 1) rest) := by
  cases ends with
  | newline => exact parseFrom_newline unbroken
  | returned =>
    have cut : parseFrom number ((line ++ ['\r']) ++ '\n' :: rest) = _ :=
      parseFrom_newline (by simp [unbroken])
    rw [content_append_return, List.append_assoc] at cut
    exact cut
  | last =>
    -- Behind the last line there is nothing to read.
    rw [List.append_nil, List.append_nil, parseFrom_eq_pieces, pieces_of_unbroken unbroken,
      List.map_singleton, skippedFrom_cons]
    cases content line <;> rfl

/-! ## Texts -/

theorem parseFrom_of_lays (lays : Lays number text listing) : parseFrom number text = listing := by
  induction lays with
  | nothing => rfl
  | byte unbroken carries literal ends _ ih =>
    rw [parseFrom_line unbroken ends, ih, content, code_eq carries (isCode_of_isLiteral literal),
      Content.ofCode, byte?_eq_some_iff.mpr literal]
    rfl
  | blank unbroken carries ends _ ih =>
    rw [parseFrom_line unbroken ends, ih, content, code_eq carries isCode_nil]
    rfl
  | @unreadable _ _ code _ _ _ unbroken carries proper nonempty illiterate ends _ ih =>
    have unread : byte? code = none := by
      apply Option.eq_none_iff_forall_ne_some.mpr
      exact fun value read => illiterate value (byte?_eq_some_iff.mp read)
    rw [parseFrom_line unbroken ends, ih, content, code_eq carries proper]
    simp [Content.ofCode, unread, nonempty, Content.add]

theorem lays_line (unbroken : '\n' ∉ line) (ends : Ends ending rest)
    (later : Lays (number + 1) rest listing) :
    Lays number (line ++ (ending ++ rest)) ((content line).add number listing) := by
  obtain ⟨carries, proper⟩ := carries_code line
  cases read : byte? (code line) with
  | some value =>
    rw [content, Content.ofCode, read]
    exact .byte unbroken carries (byte?_eq_some_iff.mp read) ends later
  | none =>
    by_cases empty : code line = []
    · rw [content, empty]
      exact .blank unbroken (empty ▸ carries) ends later
    · have illiterate : ∀ value, ¬IsLiteral value (code line) := by
        intro value literal
        cases read.symm.trans (byte?_eq_some_iff.mpr literal)
      have skips : content line = .unreadable (code line) := by
        simp [content, Content.ofCode, read, empty]
      rw [skips]
      exact .unreadable unbroken carries proper empty illiterate ends later

/-- Whatever a text looks like, it lays something out. -/
theorem lays_parseFrom (number : Nat) (text : List Char) :
    Lays number text (parseFrom number text) := by
  induction text using linewise generalizing number with
  | line line unbroken =>
    have nothing : Lays (number + 1) [] _ := .nothing
    have last := lays_line unbroken .last nothing
    rw [← List.append_nil line, ← List.append_nil [], parseFrom_line unbroken .last]
    exact last
  | newline line rest unbroken ih =>
    rw [parseFrom_newline unbroken]
    exact lays_line unbroken .newline (ih (number + 1))

/-- A text is read as what it lays out: its bytes in order, and for each line with code
that is no literal a note, with the number of the line and the code.  These notes, and no
others, are what reading a program text records before the program is loaded. -/
theorem parse_reads_layout (text : List Char) (listing : Listing) :
    (parse text = listing ↔ Lays 1 text listing) ∧
      (Lays 1 text listing → ∀ (m : Machine) (sink : Sink),
        let loaded := m.loadRecorded sink listing.bytes
        m.loadText sink text =
          { loaded with log := listing.skipped.map .skipped ++ loaded.log }) := by
  have reads (lays : Lays 1 text listing) : parse text = listing := parseFrom_of_lays lays
  refine ⟨⟨?_, reads⟩, ?_⟩
  · rintro rfl
    exact lays_parseFrom 1 text
  · intro lays m sink
    rw [← reads lays]
    rfl

/-- A signed literal with zeros before it and blanks and a comment around it, a line that
cannot be read, and a last line without an end. -/
theorem parse_reads_layout_mixed :
    ∃ (text : List Char) (listing : Listing), Lays 1 text listing ∧
      text = [' ', '+', '0', '1', '0', '1', '\t', '#', '5', '\r', '\n', '?', '\n', '1', '1'] ∧
      parse text = listing ∧ listing.bytes = [5, 3] ∧ listing.skipped = [⟨2, ['?']⟩] ∧
      ∀ (m : Machine) (sink : Sink), (m.loadText sink text).log =
        .skipped ⟨2, ['?']⟩ :: (m.loadRecorded sink [5, 3]).log := by
  have five : IsLiteral 5 ['+', '0', '1', '0', '1'] := byte?_eq_some_iff.mp rfl
  have three : IsLiteral 3 ['1', '1'] := byte?_eq_some_iff.mp rfl
  have illiterate : ∀ value, ¬IsLiteral value ['?'] := by
    intro value literal
    cases byte?_eq_some_iff.mpr literal
  have space : isBlank ' ' = true := rfl
  have tab : isBlank '\t' = true := rfl
  have mark : isBlank '?' = false := rfl
  have first : Carries ['+', '0', '1', '0', '1'] ([' '] ++ (_ ++ (['\t'] ++ ['#', '5']))) :=
    .intro (by simp [space]) (by simp [tab]) (.inr ⟨['5'], rfl⟩)
  have second : Carries ['?'] ([] ++ (_ ++ ([] ++ []))) :=
    .intro (by simp) (by simp) (.inl rfl)
  have third : Carries ['1', '1'] ([] ++ (_ ++ ([] ++ []))) :=
    .intro (by simp) (by simp) (.inl rfl)
  have proper : IsCode ['?'] := ⟨by simp, by simp [mark], by simp [mark]⟩
  have nothing : Lays 4 [] _ := .nothing
  have lays := Lays.byte (by simp) first five .returned
    (.unreadable (by simp) second proper (by simp) illiterate .newline
      (.byte (by simp) third three .last nothing))
  obtain ⟨reads, records⟩ := parse_reads_layout _ _
  exact ⟨_, _, lays, rfl, reads.mpr lays, rfl, rfl,
    fun m sink => congrArg (·.log) (records lays m sink)⟩

end LS8.Listing
