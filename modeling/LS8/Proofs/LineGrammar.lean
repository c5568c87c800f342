import LS8.Proofs.Joining

/-!
# Which lines are bytes

A line is a byte exactly if its code is a numeral of one: at most one plus sign, and
binary digits with a value of at most 255, whatever their number
(`Listing.line_yields_byte_iff_numeral`).  The value is that of the whole numeral and
nothing is taken modulo anything, so that the codes without a byte can be told by their
looks alone (`Listing.byte?_eq_none_iff`).

* `Listing.Denotes` — the numerals of a number, which may be any number;
* `Listing.Rejected` — the codes that no byte is read from;
* `Listing.ofLines` — what some lines give.
-/

namespace LS8.Listing

open Text Text.Numeral

/-! ## Numerals and other codes -/

/-- What may stand before the digits. -/
inductive IsSign : List Char → Prop
  | none : IsSign []
  | plus : IsSign ['+']

/-- One or more binary digits. -/
structure Binary (digits : List Char) : Prop where
  nonempty : digits ≠ []
  isDigit : ∀ c ∈ digits, c = '0' ∨ c = '1'

/-- A binary numeral of a number, with or without a sign. -/
inductive Denotes (n : Nat) : List Char → Prop
  | intro {sign digits : List Char} (optional : IsSign sign) (binary : Binary digits)
      (value : Nat.ofDigitChars 2 digits 0 = n) : Denotes n (sign ++ digits)

/-- A code that is no byte. -/
inductive Rejected : List Char → Prop
  | empty : Rejected []
  | signAlone : Rejected ['+']
  | secondPlus {code : List Char} (later : '+' ∈ code.tail) : Rejected code
  | minus {code : List Char} (member : '-' ∈ code) : Rejected code
  | blank {code : List Char} {c : Char} (member : c ∈ code) (blank : isBlank c = true) :
      Rejected code
  -- A minus and a blank are such characters too.
  | other {code : List Char} {c : Char} (member : c ∈ code)
      (strange : c ≠ '+' ∧ c ≠ '0' ∧ c ≠ '1') : Rejected code
  -- Nine or more digits count; those before them do not.
  | large {sign rest : List Char} {zeros : Nat} (optional : IsSign sign) (long : 8 ≤ rest.length) :
      Rejected (sign ++ (List.replicate zeros '0' ++ '1' :: rest))

section Codes

variable {n zeros : Nat} {sign digits rest code : List Char} {value : UInt8} {c : Char}

theorem isNumeral_two_iff :
    IsNumeral 2 digits n ↔ Binary digits ∧ Nat.ofDigitChars 2 digits 0 = n := by
  constructor
  · intro numeral
    exact ⟨⟨numeral.nonempty, fun c member => binary_iff.mp (numeral.isDigit c member)⟩,
      numeral.value⟩
  · rintro ⟨binary, value⟩
    exact ⟨binary.nonempty, fun c member => binary_iff.mpr (binary.isDigit c member), value⟩

theorem byte?_eq_some_iff_denotes : byte? code = some value ↔ Denotes value.toNat code := by
  rw [byte?_eq_some_iff]
  constructor
  · intro literal
    cases literal with
    | plain numeral =>
      obtain ⟨binary, same⟩ := isNumeral_two_iff.mp numeral
      exact .intro .none binary same
    | signed numeral =>
      obtain ⟨binary, same⟩ := isNumeral_two_iff.mp numeral
      exact .intro .plus binary same
  · rintro @⟨sign, digits, optional, binary, same⟩
    have numeral := isNumeral_two_iff.mpr ⟨binary, same⟩
    cases optional with
    | none => exact .plain numeral
    | plus => exact .signed numeral

/-- The digits of a numeral are what is behind the sign. -/
theorem denotes_append_iff (optional : IsSign sign) (unsigned : digits.head? ≠ some '+') :
    Denotes n (sign ++ digits) ↔ Binary digits ∧ Nat.ofDigitChars 2 digits 0 = n := by
  constructor
  · generalize whole : sign ++ digits = code
    rintro @⟨otherSign, otherDigits, otherOptional, binary, value⟩
    cases optional with
    | none =>
      cases otherOptional with
      | none =>
        obtain rfl : digits = otherDigits := whole
        exact ⟨binary, value⟩
      | plus =>
        obtain rfl : digits = '+' :: otherDigits := whole
        exact absurd rfl unsigned
    | plus =>
      cases otherOptional with
      | none =>
        obtain rfl : '+' :: digits = otherDigits := whole
        exact absurd (binary.isDigit '+' List.mem_cons_self) (by decide)
      | plus =>
        obtain rfl : digits = otherDigits := (List.cons.inj whole).2
        exact ⟨binary, value⟩
  · rintro ⟨binary, value⟩
    exact .intro optional binary value

theorem Denotes.mem (denotes : Denotes n code) (member : c ∈ code) :
    c = '+' ∨ c = '0' ∨ c = '1' := by
  obtain @⟨sign, digits, optional, binary, _⟩ := denotes
  cases optional with
  | none => exact .inr (binary.isDigit c member)
  | plus => exact (List.mem_cons.mp member).imp_right (binary.isDigit c)

theorem Denotes.unsigned_tail (denotes : Denotes n code) : '+' ∉ code.tail := by
  intro member
  obtain @⟨sign, digits, optional, binary, _⟩ := denotes
  have digit : '+' ∈ digits := by
    cases optional with
    | none => exact List.mem_of_mem_tail member
    | plus => exact member
  exact absurd (binary.isDigit '+' digit) (by decide)

/-! ## Leading zeros -/

theorem head_zeros_append (zeros : Nat) (unsigned : digits.head? ≠ some '+') :
    (List.replicate zeros '0' ++ digits).head? ≠ some '+' := by
  cases zeros with
  | zero => exact unsigned
  | succ zeros => simp [List.replicate_succ]

theorem Binary.unsigned (binary : Binary digits) : digits.head? ≠ some '+' := by
  intro first
  exact absurd (binary.isDigit '+' (List.mem_of_mem_head? first)) (by decide)

/-- Zeros before other digits do not change what a numeral denotes. -/
theorem denotes_zeros_append_iff (optional : IsSign sign) (binary : Binary digits) :
    Denotes n (sign ++ (List.replicate zeros '0' ++ digits)) ↔
      Nat.ofDigitChars 2 digits 0 = n := by
  rw [denotes_append_iff optional (head_zeros_append zeros binary.unsigned),
    ofDigitChars_zeros_append]
  constructor
  · exact And.right
  · intro value
    refine ⟨⟨?_, ?_⟩, value⟩
    · exact List.append_ne_nil_of_right_ne_nil _ binary.nonempty
    · intro c member
      obtain zero | digit := List.mem_append.mp member
      · exact .inl (List.eq_of_mem_replicate zero)
      · exact binary.isDigit c digit

/-- Digits are zeros, or zeros before the first that counts. -/
theorem exists_zeros (binary : ∀ c ∈ digits, c = '0' ∨ c = '1') :
    ∃ zeros, digits = List.replicate zeros '0' ∨
      ∃ rest, digits = List.replicate zeros '0' ++ '1' :: rest := by
  induction digits with
  | nil => exact ⟨0, .inl rfl⟩
  | cons c rest ih =>
    obtain rfl | rfl := binary c List.mem_cons_self
    · obtain ⟨zeros, rfl | ⟨later, rfl⟩⟩ :=
        ih fun c member => binary c (List.mem_cons_of_mem _ member)
      · exact ⟨zeros + 1, .inl rfl⟩
      · exact ⟨zeros + 1, .inr ⟨later, rfl⟩⟩
    · exact ⟨0, .inr ⟨rest, rfl⟩⟩

/-! ## Codes without a byte -/

theorem pow_le_ofDigitChars (rest : List Char) :
    2 ^ rest.length ≤ Nat.ofDigitChars 2 ('1' :: rest) 0 := by
  have least := mul_pow_le_ofDigitChars 2 1 rest
  rw [Nat.one_mul] at least
  exact Nat.ofDigitChars_cons ▸ least

theorem ofDigitChars_lt_pow (binary : ∀ c ∈ rest, c = '0' ∨ c = '1') :
    Nat.ofDigitChars 2 ('1' :: rest) 0 < 2 ^ (rest.length + 1) := by
  have bound := @ofDigitChars_lt 2 1 rest fun c member => (binary_iff.mpr (binary c member)).2
  rw [Nat.pow_succ']
  exact Nat.ofDigitChars_cons ▸ bound

theorem Rejected.not_denotes (rejected : Rejected code) : ¬Denotes value.toNat code := by
  intro denotes
  cases rejected with
  | empty =>
    obtain ⟨binary, _⟩ := (denotes_append_iff .none (by simp)).mp denotes
    exact binary.nonempty rfl
  | signAlone =>
    obtain ⟨binary, _⟩ := (denotes_append_iff .plus (by simp)).mp denotes
    exact binary.nonempty rfl
  | secondPlus later => exact denotes.unsigned_tail later
  | minus member => exact absurd (denotes.mem member) (by decide)
  | blank member blank =>
    obtain rfl | rfl | rfl := denotes.mem member <;> revert blank <;> decide
  | other member strange =>
    obtain ⟨notPlus, notZero, notOne⟩ := strange
    obtain plus | zero | one := denotes.mem member
    · exact notPlus plus
    · exact notZero zero
    · exact notOne one
  | @large sign rest zeros optional long =>
    have unsigned : ('1' :: rest).head? ≠ some '+' := by simp
    obtain ⟨_, same⟩ := (denotes_append_iff optional (head_zeros_append zeros unsigned)).mp denotes
    rw [ofDigitChars_zeros_append] at same
    have large : 2 ^ 8 ≤ value.toNat :=
      same ▸ Nat.le_trans (Nat.pow_le_pow_right (by decide) long) (pow_le_ofDigitChars rest)
    exact Nat.not_le_of_lt value.toNat_lt large

theorem rejected_of_binary (optional : IsSign sign) (binary : Binary digits)
    (unread : byte? (sign ++ digits) = none) : Rejected (sign ++ digits) := by
  have large : 256 ≤ Nat.ofDigitChars 2 digits 0 := by
    apply Nat.le_of_not_lt
    intro small
    have value := UInt8.toNat_ofNat_of_lt' small
    have read := byte?_eq_some_iff_denotes.mpr (.intro optional binary value.symm)
    cases unread.symm.trans read
  obtain ⟨zeros, rfl | ⟨rest, rfl⟩⟩ := exists_zeros binary.isDigit
  · rw [Nat.ofDigitChars_replicate_zero] at large
    cases large
  · refine .large optional (Nat.le_of_not_lt ?_)
    intro short
    have small := @ofDigitChars_lt_pow rest fun c member =>
      binary.isDigit c (List.mem_append_right _ (List.mem_cons_of_mem _ member))
    have power : 2 ^ (rest.length + 1) ≤ 2 ^ 8 := Nat.pow_le_pow_right (by decide) short
    rw [ofDigitChars_zeros_append] at large
    omega

/-- No byte is read exactly if the code looks like one of those that are rejected. -/
theorem byte?_eq_none_iff : byte? code = none ↔ Rejected code := by
  constructor
  · intro unread
    -- What is left after the first two cases is a sign, or digits behind one or none.
    by_cases strange : ∃ c ∈ code, c ≠ '+' ∧ c ≠ '0' ∧ c ≠ '1'
    · obtain ⟨c, member, strange⟩ := strange
      exact .other member strange
    by_cases later : '+' ∈ code.tail
    · exact .secondPlus later
    have plain : ∀ c ∈ code, c ≠ '+' → c = '0' ∨ c = '1' := by
      intro c member notPlus
      apply Decidable.byContradiction
      intro neither
      exact strange ⟨c, member, notPlus, not_or.mp neither⟩
    cases code with
    | nil => exact .empty
    | cons c rest =>
      have tail : ∀ d ∈ rest, d = '0' ∨ d = '1' := by
        intro d member
        apply plain d (List.mem_cons_of_mem c member)
        rintro rfl
        exact later member
      by_cases signed : c = '+'
      · subst signed
        cases rest with
        | nil => exact .signAlone
        | cons d rest => exact rejected_of_binary .plus ⟨List.cons_ne_nil d rest, tail⟩ unread
      · have head := plain c List.mem_cons_self signed
        have binary : Binary (c :: rest) :=
          ⟨List.cons_ne_nil c rest, List.forall_mem_cons.mpr ⟨head, tail⟩⟩
        exact rejected_of_binary .none binary unread
  · intro rejected
    apply Option.eq_none_iff_forall_ne_some.mpr
    intro value read
    exact rejected.not_denotes (byte?_eq_some_iff_denotes.mp read)

end Codes

/-! ## Lines -/

/-- What some lines give, if the first of them has the given number. -/
def ofLines (number : Nat) (lines : List (List Char)) : Listing :=
  { bytes := (lines.map content).filterMap Content.byte?
    skipped := skippedFrom number (lines.map content) }

theorem ofLines_append (number : Nat) (first second : List (List Char)) :
    ofLines number (first ++ second) =
      ofLines number first ++ ofLines (number + first.length) second := by
  rw [ofLines, List.map_append, List.filterMap_append, skippedFrom_append, List.length_map]
  rfl

/-- What a line gives: a byte, or a note on its code if it has any. -/
theorem ofLines_singleton (number : Nat) (line : List Char) :
    ofLines number [line] =
      { bytes := (byte? (code line)).toList
        skipped := if byte? (code line) = none ∧ code line ≠ [] then
          [{ number, code := code line }] else [] } := by
  rw [ofLines, List.map_singleton, skippedFrom_cons, content, Content.ofCode]
  cases byte? (code line) with
  | some value => rfl
  | none =>
    cases code line with
    | nil => rfl
    | cons c rest => rfl

/-- Every line of a text gives its own share of the bytes and of the notes, and this is
the byte that its code denotes, with or without zeros before it, or nothing and a note at
debug level, if the code looks like one of those that are rejected and is not empty. -/
theorem line_yields_byte_iff_numeral {text line : List Char} {before after : List (List Char)}
    (split : lines text = before ++ line :: after) :
    (Carries (code line) line ∧ IsCode (code line)) ∧
      ∃ byte : Option UInt8,
        (∀ value, byte = some value ↔ Denotes value.toNat (code line)) ∧
        (byte = none ↔ Rejected (code line)) ∧
        (∀ sign zeros digits, IsSign sign → Binary digits →
          code line = sign ++ (List.replicate zeros '0' ++ digits) →
          ∀ value, byte = some value ↔ Nat.ofDigitChars 2 digits 0 = value.toNat) ∧
        parse text =
          ofLines 1 before ++
            { bytes := byte.toList
              skipped := if byte = none ∧ code line ≠ [] then
                [{ number := before.length + 1, code := code line }] else [] } ++
            ofLines (before.length + 2) after ∧
        (∀ note, (LogRecord.skipped note).severity = .debug) ∧
        ∀ (m : Machine) (sink : Sink), (m.loadText sink text).log =
          (parse text).skipped.map .skipped ++ (m.loadRecorded sink (parse text).bytes).log := by
  refine ⟨carries_code line, byte? (code line), fun value => byte?_eq_some_iff_denotes,
    byte?_eq_none_iff, ?_, ?_, fun note => rfl, fun m sink => rfl⟩
  · intro sign zeros digits optional binary whole value
    rw [byte?_eq_some_iff_denotes, whole]
    exact denotes_zeros_append_iff optional binary
  · have whole : parse text = ofLines 1 (lines text) := rfl
    have next : 1 + (before ++ [line]).length = before.length + 2 := by simp; omega
    rw [whole, split, List.append_cons, ofLines_append, ofLines_append, ofLines_singleton, next,
      Nat.add_comm 1]

/-- A numeral of three with eleven digits, of which two count, and one of 256 with nine
that all count. -/
theorem line_yields_byte_iff_numeral_many_digits :
    ∃ text three large : List Char, lines text = [three, large] ∧
      three = '+' :: (List.replicate 9 '0' ++ ['1', '1']) ∧
      large = '1' :: List.replicate 8 '0' ∧ Rejected (code large) ∧
      parse text = { bytes := [3], skipped := [⟨2, large⟩] } := by
  let three := '+' :: (List.replicate 9 '0' ++ ['1', '1'])
  let large := '1' :: List.replicate 8 '0'
  have split : lines (three ++ '\n' :: large) = [] ++ three :: [large] := by decide +kernel
  have signed : code three = ['+'] ++ (List.replicate 9 '0' ++ ['1', '1']) := by decide +kernel
  have binary : Binary ['1', '1'] := ⟨by simp, by simp⟩
  have rejected : Rejected (code large) := byte?_eq_none_iff.mp (by decide +kernel)
  have second : ofLines 2 [large] = { bytes := [], skipped := [⟨2, large⟩] } := by decide +kernel
  obtain ⟨_, byte, _, _, zeros, reads, _⟩ := line_yields_byte_iff_numeral split
  obtain rfl : byte = some 3 := (zeros ['+'] 9 ['1', '1'] .plus binary signed 3).mpr (by decide)
  refine ⟨three ++ '\n' :: large, three, large, split, rfl, rfl, rejected, reads.trans ?_⟩
  rw [List.length_nil, second]
  rfl

end LS8.Listing
