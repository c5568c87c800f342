import LS8.Listing.Basic

/-!
# Program files

A program file holds a program text in UTF-8.  The file system is outside of
this library: what it answers for a file is the contents or a reason why there
are none.
-/

namespace LS8

inductive ReadError where
  -- There is no such file.
  | notFound
  -- A part of the name is used as a directory, and is none.
  | notDirectory
  -- The name is that of a directory.
  | isDirectory
  -- The name, or a part of it, is longer than the file system allows.
  | nameTooLong
  -- The contents are not UTF-8.
  | notText
  -- The file system has a reason of its own.
  | other (reason : String)
  deriving DecidableEq, Repr

def ReadError.message : ReadError → String
  | notFound => "No such file or directory (os error 2)"
  | notDirectory => "Not a directory (os error 20)"
  | isDirectory => "Is a directory (os error 21)"
  | nameTooLong => "File name too long (os error 36)"
  | notText => "stream did not contain valid UTF-8"
  | other reason => reason

/-- Read a program from what the file system answered for its file. -/
def Listing.ofFile (contents : Except ReadError ByteArray) : Except ReadError Listing := do
  match String.fromUTF8? (← contents) with
  | some text => .ok (parse text.toList)
  | none => .error .notText

namespace Listing

/-! ## Basic facts -/

variable {contents : Except ReadError ByteArray}

theorem fromUTF8?_eq_some_iff {bytes : ByteArray} {text : String} :
    String.fromUTF8? bytes = some text ↔ bytes = text.toUTF8 := by
  unfold String.fromUTF8?
  constructor
  · intro read
    split at read
    · obtain rfl := Option.some.inj read
      rfl
    · cases read
  · rintro rfl
    exact dif_pos text.isValidUTF8

theorem fromUTF8?_eq_none_iff {bytes : ByteArray} :
    String.fromUTF8? bytes = none ↔ ¬bytes.IsValidUTF8 := by
  simp [String.fromUTF8?]

theorem ofFile_error (cause : ReadError) : ofFile (.error cause) = .error cause := rfl

theorem ofFile_ok (bytes : ByteArray) :
    ofFile (.ok bytes) =
      match String.fromUTF8? bytes with
      | some text => .ok (parse text.toList)
      | none => .error .notText := rfl

/-- A program is read from a file that holds a text. -/
theorem ofFile_eq_ok_iff {listing : Listing} :
    ofFile contents = .ok listing ↔
      ∃ text : String, contents = .ok text.toUTF8 ∧ listing = parse text.toList := by
  cases contents with
  | error cause => simp [ofFile_error]
  | ok bytes =>
    simp only [ofFile_ok, Except.ok.injEq, ← fromUTF8?_eq_some_iff]
    cases String.fromUTF8? bytes <;> simp [eq_comm]

/-- Reading fails if the file system has no contents, or if they are no text. -/
theorem ofFile_eq_error_iff {cause : ReadError} :
    ofFile contents = .error cause ↔
      contents = .error cause ∨
        ∃ bytes, contents = .ok bytes ∧ ¬bytes.IsValidUTF8 ∧ cause = .notText := by
  cases contents with
  | error other => simp [ofFile_error]
  | ok bytes =>
    simp only [ofFile_ok, Except.ok.injEq, ← fromUTF8?_eq_none_iff]
    cases read : String.fromUTF8? bytes <;> simp [read, eq_comm]

end Listing

end LS8
