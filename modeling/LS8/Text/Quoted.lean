import LS8.Text.Combining
import LS8.Text.Numeral
import LS8.Text.Unprintable

/-!
# Quoted text

A text between double quotes, in which every character can be seen: quotes,
backslashes, line ends, tabs and the zero character have short escapes, and
any other character that is unprintable or combining is written as `\u{…}`
with its code point in lower-case hexadecimal.
-/

namespace LS8.Text.Quoted

def backslash : Char := '\x5c'

def quote : Char := '\x22'

/-- The escape of a character by its code point. -/
def codePointEscape (c : Char) : List Char :=
  [backslash, 'u', '\x7b'] ++ Nat.toDigits 16 c.toNat ++ ['\x7d']

/-- How a character stands inside quoted text. -/
def escape (c : Char) : List Char :=
  if c = '\x00' then [backslash, '0']
  else if c = '\t' then [backslash, 't']
  else if c = '\n' then [backslash, 'n']
  else if c = '\r' then [backslash, 'r']
  else if c = quote then [backslash, quote]
  else if c = backslash then [backslash, backslash]
  else if isCombining c || isUnprintable c then codePointEscape c
  else [c]

def encode (text : List Char) : List Char :=
  quote :: text.flatMap escape ++ [quote]

end LS8.Text.Quoted
