import LS8.Text.CodePoints

/-!
# Blank characters

The characters with the Unicode property `White_Space`, and how a text is
trimmed of them at both ends.
-/

namespace LS8.Text

/-- The code points with the property `White_Space`. -/
def blanks : CodePoints :=
  [(0x0009, 0x000D), (0x0020, 0x0020), (0x0085, 0x0085), (0x00A0, 0x00A0), (0x1680, 0x1680),
    (0x2000, 0x200A), (0x2028, 0x2029), (0x202F, 0x202F), (0x205F, 0x205F), (0x3000, 0x3000)]

def isBlank (c : Char) : Bool :=
  blanks.contains c

def trimStart (text : List Char) : List Char :=
  text.dropWhile isBlank

def trim (text : List Char) : List Char :=
  (trimStart (trimStart text).reverse).reverse

/-! ## Basic facts -/

@[simp] theorem trim_nil : trim [] = [] := rfl

end LS8.Text
