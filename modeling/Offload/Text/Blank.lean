import Offload.Text.Ranges

/-!
# Blank characters

The characters with the Unicode property `White_Space`, and the two ways in which text is freed
from them: at its start (`trimStart`) and at both ends (`trim`). `isBlankText` says that nothing
else is there.
-/

namespace Offload.Text

/-- The inclusive ranges of code points with the property `White_Space`, in order. -/
def blankRanges : List (Nat × Nat) :=
  [(0x9, 0xD), (0x20, 0x20), (0x85, 0x85), (0xA0, 0xA0), (0x1680, 0x1680), (0x2000, 0x200A),
   (0x2028, 0x2029), (0x202F, 0x202F), (0x205F, 0x205F), (0x3000, 0x3000)]

/-- The character has the property `White_Space`. -/
def isBlank (c : Char) : Bool :=
  inRanges blankRanges c

/-- The text from its first character that is not blank. -/
def trimStart (text : List Char) : List Char :=
  text.dropWhile isBlank

/-- The text up to its last character that is not blank. -/
def trimEnd (text : List Char) : List Char :=
  (text.reverse.dropWhile isBlank).reverse

/-- The text without blank characters at either end. -/
def trim (text : List Char) : List Char :=
  trimEnd (trimStart text)

/-- The text has no character that is not blank. -/
def isBlankText (text : String) : Bool :=
  text.toList.all isBlank

end Offload.Text
