import Offload.Text.Hidden
import Offload.Text.Ignorable
import Offload.Text.Mark

/-!
# Quoted text

A text in double quotes, with escapes for double quotes, backslashes and what would not show: hidden
and ignorable characters, and marks that attach to the character before them. The short escapes are
those for the null character, tab, line feed and carriage return; all others give the code point.
-/

namespace Offload.Text

/-- The character shows as it is. -/
def isShown (c : Char) : Bool :=
  !(isHidden c || isIgnorable c || isMark c)

/-- A character between quotes. -/
def quotedChar (c : Char) : List Char :=
  if c = '"' then ['\\', '"']
  else if c = '\\' then ['\\', '\\']
  else if c = '\n' then ['\\', 'n']
  else if c = '\r' then ['\\', 'r']
  else if c = '\t' then ['\\', 't']
  else if c.toNat = 0 then ['\\', '0']
  else if isShown c then [c]
  else ['\\', 'u', '\x7b'] ++ Nat.toDigits 16 c.toNat ++ ['\x7d']

/-- A text between quotes. -/
def quoted (text : String) : String :=
  String.ofList ('"' :: text.toList.flatMap quotedChar ++ ['"'])

end Offload.Text
