/-!
# String literals

A JSON string stands between quotes as a *literal*: quotes, backslashes and control characters are
escaped, everything else is written as it is. `escape` writes the literal of a text and `unescape?`
reads one back. A literal may hold escapes of UTF-16 code units that pair up to no character; such
a literal is well formed but stands for no text.
-/

namespace Offload.Json

/-- The digits of base sixteen. -/
def hexDigits : List Char :=
  ['0', '1', '2', '3', '4', '5', '6', '7', '8', '9', 'a', 'b', 'c', 'd', 'e', 'f']

/-- The value of a digit of base sixteen, in either case. -/
def hexValue? (c : Char) : Option Nat :=
  if '0' ≤ c ∧ c ≤ '9' then some (c.toNat - 48)
  else if 'a' ≤ c ∧ c ≤ 'f' then some (c.toNat - 87)
  else if 'A' ≤ c ∧ c ≤ 'F' then some (c.toNat - 55)
  else none

/-- The letter of a control character that has a short escape. -/
def shortEscape? (c : Char) : Option Char :=
  if c = '\x08' then some 'b'
  else if c = '\x0c' then some 'f'
  else if c = '\n' then some 'n'
  else if c = '\r' then some 'r'
  else if c = '\t' then some 't'
  else if c = '"' then some '"'
  else if c = '\\' then some '\\'
  else none

/-- How one character is written in a literal: by its short escape, by its number if it is a
    control character, and as itself otherwise. -/
def escapeChar (c : Char) : List Char :=
  match shortEscape? c with
  | some letter => ['\\', letter]
  | none =>
    if c < ' ' then
      ['\\', 'u', '0', '0', hexDigits.getD (c.toNat / 16) '0', hexDigits.getD (c.toNat % 16) '0']
    else [c]

/-- The literal of a text. -/
def escape (text : List Char) : List Char :=
  text.flatMap escapeChar

/-- The character of a short escape. A slash may be escaped too. -/
def unescapeLetter? (letter : Char) : Option Char :=
  if letter = 'b' then some '\x08'
  else if letter = 'f' then some '\x0c'
  else if letter = 'n' then some '\n'
  else if letter = 'r' then some '\r'
  else if letter = 't' then some '\t'
  else if letter = '"' then some '"'
  else if letter = '\\' then some '\\'
  else if letter = '/' then some '/'
  else none

/-- The number that four digits of base sixteen stand for. -/
def codeUnit? (a b c d : Char) : Option Nat := do
  let w ← hexValue? a
  let x ← hexValue? b
  let y ← hexValue? c
  let z ← hexValue? d
  return ((w * 16 + x) * 16 + y) * 16 + z

/-- The unit opens a surrogate pair. -/
def isHighSurrogate (unit : Nat) : Bool := 0xD800 ≤ unit && unit ≤ 0xDBFF

/-- The unit closes a surrogate pair. -/
def isLowSurrogate (unit : Nat) : Bool := 0xDC00 ≤ unit && unit ≤ 0xDFFF

/-- The character that a surrogate pair encodes. -/
def ofSurrogates (high low : Nat) : Char :=
  Char.ofNat (0x10000 + (high - 0xD800) * 0x400 + (low - 0xDC00))

/-- Reads the text of a literal. Fails where an escape is unknown, where a character is left
    unescaped that must not be, and where surrogates do not pair up. -/
def unescape? : List Char → Option (List Char)
  | [] => some []
  | '\\' :: 'u' :: a :: b :: c :: d :: rest => do
    let unit ← codeUnit? a b c d
    if isHighSurrogate unit then
      match rest with
      | '\\' :: 'u' :: a' :: b' :: c' :: d' :: rest' =>
        let next ← codeUnit? a' b' c' d'
        if isLowSurrogate next then
          return ofSurrogates unit next :: (← unescape? rest')
        else none
      | _ => none
    else if isLowSurrogate unit then none
    else return Char.ofNat unit :: (← unescape? rest)
  | '\\' :: letter :: rest => do
    let c ← unescapeLetter? letter
    return c :: (← unescape? rest)
  | c :: rest =>
    if c < ' ' ∨ c = '"' ∨ c = '\\' then none
    else (unescape? rest).map (c :: ·)

end Offload.Json
