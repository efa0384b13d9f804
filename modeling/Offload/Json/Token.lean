import Offload.Json.Text

/-!
# Tokens

A JSON text is a sequence of tokens with blanks anywhere between them. A token keeps a string or
number as the literal that stands in the text. `Token.text` writes a token and `Token.scan?` reads
the tokens of a text; blanks leave no trace, so that two layouts of one value scan alike.
-/

namespace Offload.Json

/-- The smallest parts of a JSON text. -/
inductive Token where
  /-- An opening square bracket. -/
  | openArray
  /-- A closing square bracket. -/
  | closeArray
  /-- An opening brace. -/
  | openObject
  /-- A closing brace. -/
  | closeObject
  /-- The colon between a key and its value. -/
  | colon
  /-- The comma between two values. -/
  | comma
  /-- The word `null`. -/
  | null
  /-- The word `true` or `false`. -/
  | bool (value : Bool)
  /-- A number, as it is written. -/
  | number (literal : List Char)
  /-- A string, as it is written between its quotes. -/
  | string (literal : List Char)
  deriving DecidableEq, Repr

namespace Token

/-- How a token is written. -/
def text : Token → List Char
  | openArray => ['[']
  | closeArray => [']']
  | openObject => ['\x7b']
  | closeObject => ['\x7d']
  | colon => [':']
  | comma => [',']
  | null => ['n', 'u', 'l', 'l']
  | bool true => ['t', 'r', 'u', 'e']
  | bool false => ['f', 'a', 'l', 's', 'e']
  | number literal => literal
  | string literal => '"' :: literal ++ ['"']

/-- The four characters that may stand between tokens. -/
def isSpace (c : Char) : Bool :=
  c = ' ' || c = '\n' || c = '\t' || c = '\r'

/-- Reads a string literal up to the quote that ends it. -/
def stringLiteral? : List Char → Option (List Char × List Char)
  | [] => none
  | '"' :: rest => some ([], rest)
  | '\\' :: 'u' :: a :: b :: c :: d :: rest =>
    if (codeUnit? a b c d).isSome then
      (stringLiteral? rest).map fun (literal, rest) =>
        ('\\' :: 'u' :: a :: b :: c :: d :: literal, rest)
    else none
  | '\\' :: letter :: rest =>
    if (unescapeLetter? letter).isSome then
      (stringLiteral? rest).map fun (literal, rest) => ('\\' :: letter :: literal, rest)
    else none
  | c :: rest =>
    if c < ' ' ∨ c = '\\' then none
    else (stringLiteral? rest).map fun (literal, rest) => (c :: literal, rest)

/-- Splits off the decimal digits at the start. -/
def digits (text : List Char) : List Char × List Char :=
  text.span fun c => '0' ≤ c && c ≤ '9'

/-- Reads the part of a number before the point: no sign, and no zero before another digit. -/
def wholePart? : List Char → Option (List Char × List Char)
  | '0' :: rest => some (['0'], rest)
  | text => if (digits text).1.isEmpty then none else some (digits text)

/-- Reads the point and the digits behind it, if a point is there. -/
def fractionPart? : List Char → Option (List Char × List Char)
  | '.' :: rest =>
    let (fraction, rest) := digits rest
    if fraction.isEmpty then none else some ('.' :: fraction, rest)
  | text => some ([], text)

/-- Reads the exponent, if there is one. -/
def exponentPart? : List Char → Option (List Char × List Char)
  | mark :: rest =>
    if mark = 'e' ∨ mark = 'E' then
      let signed := rest.head? = some '+' ∨ rest.head? = some '-'
      let (sign, rest) := rest.splitAt (if signed then 1 else 0)
      if (digits rest).1.isEmpty then none
      else some (mark :: sign ++ (digits rest).1, (digits rest).2)
    else some ([], mark :: rest)
  | [] => some ([], [])

/-- Reads a number. -/
def numberLiteral? (text : List Char) : Option (List Char × List Char) := do
  let (sign, rest) := text.splitAt (if text.head? = some '-' then 1 else 0)
  let (whole, rest) ← wholePart? rest
  let (fraction, rest) ← fractionPart? rest
  let (exponent, rest) ← exponentPart? rest
  return (sign ++ whole ++ fraction ++ exponent, rest)

/-- Reads one token at the very start of the text. -/
def next? : List Char → Option (Token × List Char)
  | '[' :: rest => some (openArray, rest)
  | ']' :: rest => some (closeArray, rest)
  | '\x7b' :: rest => some (openObject, rest)
  | '\x7d' :: rest => some (closeObject, rest)
  | ':' :: rest => some (colon, rest)
  | ',' :: rest => some (comma, rest)
  | 'n' :: 'u' :: 'l' :: 'l' :: rest => some (null, rest)
  | 't' :: 'r' :: 'u' :: 'e' :: rest => some (bool true, rest)
  | 'f' :: 'a' :: 'l' :: 's' :: 'e' :: rest => some (bool false, rest)
  | '"' :: rest => (stringLiteral? rest).map fun (literal, rest) => (string literal, rest)
  | text => (numberLiteral? text).map fun (literal, rest) => (number literal, rest)

/-- Reads tokens to the end of the text, with a bound on their number. -/
def scanUpTo : Nat → List Char → Option (List Token)
  | bound, text =>
    match text.dropWhile isSpace with
    | [] => some []
    | rest =>
      match bound with
      | 0 => none
      | bound + 1 => do
        let (token, rest) ← next? rest
        return token :: (← scanUpTo bound rest)

/-- The tokens of a text, if it consists of tokens and blanks only. No text has more tokens than
    characters. -/
def scan? (text : List Char) : Option (List Token) :=
  scanUpTo text.length text

end Token

end Offload.Json
