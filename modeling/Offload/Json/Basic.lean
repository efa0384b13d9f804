import Offload.Json.Number
import Offload.Json.Token

/-!
# JSON values

A value is a tree whose strings and numbers are kept as literals and whose objects keep the order
of their members. `Json.compact` writes it without blanks, `Json.pretty` over several lines; both
write the same tokens (`Json.tokens`), and `Json.parse?` reads the value from the tokens alone.
`Json.sorted` puts the members of all objects into the order of their keys.
-/

namespace Offload

/-- A JSON value. -/
inductive Json where
  /-- The value `null`. -/
  | null
  /-- A truth value. -/
  | bool (value : Bool)
  /-- A number, as it is written. -/
  | number (literal : List Char)
  /-- A string, as it is written between its quotes. -/
  | string (literal : List Char)
  /-- A list of values. -/
  | array (items : List Json)
  /-- Values under keys, in the order in which they are written. -/
  | object (members : List (List Char × Json))
  deriving Repr

namespace Json

/-! ### Making values -/

/-- The value of a text. -/
def ofText (text : String) : Json := string (escape text.toList)

/-- The value of a natural number. -/
def ofNat (n : Nat) : Json := number (toString n).toList

/-- The value of an integer. -/
def ofInt (n : Int) : Json := number (toString n).toList

/-- The value of a floating-point number: `null` unless it is finite. -/
def ofFloat (x : Float) : Json :=
  match floatLiteral? x with
  | some literal => number literal.toList
  | none => null

/-- An object with plain keys. -/
def record (members : List (String × Json)) : Json :=
  object (members.map fun (key, value) => (escape key.toList, value))

/-! ### Tokens and layouts -/

mutual

/-- The tokens of a value. -/
def tokens : Json → List Token
  | null => [.null]
  | bool value => [.bool value]
  | number literal => [.number literal]
  | string literal => [.string literal]
  | array [] => [.openArray, .closeArray]
  | array (item :: items) => .openArray :: tokens item ++ itemTokens items
  | object [] => [.openObject, .closeObject]
  | object ((key, value) :: members) =>
    .openObject :: .string key :: .colon :: tokens value ++ memberTokens members

/-- The tokens of the items after the first, and of the end of the array. -/
def itemTokens : List Json → List Token
  | [] => [.closeArray]
  | item :: items => .comma :: tokens item ++ itemTokens items

/-- The tokens of the members after the first, and of the end of the object. -/
def memberTokens : List (List Char × Json) → List Token
  | [] => [.closeObject]
  | (key, value) :: members =>
    .comma :: .string key :: .colon :: tokens value ++ memberTokens members

end

/-- The text without any blank. -/
def compact (value : Json) : String :=
  String.ofList ((tokens value).flatMap Token.text)

/-- The start of a line at a depth: two blanks for each level. -/
def newLine (depth : Nat) : List Char :=
  '\n' :: List.replicate (2 * depth) ' '

mutual

/-- The tokens of a value at a depth, each with the blanks before it. -/
def spaced (depth : Nat) (before : List Char) : Json → List (List Char × Token)
  | null => [(before, .null)]
  | bool value => [(before, .bool value)]
  | number literal => [(before, .number literal)]
  | string literal => [(before, .string literal)]
  | array [] => [(before, .openArray), ([], .closeArray)]
  | array (item :: items) =>
    (before, .openArray) :: spaced (depth + 1) (newLine (depth + 1)) item
      ++ spacedItems depth items
  | object [] => [(before, .openObject), ([], .closeObject)]
  | object ((key, value) :: members) =>
    (before, .openObject) :: (newLine (depth + 1), .string key) :: ([], .colon)
      :: spaced (depth + 1) [' '] value ++ spacedMembers depth members

/-- The items after the first of an array at a depth, and the end of the array. -/
def spacedItems (depth : Nat) : List Json → List (List Char × Token)
  | [] => [(newLine depth, .closeArray)]
  | item :: items =>
    ([], .comma) :: spaced (depth + 1) (newLine (depth + 1)) item ++ spacedItems depth items

/-- The members after the first of an object at a depth, and the end of the object. -/
def spacedMembers (depth : Nat) : List (List Char × Json) → List (List Char × Token)
  | [] => [(newLine depth, .closeObject)]
  | (key, value) :: members =>
    ([], .comma) :: (newLine (depth + 1), .string key) :: ([], .colon)
      :: spaced (depth + 1) [' '] value ++ spacedMembers depth members

end

/-- The text over several lines, one item or member a line. -/
def pretty (value : Json) : String :=
  String.ofList ((spaced 0 [] value).flatMap fun (before, token) => before ++ token.text)

/-! ### The order of members -/

mutual

/-- The same value with the members of all objects in the order of their keys. -/
def sorted : Json → Json
  | array items => array (sortedItems items)
  | object members => object ((sortedMembers members).mergeSort fun x y => !decide (y.1 < x.1))
  | value => value

/-- Sorts inside each item of an array. -/
def sortedItems : List Json → List Json
  | [] => []
  | item :: items => sorted item :: sortedItems items

/-- Sorts inside each member of an object. -/
def sortedMembers : List (List Char × Json) → List (List Char × Json)
  | [] => []
  | (key, value) :: members => (key, sorted value) :: sortedMembers members

end

/-! ### Reading -/

mutual

/-- Reads one value from the front of the tokens. Every value takes at least one unit of the
    bound for each of its tokens. -/
def value? : Nat → List Token → Option (Json × List Token)
  | _ + 1, .null :: rest => some (null, rest)
  | _ + 1, .bool b :: rest => some (bool b, rest)
  | _ + 1, .number literal :: rest => some (number literal, rest)
  | _ + 1, .string literal :: rest => some (string literal, rest)
  | _ + 1, .openArray :: .closeArray :: rest => some (array [], rest)
  | bound + 1, .openArray :: rest => do
    let (item, rest) ← value? bound rest
    let (items, rest) ← items? bound rest
    return (array (item :: items), rest)
  | _ + 1, .openObject :: .closeObject :: rest => some (object [], rest)
  | bound + 1, .openObject :: .string key :: .colon :: rest => do
    let (value, rest) ← value? bound rest
    let (members, rest) ← members? bound rest
    return (object ((key, value) :: members), rest)
  | _, _ => none

/-- Reads the items after the first, up to the end of the array. -/
def items? : Nat → List Token → Option (List Json × List Token)
  | _ + 1, .closeArray :: rest => some ([], rest)
  | bound + 1, .comma :: rest => do
    let (item, rest) ← value? bound rest
    let (items, rest) ← items? bound rest
    return (item :: items, rest)
  | _, _ => none

/-- Reads the members after the first, up to the end of the object. -/
def members? : Nat → List Token → Option (List (List Char × Json) × List Token)
  | _ + 1, .closeObject :: rest => some ([], rest)
  | bound + 1, .comma :: .string key :: .colon :: rest => do
    let (value, rest) ← value? bound rest
    let (members, rest) ← members? bound rest
    return ((key, value) :: members, rest)
  | _, _ => none

end

/-- Reads the one value of a token sequence. -/
def ofTokens? (tokens : List Token) : Option Json :=
  match value? tokens.length tokens with
  | some (value, []) => some value
  | _ => none

/-- Reads the one value of a text. -/
def parse? (text : String) : Option Json := do
  ofTokens? (← Token.scan? text.toList)

end Json

end Offload
