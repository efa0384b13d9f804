/-!
# Brackets of a program text

A program text can only be built if its brackets close in the order in which they were opened.
`bracketFault?` walks over the text with the brackets that are still open, innermost first, and
reports the first bracket that closes the wrong one, or else, at the end, the innermost one left
open. All characters that are not brackets are skipped, whatever they stand for in the program.
-/

namespace Offload.Source

/-- The opening brackets. -/
def isOpening (c : Char) : Bool :=
  c = '(' || c = '[' || c = '\x7b'

/-- The opening bracket that belongs to a closing one. -/
def opening? (c : Char) : Option Char :=
  if c = ')' then some '('
  else if c = ']' then some '['
  else if c = '\x7d' then some '\x7b'
  else none

/-- What is wrong with the brackets of a text. Lines are counted from one. -/
inductive BracketFault where
  /-- A bracket closes another one than the innermost open one, or none at all. -/
  | unexpected (line : Nat) (bracket : Char)
  /-- An open bracket is never closed. -/
  | unterminated (line : Nat) (bracket : Char)
  deriving DecidableEq, Repr

/-- Follows the brackets of a text that starts on the given line, with the brackets that are open
    so far, innermost first, each with its line. -/
def bracketFault? (opened : List (Char × Nat)) (line : Nat) : List Char → Option BracketFault
  | [] =>
    match opened with
    | [] => none
    | (bracket, line) :: _ => some (.unterminated line bracket)
  | c :: rest =>
    if c = '\n' then bracketFault? opened (line + 1) rest
    else if isOpening c then bracketFault? ((c, line) :: opened) line rest
    else
      match opening? c with
      | none => bracketFault? opened line rest
      | some expected =>
        match opened with
        | (found, _) :: opened =>
          if found = expected then bracketFault? opened line rest
          else some (.unexpected line c)
        | [] => some (.unexpected line c)

end Offload.Source
