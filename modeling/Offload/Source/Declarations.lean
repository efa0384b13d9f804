import Offload.Source.Brackets
import Offload.Text.Blank

/-!
# Kernel declarations of a program text

A program declares kernels. Each declaration is the keyword `__kernel`, the word `void`, a name and
a list of parameters in parentheses; blanks may stand between these. `scan` checks the brackets of
the whole text and then lists the declarations from front to back. Nothing else of the text is
looked at, so that a keyword counts wherever it stands.
-/

namespace Offload.Source

/-- A kernel declaration: the name and the number of parameters. -/
structure Declaration where
  /-- The name of the kernel. -/
  name : String
  /-- How many parameters it takes. -/
  params : Nat
  deriving DecidableEq, Repr

/-- Why a program text is refused. -/
inductive Fault where
  /-- The brackets do not match. -/
  | brackets (fault : BracketFault)
  /-- The keyword is not followed by `void`. -/
  | notVoid
  /-- There is no name where one is due. -/
  | missingName
  /-- There is no parameter list behind a name. -/
  | missingParams (name : String)
  /-- There is no declaration at all. -/
  | noKernels
  deriving DecidableEq, Repr

/-- What the build log says. -/
def Fault.message : Fault → String
  | brackets (.unexpected line bracket) =>
    "<source>:" ++ toString line ++ ": error: unexpected '" ++ bracket.toString ++ "'"
  | brackets (.unterminated line bracket) =>
    "<source>:" ++ toString line ++ ": error: unterminated '" ++ bracket.toString ++ "'"
  | notVoid => "error: kernel function must return void"
  | missingName => "error: expected kernel function name"
  | missingParams name => "error: expected '(' after kernel '" ++ name ++ "'"
  | noKernels => "error: no __kernel functions found in program source"

/-- The keyword that starts a declaration. -/
def keyword : List Char := ['_', '_', 'k', 'e', 'r', 'n', 'e', 'l']

/-- The only result type of a kernel, and also a way to write an empty parameter list. -/
def voidWord : List Char := ['v', 'o', 'i', 'd']

/-- The rest of a text that starts with the given word. -/
def after? : List Char → List Char → Option (List Char)
  | [], text => some text
  | w :: word, c :: text => if w = c then after? word text else none
  | _ :: _, [] => none

/-- The rest of the text behind the first keyword. -/
def afterKeyword? : List Char → Option (List Char)
  | [] => none
  | c :: text => (after? keyword (c :: text)).or (afterKeyword? text)

/-- Names consist of ASCII letters, digits and underscores. -/
def isNameChar (c : Char) : Bool :=
  c.isAlphanum || c = '_'

/-- The number of parameters in a list, given the text behind the opening parenthesis. The list
    ends at the first closing parenthesis; blank or `void` it is empty, and otherwise its commas
    separate parameters. Without a closing parenthesis it counts as empty. -/
def paramCount (text : List Char) : Nat :=
  let list := if text.contains ')' then Text.trim (text.takeWhile (· != ')')) else []
  if list.isEmpty || list = voidWord then 0 else list.count ',' + 1

/-- Reads a declaration from the text behind its keyword. The rest of the text starts right
    behind the name. -/
def declaration (text : List Char) : Except Fault (Declaration × List Char) :=
  match after? voidWord (Text.trimStart text) with
  | none => .error .notVoid
  | some text =>
    let named := Text.trimStart text
    let name := named.takeWhile isNameChar
    let rest := named.dropWhile isNameChar
    if name = [] then .error .missingName
    else
      match Text.trimStart rest with
      | '(' :: params => .ok (⟨String.ofList name, paramCount params⟩, rest)
      | _ => .error (.missingParams (String.ofList name))

theorem length_dropWhile_le (p : Char → Bool) (text : List Char) :
    (text.dropWhile p).length ≤ text.length := by
  induction text with
  | nil => exact Nat.le_refl _
  | cons c rest ih =>
    rw [List.dropWhile_cons]
    split
    · exact Nat.le_succ_of_le ih
    · exact Nat.le_refl _

/-- A word and what stands behind it make up the text. -/
theorem eq_append_of_after? {word text rest : List Char} (h : after? word text = some rest) :
    text = word ++ rest := by
  fun_induction after? word text with
  | case1 text => simpa using h
  | case2 w word text ih => rw [ih h]; rfl
  | case3 w word c text hne => simp at h
  | case4 => simp at h

/-- What stands behind the keyword is shorter than the text. -/
theorem length_lt_of_afterKeyword? {text rest : List Char} (h : afterKeyword? text = some rest) :
    rest.length < text.length := by
  induction text with
  | nil => simp [afterKeyword?] at h
  | cons c text ih =>
    rw [afterKeyword?, Option.or_eq_some_iff] at h
    rcases h with h | ⟨-, h⟩
    · rw [eq_append_of_after? h]
      simp only [keyword, List.length_append, List.length_cons, List.length_nil]
      omega
    · exact Nat.lt_succ_of_lt (ih h)

/-- A declaration takes its part from the front of the text. -/
theorem length_le_of_declaration {text rest : List Char} {decl : Declaration}
    (h : declaration text = .ok (decl, rest)) : rest.length ≤ text.length := by
  unfold declaration at h
  split at h
  · simp at h
  · rename_i behind hbehind
    have hvoid := congrArg List.length (eq_append_of_after? hbehind)
    have hstart := length_dropWhile_le Text.isBlank text
    have hnamed := length_dropWhile_le Text.isBlank behind
    have hrest := length_dropWhile_le isNameChar (Text.trimStart behind)
    simp only [List.length_append, Text.trimStart] at hvoid hstart hnamed hrest
    dsimp only at h
    split at h
    · simp at h
    · split at h
      · simp only [Except.ok.injEq, Prod.mk.injEq] at h
        rw [← h.2]
        simp only [Text.trimStart]
        omega
      · simp at h

/-- The declarations of a text, from front to back. -/
def declarations (text : List Char) : Except Fault (List Declaration) :=
  match _h : afterKeyword? text with
  | none => .ok []
  | some behind =>
    match _h' : declaration behind with
    | .error fault => .error fault
    | .ok (decl, rest) =>
      match declarations rest with
      | .error fault => .error fault
      | .ok decls => .ok (decl :: decls)
termination_by text.length
decreasing_by
  have := length_lt_of_afterKeyword? _h
  have := length_le_of_declaration _h'
  omega

/-- Checks a program text and lists its declarations, of which there must be one at least. -/
def scan (source : String) : Except Fault (List Declaration) :=
  match bracketFault? [] 1 source.toList with
  | some fault => .error (.brackets fault)
  | none =>
    match declarations source.toList with
    | .error fault => .error fault
    | .ok [] => .error .noKernels
    | .ok decls => .ok decls

end Offload.Source
