import Stencil.Body.Fault
import Stencil.Text.Pairs

/-! # Diagnosis of a fault

What an author is shown about a fault: the directive at fault as a stretch of the body in bytes,
what is wrong with it, and what to do about it.
-/

namespace Stencil

/-- A fault as it is shown: what is wrong, a label on a stretch of the body, and advice. -/
structure Diagnosis where
  message : String
  help : String
  label : String
  offset : Nat
  length : Nat

/-- The code under which every fault is reported. -/
def Diagnosis.code : String := "docmerge::syntax"

namespace Fault

/-- What is wrong with the directive at fault. -/
def label : Fault → String
  | unmatchedClose _ => "no loop to close"
  | unclosed .. => "loop opened here"
  | tooDeep .. => "nested too deeply"

/-- What to do about a fault. -/
def help : Fault → String
  | unmatchedClose _ =>
    "remove this \x7b\x7b/each\x7d\x7d or add a matching \x7b\x7b#each collection\x7d\x7d before it"
  | unclosed .. => "add \x7b\x7b/each\x7d\x7d where the repeated block ends"
  | tooDeep .. => "flatten the template so fewer loops are open at once"

/-- The number of bytes of a text in UTF-8. -/
def byteLength (chars : List Char) : Nat := chars.foldl (fun n c => n + c.utf8Size) 0

/-- The characters of a text from a byte offset on. -/
def dropBytes (offset : Nat) : List Char → List Char
  | [] => []
  | c :: rest => if offset = 0 then c :: rest else dropBytes (offset - c.utf8Size) rest

/-- The diagnosis of a fault in a body: the label covers the directive at fault with its braces, or
the rest of the body if nothing closes it. -/
def diagnose (body : String) (fault : Fault) : Diagnosis :=
  let chars := body.toList
  let offset := min fault.position.offset (byteLength chars)
  let rest := dropBytes offset chars
  let length :=
    match Text.cutAtPair? '\x7d' rest with
    | some (inside, _) => byteLength inside + 2
    | none => byteLength rest
  { message := fault.message, help := fault.help, label := fault.label, offset, length }

end Fault

end Stencil
