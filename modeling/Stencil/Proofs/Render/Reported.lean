import Stencil.Proofs.Json.Pretty
import Stencil.Render

/-! # Warnings and output read back from JSON

A warning is an object whose member `kind` says which other members there are. What a program gets
from the JSON of a rendered template is the output and the warnings as they were.
-/

namespace Stencil

open Json Json.Reader

namespace Warning

/-- Reads where a warning points. -/
def placeReader : Reader Place := fun draft => do
  return ⟨← member "line" count draft, ← member "column" count draft⟩

/-- Reads a warning by its kind. -/
def reader : Reader Warning := fun draft => do
  let place ← placeReader draft
  match ← member "kind" text draft with
  | "unresolved_variable" =>
    return .unresolved (← member "path" text draft) place (← member "scope" (list text) draft)
      (← member "suggestions" (list text) draft)
  | "missing_collection" =>
    return .missingCollection (← member "collection" text draft) place
      (← member "scope" (list text) draft)
  | "not_a_collection" =>
    return .notACollection (← member "collection" text draft) (← member "found" text draft) place
  | "non_scalar_value" => return .notScalar (← member "path" text draft) place
  | "malformed_directive" => return .malformed (← member "text" text draft) place
  | "unterminated_directive" => return .unterminated place
  | _ => throw .malformed

theorem isExact_toJson (warning : Warning) : warning.toJson.isExact = true := by
  cases warning <;> simp [toJson, members, placeMembers, isExact, membersExact]

theorem reader_ofJson (warning : Warning) : reader (.ofJson warning.toJson) = .ok warning := by
  cases warning <;> simp [reader, placeReader, toJson, members, placeMembers, member_ofJson,
    List.lookup_cons, bind, Except.bind, pure, Except.pure]

end Warning

namespace Rendered

/-- Reads a rendered template. -/
def reader : Reader Rendered := fun draft => do
  return ⟨← member "output" text draft, ← member "warnings" (list Warning.reader) draft⟩

theorem isExact_toJson (rendered : Rendered) : rendered.toJson.isExact = true := by
  have warnings := areExact_map Warning.isExact_toJson rendered.warnings
  simp [toJson, isExact, membersExact, warnings]

theorem reader_ofJson (rendered : Rendered) : reader (.ofJson rendered.toJson) = .ok rendered := by
  have warnings := list_ofJson Warning.reader_ofJson rendered.warnings
  simp [reader, toJson, member_ofJson, List.lookup_cons, warnings, bind, Except.bind, pure,
    Except.pure]

/-- A rendered template comes back from the text that is printed of it for programs. -/
theorem ofText_toPretty (rendered : Rendered) :
    Reader.ofText reader (rendered.toJson.toPretty ++ "\n") = .ok rendered := by
  rw [Reader.ofText_toPretty reader rendered.isExact_toJson]
  exact rendered.reader_ofJson

end Rendered

end Stencil
