import Mathlib.Data.String.Basic
import Stencil.Body.Diagnosis
import Stencil.Proofs.Body.Layout
import Stencil.Proofs.Body.Nesting

/-! # What a diagnosis labels

The label of a diagnosis is found by a search of its own: from the position of the fault to the next
closing braces. The directive at fault is one that the body really holds (`Offence.mem`), and it
holds no closing braces but its own, so the label is exactly this directive with its braces.
-/

namespace Stencil

/-- The stretch of a body that a diagnosis labels lies inside the body, between characters, and reads
as the given text. -/
structure Diagnosis.Covers (diagnosis : Diagnosis) (body text : String) : Prop where
  inside : diagnosis.offset + diagnosis.length ≤ body.utf8ByteSize
  begins : String.Pos.Raw.IsValid body ⟨diagnosis.offset⟩
  ends : String.Pos.Raw.IsValid body ⟨diagnosis.offset + diagnosis.length⟩
  reads : String.Pos.Raw.extract body ⟨diagnosis.offset⟩ ⟨diagnosis.offset + diagnosis.length⟩ = text

/-- A label covers a part of a body if it starts where the text in front of that ends, and is as
long. -/
theorem Diagnosis.covers_of_parts {diagnosis : Diagnosis} {body : String}
    {before text behind : List Char} (whole : before ++ text ++ behind = body.toList)
    (offset : diagnosis.offset = String.utf8Len before)
    (length : diagnosis.length = String.utf8Len text) :
    diagnosis.Covers body (String.ofList text) := by
  obtain rfl : String.ofList (before ++ text ++ behind) = body := by rw [whole, String.ofList_toList]
  constructor
  · rw [offset, length, String.utf8ByteSize_ofList]
    simp
  · rw [String.Pos.Raw.isValid_iff_exists_append]
    refine ⟨String.ofList before, String.ofList (text ++ behind), ?_, ?_⟩
    · rw [← String.ofList_append, List.append_assoc]
    · rw [offset, String.rawEndPos_ofList]
  · rw [String.Pos.Raw.isValid_iff_exists_append]
    refine ⟨String.ofList (before ++ text), String.ofList behind, ?_, ?_⟩
    · rw [← String.ofList_append]
    · rw [offset, length, String.rawEndPos_ofList, String.utf8Len_append]
  · rw [offset, length]
    exact String.extract_of_valid before text behind

namespace Fault

/-- The directive that a fault is about. -/
def directive : Fault → Directive
  | unmatchedClose _ => .close
  | unclosed collection _ _ => .each collection
  | tooDeep collection _ => .each collection

theorem byteLength_eq (chars : List Char) : byteLength chars = String.utf8Len chars := by
  have shifted : ∀ n : Nat,
      chars.foldl (fun n c => n + c.utf8Size) n = n + String.utf8Len chars := by
    induction chars with
    | nil => intro n; rfl
    | cons c rest ih =>
      intro n
      rw [List.foldl_cons, ih, String.utf8Len_cons]
      omega
  exact (shifted 0).trans (Nat.zero_add _)

/-- Dropping as many bytes as a text has in front leaves the rest. -/
theorem dropBytes_append (front rest : List Char) :
    dropBytes (String.utf8Len front) (front ++ rest) = rest := by
  induction front with
  | nil => cases rest <;> rfl
  | cons c front ih =>
    have positive := c.utf8Size_pos
    rw [String.utf8Len_cons, List.cons_append, dropBytes, if_neg (by omega), Nat.add_sub_cancel]
    exact ih

end Fault

namespace Token

/-- The directive at fault is among the tokens, at the position of the fault. -/
theorem Offence.mem {tokens : List Token} {fault : Fault} (offence : Offence tokens fault) :
    ⟨.directive fault.directive, fault.position⟩ ∈ tokens := by
  cases offence with
  | unmatchedClose _ _ => exact List.mem_append_right _ List.mem_cons_self
  | tooDeep _ _ => exact List.mem_append_right _ List.mem_cons_self
  | unclosed _ _ begun _ _ =>
    rw [begun]
    exact List.mem_append_right _ List.mem_cons_self

/-- A directive among the tokens of a body stands in the body. -/
theorem exists_occurrence {body : String} {d : Directive} {position : Position}
    (member : ⟨.directive d, position⟩ ∈ (scan body).tokens) :
    ∃ o : Occurrence body.toList, o.token = ⟨.directive d, position⟩ := by
  obtain ⟨layout, cut⟩ := Layout.exists_layout body.toList
  have directives : ⟨.directive d, position⟩ ∈ (scan body).tokens.filter (·.content.isDirective) :=
    List.mem_filter.mpr ⟨member, rfl⟩
  rw [filter_scan cut] at directives
  obtain ⟨o, _, same⟩ := List.mem_map.mp directives
  exact ⟨o, same⟩

end Token

namespace Fault

open Token

/-- The position of a directive is found again in the body, and the next closing braces from there
are its own. -/
theorem diagnose_of_token {body : String} {fault : Fault} {o : Occurrence body.toList}
    (same : o.token = ⟨.directive fault.directive, fault.position⟩) :
    fault.position.offset ≤ byteLength body.toList ∧
    (∃ inside behind, Text.cutAtPair? '}' (dropBytes fault.position.offset body.toList) =
      some (inside, behind)) ∧
    (fault.diagnose body).offset = String.utf8Len o.before ∧
    (fault.diagnose body).length = String.utf8Len (Piece.braced o.inner) := by
  have place : fault.position.offset = String.utf8Len o.before := by
    rw [← String.utf8ByteSize_ofList]
    exact (congrArg (·.position.offset) same).symm
  have whole : o.before ++ (Piece.braced o.inner ++ o.behind) = body.toList := by
    rw [← List.append_assoc, o.whole]
  have rest : dropBytes fault.position.offset body.toList = Piece.braced o.inner ++ o.behind := by
    have dropped := dropBytes_append o.before (Piece.braced o.inner ++ o.behind)
    rwa [whole, ← place] at dropped
  have closing : Text.cutAtPair? '}' (Piece.braced o.inner ++ o.behind) =
      some ('{' :: '{' :: o.inner, o.behind) := by
    have free : '}' ∉ '{' :: '{' :: o.inner := by simp [o.spelled.notMem]
    simpa [Piece.braced] using Text.cutAtPair?_of_notMem free o.behind
  have bound : fault.position.offset ≤ byteLength body.toList := by
    have sum := String.utf8Len_append o.before (Piece.braced o.inner ++ o.behind)
    rw [whole] at sum
    rw [place, byteLength_eq]
    omega
  have unclamped : min fault.position.offset (byteLength body.toList) = fault.position.offset :=
    Nat.min_eq_left bound
  refine ⟨bound, ⟨_, _, rest ▸ closing⟩, ?_, ?_⟩
  · rw [← place]
    exact unclamped
  · simp only [diagnose]
    rw [unclamped, rest, closing]
    have brace : '}'.utf8Size = 1 := by decide
    simp only [byteLength_eq, Piece.braced, List.cons_append, String.utf8Len_cons,
      String.utf8Len_append, String.utf8Len_nil, brace]
    omega

/-- The label of the diagnosis of a body's fault is the directive at fault, from its opening braces to
its closing ones: a directive that stands in the body, at the position that the fault gives. The
search finds it there without ever running into the end of the body. -/
theorem diagnose_covers {body : String} {fault : Fault}
    (failed : Parsed.ofBody body = .error fault) :
    Offence (scan body).tokens fault ∧
    ∃ o : Occurrence body.toList,
      o.token ∈ (scan body).tokens ∧ o.token = ⟨.directive fault.directive, fault.position⟩ ∧
      (fault.diagnose body).Covers body (String.ofList (Piece.braced o.inner)) ∧
      (fault.diagnose body).offset = fault.position.offset ∧
      fault.position.offset ≤ byteLength body.toList ∧
      (Text.cutAtPair? '}' (dropBytes fault.position.offset body.toList)).isSome := by
  have offence : Offence (scan body).tokens fault :=
    (Parsed.ofStream_eq_error_iff fault).mp failed
  have member := offence.mem
  obtain ⟨o, same⟩ := exists_occurrence member
  obtain ⟨bound, ⟨inside, behind, found⟩, offset, length⟩ := diagnose_of_token same
  refine ⟨offence, o, same ▸ member, same, Diagnosis.covers_of_parts o.whole offset length, ?_, bound, ?_⟩
  · exact Nat.min_eq_left bound
  · rw [found]
    rfl

/-- A body in which a loop ends that was never begun, behind stray braces and on the second line. -/
def straying : String := "é\x7d\x7d\x7b\x7bx\n\x7b\x7b\x7b/each\x7d\x7d\x7d"

theorem diagnose_covers_straying :
    let fault : Fault := .unmatchedClose ⟨⟨2, 2⟩, 9⟩
    Parsed.ofBody straying = .error fault ∧
    Offence (scan straying).tokens fault ∧
    ∃ o : Occurrence straying.toList,
      o.token ∈ (scan straying).tokens ∧ o.token = ⟨.directive .close, ⟨⟨2, 2⟩, 9⟩⟩ ∧
      (fault.diagnose straying).Covers straying (String.ofList (Piece.braced o.inner)) ∧
      (fault.diagnose straying).offset = 9 ∧ 9 ≤ byteLength straying.toList ∧
      (Text.cutAtPair? '}' (dropBytes 9 straying.toList)).isSome := by
  have tokens : (scan straying).tokens =
      [⟨.text "é\x7d\x7d\x7b\x7bx\n\x7b", Position.start⟩, ⟨.directive .close, ⟨⟨2, 2⟩, 9⟩⟩,
        ⟨.text "\x7d", ⟨⟨2, 11⟩, 18⟩⟩] := by
    decide +kernel
  have failed : Parsed.ofBody straying = .error (.unmatchedClose ⟨⟨2, 2⟩, 9⟩) := by
    rw [Parsed.ofBody, Parsed.ofStream, tokens]
    rfl
  exact ⟨failed, diagnose_covers failed⟩

end Fault

end Stencil
