import Stencil.Proofs.Body.Occurrence

/-! # The layout of a body

A body is the text in front of its first directive and, for every occurrence of a directive, the
text from there up to the next one. The scan finds this layout, so its directives are exactly the
occurrences, in their order and each at its place.
-/

namespace Stencil

/-- A body laid out along its directives, all of them. -/
structure Layout (body : List Char) where
  lead : List Char
  parts : List (Occurrence body × List Char)
  chained : Occurrence.Chained [] lead parts
  complete : ∀ o : Occurrence body, ∃ gap, (o, gap) ∈ parts

namespace Layout

variable {body : List Char}

/-- The occurrences of a layout, in order. -/
def occurrences (layout : Layout body) : List (Occurrence body) := layout.parts.map (·.1)

/-- A directive of a layout as the tokens are made from it. -/
def stop (part : Occurrence body × List Char) : Stop :=
  ⟨part.1.directive, .behind part.1.before, .behind part.1.through, part.2⟩

theorem mem_occurrences (layout : Layout body) (o : Occurrence body) : o ∈ layout.occurrences := by
  obtain ⟨gap, member⟩ := layout.complete o
  exact List.mem_map.mpr ⟨(o, gap), member, rfl⟩

theorem occurrences_pairwise (layout : Layout body) :
    layout.occurrences.Pairwise fun a b => a.before.length < b.before.length :=
  List.pairwise_map.mpr layout.chained.pairwise

theorem cut_cons {piece : Piece} (text : ∀ d source, piece ≠ .directive d source)
    (start : Position) (rest : List Piece) :
    Piece.cut start (piece :: rest) =
      (piece.source ++ (Piece.cut (start.after piece.source) rest).1,
        (Piece.cut (start.after piece.source) rest).2) := by
  cases piece with
  | directive d source => exact absurd rfl (text d source)
  | _ => rfl

/-- Pieces that make up the rest of a body are cut into a chain of its directives. -/
theorem exists_chained (before : List Char) (pieces : List Piece)
    (whole : before ++ pieces.flatMap Piece.source = body)
    (sound : ∀ d source, .directive d source ∈ pieces →
      ∃ inner, source = Piece.braced inner ∧ d.Spells inner) :
    ∃ (lead : List Char) (parts : List (Occurrence body × List Char)),
      Piece.cut (.behind before) pieces = (lead, parts.map stop) ∧
      Occurrence.Chained before lead parts ∧
      ∀ front d source back, pieces = front ++ .directive d source :: back →
        ∃ part ∈ parts, part.1.before = before ++ front.flatMap Piece.source := by
  induction pieces generalizing before with
  | nil => exact ⟨[], [], rfl, whole, by simp⟩
  | cons piece rest ih =>
    have next := ih (before ++ piece.source) (by simpa using whole)
      fun d source member => sound d source (List.mem_cons_of_mem _ member)
    obtain ⟨lead, parts, cut, chained, complete⟩ := next
    rw [Position.behind_append] at cut
    by_cases text : ∀ d source, piece ≠ .directive d source
    · refine ⟨piece.source ++ lead, parts, by rw [cut_cons text, cut], chained.shift, ?_⟩
      intro front d source back split
      cases front with
      | nil => exact absurd (List.cons.inj split).1 (text d source)
      | cons first front =>
        obtain ⟨rfl, later⟩ := List.cons.inj split
        obtain ⟨part, member, place⟩ := complete front d source back later
        exact ⟨part, member, by simp [place]⟩
    · obtain ⟨d, source, rfl⟩ : ∃ d source, piece = .directive d source := by
        simpa using text
      obtain ⟨inner, rfl, spelled⟩ := sound d source List.mem_cons_self
      let here : Occurrence body :=
        ⟨before, inner, rest.flatMap Piece.source, d, by simpa [Piece.source] using whole, spelled⟩
      refine ⟨[], (here, lead) :: parts, ?_, ⟨(List.append_nil before).symm, chained⟩, ?_⟩
      · rw [Piece.source] at cut
        rw [Piece.cut, cut, ← Position.behind_append]
        rfl
      · intro front d source back split
        cases front with
        | nil => exact ⟨(here, lead), List.mem_cons_self, (List.append_nil before).symm⟩
        | cons first front =>
          obtain ⟨rfl, later⟩ := List.cons.inj split
          obtain ⟨part, member, place⟩ := complete front d source back later
          exact ⟨part, List.mem_cons_of_mem _ member, by simp [place]⟩

/-- The scan cuts a body along all its directives. -/
theorem exists_layout (body : List Char) :
    ∃ layout : Layout body,
      Piece.cut .start (Piece.scan body) = (layout.lead, layout.parts.map stop) := by
  obtain ⟨lead, parts, cut, chained, complete⟩ :=
    exists_chained [] (Piece.scan body) (Piece.source_scan body)
      fun d source member => Piece.spells_of_mem_scan member
  refine ⟨⟨lead, parts, chained, fun o => ?_⟩, cut⟩
  obtain ⟨front, back, scanned, sources⟩ := Piece.exists_directive_scan o.whole o.spelled
  obtain ⟨⟨found, gap⟩, member, place⟩ := complete front o.directive _ back scanned
  have same : found = o := Occurrence.eq_of_before_eq (place.trans sources)
  exact ⟨gap, same ▸ member⟩

end Layout

namespace Token

/-- Whether a token holds a directive, not text. -/
def Content.isDirective : Content → Bool
  | .text _ => false
  | .directive _ => true

private theorem filter_ofGap (gap : Gap) (chars : List Char) :
    (ofGap gap chars).filter (·.content.isDirective) = [] := by
  unfold ofGap
  split <;> rfl

theorem filter_ofStops (opensBody dropFront : Bool) (gap : Gap) (stops : List Stop) :
    (ofStops opensBody dropFront gap stops).filter (·.content.isDirective) =
      stops.map fun stop => ⟨.directive stop.directive, stop.position⟩ := by
  induction stops generalizing opensBody dropFront gap with
  | nil => exact filter_ofGap _ _
  | cons stop rest ih =>
    rw [ofStops, List.filter_append, filter_ofGap, List.nil_append, List.filter_cons_of_pos rfl, ih]
    rfl

theorem filter_scan {body : String} {layout : Layout body.toList}
    (cut : Piece.cut .start (Piece.scan body.toList) =
      (layout.lead, layout.parts.map Layout.stop)) :
    (scan body).tokens.filter (·.content.isDirective) =
      layout.occurrences.map Occurrence.token := by
  rw [scan, cut, filter_ofStops, Layout.occurrences, List.map_map, List.map_map]
  rfl

/-- The directives among the tokens of a body are exactly its occurrences of directives, each once,
in order, and with the position of its opening braces. -/
theorem directives_scan (body : String) :
    ∃ occurrences : List (Occurrence body.toList),
      (∀ o : Occurrence body.toList, o ∈ occurrences) ∧
      occurrences.Pairwise (fun a b => a.before.length < b.before.length) ∧
      (scan body).tokens.filter (·.content.isDirective) = occurrences.map Occurrence.token := by
  obtain ⟨layout, cut⟩ := Layout.exists_layout body.toList
  refine ⟨layout.occurrences, layout.mem_occurrences, layout.occurrences_pairwise, ?_⟩
  rw [scan, cut]
  rw [filter_ofStops, Layout.occurrences, List.map_map, List.map_map]
  rfl

end Token

end Stencil
