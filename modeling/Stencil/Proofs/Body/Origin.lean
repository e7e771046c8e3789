import Stencil.Proofs.Body.Label
import Stencil.Proofs.Body.Line

/-! # Where tokens begin

A directive has the position at which it begins. A text has the position of the gap that it is left
of. It begins there, unless the directive in front of the gap stands alone on its line: the rest of
that line is then left out of the text, yet the position stays in front of it (`place_of_mem_scan`).
-/

namespace Stencil

namespace Text

theorem firstLine_eq_nil {chars : List Char} (none : firstLine chars = []) : chars = [] := by
  obtain ⟨front, feed⟩ := List.append_eq_nil_iff.mp none
  have back : chars.dropWhile (· ≠ '\n') = [] := by simpa using feed
  rw [← List.takeWhile_append_dropWhile (p := (· ≠ '\n')) (l := chars), front, back]
  rfl

end Text

namespace Occurrence

variable {body : List Char}

/-- A directive that stands alone takes some of what stands behind it, if there is anything. -/
theorem line_eq_nil_iff {o : Occurrence body} (some : o.behind ≠ []) :
    o.line = [] ↔ ¬ o.StandsAlone := by
  constructor
  · intro none alone
    rw [line, if_pos alone] at none
    exact some (Text.firstLine_eq_nil none)
  · exact fun other => if_neg other

end Occurrence

namespace Token

theorem shown_injective : Function.Injective shown := by
  intro a b same
  unfold shown at same
  split at same <;> split at same <;> simp_all [String.ofList_inj]

/-- The first text, and what follows the first directive, can be told from the contents. -/
theorem shown_append_inj {a b : List Char} {d e : Directive} {x y : List Content}
    (same : shown a ++ .directive d :: x = shown b ++ .directive e :: y) : a = b ∧ x = y := by
  unfold shown at same
  split at same <;> split at same <;> simp_all [String.ofList_inj]

theorem of_mem_ofGap {gap : Gap} {chars : List Char} {token : Token}
    (member : token ∈ ofGap gap chars) : token = ⟨.text (String.ofList chars), gap.position⟩ := by
  unfold ofGap at member
  split at member
  · cases member
  · exact List.mem_singleton.mp member

variable {body : List Char}

/-- A text that is left of a gap begins behind the line that the directive in front of it takes, and
has the position in front of that line. -/
theorem place_of_shows {before line gap : List Char} {parts : List (Occurrence body × List Char)}
    {contents : List Content} (shows : Shows line gap parts contents)
    (chained : Occurrence.Chained before gap parts) {opensBody dropFront : Bool}
    (same : (ofStops opensBody dropFront ⟨.behind before, gap⟩ (parts.map Layout.stop)).map
      (·.content) = contents) {words : String} {position : Position}
    (member : ⟨.text words, position⟩ ∈
      ofStops opensBody dropFront ⟨.behind before, gap⟩ (parts.map Layout.stop)) :
    (position = .behind before ∧ before ++ line ++ words.toList <+: body) ∨
    ∃ o : Occurrence body,
      position = .behind o.through ∧ o.through ++ o.line ++ words.toList <+: body := by
  -- The contents tell what is left of each gap, and the tokens beside them tell its position.
  induction shows generalizing before opensBody dropFront with
  | last line left =>
    rw [List.map_nil, ofStops] at same member
    rw [content_ofGap] at same
    rw [shown_injective same] at member
    cases of_mem_ofGap member
    exact .inl ⟨rfl, [], by simpa [Occurrence.Chained] using chained⟩
  | next line left o later ih =>
    obtain ⟨here, next⟩ := chained
    rw [List.map_cons, ofStops] at same member
    rw [List.map_append, content_ofGap, List.map_cons] at same
    obtain ⟨front, back⟩ := shown_append_inj same
    rcases List.mem_append.mp member with text | member
    · rw [front] at text
      cases of_mem_ofGap text
      have whole := o.whole
      rw [here] at whole
      exact .inl ⟨rfl, o.indent ++ (Piece.braced o.inner ++ o.behind), by simpa using whole⟩
    · rcases List.mem_cons.mp member with directive | member
      · cases directive
      · rcases ih next back member with place | place
        · exact .inr ⟨o, place⟩
        · exact .inr place

/-- A text among the tokens of a body is not empty, and begins at the start of the body or behind what
a directive takes. -/
theorem place_of_text {body words : String} {position : Position}
    (member : ⟨.text words, position⟩ ∈ (scan body).tokens) :
    words ≠ "" ∧ ((position = .behind [] ∧ words.toList <+: body.toList) ∨
      ∃ o : Occurrence body.toList,
        position = .behind o.through ∧ o.through ++ o.line ++ words.toList <+: body.toList) := by
  obtain ⟨layout, cut⟩ := Layout.exists_layout body.toList
  have shows : Shows [] layout.lead layout.parts _ :=
    shows_ofStops layout.chained (.inl rfl) .start false rfl rfl (by simp)
  rw [scan, cut] at member
  refine ⟨?_, place_of_shows shows layout.chained rfl member⟩
  rintro rfl
  exact ne_empty_of_shows shows _ (List.mem_map_of_mem member) rfl

/-- Every token has the position of its first character, a text that a loop directive alone on its
line stands in front of apart: its position is that of the end of the directive, and the rest of that
line lies in between. -/
theorem place_of_mem_scan {body : String} {token : Token} (member : token ∈ (scan body).tokens) :
    match token.content with
    | .directive _ => ∃ o : Occurrence body.toList, token = o.token
    | .text words => ∃ before line,
        before ++ line ++ words.toList <+: body.toList ∧ token.position = .behind before ∧
        (token.position = .behind (before ++ line) ↔
          ∀ o : Occurrence body.toList, o.StandsAlone → o.through ≠ before) ∧
        ∀ o : Occurrence body.toList, o.StandsAlone → o.through = before →
          line = Text.firstLine o.behind := by
  obtain ⟨content, position⟩ := token
  cases content with
  | directive d =>
    obtain ⟨o, same⟩ := exists_occurrence member
    exact ⟨o, same.symm⟩
  | text words =>
    obtain ⟨some, ⟨rfl, inside⟩ | ⟨o, rfl, inside⟩⟩ := place_of_text member
    · have late (o : Occurrence body.toList) : o.through ≠ [] := by
        simp [Occurrence.through, Piece.braced]
      exact ⟨[], [], inside, rfl, by simp [late], fun o _ same => absurd same (late o)⟩
    · have followed : o.behind ≠ [] := by
        obtain ⟨rest, whole⟩ := inside
        have behind : o.line ++ words.toList ++ rest = o.behind := by
          simpa using whole.trans o.through_append_behind.symm
        intro none
        rw [none] at behind
        simp [some] at behind
      refine ⟨o.through, o.line, inside, rfl, ?_, ?_⟩
      · rw [Position.behind_eq_behind_append_iff, Occurrence.line_eq_nil_iff followed]
        constructor
        · intro shared other alone same
          exact shared (Occurrence.eq_of_through_eq same ▸ alone)
        · exact fun none alone => none o alone rfl
      · intro other alone same
        obtain rfl := Occurrence.eq_of_through_eq same
        exact if_pos alone

/-- A loop that begins on a line of its own, with text on the next line. -/
def ownLine : String := "\x7b\x7b#each a\x7d\x7d\nx\x7b\x7b/each\x7d\x7d"

theorem text_mem_scan_ownLine : ⟨.text "x", ⟨⟨1, 12⟩, 11⟩⟩ ∈ (scan ownLine).tokens := by
  decide +kernel

theorem place_of_mem_scan_ownLine : ∃ before line,
    before ++ line ++ ['x'] <+: ownLine.toList ∧ ⟨⟨1, 12⟩, 11⟩ = Position.behind before ∧
    (⟨⟨1, 12⟩, 11⟩ = Position.behind (before ++ line) ↔
      ∀ o : Occurrence ownLine.toList, o.StandsAlone → o.through ≠ before) ∧
    ∀ o : Occurrence ownLine.toList, o.StandsAlone → o.through = before →
      line = Text.firstLine o.behind :=
  place_of_mem_scan text_mem_scan_ownLine

/-- The text on the second line has a position on the first one. -/
theorem not_forall_text_begins : ¬ ∀ (body words : String) (position : Position),
    ⟨.text words, position⟩ ∈ (scan body).tokens →
      ∃ before, before ++ words.toList <+: body.toList ∧ position = .behind before := by
  intro begins
  obtain ⟨before, inside, place⟩ := begins ownLine "x" _ text_mem_scan_ownLine
  have short : before.length < ownLine.toList.length := by
    have length := inside.length_le
    simp only [List.length_append] at length
    exact Nat.lt_of_lt_of_le (Nat.lt_add_of_pos_right (by decide)) length
  have front : before = ownLine.toList.take before.length :=
    List.prefix_iff_eq_take.mp ((List.prefix_append _ _).trans inside)
  have none : ∀ n < ownLine.toList.length,
      (ownLine.toList.take n ++ "x".toList).isPrefixOf ownLine.toList = true →
        (⟨⟨1, 12⟩, 11⟩ : Position) ≠ .behind (ownLine.toList.take n) := by
    decide +kernel
  rw [front] at inside place
  exact none _ short (List.isPrefixOf_iff_prefix.mpr inside) place

end Token

end Stencil
