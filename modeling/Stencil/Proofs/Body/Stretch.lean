import Stencil.Proofs.Body.Quiet

/-! # What the warnings about a body point at

A warning about a body is about a stretch of it: one of the pieces that the scan cuts it into. The
pieces lie one behind the other (`placed_pairwise`) and every directive is a piece of its own, so the
stretches overlap neither each other nor any directive.
-/

namespace Stencil

/-- A stretch of a text: what stands in front of it, and the stretch itself. -/
structure Stretch where
  before : List Char
  chars : List Char
deriving DecidableEq

namespace Stretch

/-- A stretch ends where another one begins, or in front of that. -/
def Precedes (a b : Stretch) : Prop := a.before.length + a.chars.length ≤ b.before.length

/-- Two stretches do not overlap. -/
def Apart (a b : Stretch) : Prop := a.Precedes b ∨ b.Precedes a

/-- A stretch is where it says in a text. -/
def LiesIn (a : Stretch) (text : List Char) : Prop := a.before ++ a.chars <+: text

theorem LiesIn.before {a : Stretch} {text : List Char} (lies : a.LiesIn text) : a.before <+: text :=
  (List.prefix_append _ _).trans lies

end Stretch

/-- The stretch of a body that a directive takes up. -/
def Occurrence.stretch {body : List Char} (o : Occurrence body) : Stretch :=
  ⟨o.before, Piece.braced o.inner⟩

/-- What a warning about a body says of a stretch: a malformed span is the stretch word for word, and
an unterminated one is the rest of the body, without closing braces. -/
def Warning.Describes (body : List Char) (stretch : Stretch) : Warning → Prop
  | malformed text _ => text.toList = stretch.chars
  | unterminated _ => stretch.before ++ stretch.chars = body ∧ ¬['}', '}'] <:+: stretch.chars
  | _ => False

/-- A warning about a body points at the two opening braces that begin a stretch of it, and these
stand in literal text. -/
structure Warning.PointsAt (warning : Warning) (body : List Char) (stretch : Stretch) : Prop where
  lies : stretch.LiesIn body
  place : warning.place = (Position.behind stretch.before).toPlace
  opens : ['{', '{'] <+: stretch.chars
  literal : ∀ o : Occurrence body, stretch.Apart o.stretch
  describes : warning.Describes body stretch

namespace Piece

/-- The pieces with the text in front of each. -/
def placed (before : List Char) : List Piece → List (List Char × Piece)
  | [] => []
  | piece :: rest => (before, piece) :: placed (before ++ piece.source) rest

/-- The stretch that a piece takes up. -/
def stretch (place : List Char × Piece) : Stretch := ⟨place.1, place.2.source⟩

/-- The warning about a piece, if there is one, with the stretch that it is about. -/
def marked? (place : List Char × Piece) : Option (Warning × Stretch) :=
  (warning? (.behind place.1, place.2)).map (·, stretch place)

theorem locate_eq (before : List Char) (pieces : List Piece) :
    locate (.behind before) pieces =
      (placed before pieces).map fun place => (.behind place.1, place.2) := by
  induction pieces generalizing before with
  | nil => rfl
  | cons piece rest ih => rw [locate, ← Position.behind_append, ih, placed, List.map_cons]

/-- A piece is placed behind the pieces in front of it. -/
theorem mem_placed_iff {before : List Char} {pieces : List Piece} {place : List Char × Piece} :
    place ∈ placed before pieces ↔ ∃ front back, pieces = front ++ place.2 :: back ∧
      place.1 = before ++ front.flatMap source := by
  induction pieces generalizing before with
  | nil => simp [placed]
  | cons piece rest ih =>
    rw [placed, List.mem_cons, ih]
    constructor
    · rintro (rfl | ⟨front, back, rfl, same⟩)
      · exact ⟨[], rest, rfl, by simp⟩
      · exact ⟨piece :: front, back, rfl, by simp [same]⟩
    · rintro ⟨front, back, whole, same⟩
      cases front with
      | nil =>
        obtain ⟨rfl, rfl⟩ := List.cons.inj whole
        exact .inl (Prod.ext (by simpa using same) rfl)
      | cons first front =>
        obtain ⟨rfl, rfl⟩ := List.cons.inj whole
        exact .inr ⟨front, back, rfl, by simpa using same⟩

/-- The pieces lie one behind the other. -/
theorem placed_pairwise (before : List Char) (pieces : List Piece) :
    (placed before pieces).Pairwise fun a b => (stretch a).Precedes (stretch b) := by
  induction pieces generalizing before with
  | nil => exact .nil
  | cons piece rest ih =>
    refine .cons ?_ (ih _)
    intro place member
    obtain ⟨front, _, _, same⟩ := mem_placed_iff.mp member
    simp only [Stretch.Precedes, stretch, same, List.length_append]
    omega

/-- Two pieces that are not the same do not overlap. -/
theorem apart_of_mem_placed {before : List Char} {pieces : List Piece} {a b : List Char × Piece}
    (first : a ∈ placed before pieces) (second : b ∈ placed before pieces) (other : a ≠ b) :
    (stretch a).Apart (stretch b) := by
  have apart : (placed before pieces).Pairwise fun a b => (stretch a).Apart (stretch b) :=
    (placed_pairwise before pieces).imp Or.inl
  have symmetric : Std.Symm fun a b : List Char × Piece => (stretch a).Apart (stretch b) :=
    ⟨fun _ _ => Or.symm⟩
  exact apart.forall first second other

theorem scan_ne_nil (chars : List Char) : scan chars ≠ [] := by
  rw [scan.eq_def]
  split
  · simp
  · split <;> simp

theorem ofOpening_closed {inner chars : List Char} : unclosed chars ∉ ofOpening inner := by
  have spanned (core : List Char) : unclosed chars ≠ ofSpan core := by
    unfold ofSpan
    split <;> simp
  unfold ofOpening
  split
  · intro member
    simp only [List.mem_cons, List.not_mem_nil, or_false] at member
    rcases member with front | core
    · split at front <;> cases front
    · exact spanned _ core
  · intro member
    exact spanned _ (List.mem_singleton.mp member)

/-- Only the last piece can be unclosed. -/
theorem closed_of_mem_dropLast_scan {chars source : List Char} :
    unclosed source ∉ (scan chars).dropLast := by
  fun_induction scan chars with
  | case1 => simp
  | case2 => simp
  | case3 chars lead rest opening inner behind closing ih =>
    rw [List.dropLast_append_of_ne_nil (scan_ne_nil behind)]
    simp [ih, ofOpening_closed]

/-- An unclosed piece is the rest of the body. -/
theorem whole_of_unclosed {body before source : List Char}
    (member : (before, unclosed source) ∈ placed [] (scan body)) : before ++ source = body := by
  obtain ⟨front, back, pieces, same⟩ := mem_placed_iff.mp member
  dsimp only at pieces same
  have last : back = [] := by
    by_contra more
    have closed := @closed_of_mem_dropLast_scan body source
    rw [pieces, List.dropLast_append_of_ne_nil (by simp), List.dropLast_cons_of_ne_nil more] at closed
    simp at closed
  have whole := source_scan body
  rw [pieces, last, List.flatMap_append] at whole
  simpa [same, Piece.source] using whole

/-- Every directive of a body is placed where it stands. -/
theorem mem_placed_of_occurrence {body : List Char} (o : Occurrence body) :
    (o.before, directive o.directive (braced o.inner)) ∈ placed [] (scan body) := by
  obtain ⟨front, back, scanned, sources⟩ := exists_directive_scan o.whole o.spelled
  exact mem_placed_iff.mpr ⟨front, back, scanned, by simp [sources]⟩

theorem lies_of_mem_placed {body : List Char} {place : List Char × Piece}
    (member : place ∈ placed [] (scan body)) : (stretch place).LiesIn body := by
  obtain ⟨front, back, pieces, same⟩ := mem_placed_iff.mp member
  have whole := source_scan body
  rw [pieces, List.flatMap_append, List.flatMap_cons] at whole
  exact ⟨back.flatMap source, by simpa [stretch, same] using whole⟩

/-- The warning about a piece of a body points at that piece. -/
theorem pointsAt_of_marked? {body : List Char} {place : List Char × Piece}
    (member : place ∈ placed [] (scan body)) {mark : Warning × Stretch}
    (made : marked? place = some mark) : mark.1.PointsAt body mark.2 := by
  obtain ⟨front, back, pieces, _⟩ := mem_placed_iff.mp member
  have scanned : place.2 ∈ scan body := by
    rw [pieces]
    exact List.mem_append_right _ List.mem_cons_self
  have shaped : place.2.Shaped := shaped_of_mem_scan _ scanned
  obtain ⟨warning, given, rfl⟩ := Option.map_eq_some_iff.mp made
  have literal : ∀ o : Occurrence body, (stretch place).Apart o.stretch := by
    intro o
    refine apart_of_mem_placed member (mem_placed_of_occurrence o) ?_
    rintro rfl
    cases given
  have lies := lies_of_mem_placed member
  obtain ⟨before, piece⟩ := place
  cases piece with
  | plain chars => cases given
  | directive d chars => cases given
  | stray chars =>
    cases given
    exact ⟨lies, rfl, shaped, literal, String.toList_ofList⟩
  | rejected chars =>
    cases given
    exact ⟨lies, rfl, shaped, literal, String.toList_ofList⟩
  | unclosed chars =>
    cases given
    exact ⟨lies, rfl, shaped.1, literal, whole_of_unclosed member, shaped.2⟩

/-- The warnings about a body, each with the stretch that it is about. -/
def marks (body : List Char) : List (Warning × Stretch) := (placed [] (scan body)).filterMap marked?

theorem map_fst_marks (body : String) :
    (marks body.toList).map Prod.fst = (Token.scan body).warnings := by
  have start : Position.behind [] = .start := rfl
  change _ = (locate .start (scan body.toList)).filterMap warning?
  rw [← start, locate_eq, List.filterMap_map, marks, List.map_filterMap]
  congr 1
  funext place
  simp only [marked?, Option.map_map, Function.comp_def]
  exact Option.map_id'

theorem marks_pairwise (body : List Char) :
    (marks body).Pairwise fun a b => a.2.Precedes b.2 := by
  rw [marks, List.pairwise_filterMap]
  refine (placed_pairwise [] (scan body)).imp ?_
  intro a b precedes first made second made'
  obtain ⟨_, _, rfl⟩ := Option.map_eq_some_iff.mp made
  obtain ⟨_, _, rfl⟩ := Option.map_eq_some_iff.mp made'
  exact precedes

theorem pointsAt_of_mem_marks {body : List Char} {mark : Warning × Stretch}
    (member : mark ∈ marks body) : mark.1.PointsAt body mark.2 := by
  obtain ⟨place, placed, made⟩ := List.mem_filterMap.mp member
  exact pointsAt_of_marked? placed made

end Piece

namespace Token

open Text

/-- The texts among the tokens of a body are quiet exactly if there is nothing to warn about. -/
theorem allQuiet_scan_iff (body : String) :
    AllQuiet (scan body).tokens ↔ (scan body).warnings = [] := by
  have pieces : ∀ start, (Piece.locate start (Piece.scan body.toList)).map (·.2) =
      Piece.scan body.toList := by
    induction Piece.scan body.toList with
    | nil => intro start; rfl
    | cons piece rest ih => intro start; rw [Piece.locate, List.map_cons, ih]
  have cut := Piece.quietCut_scan_iff .start body.toList
  have tokens := quiet_ofStops_iff true false
    ⟨.start, (Piece.cut .start (Piece.scan body.toList)).1⟩
    (Piece.cut .start (Piece.scan body.toList)).2
  refine tokens.trans (cut.trans ?_)
  change _ ↔ (Piece.locate .start (Piece.scan body.toList)).filterMap Piece.warning? = []
  rw [List.filterMap_eq_nil_iff]
  simp only [Piece.warning?_eq_none_iff]
  conv_lhs => rw [← pieces .start]
  exact List.forall_mem_map

/-- Nothing is kept as text in silence: there are no warnings about a body exactly if no text among
its tokens holds two opening braces. The warnings are about stretches of the body that follow each
other without overlapping; each stretch begins with two opening braces, at the place of its warning,
and overlaps no directive. A malformed span is such a stretch, word for word; an unterminated one is
the rest of the body without closing braces, and nothing comes after its warning. -/
theorem warnings_scan (body : String) :
    ((scan body).warnings = [] ↔
      ∀ token ∈ (scan body).tokens, ∀ words, token.content = .text words →
        ¬['{', '{'] <:+: words.toList) ∧
    (scan body).warnings.Pairwise (fun a b => a.place.Before b.place) ∧
    (∀ warning ∈ (scan body).warnings.dropLast, ∀ place, warning ≠ .unterminated place) ∧
    ∃ marks : List (Warning × Stretch),
      marks.map Prod.fst = (scan body).warnings ∧
      marks.Pairwise (fun a b => a.2.Precedes b.2) ∧
      ∀ mark ∈ marks, mark.1.PointsAt body.toList mark.2 := by
  have points : ∀ mark ∈ Piece.marks body.toList, mark.1.PointsAt body.toList mark.2 :=
    fun _ => Piece.pointsAt_of_mem_marks
  have ordered := Piece.marks_pairwise body.toList
  have nonempty : ∀ mark ∈ Piece.marks body.toList, 2 ≤ mark.2.chars.length := fun mark member =>
    (points mark member).opens.length_le
  refine ⟨(allQuiet_scan_iff body).symm, ?_, ?_, _, Piece.map_fst_marks body, ordered, points⟩
  · rw [← Piece.map_fst_marks, List.pairwise_map]
    refine List.Pairwise.imp_of_mem ?_ ordered
    intro a b first second precedes
    rw [(points a first).place, (points b second).place]
    apply Position.behind_before_of_length_lt (points a first).lies.before (points b second).lies.before
    have some := nonempty a first
    unfold Stretch.Precedes at precedes
    omega
  · intro warning member place same
    rw [← Piece.map_fst_marks, ← List.map_dropLast] at member
    obtain ⟨mark, early, rfl⟩ := List.mem_map.mp member
    have some : Piece.marks body.toList ≠ [] := by
      intro empty
      rw [empty] at early
      cases early
    -- The stretch of an earlier warning ends in front of the last one, so not with the body.
    have split := List.dropLast_append_getLast some
    rw [← split, List.pairwise_append] at ordered
    have precedes := ordered.2.2 mark early _ (List.mem_singleton_self _)
    have later := points _ (List.getLast_mem some)
    have whole := (points mark ((List.dropLast_sublist _).subset early)).describes
    rw [same] at whole
    have sizes := congrArg List.length whole.1
    have bound := later.lies.length_le
    have long := nonempty _ (List.getLast_mem some)
    unfold Stretch.Precedes at precedes
    rw [List.length_append] at sizes bound
    omega

end Token

end Stencil
