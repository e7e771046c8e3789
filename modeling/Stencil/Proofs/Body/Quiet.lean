import Stencil.Proofs.Body.Line

/-! # Texts with opening braces

Two opening braces in a text are what a warning is about. The text between two directives holds them
exactly if one of the pieces it is put together from is not sound (`quietCut_scan_iff`), and what loop
directives take of that text holds no brace, so the tokens show them all (`quiet_ofStops_iff`).
-/

namespace Stencil

namespace Text

/-- No two opening braces follow each other in a text. -/
def Quiet (chars : List Char) : Prop := ¬['{', '{'] <:+: chars

theorem Quiet.nil : Quiet [] := by
  intro pair
  have empty := List.infix_nil.mp pair
  cases empty

theorem quiet_append_left {front : List Char} (free : '{' ∉ front) (back : List Char) :
    Quiet (front ++ back) ↔ Quiet back :=
  not_congr (pair_infix_append_left free back)

theorem quiet_append_right {back : List Char} (free : '{' ∉ back) (front : List Char) :
    Quiet (front ++ back) ↔ Quiet front :=
  not_congr (pair_infix_append_right free front)

theorem Quiet.mono {part chars : List Char} (quiet : Quiet chars) (inside : part <:+: chars) :
    Quiet part :=
  fun pair => quiet (pair.trans inside)

end Text

namespace Token

open Text

/-- The rest of a line holds no brace. -/
theorem quiet_restOfLine? {endsBody : Bool} {chars tail : List Char}
    (found : restOfLine? endsBody chars = some tail) : Quiet chars ↔ Quiet tail := by
  obtain ⟨indent, blank, shape⟩ := (restOfLine?_eq_some_iff _ _ _).mp found
  have unbraced : '{' ∉ indent := notMem_of_indent (by decide) blank
  rcases shape with rfl | rfl | ⟨_, rfl, rfl⟩
  · have free : '{' ∉ indent ++ ['\n'] := by simp [unbraced]
    have quiet := quiet_append_left free tail
    rwa [List.append_assoc] at quiet
  · have free : '{' ∉ indent ++ ['\r', '\n'] := by simp [unbraced]
    have quiet := quiet_append_left free tail
    rwa [List.append_assoc] at quiet
  · have quiet := quiet_append_right unbraced []
    rwa [List.nil_append] at quiet

theorem quiet_dropIndent (chars : List Char) : Quiet (dropIndent chars) ↔ Quiet chars := by
  have free : '{' ∉ indentBefore chars := by
    apply notMem_of_indent (by decide)
    intro c member
    exact List.mem_takeWhile_imp (List.mem_reverse.mp member)
  have quiet := quiet_append_right free (dropIndent chars)
  rw [dropIndent_append_indentBefore] at quiet
  exact quiet.symm

/-- What is kept of a gap holds the opening braces of the whole gap. -/
theorem quiet_kept (gap : Gap) (endsBody dropFront dropBack : Bool) :
    Quiet (kept gap endsBody dropFront dropBack) ↔ Quiet gap.chars := by
  have behind : Quiet (kept gap endsBody dropFront false) ↔ Quiet gap.chars := by
    cases dropFront with
    | false => rfl
    | true =>
      change Quiet ((restOfLine? endsBody gap.chars).getD gap.chars) ↔ _
      cases found : restOfLine? endsBody gap.chars with
      | none => rfl
      | some tail => exact (quiet_restOfLine? found).symm
  cases dropBack with
  | false => exact behind
  | true =>
    rw [kept_dropBack, quiet_dropIndent]
    exact behind

/-- No text among some tokens holds two opening braces. -/
def AllQuiet (tokens : List Token) : Prop :=
  ∀ token ∈ tokens, ∀ words, token.content = .text words → Quiet words.toList

theorem allQuiet_append (front back : List Token) :
    AllQuiet (front ++ back) ↔ AllQuiet front ∧ AllQuiet back :=
  List.forall_mem_append

theorem allQuiet_directive_cons (d : Directive) (position : Position) (rest : List Token) :
    AllQuiet (⟨.directive d, position⟩ :: rest) ↔ AllQuiet rest := by
  constructor
  · intro quiet token member
    exact quiet token (List.mem_cons_of_mem _ member)
  · intro quiet token member words text
    rcases List.mem_cons.mp member with rfl | member
    · cases text
    · exact quiet token member words text

theorem allQuiet_ofGap (gap : Gap) (chars : List Char) : AllQuiet (ofGap gap chars) ↔ Quiet chars := by
  cases chars with
  | nil => exact ⟨fun _ => .nil, fun _ token member => by cases member⟩
  | cons c rest =>
    constructor
    · intro quiet
      simpa using quiet _ (List.mem_singleton_self _) _ rfl
    · intro quiet token member words text
      rw [List.mem_singleton.mp member] at text
      cases text
      simpa using quiet

/-- The tokens show all opening braces of the gaps that they are made from. -/
theorem quiet_ofStops_iff (opensBody dropFront : Bool) (gap : Gap) (stops : List Stop) :
    AllQuiet (ofStops opensBody dropFront gap stops) ↔
      Quiet gap.chars ∧ ∀ stop ∈ stops, Quiet stop.gap.chars := by
  induction stops generalizing opensBody dropFront gap with
  | nil =>
    rw [ofStops, allQuiet_ofGap, quiet_kept]
    simp
  | cons stop rest ih =>
    rw [ofStops, allQuiet_append, allQuiet_ofGap, quiet_kept, allQuiet_directive_cons, ih,
      List.forall_mem_cons]

end Token

namespace Piece

open Text

/-- Whether there is nothing to warn about in a piece. -/
def isSound : Piece → Bool
  | plain _ => true
  | stray _ => false
  | rejected _ => false
  | unclosed _ => false
  | directive _ _ => true

theorem warning?_eq_none_iff (located : Position × Piece) :
    warning? located = none ↔ located.2.isSound := by
  obtain ⟨position, piece⟩ := located
  cases piece <;> simp [warning?, isSound]

/-- What is known of a piece by its kind: what there is to warn about begins with two opening braces,
and nothing closes an unclosed span. -/
def Shaped : Piece → Prop
  | plain _ => True
  | stray chars => ['{', '{'] <+: chars
  | rejected chars => ['{', '{'] <+: chars
  | unclosed chars => ['{', '{'] <+: chars ∧ ¬['}', '}'] <:+: chars
  | directive _ _ => True

theorem shaped_ofSpan (inner : List Char) : (ofSpan inner).Shaped := by
  unfold ofSpan
  split
  · trivial
  · exact ⟨inner ++ ['}', '}'], rfl⟩

theorem shaped_of_mem_ofOpening {inner : List Char} : ∀ piece ∈ ofOpening inner, piece.Shaped := by
  intro piece member
  unfold ofOpening at member
  split at member
  · next front core found =>
    simp only [List.mem_cons, List.not_mem_nil, or_false] at member
    rcases member with rfl | rfl
    · split
      · trivial
      · next long =>
        have whole := eq_of_cutAtLastPair? found
        obtain ⟨a, b, rest, rfl⟩ : ∃ a b rest, front = a :: b :: rest := by
          match front, long with
          | a :: b :: rest, _ => exact ⟨a, b, rest, rfl⟩
          | [_], long => simp at long
          | [], long => simp at long
        simp only [List.cons_append, List.cons.injEq] at whole
        obtain ⟨rfl, rfl, _⟩ := whole
        exact ⟨rest, rfl⟩
    · exact shaped_ofSpan core
  · rw [List.mem_singleton.mp member]
    exact shaped_ofSpan inner

theorem shaped_of_mem_scan {chars : List Char} : ∀ piece ∈ scan chars, piece.Shaped := by
  fun_induction scan chars with
  | case1 chars opening =>
    intro piece member
    rw [List.mem_singleton.mp member]
    trivial
  | case2 chars lead rest opening closing =>
    intro piece member
    simp only [List.mem_cons, List.not_mem_nil, or_false] at member
    rcases member with rfl | rfl
    · trivial
    · have open_ : ¬['}', '}'] <:+: ['{', '{'] ++ rest := by
        rw [pair_infix_append_left (by decide)]
        exact (cutAtPair?_eq_none_iff _ _).mp closing
      exact ⟨⟨rest, rfl⟩, open_⟩
  | case3 chars lead rest opening inner behind closing ih =>
    intro piece member
    simp only [List.cons_append, List.mem_cons, List.mem_append] at member
    rcases member with rfl | inside | later
    · trivial
    · exact shaped_of_mem_ofOpening piece inside
    · exact ih piece later

/-- No gap between the directives among some pieces holds two opening braces. -/
def QuietCut (start : Position) (pieces : List Piece) : Prop :=
  Quiet (cut start pieces).1 ∧ ∀ stop ∈ (cut start pieces).2, Quiet stop.gap.chars

/-- Whatever is no directive is part of a gap. -/
theorem QuietCut.source {start : Position} {pieces : List Piece} (quiet : QuietCut start pieces) :
    ∀ piece ∈ pieces, (∀ d source, piece ≠ directive d source) → Quiet piece.source := by
  induction pieces generalizing start with
  | nil => intro piece member; cases member
  | cons first rest ih =>
    intro piece member text
    by_cases here : ∀ d source, first ≠ directive d source
    · rw [QuietCut, Layout.cut_cons here] at quiet
      have later : QuietCut (start.after first.source) rest :=
        ⟨quiet.1.mono (List.suffix_append _ _).isInfix, quiet.2⟩
      rcases List.mem_cons.mp member with rfl | member
      · exact quiet.1.mono (List.prefix_append _ _).isInfix
      · exact ih later piece member text
    · obtain ⟨d, source, rfl⟩ : ∃ d source, first = directive d source := by simpa using here
      have later : QuietCut (start.after source) rest :=
        ⟨quiet.2 _ List.mem_cons_self, fun stop among => quiet.2 stop (List.mem_cons_of_mem _ among)⟩
      rcases List.mem_cons.mp member with rfl | member
      · exact absurd rfl (text d source)
      · exact ih later piece member text

theorem ofSpan_of_isSound {inner : List Char} (sound : (ofSpan inner).isSound) :
    ∃ d source, ofSpan inner = directive d source := by
  unfold ofSpan at sound ⊢
  split at sound
  · next d _ => exact ⟨d, _, rfl⟩
  · cases sound

/-- Sound pieces from opening braces on are a directive and at most one brace in front of it. -/
theorem ofOpening_of_isSound {inner : List Char} (sound : ∀ piece ∈ ofOpening inner, piece.isSound) :
    ∃ d source, ofOpening inner = [directive d source] ∨
      ofOpening inner = [plain [], directive d source] ∨
      ofOpening inner = [plain ['{'], directive d source] := by
  unfold ofOpening at sound ⊢
  split at sound
  · next front core found =>
    have first := sound _ List.mem_cons_self
    have last := sound _ (List.mem_cons_of_mem _ List.mem_cons_self)
    obtain ⟨d, source, same⟩ := ofSpan_of_isSound last
    refine ⟨d, source, .inr ?_⟩
    rw [same]
    match front, first with
    | [], _ => exact .inl rfl
    | [c], _ =>
      have whole := eq_of_cutAtLastPair? found
      simp only [List.cons_append, List.cons.injEq] at whole
      obtain ⟨rfl, _⟩ := whole
      exact .inr rfl
    | a :: b :: rest, first =>
      have long : ¬(a :: b :: rest).length < 2 := by simp
      rw [if_neg long] at first
      cases first
  · obtain ⟨d, source, same⟩ := ofSpan_of_isSound (sound _ List.mem_cons_self)
    exact ⟨d, source, .inl (congrArg ([·]) same)⟩

theorem quietCut_plain_cons (start : Position) (front : List Char) (d : Directive)
    (source : List Char) {rest : List Piece} (quiet : Quiet front)
    (later : ∀ start, QuietCut start rest) :
    QuietCut start (plain front :: directive d source :: rest) := by
  constructor
  · simpa [cut, Piece.source] using quiet
  · intro stop member
    rcases List.mem_cons.mp member with rfl | member
    · exact (later _).1
    · exact (later _).2 stop member

/-- The gaps of a body hold two opening braces exactly if there is something to warn about. -/
theorem quietCut_scan_iff (start : Position) (chars : List Char) :
    QuietCut start (scan chars) ↔ ∀ piece ∈ scan chars, piece.isSound := by
  constructor
  · intro quiet piece member
    have shaped := shaped_of_mem_scan piece member
    have source := quiet.source piece member
    cases piece with
    | plain _ => rfl
    | directive _ _ => rfl
    | stray front => exact absurd shaped.isInfix (source (by simp))
    | rejected span => exact absurd shaped.isInfix (source (by simp))
    | unclosed rest => exact absurd shaped.1.isInfix (source (by simp))
  · intro sound
    fun_induction scan chars generalizing start with
    | case1 chars opening =>
      have quiet : Quiet chars := (cutAtPair?_eq_none_iff _ _).mp opening
      exact ⟨by simpa [cut, Piece.source] using quiet, by simp [cut]⟩
    | case2 chars lead rest opening closing =>
      have unsound := sound (unclosed ('{' :: '{' :: rest)) (by simp)
      cases unsound
    | case3 chars lead rest opening inner behind closing ih =>
      rw [List.cons_append, List.forall_mem_cons, List.forall_mem_append] at sound
      have later : ∀ start, QuietCut start (scan behind) := fun start => ih start sound.2.2
      have quiet : Quiet (lead ++ ['{']) := not_infix_of_cutAtPair? opening
      have shorter : Quiet lead := quiet.mono (List.prefix_append _ _).isInfix
      obtain ⟨d, source, same | same | same⟩ := ofOpening_of_isSound sound.2.1
      · rw [same]
        exact quietCut_plain_cons start lead d source shorter later
      · rw [same]
        have joined := quietCut_plain_cons start lead d source shorter later
        simpa [QuietCut, cut, Piece.source] using joined
      · rw [same]
        have joined := quietCut_plain_cons start _ d source quiet later
        simpa [QuietCut, cut, Piece.source, Position.after_append] using joined

end Piece

end Stencil
