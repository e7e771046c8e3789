import Mathlib.Data.List.Chain
import Stencil.Proofs.Body.Layout

/-! # Loop directives that take their line

Whether a loop directive stands alone on its line is said here of the whole body on either side of
it, and so is what it takes: the indentation in front of it, and the rest of its line. The tokens of
a body are what is then left of each gap between directives (`contents_scan`). Two directives never
take the same character: what the one in front takes ends in a line break, and what the one behind
takes holds none.
-/

namespace Stencil

namespace Text

/-- The spaces and tabs that a text ends with. -/
def indentBefore (before : List Char) : List Char := (before.reverse.takeWhile isIndent).reverse

/-- A text up to and with its first line break; all of it, if it has none. -/
def firstLine (behind : List Char) : List Char :=
  behind.takeWhile (· ≠ '\n') ++ (behind.dropWhile (· ≠ '\n')).take 1

/-- Only spaces and tabs stand behind the last line break of a text, or in the whole of it. -/
def EndsAtLineStart (before : List Char) : Prop :=
  ∃ head indent, before = head ++ indent ∧ (∀ c ∈ indent, isIndent c) ∧
    (head = [] ∨ head.getLast? = some '\n')

/-- Only spaces and tabs stand in front of the first line break of a text, or in the whole of it. -/
def BeginsAtLineEnd (behind : List Char) : Prop :=
  ∃ indent rest, behind = indent ++ rest ∧ (∀ c ∈ indent, isIndent c) ∧
    (rest = [] ∨ ['\n'] <+: rest ∨ ['\r', '\n'] <+: rest)

end Text

namespace Token

open Text

theorem dropIndent_append_indentBefore (chars : List Char) :
    dropIndent chars ++ indentBefore chars = chars := by
  rw [dropIndent, indentBefore, ← List.reverse_append, List.takeWhile_append_dropWhile,
    List.reverse_reverse]

theorem dropIndent_of_indent {chars : List Char} (indent : ∀ c ∈ chars, isIndent c) :
    dropIndent chars = [] := by
  have flipped : ∀ c ∈ chars.reverse, isIndent c := fun c member =>
    indent c (List.mem_reverse.mp member)
  rw [dropIndent, List.dropWhile_eq_nil_iff.mpr flipped, List.reverse_nil]

/-- Indentation is not looked for beyond a character of another kind. -/
theorem dropIndent_append {front : List Char}
    (solid : ∀ c, front.getLast? = some c → isIndent c = false) (back : List Char) :
    dropIndent (front ++ back) = front ++ dropIndent back := by
  have stopped : front.reverse.dropWhile isIndent = front.reverse := by
    rw [← List.head?_reverse] at solid
    generalize front.reverse = flipped at solid ⊢
    cases flipped with
    | nil => rfl
    | cons c rest => simp [solid c rfl]
  rw [dropIndent, dropIndent, List.reverse_append, List.dropWhile_append, stopped]
  split
  · next empty => simp [List.isEmpty_iff.mp empty]
  · simp

theorem indentBefore_append {front : List Char}
    (solid : ∀ c, front.getLast? = some c → isIndent c = false) (back : List Char) :
    indentBefore (front ++ back) = indentBefore back := by
  have whole := dropIndent_append_indentBefore (front ++ back)
  rw [dropIndent_append solid, List.append_assoc] at whole
  have both := (List.append_cancel_left whole).trans (dropIndent_append_indentBefore back).symm
  exact List.append_cancel_left both

theorem endsAtLineStart_iff_dropIndent (before : List Char) :
    EndsAtLineStart before ↔
      dropIndent before = [] ∨ (dropIndent before).getLast? = some '\n' := by
  constructor
  · rintro ⟨head, indent, rfl, blank, start⟩
    have solid : ∀ c, head.getLast? = some c → isIndent c = false := by
      intro c last
      rcases start with rfl | feed
      · cases last
      · rw [feed] at last
        cases last
        decide
    rw [dropIndent_append solid, dropIndent_of_indent blank, List.append_nil]
    exact start
  · intro start
    exact ⟨dropIndent before, indentBefore before, (dropIndent_append_indentBefore before).symm,
      fun c member => List.mem_takeWhile_imp (List.mem_reverse.mp member), start⟩

/-- In front of a gap stands nothing, or the closing brace of a directive. -/
private theorem solid_of_outside {before : List Char}
    (outside : before = [] ∨ before.getLast? = some '}') :
    ∀ c, before.getLast? = some c → isIndent c = false := by
  intro c last
  rcases outside with rfl | brace
  · cases last
  · rw [brace] at last
    cases last
    decide

instance (before : List Char) : Decidable (EndsAtLineStart before) :=
  decidable_of_iff' _ (endsAtLineStart_iff_dropIndent before)

/-- Looking at a gap alone is enough to see whether a line starts behind it: in front of the gap
stands nothing, or the closing brace of a directive. -/
theorem endsAtLineStart_iff {before : List Char}
    (outside : before = [] ∨ before.getLast? = some '}') (gap : List Char) :
    endsAtLineStart before.isEmpty gap = true ↔ EndsAtLineStart (before ++ gap) := by
  rw [endsAtLineStart_iff_dropIndent, dropIndent_append (solid_of_outside outside)]
  simp only [endsAtLineStart, Bool.or_eq_true, Bool.and_eq_true, beq_iff_eq, List.isEmpty_iff]
  rcases outside with rfl | brace
  · rw [List.nil_append, or_comm]
    simp
  · have some : before ≠ [] := by rintro rfl; cases brace
    rw [List.getLast?_append, brace]
    cases (dropIndent gap).getLast? <;> simp [some]

theorem restOfLine?_eq_some_iff (endsBody : Bool) (chars tail : List Char) :
    restOfLine? endsBody chars = some tail ↔ ∃ indent, (∀ c ∈ indent, isIndent c) ∧
      (chars = indent ++ '\n' :: tail ∨ chars = indent ++ '\r' :: '\n' :: tail ∨
        endsBody = true ∧ chars = indent ∧ tail = []) := by
  constructor
  · intro found
    have whole : chars.takeWhile isIndent ++ chars.dropWhile isIndent = chars :=
      List.takeWhile_append_dropWhile
    refine ⟨chars.takeWhile isIndent, fun c member => List.mem_takeWhile_imp member, ?_⟩
    unfold restOfLine? at found
    split at found
    · next rest rested =>
      rw [rested, Option.some.inj found] at whole
      exact .inr (.inl whole.symm)
    · next rest rested =>
      rw [rested, Option.some.inj found] at whole
      exact .inl whole.symm
    · next rested =>
      rw [rested, List.append_nil] at whole
      split at found
      · next ends => exact .inr (.inr ⟨ends, whole.symm, (Option.some.inj found).symm⟩)
      · cases found
    · cases found
  · rintro ⟨indent, blank, rfl | rfl | ⟨rfl, rfl, rfl⟩⟩
    · rw [restOfLine?, List.dropWhile_append_of_pos blank]
      rfl
    · rw [restOfLine?, List.dropWhile_append_of_pos blank]
      rfl
    · rw [restOfLine?, List.dropWhile_eq_nil_iff.mpr blank]
      rfl

/-- A character that no directive begins with lies in the gap, if all in front of it does. -/
private theorem exists_in_gap {gap more front rest : List Char} {c : Char}
    (outside : more = [] ∨ more.head? = some '{') (free : '{' ∉ front) (other : c ≠ '{')
    (same : gap ++ more = front ++ c :: rest) : ∃ tail, gap = front ++ c :: tail := by
  rcases List.append_eq_append_iff.mp same with ⟨middle, rfl, behind⟩ | ⟨middle, rfl, behind⟩
  · rcases outside with rfl | brace
    · simp at behind
    · cases middle with
      | nil => simp [behind, other] at brace
      | cons a middle =>
        obtain rfl : a = '{' := by simpa [behind] using brace
        simp at free
  · cases middle with
    | nil =>
      rcases outside with rfl | brace
      · cases behind
      · obtain rfl : more = c :: rest := behind.symm
        simp [other] at brace
    | cons a middle =>
      obtain ⟨rfl, _⟩ := List.cons.inj behind
      exact ⟨middle, rfl⟩

theorem notMem_of_indent {c : Char} {indent : List Char} (other : isIndent c = false)
    (blank : ∀ c ∈ indent, isIndent c) : c ∉ indent := by
  intro member
  rw [blank c member] at other
  cases other

/-- What stands behind a gap does not matter for the line that it begins with: that is nothing, or
the opening brace of a directive. -/
theorem restOfLine?_isSome_iff (gap : List Char) {more : List Char}
    (outside : more = [] ∨ more.head? = some '{') :
    (restOfLine? more.isEmpty gap).isSome = true ↔ BeginsAtLineEnd (gap ++ more) := by
  rw [Option.isSome_iff_exists]
  simp only [restOfLine?_eq_some_iff]
  constructor
  · rintro ⟨tail, indent, blank, rfl | rfl | ⟨ends, rfl, rfl⟩⟩
    · exact ⟨indent, '\n' :: tail ++ more, List.append_assoc .., blank, .inr (.inl (by simp))⟩
    · exact ⟨indent, '\r' :: '\n' :: tail ++ more, List.append_assoc .., blank,
        .inr (.inr (by simp))⟩
    · rw [List.isEmpty_iff.mp ends]
      exact ⟨gap, [], rfl, blank, .inl rfl⟩
  · rintro ⟨indent, rest, split, blank, ends⟩
    have unbraced : '{' ∉ indent := notMem_of_indent (by decide) blank
    rcases ends with rfl | ⟨rest, rfl⟩ | ⟨rest, rfl⟩
    · rw [List.append_nil] at split
      rcases outside with rfl | brace
      · exact ⟨[], indent, blank, .inr (.inr ⟨rfl, by simpa using split, rfl⟩)⟩
      · have inside : '{' ∈ indent := split ▸ List.mem_append_right _ (List.mem_of_mem_head? brace)
        exact absurd inside unbraced
    · obtain ⟨tail, rfl⟩ := exists_in_gap outside unbraced (by decide) split
      exact ⟨tail, indent, blank, .inl rfl⟩
    · have joined : gap ++ more = (indent ++ ['\r']) ++ '\n' :: rest := by simpa using split
      obtain ⟨tail, rfl⟩ := exists_in_gap outside (by simp [unbraced]) (by decide) joined
      exact ⟨tail, indent, blank, .inr (.inl (by simp))⟩

instance (behind : List Char) : Decidable (BeginsAtLineEnd behind) :=
  decidable_of_iff _ ((restOfLine?_isSome_iff behind (.inl rfl)).trans (by rw [List.append_nil]))

private theorem passed_of_notMem {chars : List Char} (free : '\n' ∉ chars) :
    ∀ c ∈ chars, decide (c ≠ '\n') = true := by
  intro c member
  exact decide_eq_true fun feed => free (feed ▸ member)

private theorem firstLine_append {front : List Char} (free : '\n' ∉ front) (rest : List Char) :
    firstLine (front ++ '\n' :: rest) = front ++ ['\n'] := by
  have passed := passed_of_notMem free
  rw [firstLine, List.takeWhile_append_of_pos passed, List.dropWhile_append_of_pos passed]
  simp

private theorem firstLine_of_notMem {chars : List Char} (free : '\n' ∉ chars) :
    firstLine chars = chars := by
  have passed := passed_of_notMem free
  rw [firstLine, List.takeWhile_eq_self_iff.mpr passed, List.dropWhile_eq_nil_iff.mpr passed]
  simp

/-- What a gap loses to the directive in front of it is the rest of that one's line. -/
theorem eq_firstLine_append {gap more tail : List Char}
    (found : restOfLine? more.isEmpty gap = some tail) :
    gap = firstLine (gap ++ more) ++ tail ∧
      (more ≠ [] → (firstLine (gap ++ more)).getLast? = some '\n') := by
  obtain ⟨indent, blank, rfl | rfl | ⟨ends, rfl, rfl⟩⟩ := (restOfLine?_eq_some_iff _ _ _).mp found
  · have line := firstLine_append (notMem_of_indent (by decide) blank) (tail ++ more)
    rw [List.append_assoc, List.cons_append, line]
    simp
  · have free : '\n' ∉ indent ++ ['\r'] := by
      simpa using notMem_of_indent (c := '\n') (by decide) blank
    have line := firstLine_append free (tail ++ more)
    have shape : indent ++ '\r' :: '\n' :: tail ++ more =
        indent ++ ['\r'] ++ '\n' :: (tail ++ more) := by simp
    rw [shape, line]
    simp
  · obtain rfl := List.isEmpty_iff.mp ends
    simp [firstLine_of_notMem (notMem_of_indent (c := '\n') (by decide) blank)]

end Token

namespace Occurrence

variable {body : List Char}

/-- A loop directive with only spaces and tabs around it on its line. -/
structure StandsAlone (o : Occurrence body) : Prop where
  loop : o.directive.isLoop = true
  front : Text.EndsAtLineStart o.before
  back : Text.BeginsAtLineEnd o.behind

instance (o : Occurrence body) : Decidable o.StandsAlone :=
  decidable_of_iff
    (o.directive.isLoop = true ∧ Text.EndsAtLineStart o.before ∧ Text.BeginsAtLineEnd o.behind)
    ⟨fun ⟨loop, front, back⟩ => ⟨loop, front, back⟩,
      fun alone => ⟨alone.loop, alone.front, alone.back⟩⟩

/-- What a directive takes in front of it: its indentation, if it stands alone. -/
def indent (o : Occurrence body) : List Char :=
  if o.StandsAlone then Text.indentBefore o.before else []

/-- What a directive takes behind it: the rest of its line, if it stands alone. -/
def line (o : Occurrence body) : List Char :=
  if o.StandsAlone then Text.firstLine o.behind else []

theorem getLast?_through (o : Occurrence body) : o.through.getLast? = some '}' := by
  have shape : o.through = (o.before ++ '{' :: '{' :: o.inner ++ ['}']) ++ ['}'] := by
    simp [through, Piece.braced]
  rw [shape, List.getLast?_concat]

/-- What stands behind the gap of a chain is its next directive, if there is one. -/
theorem Chained.exists_more {before gap behind : List Char}
    {parts : List (Occurrence body × List Char)} (chained : Chained before gap parts)
    (whole : before ++ behind = body) :
    ∃ more, behind = gap ++ more ∧ more.isEmpty = parts.isEmpty ∧
      (more = [] ∨ more.head? = some '{') := by
  cases parts with
  | nil =>
    have same := List.append_cancel_left (whole.trans chained.symm)
    exact ⟨[], by simpa using same, rfl, .inl rfl⟩
  | cons part rest =>
    have place := part.1.whole
    rw [chained.1, List.append_assoc, List.append_assoc] at place
    exact ⟨_, List.append_cancel_left (whole.trans place.symm), rfl, .inr rfl⟩

/-- What a directive that stands alone takes behind it begins the gap there, and ends in a line break
unless no directive follows. -/
theorem StandsAlone.exists_rest {o : Occurrence body} (alone : o.StandsAlone) {next : List Char}
    {rest : List (Occurrence body × List Char)} (later : Chained o.through next rest) :
    ∃ tail, Token.restOfLine? rest.isEmpty next = some tail ∧ next = o.line ++ tail ∧
      (rest ≠ [] → o.line.getLast? = some '\n') := by
  obtain ⟨more, behind, ends, braced⟩ := later.exists_more o.through_append_behind
  have found := (Token.restOfLine?_isSome_iff next braced).mpr (behind ▸ alone.back)
  obtain ⟨tail, found⟩ := Option.isSome_iff_exists.mp found
  obtain ⟨split, feed⟩ := Token.eq_firstLine_append found
  have taken : o.line = Text.firstLine (next ++ more) := by rw [line, if_pos alone, behind]
  refine ⟨tail, ends ▸ found, taken ▸ split, fun some => taken ▸ feed fun empty => ?_⟩
  rw [empty] at ends
  exact some (List.isEmpty_iff.mp ends.symm)

end Occurrence

namespace Token

/-- The contents that a text shows as: nothing at all, if it is empty. -/
def shown (chars : List Char) : List Content :=
  if chars = [] then [] else [.text (String.ofList chars)]

/-- The contents of the tokens from a gap on. Each gap is what the directive in front of it takes,
what is kept, and what the directive behind it takes; `line` is what the one in front takes. -/
inductive Shows {body : List Char} :
    List Char → List Char → List (Occurrence body × List Char) → List Content → Prop
  | last (line kept : List Char) : Shows line (line ++ kept) [] (shown kept)
  | next (line kept : List Char) (o : Occurrence body) {gap : List Char}
      {rest : List (Occurrence body × List Char)} {contents : List Content}
      (later : Shows o.line gap rest contents) :
      Shows line (line ++ kept ++ o.indent) ((o, gap) :: rest)
        (shown kept ++ .directive o.directive :: contents)

theorem content_ofGap (gap : Gap) (chars : List Char) :
    (ofGap gap chars).map (·.content) = shown chars := by
  cases chars <;> rfl

variable {body : List Char}

theorem standsAlone_iff {before gap : List Char} {o : Occurrence body} {next : List Char}
    {rest : List (Occurrence body × List Char)}
    (outside : before = [] ∨ before.getLast? = some '}')
    (chained : Occurrence.Chained before gap ((o, next) :: rest)) :
    standsAlone o.directive before.isEmpty rest.isEmpty gap next = true ↔ o.StandsAlone := by
  obtain ⟨here, later⟩ := chained
  obtain ⟨more, behind, ends, braced⟩ := later.exists_more o.through_append_behind
  simp only [standsAlone, Bool.and_eq_true]
  rw [endsAtLineStart_iff outside, ← ends, restOfLine?_isSome_iff next braced, ← here, ← behind]
  exact ⟨fun ⟨⟨loop, front⟩, back⟩ => ⟨loop, front, back⟩,
    fun alone => ⟨⟨alone.loop, alone.front⟩, alone.back⟩⟩

theorem kept_dropBack (gap : Gap) (endsBody dropFront : Bool) :
    kept gap endsBody dropFront true = dropIndent (kept gap endsBody dropFront false) := rfl

theorem kept_of_restOfLine? {position : Position} {gap tail : List Char} {endsBody : Bool}
    (found : restOfLine? endsBody gap = some tail) :
    kept ⟨position, gap⟩ endsBody true false = tail := by
  change (restOfLine? endsBody gap).getD gap = tail
  rw [found, Option.getD_some]

theorem contents_ofStops_cons {o : Occurrence body} {next : List Char}
    {rest : List (Occurrence body × List Char)} {opensBody alone : Bool} (dropFront : Bool)
    (gap : Gap) (standing : standsAlone o.directive opensBody rest.isEmpty gap.chars next = alone) :
    (ofStops opensBody dropFront gap (((o, next) :: rest).map Layout.stop)).map (·.content) =
      shown (kept gap false dropFront alone) ++ .directive o.directive ::
        (ofStops false alone ⟨.behind o.through, next⟩ (rest.map Layout.stop)).map (·.content) := by
  rw [List.map_cons, ofStops, List.map_append, content_ofGap, List.map_cons, List.isEmpty_map]
  subst standing
  rfl

/-- The tokens of a chain of directives show it. `tail` is what the directive in front of the gap
leaves of it. -/
theorem shows_ofStops {before gap line tail : List Char}
    {parts : List (Occurrence body × List Char)} (chained : Occurrence.Chained before gap parts)
    (outside : before = [] ∨ before.getLast? = some '}') (position : Position)
    (dropFront : Bool) (split : gap = line ++ tail)
    (left : kept ⟨position, gap⟩ parts.isEmpty dropFront false = tail)
    (solid : parts ≠ [] → ∀ c, line.getLast? = some c → Text.isIndent c = false) :
    Shows line gap parts
      ((ofStops before.isEmpty dropFront ⟨position, gap⟩ (parts.map Layout.stop)).map
        (·.content)) := by
  induction parts generalizing before gap line tail dropFront position with
  | nil =>
    rw [List.map_nil, ofStops, content_ofGap]
    change kept ⟨position, gap⟩ true dropFront false = tail at left
    rw [left, split]
    exact .last line tail
  | cons part rest ih =>
    obtain ⟨o, next⟩ := part
    have standing := standsAlone_iff outside chained
    have opens : o.through.isEmpty = false := by simp [Occurrence.through, Piece.braced]
    obtain ⟨here, later⟩ := chained
    change kept ⟨position, gap⟩ false dropFront false = tail at left
    by_cases alone : o.StandsAlone
    · -- The directive takes the indentation of its line, which the one in front of it left.
      have taken : o.indent = Text.indentBefore tail := by
        rw [Occurrence.indent, if_pos alone, here, indentBefore_append (solid_of_outside outside),
          split, indentBefore_append (solid (List.cons_ne_nil _ _))]
      obtain ⟨after, found, nextSplit, feed⟩ := alone.exists_rest later
      have nextSolid : rest ≠ [] → ∀ c, o.line.getLast? = some c → Text.isIndent c = false := by
        intro some c last
        rw [feed some] at last
        cases last
        decide
      have step := ih later (.inr o.getLast?_through) (.behind o.through) true nextSplit
        (kept_of_restOfLine? found) nextSolid
      have shows := Shows.next line (dropIndent tail) o step
      rw [taken, List.append_assoc, dropIndent_append_indentBefore, ← split, opens] at shows
      rw [contents_ofStops_cons dropFront ⟨position, gap⟩ (standing.mpr alone), kept_dropBack, left]
      exact shows
    · have step := ih later (.inr o.getLast?_through) (.behind o.through) false
        (List.nil_append next).symm rfl (by simp)
      have noLine : o.line = [] := if_neg alone
      have noIndent : o.indent = [] := if_neg alone
      rw [opens, ← noLine] at step
      have shows := Shows.next line tail o step
      rw [noIndent, List.append_nil, ← split] at shows
      have standing := Bool.eq_false_iff.mpr (mt standing.mp alone)
      rw [contents_ofStops_cons dropFront ⟨position, gap⟩ standing, left]
      exact shows

theorem ne_empty_of_shows {line gap : List Char} {parts : List (Occurrence body × List Char)}
    {contents : List Content} (shows : Shows line gap parts contents) :
    ∀ content ∈ contents, content ≠ .text "" := by
  have some (chars : List Char) : ∀ content ∈ shown chars, content ≠ .text "" := by
    intro content member
    unfold shown at member
    split at member
    · cases member
    · next solid =>
      rw [List.mem_singleton.mp member]
      simpa using solid
  induction shows with
  | last line kept => exact some kept
  | next line kept o _ ih =>
    intro content member
    rcases List.mem_append.mp member with text | member
    · exact some kept content text
    · rcases List.mem_cons.mp member with rfl | later
      · exact Content.noConfusion
      · exact ih content later

theorem isChain_of_shows {line gap : List Char} {parts : List (Occurrence body × List Char)}
    {contents : List Content} (shows : Shows line gap parts contents) :
    contents.IsChain fun a b => a.isDirective = true ∨ b.isDirective = true := by
  have directiveFirst (d : Directive) (b : Content) :
      (Content.directive d).isDirective = true ∨ b.isDirective = true := .inl rfl
  induction shows with
  | last line kept => unfold shown; split <;> simp
  | next line kept o _ ih =>
    have later := List.isChain_cons.mpr ⟨fun b _ => directiveFirst o.directive b, ih⟩
    unfold shown
    split
    · exact later
    · exact List.isChain_cons_cons.mpr ⟨.inr rfl, later⟩

/-- The tokens of a body show its layout along all its directives, each gap without exactly what the
two directives around it take. No text is empty, and no two texts stand side by side. -/
theorem contents_scan (body : String) :
    ∃ layout : Layout body.toList,
      Shows [] layout.lead layout.parts ((scan body).tokens.map (·.content)) ∧
      (∀ token ∈ (scan body).tokens, token.content ≠ .text "") ∧
      (scan body).tokens.IsChain fun a b =>
        a.content.isDirective = true ∨ b.content.isDirective = true := by
  obtain ⟨layout, cut⟩ := Layout.exists_layout body.toList
  have shows : Shows [] layout.lead layout.parts ((scan body).tokens.map (·.content)) := by
    rw [scan, cut]
    exact shows_ofStops layout.chained (.inl rfl) .start false rfl rfl (by simp)
  refine ⟨layout, shows, fun token member => ?_, ?_⟩
  · exact ne_empty_of_shows shows _ (List.mem_map_of_mem member)
  · exact (List.isChain_map Token.content).mp (isChain_of_shows shows)

end Token

end Stencil
