import Stencil.Body.Token
import Stencil.Proofs.Body.Spelling
import Stencil.Proofs.Text.Position

/-! # The directives of a body

An occurrence is any place of a body where two opening braces, the spelling of a directive and two
closing braces stand. No occurrence begins inside a span that the scan has passed: a span ends at
the first closing braces, and an occurrence holds none but its own. So the scan meets every
occurrence (`exists_directive_scan`), and reports nothing else (`spells_of_mem_scan`).
-/

namespace Stencil

/-- A place of a body where a directive stands, with the text on either side of it. -/
structure Occurrence (body : List Char) where
  before : List Char
  inner : List Char
  behind : List Char
  directive : Directive
  whole : before ++ Piece.braced inner ++ behind = body
  spelled : directive.Spells inner

namespace Piece

/-- A closing brace in front of a text that ends in an open span stands in front of that span. -/
private theorem exists_append_of_closing {front back before inner : List Char}
    (free : '}' ∉ inner) (same : front ++ '}' :: back = before ++ '{' :: '{' :: inner) :
    ∃ more, before = front ++ '}' :: more ∧ back = more ++ '{' :: '{' :: inner := by
  rcases List.append_eq_append_iff.mp same with ⟨more, rfl, behind⟩ | ⟨more, rfl, behind⟩
  · cases more with
    | nil => simp at behind
    | cons c more =>
      obtain ⟨rfl, rfl⟩ := List.cons.inj behind
      exact ⟨more, rfl, rfl⟩
  · have inside : '}' ∈ '{' :: '{' :: inner := by simp [behind]
    simp [free] at inside

/-- What follows the first opening braces, for an occurrence at or behind them. -/
private theorem exists_inside {more rest tail : List Char}
    (same : more ++ '{' :: '{' :: tail = '{' :: '{' :: rest) :
    ∃ lead, '{' :: '{' :: lead = more ++ ['{', '{'] ∧ rest = lead ++ tail := by
  rcases more with _ | ⟨a, _ | ⟨b, more⟩⟩
  · exact ⟨[], rfl, by simpa using same.symm⟩
  · simp only [List.cons_append, List.nil_append, List.cons.injEq, true_and] at same
    obtain ⟨rfl, rfl⟩ := same
    exact ⟨['{'], rfl, rfl⟩
  · simp only [List.cons_append, List.cons.injEq] at same
    obtain ⟨rfl, rfl, rfl⟩ := same
    exact ⟨more ++ ['{', '{'], by simp, by simp⟩

/-- An occurrence stands at or behind the first opening braces of a text. -/
private theorem exists_of_opening {chars before inner behind lead rest : List Char}
    (whole : before ++ braced inner ++ behind = chars)
    (opening : Text.cutAtPair? '{' chars = some (lead, rest)) :
    ∃ more skipped, before = lead ++ more ∧ '{' :: '{' :: skipped = more ++ ['{', '{'] ∧
      rest = skipped ++ (inner ++ '}' :: '}' :: behind) := by
  have shape : before ++ '{' :: '{' :: (inner ++ '}' :: '}' :: behind) = chars := by
    simpa [braced] using whole
  obtain ⟨_, more, _, found, rfl, same⟩ :=
    Text.exists_cutAtPair? '{' before (inner ++ '}' :: '}' :: behind)
  rw [shape, opening] at found
  cases found
  obtain ⟨skipped, opened, rfl⟩ := exists_inside same
  exact ⟨more, skipped, rfl, opened, rfl⟩

theorem ofSpan_of_spells {inner : List Char} {d : Directive} (spelled : d.Spells inner) :
    ofSpan inner = directive d (braced inner) := by
  rw [ofSpan, (Directive.read?_eq_some_iff inner d).mpr spelled]

theorem ofOpening_of_spells {span more inner : List Char} {d : Directive}
    (spelled : d.Spells inner) (same : '{' :: '{' :: span = more ++ '{' :: '{' :: inner) :
    ofOpening span =
      [if more.length < 2 then plain more else stray more, directive d (braced inner)] := by
  have noOpening : '{' ∉ inner := spelled.notMem (by simp)
  rw [ofOpening, same, Text.cutAtLastPair?_of_notMem more noOpening]
  exact congrArg (_ :: [·]) (ofSpan_of_spells spelled)

/-- The scan meets every occurrence of a directive. -/
theorem exists_directive_scan {chars before inner behind : List Char} {d : Directive}
    (whole : before ++ braced inner ++ behind = chars) (spelled : d.Spells inner) :
    ∃ front back, scan chars = front ++ directive d (braced inner) :: back ∧
      front.flatMap source = before := by
  have noClosing : '}' ∉ inner := spelled.notMem (by simp)
  fun_induction scan chars generalizing before with
  | case1 chars opening =>
    obtain ⟨_, _, _, found, _⟩ :=
      Text.exists_cutAtPair? '{' before (inner ++ '}' :: '}' :: behind)
    have shape : before ++ '{' :: '{' :: (inner ++ '}' :: '}' :: behind) = chars := by
      simpa [braced] using whole
    rw [shape, opening] at found
    cases found
  | case2 chars lead rest opening closing =>
    obtain ⟨_, skipped, _, _, rfl⟩ := exists_of_opening whole opening
    obtain ⟨_, _, _, found, _⟩ := Text.exists_cutAtPair? '}' (skipped ++ inner) behind
    rw [List.append_assoc, closing] at found
    cases found
  | case3 chars lead rest opening span after closing ih =>
    obtain ⟨more, skipped, rfl, opened, rfl⟩ := exists_of_opening whole opening
    obtain ⟨_, left, _, found, inside, closed⟩ :=
      Text.exists_cutAtPair? '}' (skipped ++ inner) behind
    rw [List.append_assoc, closing] at found
    cases found
    have spanned : '{' :: '{' :: span ++ left = more ++ '{' :: '{' :: inner := by
      have joined := congrArg (· ++ inner) opened
      simpa [inside] using joined
    cases left with
    | nil =>
      -- The occurrence is the span that the scan cuts out here.
      obtain rfl : behind = after := by simpa using closed
      rw [List.append_nil] at spanned
      refine ⟨[plain lead, if more.length < 2 then plain more else stray more], scan behind, ?_, ?_⟩
      · rw [ofOpening_of_spells spelled spanned]
        rfl
      · split <;> simp [source]
    | cons c left =>
      -- The span ends in front of the occurrence, and so does the next step of the scan.
      simp only [List.cons_append, List.cons.injEq] at closed
      obtain ⟨rfl, closed⟩ := closed
      obtain ⟨gap, rfl, rfl⟩ := exists_append_of_closing noClosing spanned
      cases gap with
      | nil => simp at closed
      | cons c gap =>
        simp only [List.cons_append, List.cons.injEq, List.append_assoc] at closed
        obtain ⟨rfl, closed⟩ := closed
        have onward : gap ++ braced inner ++ behind = after := by simpa [braced] using closed
        obtain ⟨front, back, scanned, sources⟩ := ih onward
        refine ⟨plain lead :: ofOpening span ++ front, back, ?_, ?_⟩
        · simp [scanned]
        · simp [source, source_ofOpening, sources, braced]

private theorem spells_of_ofSpan {inner source : List Char} {d : Directive}
    (same : directive d source = ofSpan inner) :
    ∃ inner, source = braced inner ∧ d.Spells inner := by
  unfold ofSpan at same
  split at same
  · next found =>
    cases same
    exact ⟨inner, rfl, (Directive.read?_eq_some_iff inner d).mp found⟩
  · cases same

/-- Every directive that the scan reports is spelled in the body. -/
theorem spells_of_mem_scan {chars source : List Char} {d : Directive}
    (member : directive d source ∈ scan chars) :
    ∃ inner, source = braced inner ∧ d.Spells inner := by
  fun_induction scan chars with
  | case1 => simp at member
  | case2 => simp at member
  | case3 chars lead rest opening span after closing ih =>
    simp only [List.cons_append, List.mem_cons, List.mem_append, reduceCtorEq, false_or] at member
    rcases member with inside | later
    · unfold ofOpening at inside
      split at inside
      · next front core _ =>
        simp only [List.mem_cons, List.not_mem_nil, or_false] at inside
        rcases inside with front | core
        · split at front <;> cases front
        · exact spells_of_ofSpan core
      · exact spells_of_ofSpan (List.mem_singleton.mp inside)
    · exact ih later

end Piece

namespace Occurrence

variable {body : List Char}

/-- The body up to and with a directive. -/
def through (o : Occurrence body) : List Char := o.before ++ Piece.braced o.inner

/-- The token of a directive, at the position of its opening braces. -/
def token (o : Occurrence body) : Token := ⟨.directive o.directive, .behind o.before⟩

theorem through_append_behind (o : Occurrence body) : o.through ++ o.behind = body := o.whole

/-- What stands at a place is settled by the body. -/
theorem eq_of_before_eq {a b : Occurrence body} (same : a.before = b.before) : a = b := by
  obtain ⟨before, inner, behind, d, whole, spelled⟩ := a
  obtain ⟨_, inner', behind', d', whole', spelled'⟩ := b
  obtain rfl : before = _ := same
  have spans : inner ++ '}' :: '}' :: behind = inner' ++ '}' :: '}' :: behind' := by
    simpa [Piece.braced] using whole.trans whole'.symm
  have free : '}' ∉ inner := spelled.notMem (by simp)
  have free' : '}' ∉ inner' := spelled'.notMem (by simp)
  have closing := Text.cutAtPair?_of_notMem free behind
  rw [spans, Text.cutAtPair?_of_notMem free' behind'] at closing
  cases closing
  have read := (Directive.read?_eq_some_iff inner d).mpr spelled
  rw [(Directive.read?_eq_some_iff inner d').mpr spelled'] at read
  cases read
  rfl

/-- A directive is settled by where it ends. -/
theorem eq_of_through_eq {a b : Occurrence body} (same : a.through = b.through) : a = b := by
  have found (o : Occurrence body) : Text.cutAtLastPair? '{' o.through =
      some (o.before, o.inner ++ ['}', '}']) :=
    Text.cutAtLastPair?_of_notMem o.before (by simp [o.spelled.notMem])
  have cut := (found a).symm.trans (same ▸ found b)
  simp only [Option.some.injEq, Prod.mk.injEq] at cut
  exact eq_of_before_eq cut.1

/-- Directives follow each other through the body, each with the text up to the next one; `gap` is
the text between `before` and the first of them. -/
def Chained (before gap : List Char) : List (Occurrence body × List Char) → Prop
  | [] => before ++ gap = body
  | (o, next) :: rest => o.before = before ++ gap ∧ Chained o.through next rest

theorem Chained.shift {before front gap : List Char} {parts : List (Occurrence body × List Char)}
    (chained : Chained (before ++ front) gap parts) : Chained before (front ++ gap) parts := by
  cases parts with
  | nil => simpa [Chained] using chained
  | cons part rest => exact ⟨by simpa using chained.1, chained.2⟩

theorem Chained.le_length {before gap : List Char} {parts : List (Occurrence body × List Char)}
    (chained : Chained before gap parts) :
    ∀ part ∈ parts, before.length ≤ part.1.before.length := by
  induction parts generalizing before gap with
  | nil => simp
  | cons first rest ih =>
    obtain ⟨here, later⟩ := chained
    have start : before.length ≤ first.1.before.length := by simp [here]
    intro part member
    rcases List.mem_cons.mp member with rfl | member
    · exact start
    · have bound := ih later part member
      simp only [through, List.length_append] at bound
      omega

/-- Directives that follow each other begin at different places, in order. -/
theorem Chained.pairwise {before gap : List Char} {parts : List (Occurrence body × List Char)}
    (chained : Chained before gap parts) :
    parts.Pairwise fun a b => a.1.before.length < b.1.before.length := by
  induction parts generalizing before gap with
  | nil => exact .nil
  | cons first rest ih =>
    refine .cons (fun part member => ?_) (ih chained.2)
    have bound := chained.2.le_length part member
    simp only [through, Piece.braced, List.length_append, List.length_cons] at bound
    omega

end Occurrence

end Stencil
