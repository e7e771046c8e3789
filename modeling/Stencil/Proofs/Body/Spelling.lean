import Stencil.Body.Directive
import Stencil.Proofs.Text.Cut

/-! # How directives are spelled

The grammar of what stands between the braces of a directive, given apart from its reader. Reading
accepts exactly what the grammar spells, and what it spells is free of braces.
-/

namespace Stencil

namespace Text

/-- A dotted path: segments of letters, digits and low lines, none of them empty, between dots. -/
def Dotted (path : List Char) : Prop :=
  ∃ segments : List (List Char), segments ≠ [] ∧
    (∀ segment ∈ segments, segment ≠ [] ∧ ∀ c ∈ segment, isSegmentChar c) ∧
    path = ['.'].intercalate segments

theorem isPath_iff (path : List Char) : isPath path = true ↔ Dotted path := by
  simp only [isPath, List.all_eq_true, Bool.and_eq_true, Bool.not_eq_true',
    List.isEmpty_eq_false_iff]
  constructor
  · intro solid
    exact ⟨path.splitOn '.', List.splitOn_ne_nil _ _, solid, (List.intercalate_splitOn '.').symm⟩
  · rintro ⟨segments, some, solid, rfl⟩
    have undotted : ∀ segment ∈ segments, '.' ∉ segment := by
      intro segment member dot
      exact absurd ((solid segment member).2 '.' dot) (by decide)
    rwa [List.splitOn_intercalate '.' undotted some]

/-- The characters that a path can consist of. -/
def isPathChar (c : Char) : Bool := isSegmentChar c || c == '.'

theorem Dotted.all_isPathChar {path : List Char} (dotted : Dotted path) :
    ∀ c ∈ path, isPathChar c := by
  obtain ⟨segments, some, solid, rfl⟩ := dotted
  clear some
  induction segments with
  | nil => simp
  | cons segment rest ih =>
    obtain ⟨here, there⟩ := List.forall_mem_cons.mp solid
    have inside : ∀ c ∈ segment, isPathChar c := fun c member => by
      rw [isPathChar, here.2 c member, Bool.true_or]
    cases rest with
    | nil => simpa using inside
    | cons next rest =>
      intro c member
      rw [List.intercalate_cons_cons, List.mem_append, List.mem_append] at member
      rcases member with (member | dot) | member
      · exact inside c member
      · rw [List.mem_singleton.mp dot]; decide
      · exact ih there c member

theorem Dotted.ne_nil {path : List Char} (dotted : Dotted path) : path ≠ [] := by
  rintro rfl
  exact absurd ((isPath_iff []).mpr dotted) (by decide)

private theorem toNat_of_isBlank {c : Char} (blank : isBlank c) :
    c.toNat ≤ 32 ∨ 128 ≤ c.toNat := by
  simp only [isBlank, Bool.or_eq_true, Bool.and_eq_true, decide_eq_true_eq, beq_iff_eq,
    Char.le_def, UInt32.le_iff_toNat_le] at blank
  rcases blank with (((((((((⟨_, low⟩ | rfl) | rfl) | rfl) | rfl) | ⟨high, _⟩) | rfl) | rfl) |
    rfl) | rfl) | rfl
  · exact .inl (Nat.le_trans low (by decide))
  · decide
  · decide
  · decide
  · decide
  · exact .inr (Nat.le_trans (by decide) high)
  all_goals decide

private theorem toNat_of_isPathChar {c : Char} (inside : isPathChar c) :
    c.toNat = 46 ∨ (48 ≤ c.toNat ∧ c.toNat ≤ 57) ∨ (65 ≤ c.toNat ∧ c.toNat ≤ 90) ∨
      c.toNat = 95 ∨ (97 ≤ c.toNat ∧ c.toNat ≤ 122) := by
  simp only [isPathChar, isSegmentChar, Bool.or_eq_true, beq_iff_eq] at inside
  rcases inside with (alphanum | rfl) | rfl
  · rcases Bool.or_eq_true_iff.mp alphanum with letter | digit
    · rcases Bool.or_eq_true_iff.mp letter with upper | lower
      · exact .inr (.inr (.inl (of_decide_eq_true upper)))
      · obtain ⟨low, high⟩ := Bool.and_eq_true_iff.mp lower
        exact .inr (.inr (.inr (.inr ⟨of_decide_eq_true low, of_decide_eq_true high⟩)))
    · obtain ⟨low, high⟩ := Bool.and_eq_true_iff.mp digit
      exact .inr (.inl ⟨of_decide_eq_true low, of_decide_eq_true high⟩)
  · decide
  · decide

theorem isBlank_of_isIndent {c : Char} (indent : isIndent c) : isBlank c := by
  simp only [isIndent, Bool.or_eq_true, beq_iff_eq] at indent
  rcases indent with rfl | rfl <;> decide

theorem isBlank_of_isPathChar {c : Char} (inside : isPathChar c) : isBlank c = false := by
  refine Bool.eq_false_iff.mpr fun blank => ?_
  have path := toNat_of_isPathChar inside
  have gap := toNat_of_isBlank blank
  omega

theorem notMem_of_isBlank {c : Char} (blank : isBlank c) : c ∉ ['{', '}'] := by
  intro brace
  simp only [List.mem_cons, List.not_mem_nil, or_false] at brace
  rcases brace with rfl | rfl <;> exact absurd blank (by decide)

/-- No character of a path is a brace or opens another kind of directive. -/
theorem notMem_of_isPathChar {c : Char} (inside : isPathChar c) : c ∉ ['#', '/', '{', '}'] := by
  have path := toNat_of_isPathChar inside
  intro mark
  simp only [List.mem_cons, List.not_mem_nil, or_false] at mark
  rcases mark with rfl | rfl | rfl | rfl <;> revert path <;> decide

end Text

namespace Directive

/-- A directive without the blanks around it. -/
inductive Word : List Char → Directive → Prop
  | value {path : List Char} (dotted : Text.Dotted path) : Word path (.value (String.ofList path))
  | each {gap path : List Char} (apart : gap ≠ []) (indent : ∀ c ∈ gap, Text.isIndent c)
      (dotted : Text.Dotted path) :
      Word (['#', 'e', 'a', 'c', 'h'] ++ gap ++ path) (.each (String.ofList path))
  | close : Word ['/', 'e', 'a', 'c', 'h'] .close

/-- What stands between the braces spells a directive; any blanks may stand around it. -/
def Spells (inner : List Char) (d : Directive) : Prop :=
  ∃ front word back, inner = front ++ word ++ back ∧ (∀ c ∈ front, Text.isBlank c) ∧
    (∀ c ∈ back, Text.isBlank c) ∧ Word word d

theorem readCollection?_eq_some_iff (chars : List Char) (d : Directive) :
    readCollection? chars = some d ↔ ∃ gap path, chars = gap ++ path ∧ gap ≠ [] ∧
      (∀ c ∈ gap, Text.isIndent c) ∧ Text.Dotted path ∧ d = .each (String.ofList path) := by
  have whole : chars.takeWhile Text.isIndent ++ chars.dropWhile Text.isIndent = chars :=
    List.takeWhile_append_dropWhile
  simp only [readCollection?]
  constructor
  · intro found
    split at found
    · next accepted =>
      refine ⟨chars.takeWhile Text.isIndent, chars.dropWhile Text.isIndent, whole.symm, ?_,
        fun c member => List.mem_takeWhile_imp member,
        (Text.isPath_iff _).mp accepted.2, (Option.some.inj found).symm⟩
      intro empty
      rw [empty, List.nil_append] at whole
      rw [whole] at accepted
      exact Nat.lt_irrefl _ accepted.1
    · cases found
  · rintro ⟨gap, path, rfl, apart, indent, dotted, rfl⟩
    have kept : (gap ++ path).dropWhile Text.isIndent = path := by
      rw [List.dropWhile_append_of_pos indent]
      cases path with
      | nil => rfl
      | cons c rest =>
        have solid : Text.isIndent c = false := Bool.eq_false_iff.mpr fun indent =>
          absurd (Text.isBlank_of_isIndent indent) (by
            simp [Text.isBlank_of_isPathChar (dotted.all_isPathChar c List.mem_cons_self)])
        simp [solid]
    have shorter : 0 < gap.length := List.length_pos_iff.mpr apart
    rw [kept, if_pos ⟨by simp only [List.length_append]; omega, (Text.isPath_iff path).mpr dotted⟩]

/-- The ends of a directive's word are no blanks, so trimming stops there. -/
theorem Word.solid {word : List Char} {d : Directive} (spelled : Word word d) :
    ∃ first last, word.head? = some first ∧ Text.isBlank first = false ∧
      word.getLast? = some last ∧ Text.isBlank last = false := by
  have solid {path : List Char} (dotted : Text.Dotted path) (c : Char) (member : c ∈ path) :
      Text.isBlank c = false := Text.isBlank_of_isPathChar (dotted.all_isPathChar c member)
  cases spelled with
  | value dotted =>
    exact ⟨_, _, List.head?_eq_some_head dotted.ne_nil, solid dotted _ (List.head_mem _),
      List.getLast?_eq_some_getLast dotted.ne_nil, solid dotted _ (List.getLast_mem _)⟩
  | @each gap path apart indent dotted =>
    refine ⟨'#', path.getLast dotted.ne_nil, rfl, by decide, ?_,
      solid dotted _ (List.getLast_mem _)⟩
    rw [List.getLast?_append, List.getLast?_eq_some_getLast dotted.ne_nil]
    rfl
  | close => exact ⟨'/', 'h', rfl, by decide, rfl, by decide⟩

/-- The reader of what stands between the braces accepts exactly what the grammar spells. -/
theorem read?_eq_some_iff (inner : List Char) (d : Directive) :
    read? inner = some d ↔ Spells inner d := by
  constructor
  · intro found
    obtain ⟨front, back, whole, blankFront, blankBack⟩ := Text.exists_trim inner
    refine ⟨front, Text.trim inner, back, whole, blankFront, blankBack, ?_⟩
    unfold read? at found
    split at found
    · next rest marked =>
      obtain ⟨gap, path, rfl, apart, indent, dotted, rfl⟩ :=
        (readCollection?_eq_some_iff rest d).mp found
      rw [marked]
      exact .each apart indent dotted
    · next marked =>
      rw [marked, ← Option.some.inj found]
      exact .close
    · split at found
      · next path =>
        rw [← Option.some.inj found]
        exact .value ((Text.isPath_iff _).mp path)
      · cases found
  · rintro ⟨front, word, back, rfl, blankFront, blankBack, spelled⟩
    obtain ⟨first, last, begins, solidFirst, ends, solidLast⟩ := spelled.solid
    rw [read?, Text.trim_append blankFront blankBack begins solidFirst ends solidLast]
    cases spelled with
    | value dotted =>
      -- A path begins with none of the marks that the first two cases of the reader look for.
      have unmarked : first ∉ ['#', '/', '{', '}'] :=
        Text.notMem_of_isPathChar (dotted.all_isPathChar first (List.mem_of_mem_head? begins))
      split
      · next marked => cases begins; exact absurd (by decide) unmarked
      · next marked => cases begins; exact absurd (by decide) unmarked
      · rw [if_pos ((Text.isPath_iff _).mpr dotted)]
    | each apart indent dotted =>
      exact (readCollection?_eq_some_iff _ _).mpr ⟨_, _, rfl, apart, indent, dotted, rfl⟩
    | close => rfl

private theorem Word.notMem {word : List Char} {d : Directive} (spelled : Word word d)
    {brace : Char} (braces : brace ∈ ['{', '}']) : brace ∉ word := by
  have pathFree {path : List Char} (dotted : Text.Dotted path) : brace ∉ path := fun member =>
    Text.notMem_of_isPathChar (dotted.all_isPathChar brace member)
      (List.mem_cons_of_mem _ (List.mem_cons_of_mem _ braces))
  have either : brace = '{' ∨ brace = '}' := by simpa using braces
  cases spelled with
  | value dotted => exact pathFree dotted
  | each apart indent dotted =>
    intro member
    rcases List.mem_append.mp member with member | member
    · rcases List.mem_append.mp member with member | member
      · rcases either with rfl | rfl <;> exact absurd member (by decide)
      · exact Text.notMem_of_isBlank (Text.isBlank_of_isIndent (indent brace member)) braces
    · exact pathFree dotted member
  | close => rcases either with rfl | rfl <;> decide

/-- Nothing that spells a directive holds a brace, so the braces around it are the nearest ones. -/
theorem Spells.notMem {inner : List Char} {d : Directive} (spelled : Spells inner d)
    {brace : Char} (braces : brace ∈ ['{', '}']) : brace ∉ inner := by
  obtain ⟨front, word, back, rfl, blankFront, blankBack, spelled⟩ := spelled
  intro member
  rcases List.mem_append.mp member with member | member
  · rcases List.mem_append.mp member with member | member
    · exact Text.notMem_of_isBlank (blankFront brace member) braces
    · exact spelled.notMem braces member
  · exact Text.notMem_of_isBlank (blankBack brace member) braces

end Directive

end Stencil
