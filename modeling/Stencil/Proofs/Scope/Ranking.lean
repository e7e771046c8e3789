import Stencil.Proofs.Scope.Resolution
import Stencil.Proofs.Text.Bytes
import Stencil.Proofs.Text.Distance

/-! # How suggestions are ranked

The names near a misspelt one stand in a strict order: the fewer edits the earlier, and after equally
many edits by their bytes. Only repeats that directly follow each other are dropped, but equal names
have equal distances and so stand together once the candidates are sorted. A strictly ordered list is
determined by what is in it, hence neither the order of the available names nor their repeats matter.
-/

namespace Stencil

namespace Suggestion

/-- Whether a name comes before another one among those near a name. -/
def Precedes (name a b : String) : Prop :=
  Text.editDistance name.toList a.toList < Text.editDistance name.toList b.toList ∨
    Text.editDistance name.toList a.toList = Text.editDistance name.toList b.toList ∧
      Text.bytes a < Text.bytes b

/-- All names near a name, in order. -/
def ranked (name : String) (available : List String) : List String :=
  (candidates name available).map (·.2)

variable {name other a b : String} {available others : List String}

theorem suggest_eq_take (name : String) (available : List String) :
    suggest name available = (ranked name available).take 3 := by
  rw [suggest, ranked, List.map_take]

theorem not_precedes_self (name a : String) : ¬ Precedes name a a := by
  rintro (closer | ⟨-, before⟩)
  · exact Nat.lt_irrefl _ closer
  · exact List.lt_irrefl _ before

theorem Precedes.asymm (before : Precedes name a b) : ¬ Precedes name b a := by
  rintro (closer | ⟨same, after⟩)
  · rcases before with nearer | ⟨equal, -⟩
    · exact Nat.lt_asymm closer nearer
    · exact absurd equal closer.ne'
  · rcases before with nearer | ⟨-, before⟩
    · exact absurd same nearer.ne'
    · exact List.lt_asymm before after

theorem Precedes.trans {c : String} (first : Precedes name a b) (second : Precedes name b c) :
    Precedes name a c := by
  rcases first with less | ⟨same, before⟩
  · rcases second with more | ⟨equal, -⟩
    · exact .inl (less.trans more)
    · exact .inl (equal ▸ less)
  · rcases second with more | ⟨equal, after⟩
    · exact .inl (same ▸ more)
    · exact .inr ⟨same.trans equal, List.lt_trans before after⟩

instance : Trans (Precedes name) (Precedes name) (Precedes name) := ⟨Precedes.trans⟩

/-! ## The candidates -/

theorem closer_iff {p q : Nat × String} :
    closer p q = true ↔ p.1 < q.1 ∨ p.1 = q.1 ∧ p.2 ≤ q.2 := by
  simp only [closer, Bool.or_eq_true, Bool.and_eq_true, decide_eq_true_eq, beq_iff_eq,
    Bool.not_eq_true', decide_eq_false_iff_not, not_lt]

theorem closer_trans (p q r : Nat × String) (first : closer p q) (second : closer q r) :
    closer p r := by
  rw [closer_iff] at first second ⊢
  rcases first with less | ⟨same, before⟩
  · rcases second with more | ⟨equal, -⟩
    · exact .inl (less.trans more)
    · exact .inl (equal ▸ less)
  · rcases second with more | ⟨equal, after⟩
    · exact .inl (same ▸ more)
    · exact .inr ⟨same.trans equal, before.trans after⟩

theorem closer_total (p q : Nat × String) : (closer p q || closer q p) = true := by
  rw [Bool.or_eq_true, closer_iff, closer_iff]
  rcases Nat.lt_trichotomy p.1 q.1 with less | same | more
  · exact .inl (.inl less)
  · rcases le_total p.2 q.2 with before | after
    · exact .inl (.inr ⟨same, before⟩)
    · exact .inr (.inr ⟨same.symm, after⟩)
  · exact .inr (.inl more)

/-- A candidate has the distance of its name. -/
def Measured (name : String) (candidate : Nat × String) : Prop :=
  candidate.1 = Text.editDistance name.toList candidate.2.toList

/-- Of two candidates in order the first comes strictly before the second unless they have one name. -/
theorem precedes_of_closer {p q : Nat × String} (first : Measured name p) (second : Measured name q)
    (order : closer p q = true) (differ : q.2 ≠ p.2) : Precedes name p.2 q.2 := by
  rw [Precedes, ← first, ← second, Text.bytes_lt_bytes_iff]
  rcases closer_iff.mp order with less | ⟨same, upTo⟩
  · exact .inl less
  · exact .inr ⟨same, lt_of_le_of_ne upTo differ.symm⟩

theorem mem_map_dropRepeats_iff (kept : Nat × String) (rest : List (Nat × String)) :
    other ∈ (kept :: dropRepeats kept rest).map (·.2) ↔ other ∈ (kept :: rest).map (·.2) := by
  induction rest generalizing kept with
  | nil => rfl
  | cons next rest ih =>
    simp only [List.map_cons, List.mem_cons] at ih ⊢
    rw [dropRepeats]
    split
    · next same => rw [ih, same, ← or_assoc, or_self]
    · rw [List.map_cons, List.mem_cons, ih]

/-- Of candidates in order, each one that is left comes strictly before the next one. -/
theorem isChain_dropRepeats (kept : Nat × String) (rest : List (Nat × String))
    (ordered : (kept :: rest).Pairwise fun p q => q.2 ≠ p.2 → Precedes name p.2 q.2) :
    ((kept :: dropRepeats kept rest).map (·.2)).IsChain (Precedes name) := by
  induction rest generalizing kept with
  | nil => exact .singleton kept.2
  | cons next rest ih =>
    obtain ⟨before, behind⟩ := List.pairwise_cons.mp ordered
    rw [dropRepeats]
    split
    · apply ih
      exact .cons (fun q member => before q (List.mem_cons_of_mem next member)) behind.tail
    · next differ => exact .cons_cons (before next List.mem_cons_self differ) (ih next behind)

theorem mem_near_iff {candidate : Nat × String} :
    candidate ∈ near name available ↔ candidate.2 ∈ available ∧ candidate.2 ≠ name ∧
      Text.editDistance name.toList candidate.2.toList ≤ tolerance name ∧ Measured name candidate := by
  obtain ⟨distance, other⟩ := candidate
  simp only [near, List.mem_filterMap, Option.ite_none_right_eq_some, Option.some.injEq,
    Prod.mk.injEq, Measured]
  constructor
  · rintro ⟨_, here, ⟨differs, near⟩, rfl, rfl⟩
    exact ⟨here, differs, near, rfl⟩
  · rintro ⟨here, differs, near, rfl⟩
    exact ⟨other, here, ⟨differs, near⟩, rfl, rfl⟩

theorem mem_ranked_iff : other ∈ ranked name available ↔
    other ∈ available ∧ other ≠ name ∧
      Text.editDistance name.toList other.toList ≤ tolerance name := by
  have names : other ∈ ranked name available ↔ other ∈ (near name available).map (·.2) := by
    have sorted : other ∈ ((near name available).mergeSort closer).map (·.2) ↔
        other ∈ (near name available).map (·.2) := by
      simp only [List.mem_map, List.mem_mergeSort]
    rw [ranked, candidates, ← sorted]
    cases (near name available).mergeSort closer with
    | nil => rfl
    | cons first rest => exact mem_map_dropRepeats_iff first rest
  rw [names, List.mem_map]
  constructor
  · rintro ⟨candidate, member, rfl⟩
    obtain ⟨here, differs, close, -⟩ := mem_near_iff.mp member
    exact ⟨here, differs, close⟩
  · rintro ⟨here, differs, close⟩
    exact ⟨(Text.editDistance name.toList other.toList, other),
      mem_near_iff.mpr ⟨here, differs, close, rfl⟩, rfl⟩

/-- The names near a name stand in a strict order. -/
theorem pairwise_ranked (name : String) (available : List String) :
    (ranked name available).Pairwise (Precedes name) := by
  have measured {candidate} (member : candidate ∈ (near name available).mergeSort closer) :
      Measured name candidate := by
    obtain ⟨-, -, -, measured⟩ := mem_near_iff.mp (List.mem_mergeSort.mp member)
    exact measured
  have ordered : ((near name available).mergeSort closer).Pairwise fun p q =>
      q.2 ≠ p.2 → Precedes name p.2 q.2 := by
    apply (List.pairwise_mergeSort closer_trans closer_total _).imp_of_mem
    intro p q first second order
    exact precedes_of_closer (measured first) (measured second) order
  rw [ranked, candidates, ← List.isChain_iff_pairwise]
  cases sorted : (near name available).mergeSort closer with
  | nil => exact .nil
  | cons first rest =>
    rw [sorted] at ordered
    exact isChain_dropRepeats first rest ordered

theorem nodup_of_pairwise_precedes {names : List String} (ordered : names.Pairwise (Precedes name)) :
    names.Nodup := by
  refine ordered.imp fun before => ?_
  rintro rfl
  exact not_precedes_self name _ before

/-- A strictly ordered list is determined by what is in it. -/
theorem eq_of_pairwise_precedes {names : List String} (first : names.Pairwise (Precedes name))
    (second : others.Pairwise (Precedes name)) (same : ∀ other, other ∈ names ↔ other ∈ others) :
    names = others := by
  have perm : names.Perm others := (List.perm_ext_iff_of_nodup (nodup_of_pairwise_precedes first)
    (nodup_of_pairwise_precedes second)).mpr same
  exact perm.eq_of_pairwise (fun a b _ _ before after => absurd after before.asymm) first second

/-- What is suggested is one of the available names. -/
theorem mem_of_mem_suggest (member : other ∈ suggest name available) : other ∈ available := by
  rw [suggest_eq_take] at member
  exact (mem_ranked_iff.mp (List.mem_of_mem_take member)).1

theorem suggest_congr (same : ∀ other, other ∈ others ↔ other ∈ available) :
    suggest name others = suggest name available := by
  have alike : ranked name others = ranked name available := by
    apply eq_of_pairwise_precedes (pairwise_ranked name others) (pairwise_ranked name available)
    intro other
    rw [mem_ranked_iff, mem_ranked_iff, same]
  rw [suggest_eq_take, suggest_eq_take, alike]

end Suggestion

namespace Scope

variable {scope other : Scope} {path : String}

/-- Whether two scopes offer the same for a path: each beginning of it resolves in both or in neither,
and the same names may stand behind it, in whatever order and however often. -/
def OffersAlike (scope other : Scope) (path : String) : Prop :=
  ∀ front, front <+: Text.segments path →
    ((scope.resolveSegments? front).isSome ↔ (other.resolveSegments? front).isSome) ∧
      ∀ name, name ∈ scope.available front ↔ name ∈ other.available front

/-- Two scopes that offer the same find the same beginning of a path. -/
theorem map_fst_anchor? (alike : scope.OffersAlike other path) (most : Nat) :
    (scope.anchor? (Text.segments path) most).map (·.1) =
      (other.anchor? (Text.segments path) most).map (·.1) := by
  induction most with
  | zero => rfl
  | succ most ih =>
    obtain ⟨both, -⟩ := alike _ (List.take_prefix (most + 1) _)
    rw [anchor?, anchor?]
    cases here : scope.resolveSegments? ((Text.segments path).take (most + 1)) with
    | some value =>
      obtain ⟨found, there⟩ := Option.isSome_iff_exists.mp (both.mp (by rw [here]; rfl))
      rw [there]
      rfl
    | none =>
      have missed : other.resolveSegments? ((Text.segments path).take (most + 1)) = none := by
        rw [← Option.not_isSome_iff_eq_none, ← both, here]
        exact Bool.false_ne_true
      rw [missed]
      exact ih

theorem available_of_anchor? {most length : Nat} {parent : Value}
    (found : scope.anchor? (Text.segments path) most = some (length, parent)) :
    scope.available ((Text.segments path).take length) = parent.keys?.getD [] := by
  obtain ⟨positive, -, here, -⟩ := anchor?_eq_some found
  have some : (Text.segments path).take length ≠ [] := by
    simp only [ne_eq, List.take_eq_nil_iff, Text.segments, List.map_eq_nil_iff,
      List.splitOn_ne_nil, or_false]
    omega
  rw [available, if_neg some, here, Option.bind_some]

theorem suggest_eq_of_offersAlike (alike : scope.OffersAlike other path) :
    scope.suggest path = other.suggest path := by
  have same := map_fst_anchor? alike ((Text.segments path).length - 1)
  simp only [suggest]
  cases here : scope.anchor? (Text.segments path) ((Text.segments path).length - 1) with
  | none =>
    rw [here, Option.map_none] at same
    obtain ⟨-, names⟩ := alike [] List.nil_prefix
    change ∀ name, name ∈ scope.names ↔ name ∈ other.names at names
    rw [Option.map_eq_none_iff.mp same.symm]
    simp only [Suggestion.suggest_congr names]
  | some anchor =>
    obtain ⟨length, parent⟩ := anchor
    rw [here, Option.map_some] at same
    obtain ⟨⟨_, found⟩, there, rfl⟩ := Option.map_eq_some_iff.mp same.symm
    obtain ⟨-, keys⟩ := alike _ (List.take_prefix _ (Text.segments path))
    rw [available_of_anchor? here, available_of_anchor? there] at keys
    rw [there]
    simp only [Suggestion.suggest_congr keys]

end Scope

/-- The suggestions for a name, by the least number of edits that turn one text into another. All the
available names that are near the name but differ from it stand in a strict order, by their edits and
then by their bytes, and the first three of them are suggested. So none is suggested twice, and how
often the available names are given and in which order does not matter; nor does the order of loops
and keys for what is suggested in a scope. -/
theorem Suggestion.suggest_ranked (name : String) (available : List String) :
    (∀ a b, IsLeast {n | Text.Becomes n a b} (Text.editDistance a b)) ∧
    (∃ ranked : List String,
      (∀ other, other ∈ ranked ↔ other ∈ available ∧ other ≠ name ∧
        Text.editDistance name.toList other.toList ≤ if name.length ≤ 3 then 1 else 2) ∧
      ranked.Pairwise (Precedes name) ∧ suggest name available = ranked.take 3) ∧
    (suggest name available).Nodup ∧
    (∀ others, (∀ other, other ∈ others ↔ other ∈ available) →
      suggest name others = suggest name available) ∧
    ∀ (scope other : Scope) (path : String), scope.OffersAlike other path →
      scope.suggest path = other.suggest path := by
  have ordered := pairwise_ranked name available
  refine ⟨Text.isLeast_editDistance, ⟨ranked name available, ?_, ordered, ?_⟩, ?_, ?_, ?_⟩
  · intro other
    exact mem_ranked_iff
  · exact suggest_eq_take name available
  · rw [suggest_eq_take]
    exact (nodup_of_pairwise_precedes ordered).sublist (List.take_sublist 3 _)
  · intro others same
    exact suggest_congr same
  · intro scope other path alike
    exact Scope.suggest_eq_of_offersAlike alike

-- Equally close names come by their bytes, and the farther ones are left out behind three.
example : Suggestion.suggest "name" ["nom", "game", "né", "named", "name", "Name", "game"] =
    ["Name", "game", "named"] := by
  cbv

end Stencil
