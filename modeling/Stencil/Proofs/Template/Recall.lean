import Mathlib.Data.List.Induction
import Stencil.Proofs.Entries
import Stencil.Proofs.Template.Harmless
import Stencil.Proofs.Template.Latest

/-! # What a cache holds

What a cache holds for an identifier is told from the calls alone: it is what the last successful call
for that identifier parsed, unless the identifier or everything was dropped since (`LastParsed`). A
call that parses makes the entry for its identifier, be it there already or not; no other entry is
touched, and a call that fails touches none. One entry is kept for each identifier, so the size counts
identifiers, not bodies.
-/

namespace Stencil

namespace Cache

/-- A call on a cache. -/
inductive Call where
  | parse (template : Template)
  | invalidate (id : Template.Id)
  | clear

/-- The identifier that a call is for, unless it is for all. -/
def Call.id? : Call → Option Template.Id
  | parse template => some template.id
  | invalidate id => some id
  | clear => none

/-- The cache behind a call, be it one that fails or not. -/
def step (cache : Cache) : Call → Cache
  | .parse template => (Attempt.on cache (Use.parse template)).2
  | .invalidate id => (cache.invalidate id).2
  | .clear => empty

/-- The cache behind some calls. -/
def run (cache : Cache) (calls : List Call) : Cache := calls.foldl step cache

/-- A call parses a template with this identifier, whose body has this digest, and answers this. -/
def Call.Parses (cache : Cache) (id : Template.Id) (digest : UInt64) (parsed : Parsed) : Call → Prop
  | parse template => template.id = id ∧ Text.digest template.body = digest ∧
    ∃ next, cache.parse template = .ok (parsed, next)
  | invalidate _ | clear => False

/-- A call drops whatever there is for an identifier. -/
def Call.Drops (id : Template.Id) : Call → Prop
  | parse _ => False
  | invalidate other => other = id
  | clear => True

/-- A call decides what there is for an identifier from then on. -/
def Call.Settles (cache : Cache) (id : Template.Id) (call : Call) : Prop :=
  call.Drops id ∨ ∃ digest parsed, call.Parses cache id digest parsed

/-- Of all calls that parse a template with an identifier, the last is for a body with this digest and
answers this, and what it leaves was not dropped since. -/
def LastParsed (calls : List Call) (id : Template.Id) (digest : UInt64) (parsed : Parsed) : Prop :=
  History.Latest (fun before call => call.Parses (empty.run before) id digest parsed)
    (fun before later => later.Settles (empty.run before) id) calls

variable {cache : Cache} {id : Template.Id} {digest : UInt64} {parsed : Parsed} {call : Call}

theorem run_append_singleton (cache : Cache) (calls : List Call) (call : Call) :
    cache.run (calls ++ [call]) = (cache.run calls).step call := by
  simp [run]

/-! ## One call -/

theorem lookup?_eq_some_iff :
    cache.lookup? id digest = some parsed ↔ cache.entries.lookup id = some ⟨digest, parsed⟩ := by
  rw [lookup?]
  cases cache.entries.lookup id with
  | none => simp
  | some entry =>
    obtain ⟨known, held⟩ := entry
    simp

/-- A successful call leaves its answer as the entry for its identifier: it was there already, or it
takes the place of what was there. -/
theorem lookup_parse {template : Template} {next : Cache}
    (made : Attempt.on cache (Use.parse template) = (.ok parsed, next)) (other : Template.Id) :
    next.entries.lookup other =
      if other = template.id then some ⟨Text.digest template.body, parsed⟩
      else cache.entries.lookup other := by
  cases found : cache.lookup? template.id (Text.digest template.body) with
  | some known =>
    rw [on_parse_of_hit found] at made
    cases made
    split
    · next same => rw [same, lookup?_eq_some_iff.mp found]
    · rfl
  | none =>
    rw [on_parse_of_miss found] at made
    cases read : Parsed.ofBody template.body with
    | error fault =>
      rw [read] at made
      cases made
    | ok fresh =>
      rw [read] at made
      cases made
      exact lookup_putEntry template.id _ cache.entries other

/-- A call fails to parse exactly if nothing is cached for the body and the body does not parse. -/
theorem parse_eq_error_iff {template : Template} {fault : Fault} :
    cache.parse template = .error fault ↔
      cache.lookup? template.id (Text.digest template.body) = none ∧
        Parsed.ofBody template.body = .error fault := by
  rw [parse, Attempt.result_eq_error_iff]
  cases found : cache.lookup? template.id (Text.digest template.body) with
  | some known => simp [on_parse_of_hit found]
  | none =>
    rw [on_parse_of_miss found]
    cases Parsed.ofBody template.body <;> simp

theorem step_of_error {template : Template} {fault : Fault}
    (failed : cache.parse template = .error fault) : cache.step (.parse template) = cache :=
  (Use.harmless_parse template).unchanged failed

theorem lookup_step_of_parses (parses : call.Parses cache id digest parsed) :
    (cache.step call).entries.lookup id = some ⟨digest, parsed⟩ := by
  cases call with
  | parse template =>
    obtain ⟨rfl, rfl, next, answered⟩ := parses
    have made := Attempt.result_eq_ok_iff.mp answered
    rw [step, made]
    simp [lookup_parse made]
  | invalidate other => cases parses
  | clear => cases parses

theorem lookup_step_of_drops (drops : call.Drops id) :
    (cache.step call).entries.lookup id = none := by
  cases call with
  | parse template => cases drops
  | invalidate other =>
    obtain rfl : other = id := drops
    simp [step, invalidate, lookup_dropEntry]
  | clear => rfl

theorem lookup_step_of_not_settles (stays : ¬ call.Settles cache id) :
    (cache.step call).entries.lookup id = cache.entries.lookup id := by
  cases call with
  | parse template =>
    rcases made : Attempt.on cache (Use.parse template) with ⟨fault | parsed, next⟩
    · rw [step_of_error (Attempt.result_eq_error_iff.mpr (congrArg Prod.fst made))]
    · have other : id ≠ template.id := by
        rintro rfl
        exact stays (.inr ⟨_, parsed, rfl, rfl, next, Attempt.result_eq_ok_iff.mpr made⟩)
      rw [step, made]
      simp [lookup_parse made, other]
  | invalidate other =>
    have differ : id ≠ other := fun same => stays (.inl same.symm)
    simp [step, invalidate, lookup_dropEntry, differ]
  | clear => exact absurd (.inl trivial) stays

theorem not_settles_of_other {other : Template.Id} (one : call.id? = some other)
    (differ : other ≠ id) : ¬ call.Settles cache id := by
  cases call with
  | parse template =>
    cases one
    rintro (drops | ⟨digest, parsed, same, -⟩)
    · cases drops
    · exact differ same
  | invalidate key =>
    cases one
    rintro (same | ⟨digest, parsed, parses⟩)
    · exact differ same
    · cases parses
  | clear => cases one

/-- A call parses, or it drops, or it leaves the entry for an identifier as it was. -/
theorem lookup?_step :
    (cache.step call).lookup? id digest = some parsed ↔
      call.Parses cache id digest parsed ∨
        cache.lookup? id digest = some parsed ∧ ¬ call.Settles cache id := by
  simp only [lookup?_eq_some_iff]
  by_cases settles : call.Settles cache id
  · rcases settles with drops | ⟨digest', parsed', parses⟩
    · have none : ¬ call.Parses cache id digest parsed := by
        cases call with
        | parse template => cases drops
        | invalidate other => exact not_false
        | clear => exact not_false
      simp [lookup_step_of_drops drops, none, Call.Settles, drops]
    · rw [lookup_step_of_parses parses]
      constructor
      · intro same
        cases same
        exact .inl parses
      · rintro (again | ⟨-, stays⟩)
        · rw [← lookup_step_of_parses parses, lookup_step_of_parses again]
        · exact absurd (.inr ⟨digest', parsed', parses⟩) stays
  · have none : ¬ call.Parses cache id digest parsed :=
      fun parses => settles (.inr ⟨digest, parsed, parses⟩)
    simp [lookup_step_of_not_settles settles, none, settles]

/-! ## Runs -/

theorem lookup?_run (calls : List Call) (id : Template.Id) (digest : UInt64) (parsed : Parsed) :
    (empty.run calls).lookup? id digest = some parsed ↔ LastParsed calls id digest parsed := by
  induction calls using List.reverseRecOn with
  | nil => exact iff_of_false nofun History.not_latest_nil
  | append_singleton calls call ih =>
    rw [run_append_singleton, lookup?_step, ih, LastParsed, LastParsed,
      History.latest_append_singleton]

/-- The identifiers that have an entry. -/
def ids (cache : Cache) : List Template.Id := cache.entries.map (·.1)

theorem isSome_lookup_iff :
    (cache.entries.lookup id).isSome ↔ ∃ digest parsed, cache.lookup? id digest = some parsed := by
  simp only [lookup?_eq_some_iff, Option.isSome_iff_exists]
  exact ⟨fun ⟨⟨digest, parsed⟩, found⟩ => ⟨digest, parsed, found⟩,
    fun ⟨digest, parsed, found⟩ => ⟨⟨digest, parsed⟩, found⟩⟩

theorem mem_ids_iff : id ∈ cache.ids ↔ ∃ digest parsed, cache.lookup? id digest = some parsed := by
  rw [← isSome_lookup_iff, Option.isSome_iff_exists]
  exact mem_keys_iff

theorem nodup_ids_step (once : cache.ids.Nodup) (call : Call) : (cache.step call).ids.Nodup := by
  cases call with
  | parse template =>
    rw [step]
    cases found : cache.lookup? template.id (Text.digest template.body) with
    | some known =>
      rw [on_parse_of_hit found]
      exact once
    | none =>
      rw [on_parse_of_miss found]
      cases Parsed.ofBody template.body with
      | error fault => exact once
      | ok fresh => exact nodup_keys_putEntry once _ _
  | invalidate id => exact nodup_keys_dropEntry once id
  | clear => exact List.nodup_nil

theorem nodup_ids_run (calls : List Call) : (empty.run calls).ids.Nodup := by
  induction calls using List.reverseRecOn with
  | nil => exact List.nodup_nil
  | append_singleton calls call ih =>
    rw [run_append_singleton]
    exact nodup_ids_step ih call

/-- A new cache after any calls. What is looked up for an identifier and a digest is there exactly if
the last successful call for that identifier was for a body with this digest and nothing dropped it
since, and then it is what that call answered. A call fails exactly if that is not so for its body and
the body does not parse, and then it changes nothing; nor does a call for one identifier change
anything for another. Dropping an identifier reports whether there was an entry, and the size is the
number of identifiers with one. -/
theorem run_recalls (calls : List Call) :
    (∀ id digest parsed, (empty.run calls).lookup? id digest = some parsed ↔
      LastParsed calls id digest parsed) ∧
    (∀ template fault, (empty.run calls).parse template = .error fault ↔
      (∀ parsed, ¬ LastParsed calls template.id (Text.digest template.body) parsed) ∧
        Parsed.ofBody template.body = .error fault) ∧
    (∀ template fault, (empty.run calls).parse template = .error fault →
      (empty.run calls).step (.parse template) = empty.run calls) ∧
    (∀ call other, Call.id? call = some other → ∀ id, other ≠ id → ∀ digest,
      ((empty.run calls).step call).lookup? id digest = (empty.run calls).lookup? id digest) ∧
    (∀ id, ((empty.run calls).invalidate id).1 = true ↔
      ∃ digest parsed, LastParsed calls id digest parsed) ∧
    ∃ ids : List Template.Id, ids.Nodup ∧
      (∀ id, id ∈ ids ↔ ∃ digest parsed, LastParsed calls id digest parsed) ∧
      (empty.run calls).size = ids.length := by
  refine ⟨lookup?_run calls, fun template fault => ?_, fun template fault => step_of_error, ?_,
    fun id => ?_, (empty.run calls).ids, nodup_ids_run calls, fun id => ?_, ?_⟩
  · simp only [parse_eq_error_iff, Option.eq_none_iff_forall_ne_some, ← lookup?_run calls, ne_eq]
  · intro call other one id differ digest
    have spared : ¬ call.Settles (empty.run calls) id := not_settles_of_other one differ
    have same := lookup_step_of_not_settles spared
    rw [lookup?, same]
    rfl
  · simp only [← lookup?_run calls]
    exact isSome_lookup_iff
  · simp only [← lookup?_run calls]
    exact mem_ids_iff
  · exact (List.length_map _).symm

-- An edit that does not parse leaves the entry for the body before it.
example : ((empty.run [.parse { id := ⟨1⟩, kind := .receipt, body := "Paid" },
    .parse { id := ⟨1⟩, kind := .receipt, body := "\x7b\x7b/each\x7d\x7d" }]).lookup? ⟨1⟩
      (Text.digest "Paid")).isSome := by decide +kernel

end Cache

end Stencil
