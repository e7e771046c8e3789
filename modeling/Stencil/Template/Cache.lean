import Stencil.Attempt
import Stencil.Body.Node
import Stencil.Entries
import Stencil.Template.Basic

/-! # The cache of parsed templates

Parsed templates by identifier, each with the digest of the body it was parsed from. A template
whose body has another digest is parsed again and takes the place of what was cached for it.
-/

namespace Stencil

/-- A parsed template and the digest of its body. -/
structure Cache.Entry where
  digest : UInt64
  parsed : Parsed

/-- Parsed templates, one for each identifier. -/
structure Cache where
  entries : List (Template.Id × Cache.Entry)

namespace Cache

/-- The empty cache. -/
def empty : Cache := ⟨[]⟩

/-- The number of identifiers with an entry. -/
def size (cache : Cache) : Nat := cache.entries.length

/-- What is cached for an identifier and the digest of a body. -/
def lookup? (cache : Cache) (id : Template.Id) (digest : UInt64) : Option Parsed :=
  match cache.entries.lookup id with
  | some entry => if entry.digest = digest then some entry.parsed else none
  | none => none

/-- Work with a cache in place, which may meet a body that does not parse. -/
abbrev Use := Attempt Cache Fault

/-- A template parsed: from the cache if it holds the template, else from its body, and then the
cache holds it. -/
def Use.parse (template : Template) : Use Parsed := do
  let digest := Text.digest template.body
  match (← get).lookup? template.id digest with
  | some parsed => return parsed
  | none =>
    let parsed ← Parsed.ofBody template.body
    modify fun cache => ⟨putEntry template.id ⟨digest, parsed⟩ cache.entries⟩
    return parsed

/-- A template parsed, from the cache if it holds the template, and the cache with it. -/
def parse (cache : Cache) (template : Template) : Except Fault (Parsed × Cache) :=
  Attempt.result cache (Use.parse template)

theorem on_parse_of_hit {cache : Cache} {template : Template} {parsed : Parsed}
    (hit : cache.lookup? template.id (Text.digest template.body) = some parsed) :
    Attempt.on cache (Use.parse template) = (.ok parsed, cache) := by
  simp [Use.parse, hit]

theorem on_parse_of_miss {cache : Cache} {template : Template}
    (miss : cache.lookup? template.id (Text.digest template.body) = none) :
    Attempt.on cache (Use.parse template) =
      match Parsed.ofBody template.body with
      | .ok parsed => (.ok parsed,
        ⟨putEntry template.id ⟨Text.digest template.body, parsed⟩ cache.entries⟩)
      | .error fault => (.error fault, cache) := by
  simp only [Use.parse, Attempt.on_bind, Attempt.on_get, miss]
  cases Parsed.ofBody template.body <;> rfl

/-- Whether there is an entry for an identifier, and the cache without it. -/
def invalidate (cache : Cache) (id : Template.Id) : Bool × Cache :=
  ((cache.entries.lookup id).isSome, ⟨dropEntry id cache.entries⟩)

end Cache

end Stencil
