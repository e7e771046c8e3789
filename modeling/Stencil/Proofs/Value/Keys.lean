import Stencil.Invoice.Context
import Stencil.Proofs.Entries
import Stencil.Proofs.Scope.Resolution

/-! # Data with distinct keys

A map of the data keeps its entries in a list, and what is found under a key is the first entry for
it. That is the only one as long as the keys of the map are distinct (`get?_eq_some_iff_mem`), which
they are in all data that a template is filled with: in what is read from JSON, in the context of an
invoice, in what is put together from these with `put`, and in whatever is found in such data.
-/

namespace Stencil

namespace Value

mutual

/-- Whether the keys of each map are distinct, at any depth of a value. -/
def isKeyed : Value → Bool
  | list items => areKeyed items
  | map entries => (entries.map (·.1)).Nodup && entriesKeyed entries
  | _ => true

/-- Whether the keys of each map in any of some values are distinct. -/
def areKeyed : List Value → Bool
  | [] => true
  | item :: rest => item.isKeyed && areKeyed rest

/-- Whether the keys of each map in the values of some entries are distinct. -/
def entriesKeyed : List (String × Value) → Bool
  | [] => true
  | (_, item) :: rest => item.isKeyed && entriesKeyed rest

end

variable {value item : Value} {key : String} {entries : List (String × Value)}

theorem areKeyed_iff (items : List Value) : areKeyed items ↔ ∀ item ∈ items, item.isKeyed := by
  induction items with
  | nil => simp [areKeyed]
  | cons item rest ih => simp [areKeyed, ih]

theorem entriesKeyed_iff (entries : List (String × Value)) :
    entriesKeyed entries ↔ ∀ entry ∈ entries, entry.2.isKeyed := by
  induction entries with
  | nil => simp [entriesKeyed]
  | cons entry rest ih => simp [entriesKeyed, ih]

theorem isKeyed_map_iff :
    (map entries).isKeyed ↔
      (entries.map (·.1)).Nodup ∧ ∀ entry ∈ entries, entry.2.isKeyed := by
  rw [isKeyed, Bool.and_eq_true, decide_eq_true_iff, entriesKeyed_iff]

/-! ## What is found -/

/-- What is found under a key of a map is the entry for it. -/
theorem get?_eq_some_iff_mem (keyed : (map entries).isKeyed) :
    (map entries).get? key = some item ↔ (key, item) ∈ entries :=
  lookup_eq_some_iff_mem (isKeyed_map_iff.mp keyed).1

theorem isKeyed_get? (keyed : value.isKeyed) (found : value.get? key = some item) :
    item.isKeyed := by
  cases value with
  | map entries => exact (isKeyed_map_iff.mp keyed).2 (key, item) (mem_of_lookup found)
  | list items =>
    obtain ⟨index, -, there⟩ := Option.bind_eq_some_iff.mp found
    exact (areKeyed_iff items).mp keyed item (List.mem_of_getElem? there)
  | _ => cases found

theorem isKeyed_lookup? {path : List String} (keyed : value.isKeyed)
    (leads : value.lookup? path = some item) : item.isKeyed :=
  of_lookup? (fun _ _ _ => isKeyed_get?) keyed leads

/-! ## What is put together -/

theorem isKeyed_put (keyed : value.isKeyed) (key : String) (one : item.isKeyed) :
    (value.put key item).isKeyed := by
  cases value with
  | map entries =>
    obtain ⟨distinct, each⟩ := isKeyed_map_iff.mp keyed
    refine isKeyed_map_iff.mpr ⟨nodup_keys_putEntry distinct key item, fun entry member => ?_⟩
    rcases mem_putEntry member with rfl | known
    · exact one
    · exact each entry known
  | _ => exact keyed

/-! ## What is read -/

theorem isKeyed_ofNumber (n : Json.Number) : (ofNumber n).isKeyed := by
  cases n with
  | integer n =>
    rw [ofNumber]
    split <;> rfl
  | float x => rfl

mutual

theorem isKeyed_ofJson : (json : Json) → (ofJson json).isKeyed
  | .null | .bool _ | .string _ => rfl
  | .number n => isKeyed_ofNumber n
  | .array items => areKeyed_ofItems items
  | .object members => by
    obtain ⟨ascending, each⟩ := ofMembers_keyed [] .nil nofun members
    exact isKeyed_map_iff.mpr ⟨ascending.imp ne_of_lt, each⟩

theorem areKeyed_ofItems : (items : List Json) → areKeyed (ofItems items)
  | [] => rfl
  | item :: rest => by
    rw [ofItems, areKeyed, isKeyed_ofJson item, areKeyed_ofItems rest]
    rfl

/-- The members of an object go one by one to their places among the entries, in ascending order of
the keys. -/
theorem ofMembers_keyed (entries : List (String × Value))
    (ascending : (entries.map (·.1)).Pairwise (· < ·)) (each : ∀ entry ∈ entries, entry.2.isKeyed) :
    (members : List (String × Json)) →
      ((ofMembers entries members).map (·.1)).Pairwise (· < ·) ∧
        ∀ entry ∈ ofMembers entries members, entry.2.isKeyed
  | [] => ⟨ascending, each⟩
  | (key, item) :: rest => by
    rw [ofMembers]
    refine ofMembers_keyed _ (ascending_putSorted ascending key (ofJson item))
      (fun entry member => ?_) rest
    rcases mem_putSorted member with rfl | known
    · exact isKeyed_ofJson item
    · exact each entry known

end

end Value

/-! ## The context of an invoice -/

namespace Invoice

open Value

theorem isKeyed_textValue (text : Option String) : (textValue text).isKeyed := by
  cases text <;> rfl

theorem isKeyed_dateValue (day : Option Date) : (dateValue day).isKeyed := by
  cases day <;> rfl

theorem isKeyed_floatValue (x : Option Float) : (floatValue x).isKeyed := by
  cases x <;> rfl

theorem Party.isKeyed_toValue (party : Party) : party.toValue.isKeyed := by
  simp [toValue, isKeyed, entriesKeyed, isKeyed_textValue]

theorem Job.isKeyed_toValue (job : Job) : job.toValue.isKeyed := by
  simp [toValue, isKeyed, entriesKeyed, isKeyed_textValue, isKeyed_dateValue]

theorem Project.isKeyed_toValue (project : Project) : project.toValue.isKeyed := by
  have jobs : areKeyed (project.jobs.map Job.toValue) :=
    (areKeyed_iff _).mpr (List.forall_mem_map.mpr fun job _ => job.isKeyed_toValue)
  simp [toValue, isKeyed, entriesKeyed, isKeyed_textValue, isKeyed_dateValue, isKeyed_floatValue, jobs]

theorem Header.isKeyed_entries (header : Header) : (Value.map header.entries).isKeyed := by
  simp [entries, isKeyed, entriesKeyed, isKeyed_textValue, isKeyed_dateValue]

theorem Document.isKeyed_toContext (document : Document) : document.toContext.isKeyed := by
  have fields := isKeyed_map_iff.mp document.invoice.isKeyed_entries
  have projects : areKeyed (document.projects.map Project.toValue) :=
    (areKeyed_iff _).mpr (List.forall_mem_map.mpr fun project _ => project.isKeyed_toValue)
  rw [toContext, isKeyed_map_iff]
  refine ⟨by simp [Header.entries], List.forall_mem_append.mpr ⟨fields.2, ?_⟩⟩
  simp only [List.forall_mem_cons]
  exact ⟨document.invoice.isKeyed_entries, document.customer.isKeyed_toValue,
    document.business.isKeyed_toValue, projects, nofun⟩

end Invoice

end Stencil
