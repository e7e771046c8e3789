import Mathlib.Data.List.Nodup
import Mathlib.Data.String.Basic
import Stencil.Entries

/-! # What is under a key

Putting an entry in and dropping one changes what is under its key and nothing else, and keeps the
keys distinct. As long as they are, the entry that is found under a key is the only one there.
-/

namespace Stencil

variable {κ α β : Type} [DecidableEq κ] {key other : κ} {value : α} {entries : List (κ × α)}

theorem lookup_entry_cons (first : κ) (value : α) (rest : List (κ × α)) (key : κ) :
    ((first, value) :: rest).lookup key = if key = first then some value else rest.lookup key := by
  by_cases here : key = first <;> simp [List.lookup_cons, here, beq_false_of_ne]

theorem lookup_putEntry (key : κ) (value : α) (entries : List (κ × α)) (other : κ) :
    (putEntry key value entries).lookup other =
      if other = key then some value else entries.lookup other := by
  induction entries with
  | nil => exact lookup_entry_cons key value [] other
  | cons entry rest ih =>
    obtain ⟨first, old⟩ := entry
    rw [putEntry]
    split
    · next same =>
      subst same
      rw [lookup_entry_cons, lookup_entry_cons]
      split <;> rfl
    · next differ =>
      rw [lookup_entry_cons, lookup_entry_cons, ih]
      by_cases here : other = first <;> simp [here, differ]

theorem mem_putEntry {entry : κ × α} (member : entry ∈ putEntry key value entries) :
    entry = (key, value) ∨ entry ∈ entries := by
  induction entries with
  | nil => exact .inl (List.mem_singleton.mp member)
  | cons first rest ih =>
    rw [putEntry] at member
    split at member
    · exact (List.mem_cons.mp member).imp_right (List.mem_cons_of_mem _)
    · rcases List.mem_cons.mp member with same | behind
      · exact .inr (same ▸ List.mem_cons_self)
      · exact (ih behind).imp_right (List.mem_cons_of_mem _)

/-- A key that is there keeps its place, a new one comes at the end. -/
theorem keys_putEntry (key : κ) (value : α) (entries : List (κ × α)) :
    (putEntry key value entries).map (·.1) =
      if key ∈ entries.map (·.1) then entries.map (·.1) else entries.map (·.1) ++ [key] := by
  induction entries with
  | nil => simp [putEntry]
  | cons entry rest ih => grind [putEntry]

theorem nodup_keys_putEntry (distinct : (entries.map (·.1)).Nodup) (key : κ) (value : α) :
    ((putEntry key value entries).map (·.1)).Nodup := by
  rw [keys_putEntry]
  split
  · exact distinct
  · next new => exact List.concat_eq_append ▸ List.Nodup.concat new distinct

theorem lookup_dropEntry (key : κ) (entries : List (κ × α)) (other : κ) :
    (dropEntry key entries).lookup other = if other = key then none else entries.lookup other := by
  induction entries with
  | nil => simp [dropEntry]
  | cons entry rest ih =>
    obtain ⟨first, held⟩ := entry
    rw [dropEntry] at ih
    by_cases own : first = key
    · subst own
      rw [dropEntry, List.filter_cons_of_neg (by simp), ih, lookup_entry_cons]
      split <;> rfl
    · rw [dropEntry, List.filter_cons_of_pos (by simp [own]), lookup_entry_cons, lookup_entry_cons, ih]
      by_cases here : other = first <;> simp [here, own]

theorem keys_dropEntry (key : κ) (entries : List (κ × α)) :
    (dropEntry key entries).map (·.1) = (entries.map (·.1)).filter (· ≠ key) := by
  rw [dropEntry, List.filter_map]
  rfl

theorem nodup_keys_dropEntry (distinct : (entries.map (·.1)).Nodup) (key : κ) :
    ((dropEntry key entries).map (·.1)).Nodup := by
  rw [keys_dropEntry]
  exact distinct.filter _

/-- What is under a key after all values are changed. -/
theorem lookup_map_snd (change : κ → α → β) (entries : List (κ × α)) (key : κ) :
    (entries.map fun entry => (entry.1, change entry.1 entry.2)).lookup key =
      (entries.lookup key).map (change key) := by
  induction entries with
  | nil => rfl
  | cons entry rest ih =>
    obtain ⟨first, held⟩ := entry
    rw [List.map_cons, lookup_entry_cons, lookup_entry_cons, ih]
    split
    · next here => rw [here, Option.map_some]
    · rfl

theorem mem_keys_iff : key ∈ entries.map (·.1) ↔ ∃ value, entries.lookup key = some value := by
  rw [← Option.isSome_iff_exists, List.lookup_isSome_iff, List.mem_map]
  simp only [beq_iff_eq, @eq_comm _ key]

theorem mem_of_lookup (found : entries.lookup key = some value) : (key, value) ∈ entries := by
  obtain ⟨front, back, whole, -⟩ := List.lookup_eq_some_iff.mp found
  simp [whole]

/-- As long as keys are distinct, what is found under a key is the entry for it. -/
theorem lookup_eq_some_iff_mem (distinct : (entries.map (·.1)).Nodup) :
    entries.lookup key = some value ↔ (key, value) ∈ entries := by
  refine ⟨mem_of_lookup, fun held => ?_⟩
  obtain ⟨known, found⟩ := mem_keys_iff.mp (List.mem_map_of_mem held)
  have same := List.inj_on_of_nodup_map distinct (mem_of_lookup found) held rfl
  rw [found, (Prod.mk.inj same).2]

/-- The values are those under the keys, in their order. -/
theorem filterMap_lookup_keys (distinct : (entries.map (·.1)).Nodup) :
    (entries.map (·.1)).filterMap (List.lookup · entries) = entries.map (·.2) := by
  rw [List.filterMap_map, ← List.filterMap_eq_map]
  refine List.filterMap_congr fun entry held => ?_
  exact (lookup_eq_some_iff_mem distinct).mpr held

/-! ## Entries in ascending order -/

theorem mem_putSorted {key : String} {entries : List (String × α)} {entry : String × α}
    (member : entry ∈ putSorted key value entries) : entry = (key, value) ∨ entry ∈ entries := by
  induction entries with
  | nil => exact .inl (List.mem_singleton.mp member)
  | cons first rest ih =>
    rw [putSorted] at member
    split at member
    · exact (List.mem_cons.mp member).imp_right (List.mem_cons_of_mem _)
    · split at member
      · exact List.mem_cons.mp member
      · rcases List.mem_cons.mp member with same | behind
        · exact .inr (same ▸ List.mem_cons_self)
        · exact (ih behind).imp_right (List.mem_cons_of_mem _)

/-- One more entry keeps the keys in ascending order. -/
theorem ascending_putSorted {entries : List (String × α)}
    (ascending : (entries.map (·.1)).Pairwise (· < ·)) (key : String) (value : α) :
    ((putSorted key value entries).map (·.1)).Pairwise (· < ·) := by
  induction entries with
  | nil => exact List.pairwise_singleton _ key
  | cons first rest ih =>
    obtain ⟨other, old⟩ := first
    obtain ⟨before, behind⟩ := List.pairwise_cons.mp ascending
    rw [putSorted]
    split
    · next same =>
      subst same
      exact ascending
    · next differ =>
      split
      · next less =>
        refine List.pairwise_cons.mpr ⟨fun later held => ?_, ascending⟩
        rcases List.mem_cons.mp held with rfl | further
        · exact less
        · exact String.lt_trans less (before later further)
      · next notLess =>
        have more : other < key := lt_of_le_of_ne (not_lt.mp notLess) (Ne.symm differ)
        refine List.pairwise_cons.mpr ⟨fun later held => ?_, ih behind⟩
        obtain ⟨entry, among, rfl⟩ := List.mem_map.mp held
        rcases mem_putSorted among with rfl | known
        · exact more
        · exact before entry.1 (List.mem_map_of_mem known)

end Stencil
