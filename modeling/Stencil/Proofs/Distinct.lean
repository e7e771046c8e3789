import Mathlib.Data.List.Induction
import Mathlib.Data.List.Nodup

/-! # Lists without their repeats

Leaving out repeats keeps the first of several equal items where it stands, so an item at the end of a
list is left out exactly if it is in the list before.
-/

namespace Stencil

variable {α β : Type} [BEq α] [LawfulBEq α] [BEq β] [LawfulBEq β]

theorem eraseDups_concat (list : List α) (last : α) : (list ++ [last]).eraseDups =
    if last ∈ list then list.eraseDups else list.eraseDups ++ [last] := by
  rw [List.eraseDups_append]
  split
  · next seen => simp [List.removeAll, seen]
  · next new => simp [List.removeAll, new, List.eraseDups_cons]

theorem nodup_eraseDups (list : List α) : list.eraseDups.Nodup := by
  induction list using List.reverseRecOn with
  | nil => exact .nil
  | append_singleton list last ih =>
    rw [eraseDups_concat]
    split
    · exact ih
    · next new =>
      have fresh : last ∉ list.eraseDups := by rwa [List.mem_eraseDups]
      rw [← List.concat_eq_append]
      exact List.Nodup.concat fresh ih

/-- Repeats that are left out before a map are left out behind it anyway. -/
theorem eraseDups_map_eraseDups (f : α → β) (list : List α) :
    (list.eraseDups.map f).eraseDups = (list.map f).eraseDups := by
  induction list using List.reverseRecOn with
  | nil => rfl
  | append_singleton list last ih =>
    have mapped : f last ∈ list.eraseDups.map f ↔ f last ∈ list.map f := by
      simp only [List.mem_map, List.mem_eraseDups]
    rw [eraseDups_concat, List.map_append, List.map_singleton, eraseDups_concat, ← ih]
    split
    · next seen => rw [if_pos (List.mem_map_of_mem seen)]
    · rw [List.map_append, List.map_singleton, eraseDups_concat, if_congr mapped rfl rfl]

end Stencil
