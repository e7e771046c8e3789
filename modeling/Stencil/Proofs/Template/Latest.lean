import Mathlib.Data.List.Basic

/-! # The latest of its kind

A history is a list of events, the earliest first. What still holds at its end is often what the last
event of some kind brought about, unless a later event of another kind put an end to it. One more
event either brings it about anew, or leaves it to what was there before (`latest_append_singleton`).
-/

namespace Stencil.History

variable {α : Type} {does ends : List α → α → Prop}

/-- Some event does something, and no later one ends that. What an event does may depend on the
events in front of it. -/
def Latest (does ends : List α → α → Prop) (history : List α) : Prop :=
  ∃ before event after, history = before ++ event :: after ∧ does before event ∧
    ∀ middle later rest, after = middle ++ later :: rest → ¬ ends (before ++ event :: middle) later

theorem not_latest_nil : ¬ Latest does ends [] := by
  rintro ⟨before, event, after, whole, -⟩
  simp at whole

/-- Where a list with one more element is split: at that element, or in front of it. -/
theorem append_singleton_eq_append_cons {list front back : List α} {last mid : α}
    (whole : list ++ [last] = front ++ mid :: back) :
    (list = front ∧ last = mid ∧ back = []) ∨
      ∃ inner, list = front ++ mid :: inner ∧ back = inner ++ [last] := by
  rcases back.eq_nil_or_concat with rfl | ⟨inner, other, rfl⟩
  · obtain ⟨same, ends⟩ := List.append_inj' whole rfl
    exact .inl ⟨same, List.singleton_inj.mp ends, rfl⟩
  · rw [List.concat_eq_append, ← List.cons_append, ← List.append_assoc] at whole
    obtain ⟨same, ends⟩ := List.append_inj' whole rfl
    exact .inr ⟨inner, same, by rw [List.concat_eq_append, ends]⟩

theorem latest_append_singleton (history : List α) (event : α) :
    Latest does ends (history ++ [event]) ↔
      does history event ∨ Latest does ends history ∧ ¬ ends history event := by
  constructor
  · rintro ⟨before, made, after, whole, done, stays⟩
    rcases append_singleton_eq_append_cons whole with ⟨rfl, rfl, -⟩ | ⟨inner, rfl, rfl⟩
    · exact .inl done
    · refine .inr ⟨⟨before, made, inner, rfl, done, ?_⟩, stays inner event [] rfl⟩
      rintro middle later rest rfl
      exact stays middle later (rest ++ [event]) (by simp)
  · rintro (done | ⟨⟨before, made, after, rfl, done, stays⟩, last⟩)
    · exact ⟨history, event, [], rfl, done, by simp⟩
    · refine ⟨before, made, after ++ [event], by simp, done, ?_⟩
      intro middle later rest whole
      rcases append_singleton_eq_append_cons whole with ⟨rfl, rfl, -⟩ | ⟨inner, split, -⟩
      · exact last
      · exact stays middle later inner split

end Stencil.History
