/-! # Attempts

Work on a state in place that may fail. A failure ends the work, but does not undo what was done
before it: that an attempt leaves the state alone where it fails (`Harmless`) has to be shown for it.
-/

namespace Stencil

/-- Work on a state in place, which may fail. -/
abbrev Attempt (σ ε : Type) := ExceptT ε (StateM σ)

namespace Attempt

variable {σ ε ε' α β : Type}

/-- What an attempt on a state answers, and the state behind it. -/
def on (state : σ) (work : Attempt σ ε α) : Except ε α × σ := (work.run.run state).run

/-- What an attempt on a state answers together with the state behind it; of one that fails, only the
problem. -/
def result (state : σ) (work : Attempt σ ε α) : Except ε (α × σ) :=
  let (answer, next) := on state work
  answer.map (·, next)

/-- The attempt leaves the state as it was where it fails. -/
def Harmless (work : Attempt σ ε α) : Prop :=
  ∀ state problem, (on state work).1 = .error problem → (on state work).2 = state

variable {state : σ}

@[simp] theorem on_pure (answer : α) :
    on state (pure answer : Attempt σ ε α) = (.ok answer, state) := rfl

@[simp] theorem on_throw (problem : ε) :
    on state (throw problem : Attempt σ ε α) = (.error problem, state) := rfl

@[simp] theorem on_get : on state (get : Attempt σ ε σ) = (.ok state, state) := rfl

@[simp] theorem on_modify (change : σ → σ) :
    on state (modify change : Attempt σ ε PUnit) = (.ok ⟨⟩, change state) := rfl

@[simp] theorem on_map (name : α → β) (work : Attempt σ ε α) :
    on state (name <$> work) = ((on state work).1.map name, (on state work).2) := by
  rcases made : on state work with ⟨problem | answer, next⟩ <;>
    simp_all [on, ExceptT.run_map, Except.map]

@[simp] theorem on_adapt (name : ε → ε') (work : Attempt σ ε α) :
    on state (ExceptT.adapt name work : Attempt σ ε' α) =
      ((on state work).1.mapError name, (on state work).2) := rfl

/-- An attempt goes on in the state that its first part leaves, unless that part fails. -/
@[simp] theorem on_bind (first : Attempt σ ε α) (next : α → Attempt σ ε β) :
    on state (first >>= next) =
      match on state first with
      | (.ok answer, changed) => on changed (next answer)
      | (.error problem, changed) => (.error problem, changed) := by
  rcases made : on state first with ⟨problem | answer, changed⟩ <;>
    simp_all [on, ExceptT.run_bind]

theorem result_eq_ok_iff {work : Attempt σ ε α} {answer : α} {next : σ} :
    result state work = .ok (answer, next) ↔ on state work = (.ok answer, next) := by
  rw [result]
  rcases on state work with ⟨problem | other, behind⟩ <;> simp [Except.map]

theorem result_eq_error_iff {work : Attempt σ ε α} {problem : ε} :
    result state work = .error problem ↔ (on state work).1 = .error problem := by
  rw [result]
  rcases on state work with ⟨other | answer, behind⟩ <;> simp [Except.map]

theorem result_map_fst (state : σ) (work : Attempt σ ε α) :
    (result state work).map (·.1) = (on state work).1 := by
  rw [result]
  rcases on state work with ⟨problem | answer, next⟩ <;> rfl

/-! ## Attempts that do no harm -/

theorem Harmless.unchanged {work : Attempt σ ε α} (harmless : work.Harmless) {problem : ε}
    (failed : result state work = .error problem) : (on state work).2 = state :=
  harmless state problem (result_eq_error_iff.mp failed)

theorem harmless_throw (problem : ε) : Harmless (throw problem : Attempt σ ε α) :=
  fun _ _ _ => rfl

theorem Harmless.adapt {work : Attempt σ ε α} (harmless : work.Harmless) (name : ε → ε') :
    Harmless (ExceptT.adapt name work : Attempt σ ε' α) := by
  intro state problem failed
  rw [on_adapt] at failed ⊢
  cases made : (on state work).1 with
  | error cause => exact harmless state cause made
  | ok answer =>
    rw [made] at failed
    cases failed

/-- What cannot fail adds no harm to the attempt before it. -/
theorem Harmless.bind_of_sure {first : Attempt σ ε α} (harmless : first.Harmless)
    {next : α → Attempt σ ε β}
    (sure : ∀ answer state problem, (on state (next answer)).1 ≠ .error problem) :
    Harmless (first >>= next) := by
  intro state problem failed
  rw [on_bind] at failed ⊢
  rcases made : on state first with ⟨cause | answer, changed⟩
  · rw [made] at failed
    exact congrArg Prod.snd made ▸ harmless state cause (congrArg Prod.fst made)
  · rw [made] at failed
    exact absurd failed (sure answer changed problem)

end Attempt

end Stencil
