/-!
# Actions

Decoders, operations on files and the steps of a run all carry a state and may fail, and
what has happened before a failure stays. These are the laws for going through such an
action step by step.
-/

namespace DocSite

/-- The state that a run ends in, also when it fails. -/
def final : EStateM.Result ε σ α → σ
  | .ok _ s => s
  | .error _ s => s

@[simp] theorem final_ok (v : α) (s : σ) : final (.ok v s : EStateM.Result ε σ α) = s := rfl
@[simp] theorem final_error (e : ε) (s : σ) : final (.error e s : EStateM.Result ε σ α) = s := rfl

@[simp] theorem run_pure (v : α) (s : σ) : (pure v : EStateM ε σ α) s = .ok v s := rfl

theorem run_bind (a : EStateM ε σ α) (f : α → EStateM ε σ β) (s : σ) :
    (a >>= f) s = match a s with
      | .ok v s => f v s
      | .error e s => .error e s := rfl

theorem run_bind_ok {a : EStateM ε σ α} {f : α → EStateM ε σ β} (h : a s = .ok v s') :
    (a >>= f) s = f v s' := by
  rw [run_bind, h]

theorem run_bind_error {a : EStateM ε σ α} {f : α → EStateM ε σ β} (h : a s = .error e s') :
    (a >>= f) s = .error e s' := by
  rw [run_bind, h]

theorem run_bind_eq_ok {a : EStateM ε σ α} {f : α → EStateM ε σ β}
    (h : (a >>= f) s = .ok v s') : ∃ w s₁, a s = .ok w s₁ ∧ f w s₁ = .ok v s' := by
  cases ha : a s with
  | error e s₁ =>
    rw [run_bind_error ha] at h
    cases h
  | ok w s₁ =>
    rw [run_bind_ok ha] at h
    exact ⟨w, s₁, rfl, h⟩

-- ---------------------------------------------------------------------------
-- Lists of actions
-- ---------------------------------------------------------------------------

section
variable {f : α → EStateM ε σ β} {x : α} {xs : List α} {ys : List β} {s s₁ s₂ : σ}

theorem mapM_cons_ok (h : f x s = .ok y s₁) (hs : xs.mapM f s₁ = .ok ys s₂) :
    (x :: xs).mapM f s = .ok (y :: ys) s₂ := by
  rw [List.mapM_cons, run_bind_ok h, run_bind_ok hs]
  rfl

theorem mapM_cons_eq_ok (h : (x :: xs).mapM f s = .ok ys s₂) :
    ∃ y s₁ ys', f x s = .ok y s₁ ∧ xs.mapM f s₁ = .ok ys' s₂ ∧ ys = y :: ys' := by
  rw [List.mapM_cons] at h
  obtain ⟨y, s₁, hx, h⟩ := run_bind_eq_ok h
  obtain ⟨ys', s', hxs, h⟩ := run_bind_eq_ok h
  cases h
  exact ⟨y, s₁, ys', hx, hxs, rfl⟩

/-- What never fails does not fail for a list. -/
theorem mapM_ok (hf : ∀ x s, ∃ y s', f x s = .ok y s') (xs : List α) (s : σ) :
    ∃ ys s', xs.mapM f s = .ok ys s' := by
  induction xs generalizing s with
  | nil => exact ⟨[], s, rfl⟩
  | cons x xs ih =>
    obtain ⟨y, s₁, hx⟩ := hf x s
    obtain ⟨ys, s₂, hxs⟩ := ih s₁
    exact ⟨y :: ys, s₂, mapM_cons_ok hx hxs⟩

/-- Results that do not depend on the state. -/
theorem eq_map_of_mapM {g : α → β} (hf : ∀ x s y s', f x s = .ok y s' → y = g x)
    (h : xs.mapM f s = .ok ys s₂) : ys = xs.map g := by
  induction xs generalizing s ys with
  | nil =>
    cases h
    rfl
  | cons x xs ih =>
    obtain ⟨y, s₁, ys', hx, hxs, rfl⟩ := mapM_cons_eq_ok h
    rw [List.map_cons, hf x s y s₁ hx, ih hxs]

end

end DocSite
