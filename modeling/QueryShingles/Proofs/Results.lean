/-!
Steps that may fail, taken one after the other.
-/

set_option autoImplicit false

namespace QueryShingles

section

variable {ε α β : Type}

@[simp] theorem ok_bind (value : α) (next : α → Except ε β) : (Except.ok value >>= next) = next value := rfl

@[simp] theorem error_bind (fault : ε) (next : α → Except ε β) : (Except.error fault >>= next) = .error fault := rfl

@[simp] theorem pure_is_ok (value : α) : (pure value : Except ε α) = .ok value := rfl

@[simp] theorem map_ok (value : α) (f : α → β) : (Except.ok value : Except ε α).map f = .ok (f value) := rfl

@[simp] theorem map_error (fault : ε) (f : α → β) : (Except.error fault : Except ε α).map f = .error fault := rfl

@[simp] theorem map_error_of_ok {δ : Type} (value : α) (f : ε → δ) :
    (Except.ok value : Except ε α).mapError f = .ok value := rfl

@[simp] theorem map_error_of_error {δ : Type} (fault : ε) (f : ε → δ) :
    (Except.error fault : Except ε α).mapError f = .error (f fault) := rfl

theorem map_error_ok {δ : Type} (result : Except ε α) (f : ε → δ) (value : α)
    (whole : result.mapError f = .ok value) : result = .ok value := by
  cases result with
  | error fault => simp at whole
  | ok other =>
      cases whole
      rfl

theorem map_error_error_iff {δ : Type} (result : Except ε α) (f : ε → δ) (fault : δ) :
    result.mapError f = .error fault ↔ ∃ cause, result = .error cause ∧ f cause = fault := by
  cases result <;> simp

theorem bind_ok_steps (first : Except ε α) (next : α → Except ε β) (result : β)
    (whole : (first >>= next) = .ok result) : ∃ value, first = .ok value ∧ next value = .ok result := by
  cases first with
  | error fault => simp at whole
  | ok value => exact ⟨value, rfl, whole⟩

theorem bind_ok_iff (first : Except ε α) (next : α → Except ε β) (result : β) :
    (first >>= next) = .ok result ↔ ∃ value, first = .ok value ∧ next value = .ok result := by
  constructor
  · exact bind_ok_steps first next result
  · rintro ⟨value, found, rest⟩
    rw [found]
    exact rest

theorem map_m_ok (step : α → Except ε β) (f : α → β) (items : List α)
    (each : ∀ item ∈ items, step item = .ok (f item)) : items.mapM step = .ok (items.map f) := by
  induction items with
  | nil => rfl
  | cons item rest ih =>
      rw [List.mapM_cons, each item (by simp), ih (fun other member => each other (by simp [member]))]
      rfl

end

end QueryShingles
