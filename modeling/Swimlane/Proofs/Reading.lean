/-!
# Readings that succeed, and readings that fail

A reading in several steps succeeds only if each of them does, and it fails at the first of
them that fails.
-/

namespace Swimlane

variable {ε ε' α β : Type}

/-! ## Success -/

/-- What a sequence of two readings returns, the second returns on what the first does. -/
theorem ok_of_bind {x : Except ε α} {f : α → Except ε β} {b : β} (h : (x >>= f) = .ok b) :
    ∃ a, x = .ok a ∧ f a = .ok b := by
  cases x with
  | error e => cases h
  | ok a => exact ⟨a, rfl, h⟩

theorem ok_of_map {x : Except ε α} {f : α → β} {b : β} (h : x.map f = .ok b) :
    ∃ a, x = .ok a ∧ f a = b := by
  cases x with
  | error e => cases h
  | ok a => cases h; exact ⟨a, rfl, rfl⟩

/-- A reading of which a part is known succeeded. -/
theorem exists_of_toOption_map {x : Except ε α} {part : α → β} {b : β}
    (h : (x.map part).toOption = some b) : ∃ a, x = .ok a ∧ part a = b := by
  cases x with
  | error e => cases h
  | ok a => exact ⟨a, rfl, Option.some.inj h⟩

/-- An error that is reworded is still an error. -/
theorem ok_of_mapError {x : Except ε α} {f : ε → ε'} {a : α} (h : x.mapError f = .ok a) :
    x = .ok a := by
  cases x with
  | error e => cases h
  | ok b => cases h; rfl

/-! ## Failure -/

/-- A sequence of two readings fails in the first of them, or in the second on what the first
returned. -/
theorem error_of_bind {x : Except ε α} {f : α → Except ε β} {e : ε}
    (h : (x >>= f) = .error e) : x = .error e ∨ ∃ a, x = .ok a ∧ f a = .error e := by
  cases x with
  | error e' => cases h; exact Or.inl rfl
  | ok a => exact Or.inr ⟨a, rfl, h⟩

/-- An error that was reworded was there before. -/
theorem error_of_mapError {x : Except ε α} {f : ε → ε'} {e : ε'} (h : x.mapError f = .error e) :
    ∃ cause, x = .error cause ∧ f cause = e := by
  cases x with
  | error cause => cases h; exact ⟨cause, rfl, rfl⟩
  | ok a => cases h

/-- Readings one after another fail at the first that fails. -/
theorem exists_of_foldlM_error {f : β → α → Except ε β} {xs : List α} {b : β} {e : ε}
    (h : xs.foldlM f b = .error e) : ∃ before x after b', xs = before ++ x :: after ∧
      before.foldlM f b = .ok b' ∧ f b' x = .error e := by
  induction xs generalizing b with
  | nil => cases h
  | cons x xs ih =>
    rw [List.foldlM_cons] at h
    rcases error_of_bind h with hx | ⟨b₁, hx, hxs⟩
    · exact ⟨[], x, xs, b, rfl, rfl, hx⟩
    · obtain ⟨before, y, after, b', rfl, hbefore, hy⟩ := ih hxs
      refine ⟨x :: before, y, after, b', rfl, ?_, hy⟩
      rw [List.foldlM_cons, hx]
      exact hbefore

end Swimlane
