import Mathlib.Data.List.Forall2
import Mathlib.Data.List.Induction
import Mathlib.Data.List.Nodup

/-!
# Passes over a list

A pass takes the elements of a list one after another and has an invariant of what it has made
of those it has seen.  Often it keeps some of them, changed perhaps, in their order; then
`List.SublistForall₂` relates what it kept to what it saw.
-/

namespace Swimlane

/-! ## Invariants -/

section Invariants

variable {σ β κ : Type} {step : σ → β → σ} {invariant : σ → List β → Prop} {start : σ}

/-- What holds of nothing seen and stays true with every element of a list, given those before
it and those after it, holds of the whole list. -/
theorem foldl_of_parts (hstart : invariant start []) {elements : List β}
    (hstep : ∀ state seen x rest, elements = seen ++ x :: rest → invariant state seen →
      invariant (step state x) (seen ++ [x])) :
    invariant (elements.foldl step start) elements := by
  induction elements using List.reverseRecOn with
  | nil => exact hstart
  | append_singleton before x ih =>
    rw [List.foldl_append]
    refine hstep _ before x [] rfl (ih fun state seen y rest hsplit h => ?_)
    exact hstep state seen y (rest ++ [x]) (by rw [hsplit, List.append_assoc]; rfl) h

/-- What holds of nothing seen and stays true with every element holds of a whole list. -/
theorem foldl_of_seen (hstart : invariant start [])
    (hstep : ∀ state seen x, invariant state seen → invariant (step state x) (seen ++ [x]))
    (elements : List β) : invariant (elements.foldl step start) elements :=
  foldl_of_parts hstart fun state seen x _ _ h => hstep state seen x h

/-- What holds of nothing seen and stays true with every element whose key is new holds of a
whole list with different keys. -/
theorem foldl_of_nodup_keys {key : β → κ} (hstart : invariant start []) {elements : List β}
    (hkeys : (elements.map key).Nodup)
    (hstep : ∀ state seen, invariant state seen → ∀ x ∈ elements, key x ∉ seen.map key →
      invariant (step state x) (seen ++ [x])) :
    invariant (elements.foldl step start) elements := by
  refine foldl_of_parts hstart fun state seen x rest hsplit h => hstep state seen h x ?_ ?_
  · rw [hsplit]
    exact List.mem_append_right _ List.mem_cons_self
  · rw [hsplit, List.map_append, List.map_cons] at hkeys
    exact fun hmem => (List.nodup_append.1 hkeys).2.2 _ hmem _ List.mem_cons_self rfl

end Invariants

/-! ## New elements -/

/-- A new element leaves a list without repetition. -/
theorem nodup_append_singleton {β : Type} {xs : List β} {x : β} (h : xs.Nodup) (hx : x ∉ xs) :
    (xs ++ [x]).Nodup := by
  rw [← List.concat_eq_append]
  exact List.Nodup.concat hx h

/-- An element with a new key leaves a list without repetition of keys. -/
theorem nodup_map_append_singleton {β κ : Type} {key : β → κ} {xs : List β} {x : β}
    (h : (xs.map key).Nodup) (hx : key x ∉ xs.map key) : ((xs ++ [x]).map key).Nodup := by
  rw [List.map_append, List.map_singleton]
  exact nodup_append_singleton h hx

/-! ## What is kept -/

variable {β γ : Type} {R S : β → γ → Prop} {kept : List β} {seen : List γ}

/-- Seeing more elements takes nothing away. -/
theorem sublistForall₂_append_right (h : List.SublistForall₂ R kept seen) (more : List γ) :
    List.SublistForall₂ R kept (seen ++ more) := by
  obtain ⟨chosen, hrelated, hsub⟩ := List.sublistForall₂_iff.1 h
  exact List.sublistForall₂_iff.2 ⟨chosen, hrelated, hsub.trans (List.sublist_append_left _ _)⟩

/-- The element that was seen last may be kept last. -/
theorem sublistForall₂_concat (h : List.SublistForall₂ R kept seen) {x : β} {y : γ}
    (hlast : R x y) : List.SublistForall₂ R (kept ++ [x]) (seen ++ [y]) := by
  obtain ⟨chosen, hrelated, hsub⟩ := List.sublistForall₂_iff.1 h
  refine List.sublistForall₂_iff.2 ⟨chosen ++ [y], ?_, hsub.append (List.Sublist.refl _)⟩
  exact List.rel_append hrelated (List.Forall₂.cons hlast List.Forall₂.nil)

/-- What was kept may be changed further, as long as it stays related. -/
theorem sublistForall₂_map_left {change : β → β} (hchange : ∀ x y, R x y → R (change x) y)
    (h : List.SublistForall₂ R kept seen) : List.SublistForall₂ R (kept.map change) seen := by
  induction h with
  | nil => exact .nil
  | cons hfirst _ ih => exact .cons (hchange _ _ hfirst) ih
  | cons_right _ ih => exact .cons_right ih

/-- What is known of all that was kept and of all that was seen may be used to relate them
otherwise. -/
theorem sublistForall₂_imp (himp : ∀ x ∈ kept, ∀ y ∈ seen, R x y → S x y)
    (h : List.SublistForall₂ R kept seen) : List.SublistForall₂ S kept seen := by
  induction h with
  | nil => exact .nil
  | cons hfirst _ ih =>
    exact .cons (himp _ List.mem_cons_self _ List.mem_cons_self hfirst)
      (ih fun x hx y hy => himp x (List.mem_cons_of_mem _ hx) y (List.mem_cons_of_mem _ hy))
  | cons_right _ ih =>
    exact .cons_right (ih fun x hx y hy => himp x hx y (List.mem_cons_of_mem _ hy))

/-- If what is kept of one list corresponds to what is kept of another, so do the parts. -/
theorem sublistForall₂_filter {p : β → Bool} {q : γ → Bool}
    (hkept : ∀ x y, R x y → p x = true → q y = true) {xs : List β} {ys : List γ}
    (h : List.Forall₂ R xs ys) : List.SublistForall₂ R (xs.filter p) (ys.filter q) := by
  induction h with
  | nil => exact .nil
  | @cons x y xs ys hfirst _ ih =>
    by_cases hp : p x = true
    · rw [List.filter_cons_of_pos hp, List.filter_cons_of_pos (hkept x y hfirst hp)]
      exact .cons hfirst ih
    · rw [List.filter_cons_of_neg hp, List.filter_cons]
      split
      · exact .cons_right ih
      · exact ih

/-- Whatever was kept had been seen. -/
theorem exists_of_mem_of_sublistForall₂ (h : List.SublistForall₂ R kept seen) {x : β}
    (hx : x ∈ kept) : ∃ y ∈ seen, R x y := by
  induction h with
  | nil => exact absurd hx List.not_mem_nil
  | cons hfirst _ ih =>
    rcases List.mem_cons.1 hx with rfl | hrest
    · exact ⟨_, List.mem_cons_self, hfirst⟩
    · obtain ⟨y, hy, hxy⟩ := ih hrest
      exact ⟨y, List.mem_cons_of_mem _ hy, hxy⟩
  | cons_right _ ih =>
    obtain ⟨y, hy, hxy⟩ := ih hx
    exact ⟨y, List.mem_cons_of_mem _ hy, hxy⟩

end Swimlane
