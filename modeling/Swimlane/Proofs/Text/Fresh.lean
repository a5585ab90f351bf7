import Mathlib.Data.List.Nodup
import Mathlib.Data.List.Perm.Subperm
import Mathlib.Data.List.Range
import Mathlib.Order.Bounds.Defs
import Swimlane.Text.Fresh

/-!
# Fresh names are fresh

Two numbers have different decimal forms, so the numbered forms of a name are all
different.  One more of them than there are taken names cannot all be taken, and the search
of `freshName` comes to an end at a name that is free.
-/

namespace Swimlane

/-- A number can be read off its decimal form. -/
theorem decimal_injective : Function.Injective decimal := by
  intro m n h
  have hm : Nat.ofDigitChars 10 (decimal m) 0 = m := Nat.ofDigitChars_ten_toDigits
  have hn : Nat.ofDigitChars 10 (decimal n) 0 = n := Nat.ofDigitChars_ten_toDigits
  rw [← hm, ← hn, h]

/-- The numbered forms of a name differ. -/
theorem numbered_injective (base : Text) : Function.Injective (numbered base) := by
  intro m n h
  rw [numbered, numbered, List.append_cancel_left_eq, List.cons.injEq] at h
  exact decimal_injective h.2

/-- Among one more numbered forms than there are taken names one is free. -/
theorem exists_numbered_free (taken : List Text) (base : Text) :
    ∃ k ∈ List.range' 2 (taken.length + 1), numbered base k ∉ taken := by
  by_contra hall
  push Not at hall
  have hsub : (List.range' 2 (taken.length + 1)).map (numbered base) ⊆ taken := by
    intro name hname
    obtain ⟨k, hk, rfl⟩ := List.mem_map.1 hname
    exact hall k hk
  have hnodup : ((List.range' 2 (taken.length + 1)).map (numbered base)).Nodup :=
    (List.nodup_range' _).map (numbered_injective base)
  have hle := (hnodup.subperm hsub).length_le
  rw [List.length_map, List.length_range'] at hle
  omega

/-- A free name stays as it is. -/
theorem freshName_of_not_mem {taken : List Text} {base : Text} (h : base ∉ taken) :
    freshName taken base = base := by
  rw [freshName, if_neg (by simpa using h)]

/-- A name that is taken gets the least number from 2 on with which it is free. -/
theorem freshName_eq_least {taken : List Text} {base : Text} (h : base ∈ taken) :
    ∃ k, IsLeast {k | 2 ≤ k ∧ numbered base k ∉ taken} k ∧
      freshName taken base = numbered base k := by
  have hsearch : freshName taken base = ((List.range' 2 (taken.length + 1)).find?
      fun k => !taken.contains (numbered base k)).elim base (numbered base) := by
    rw [freshName, if_pos (by simpa using h)]
  rw [hsearch]
  cases hfound : (List.range' 2 (taken.length + 1)).find?
      (fun k => !taken.contains (numbered base k)) with
  | none =>
    obtain ⟨k, hk, hfree⟩ := exists_numbered_free taken base
    have htaken := List.find?_eq_none.1 hfound k hk
    exact absurd hfree (by simpa using htaken)
  | some k =>
    obtain ⟨hfree, hrange, hless⟩ := List.find?_range'_eq_some.1 hfound
    refine ⟨k, ⟨⟨(List.mem_range'_1.1 hrange).1, by simpa using hfree⟩, ?_⟩, rfl⟩
    rintro j ⟨htwo, hj⟩
    by_contra hlt
    exact hj (by simpa using hless j htwo (not_le.1 hlt))

/-- A name that is taken gets a number with which it is free. -/
theorem freshName_of_mem {taken : List Text} {base : Text} (h : base ∈ taken) :
    ∃ k, freshName taken base = numbered base k ∧ numbered base k ∉ taken := by
  obtain ⟨k, hleast, hname⟩ := freshName_eq_least h
  exact ⟨k, hname, hleast.1.2⟩

/-- The name that is found is free. -/
theorem freshName_not_mem (taken : List Text) (base : Text) : freshName taken base ∉ taken := by
  by_cases h : base ∈ taken
  · obtain ⟨k, hname, hfree⟩ := freshName_of_mem h
    rw [hname]
    exact hfree
  · rw [freshName_of_not_mem h]
    exact h

/-- A fresh name is the name itself or a numbered form of it. -/
theorem freshName_cases (taken : List Text) (base : Text) :
    freshName taken base = base ∨ ∃ k, freshName taken base = numbered base k := by
  by_cases h : base ∈ taken
  · obtain ⟨k, hname, -⟩ := freshName_of_mem h
    exact Or.inr ⟨k, hname⟩
  · exact Or.inl (freshName_of_not_mem h)

/-! ## Forms of a name -/

/-- The name itself, or what becomes of it when it is numbered, several times perhaps. -/
def IsFormOf (base name : Text) : Prop := ∃ ks : List Nat, name = ks.foldl numbered base

theorem IsFormOf.refl (base : Text) : IsFormOf base base := ⟨[], rfl⟩

theorem IsFormOf.numbered {base name : Text} (h : IsFormOf base name) (k : Nat) :
    IsFormOf base (numbered name k) := by
  obtain ⟨ks, rfl⟩ := h
  exact ⟨ks ++ [k], by rw [List.foldl_append]; rfl⟩

/-- All forms of a name begin with it. -/
theorem IsFormOf.isPrefix {base name : Text} (h : IsFormOf base name) : base <+: name := by
  obtain ⟨ks, rfl⟩ := h
  induction ks generalizing base with
  | nil => exact List.prefix_refl base
  | cons k ks ih => exact (List.prefix_append base ('_' :: decimal k)).trans ih

theorem isFormOf_freshName (taken : List Text) (base : Text) :
    IsFormOf base (freshName taken base) := by
  rcases freshName_cases taken base with hsame | ⟨k, hnumbered⟩
  · rw [hsame]
    exact .refl base
  · rw [hnumbered]
    exact (IsFormOf.refl base).numbered k

end Swimlane
