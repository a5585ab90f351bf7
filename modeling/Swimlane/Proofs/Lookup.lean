import Mathlib.Data.List.Nodup

/-!
# Looking up under a key

A list of pairs is a table, in which the first entry of a key counts.
-/

namespace Swimlane

section Lookup

variable {α β : Type} [BEq α] [LawfulBEq α] {entries : List (α × β)} {a : α} {b : β}

/-- What is looked up is an entry. -/
theorem mem_of_lookup (h : entries.lookup a = some b) : (a, b) ∈ entries := by
  induction entries with
  | nil => cases h
  | cons e entries ih =>
    obtain ⟨k, v⟩ := e
    rw [List.lookup_cons] at h
    split at h
    · next heq =>
      cases h
      rw [eq_of_beq heq]
      exact List.mem_cons_self
    · exact List.mem_cons_of_mem _ (ih h)

/-- Where no key repeats, an entry is what is looked up under its key. -/
theorem lookup_of_mem (hnodup : (entries.map (·.1)).Nodup) (h : (a, b) ∈ entries) :
    entries.lookup a = some b := by
  induction entries with
  | nil => exact absurd h List.not_mem_nil
  | cons e entries ih =>
    obtain ⟨k, v⟩ := e
    rw [List.map_cons, List.nodup_cons] at hnodup
    rw [List.lookup_cons]
    rcases List.mem_cons.1 h with heq | h
    · cases heq
      simp
    · have hne : (a == k) = false := by
        refine beq_eq_false_iff_ne.2 fun heq => hnodup.1 ?_
        exact List.mem_map.2 ⟨(a, b), h, heq⟩
      rw [hne]
      exact ih hnodup.2 h

/-- Nothing is found under a key that is not there. -/
theorem lookup_eq_none (h : a ∉ entries.map Prod.fst) : entries.lookup a = none := by
  refine List.lookup_eq_none_iff.2 fun entry hentry => bne_iff_ne.2 ?_
  rintro rfl
  exact h (List.mem_map.2 ⟨entry, hentry, rfl⟩)

theorem lookup_cons_of_ne {k : α} (h : a ≠ k) (b : β) (entries : List (α × β)) :
    ((k, b) :: entries).lookup a = entries.lookup a := by
  rw [List.lookup_cons, beq_eq_false_iff_ne.2 h]

end Lookup

end Swimlane
