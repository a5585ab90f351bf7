import Swimlane.Flowchart.Nesting
import Swimlane.Proofs.Flowchart.Consistent

/-!
# Visits come to an end

In a consistent graph the groups that a group lists come after it.  A visit therefore never
goes deeper than there are groups, and the bound that `visits?` puts on the depth is never
reached.
-/

namespace Swimlane

theorem mapM_isSome {β γ : Type} {f : β → Option γ} {l : List β}
    (h : ∀ b ∈ l, (f b).isSome = true) : (l.mapM f).isSome = true := by
  induction l with
  | nil => rfl
  | cons b l ih =>
    obtain ⟨c, hc⟩ := Option.isSome_iff_exists.1 (h b List.mem_cons_self)
    obtain ⟨cs, hcs⟩ := Option.isSome_iff_exists.1
      (ih fun b' hb' => h b' (List.mem_cons_of_mem b hb'))
    rw [List.mapM_cons, hc, hcs]
    rfl

namespace Graph

variable {g : Graph}

theorem IsConsistent.order_lt (h : g.IsConsistent) {x : Group} (hx : x ∈ g.groups) :
    x.order < g.groups.length := by
  have horder : x.order ∈ g.frames.map (·.order) :=
    List.mem_map.2 ⟨x.frame, List.mem_map.2 ⟨x, hx, rfl⟩, rfl⟩
  rw [h.hierarchy.orders, List.mem_range, length_frames] at horder
  exact horder

/-- A group that is listed by another comes after it. -/
theorem IsConsistent.order_of_listed (h : g.IsConsistent) {x : Group} (hx : x ∈ g.groups)
    {id : Text} (hid : .group id ∈ x.children) :
    ∃ y ∈ g.groups, y.id = id ∧ x.order < y.order := by
  obtain ⟨y, hy, hpair⟩ := List.mem_map.1 ((h.lists_group x hx id).1 hid)
  rw [Prod.mk.injEq] at hpair
  obtain ⟨z, hz, hzid, horder, -⟩ := h.parent_of hy hpair.2
  rw [List.inj_on_of_nodup_map h.group_ids hz hx hzid] at horder
  exact ⟨y, hy, hpair.1, horder⟩

/-- The visit of a group needs no more depth than there are groups from it on. -/
theorem IsConsistent.visit?_isSome (h : g.IsConsistent) {fuel : Nat} {around : List Text}
    {x : Group} (hx : x ∈ g.groups) (hfuel : g.groups.length < x.order + fuel) :
    (g.visit? fuel around x.id).isSome = true := by
  induction fuel generalizing around x with
  | zero =>
    have hlt := h.order_lt hx
    omega
  | succ fuel ih =>
    rw [visit?, group?_of_mem h.group_ids hx, Option.isSome_map]
    refine mapM_isSome fun child hchild => ?_
    cases child with
    | node id => rfl
    | group id =>
      obtain ⟨y, hy, rfl, horder⟩ := h.order_of_listed hx hchild
      exact ih hy (by omega)

/-- The groups of a consistent graph can be visited. -/
theorem IsConsistent.exists_visits (h : g.IsConsistent) : ∃ visits, g.visits? = some visits := by
  rw [← Option.isSome_iff_exists, visits?, Option.isSome_map]
  refine mapM_isSome fun x hx => ?_
  exact h.visit?_isSome (List.mem_filter.1 hx).1 (by omega)

end Graph

end Swimlane
