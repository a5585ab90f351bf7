import Swimlane.Proofs.Layout.Bounds
import Swimlane.Proofs.Tidy.Valid

/-!
# How far figures grow

A figure that stays grows to enclose the account boundaries of its type that go, and for
nothing else.  So to enclose it is to enclose all that merged into it, each as it was drawn
(`FigurePass.Grows`): where a grown figure ends is known from the drawing alone.
-/

namespace Swimlane

/-- The figure is the one that stayed, or an account boundary of its type. -/
def Figure.MergesInto (f kept : Figure Rat) : Prop :=
  f.id = kept.id ∨
    isAccountBoundary kept.componentType = true ∧ canonicalType f.componentType = kept.componentType

/-- What merges into a figure is known from its name and its type. -/
theorem Figure.mergesInto_congr {f kept kept' : Figure Rat} (hid : kept'.id = kept.id)
    (htype : kept'.componentType = kept.componentType) :
    f.MergesInto kept' ↔ f.MergesInto kept := by
  rw [Figure.MergesInto, hid, htype, Figure.MergesInto]

/-- To enclose a figure that has grown is to enclose what it was and what it has absorbed. -/
theorem Figure.encloses_absorb_iff {kept other : Figure Rat} {c : Bounds Rat} {margin : Rat} :
    c.Encloses margin (kept.absorb other).box.bounds ↔
      c.Encloses margin kept.box.bounds ∧ c.Encloses margin other.box.bounds := by
  rw [Figure.absorb, Bounds.bounds_box, Bounds.encloses_join_iff]

/-- What the figures that stayed so far have grown to, and what has merged into one of them. -/
structure FigurePass.Grows (pass : FigurePass Rat) (seen : List (Figure Rat)) : Prop where
  ids : pass.kept.map (·.id) ⊆ seen.map (·.id)
  /-- Every figure has merged into one that stayed, which has its type. -/
  merges : ∀ f ∈ seen, ∃ k ∈ pass.kept, f.MergesInto k ∧
    k.componentType = canonicalType f.componentType
  /-- To enclose one that stayed is to enclose all that have merged into it. -/
  encloses : ∀ k ∈ pass.kept, ∀ (c : Bounds Rat) (margin : Rat),
    c.Encloses margin k.box.bounds ↔
      ∀ f ∈ seen, f.MergesInto k → c.Encloses margin f.box.bounds

variable {pass : FigurePass Rat} {seen : List (Figure Rat)} {f : Figure Rat}

/-- A figure that does not merge into one that stayed leaves it as large as it was. -/
theorem FigurePass.Grows.encloses_concat (h : pass.Grows seen) {k : Figure Rat}
    (hk : k ∈ pass.kept) (hf : ¬ f.MergesInto k) (c : Bounds Rat) (margin : Rat) :
    c.Encloses margin k.box.bounds ↔
      ∀ g ∈ seen ++ [f], g.MergesInto k → c.Encloses margin g.box.bounds := by
  rw [h.encloses k hk, List.forall_mem_append, List.forall_mem_singleton]
  exact (and_iff_left fun hmerges => absurd hmerges hf).symm

/-- The figures of a type grow when an account boundary of the type goes. -/
theorem FigurePass.Grows.grow (h : pass.Grows seen) (hid : f.id ∉ seen.map (·.id))
    (hboundary : isAccountBoundary (canonicalType f.componentType) = true) {survivor : Figure Rat}
    (hsurvivor : survivor ∈ pass.kept)
    (htype : survivor.componentType = canonicalType f.componentType)
    (replaced : List (Text × Text)) (drops : List DropCause) :
    (⟨grown pass.kept (canonicalType f.componentType) f, replaced, drops⟩ :
      FigurePass Rat).Grows (seen ++ [f]) where
  ids := by
    rw [map_grown (·.id) fun _ _ => rfl, List.map_append]
    exact List.Subset.trans h.ids (List.subset_append_left _ _)
  merges := by
    refine List.forall_mem_append.2 ⟨fun g hg => ?_, List.forall_mem_singleton.2 ?_⟩
    · obtain ⟨k, hk, hmerges, hsame⟩ := h.merges g hg
      obtain ⟨k', hk', hid', htype'⟩ := exists_mem_grown hk (canonicalType f.componentType) f
      exact ⟨k', hk', (Figure.mergesInto_congr hid' htype').2 hmerges, htype'.trans hsame⟩
    · obtain ⟨k', hk', -, htype'⟩ := exists_mem_grown hsurvivor (canonicalType f.componentType) f
      rw [htype] at htype'
      exact ⟨k', hk', Or.inr ⟨htype'.symm ▸ hboundary, htype'.symm⟩, htype'⟩
  encloses k' hk' c margin := by
    obtain ⟨k, hk, rfl⟩ := List.mem_map.1 hk'
    split
    · next htype =>
      have hmerges : f.MergesInto k := Or.inr ⟨htype ▸ hboundary, htype.symm⟩
      have habsorb (g : Figure Rat) : g.MergesInto (k.absorb f) ↔ g.MergesInto k :=
        Figure.mergesInto_congr rfl rfl
      rw [Figure.encloses_absorb_iff, h.encloses k hk, List.forall_mem_append,
        List.forall_mem_singleton]
      simp only [habsorb, hmerges, true_imp_iff]
    · next htype =>
      refine h.encloses_concat hk ?_ c margin
      rintro (hsame | ⟨-, hsame⟩)
      · exact hid (h.ids (List.mem_map.2 ⟨k, hk, hsame.symm⟩))
      · exact htype hsame.symm

/-- A figure that stays is as large as it was drawn. -/
theorem FigurePass.Grows.keep (h : pass.Grows seen) (hid : f.id ∉ seen.map (·.id))
    (hnew : isAccountBoundary (canonicalType f.componentType) = true →
      canonicalType f.componentType ∉ pass.kept.map (·.componentType)) :
    ({ pass with
        kept := pass.kept ++ [{ f with componentType := canonicalType f.componentType }] } :
      FigurePass Rat).Grows (seen ++ [f]) where
  ids := by
    rw [List.map_append, List.map_append]
    exact List.append_subset.2 ⟨List.Subset.trans h.ids (List.subset_append_left _ _),
      List.subset_append_right _ _⟩
  merges := by
    refine List.forall_mem_append.2 ⟨fun g hg => ?_, List.forall_mem_singleton.2 ?_⟩
    · obtain ⟨k, hk, hmerges⟩ := h.merges g hg
      exact ⟨k, List.mem_append_left _ hk, hmerges⟩
    · exact ⟨_, List.mem_append_right _ List.mem_cons_self, Or.inl rfl, rfl⟩
  encloses k hk c margin := by
    rcases List.mem_append.1 hk with hk | hk
    · refine h.encloses_concat hk ?_ c margin
      rintro (hsame | ⟨hboundary, hsame⟩)
      · exact hid (h.ids (List.mem_map.2 ⟨k, hk, hsame.symm⟩))
      · exact hnew (hsame ▸ hboundary) (List.mem_map.2 ⟨k, hk, hsame.symm⟩)
    · rw [List.mem_singleton.1 hk, List.forall_mem_append, List.forall_mem_singleton]
      constructor
      · refine fun hself => ⟨fun g hg hmerges => ?_, fun _ => hself⟩
        -- nothing before merges into it: its name is new, and there was no boundary of its type
        rcases hmerges with hsame | ⟨hboundary, hsame⟩
        · exact absurd (List.mem_map.2 ⟨g, hg, hsame⟩) hid
        · have htype : canonicalType g.componentType = canonicalType f.componentType := hsame
          obtain ⟨k, hk, -, hktype⟩ := h.merges g hg
          exact absurd (List.mem_map.2 ⟨k, hk, hktype.trans htype⟩) (hnew hboundary)
      · exact fun hall => hall.2 (Or.inl rfl)

/-- A pass over figures with different identifiers goes on to know how large they are. -/
theorem FigurePass.Grows.take (h : pass.Grows seen) (hid : f.id ∉ seen.map (·.id)) :
    (pass.take f).Grows (seen ++ [f]) := by
  rcases pass.take_cases f with ⟨htaken, -⟩ | ⟨-, hboundary, survivor, hsurvivor, htype, htake⟩ |
    ⟨-, hnew, htake⟩
  · exact absurd (h.ids htaken) hid
  · rw [htake]
    exact h.grow hid hboundary hsurvivor htype _ _
  · rw [htake]
    exact h.keep hid hnew

/-- The pass over figures with different identifiers knows in the end how large they are. -/
theorem passFigures_grows {figures : List (Figure Rat)} (hids : (figures.map (·.id)).Nodup) :
    (passFigures figures).Grows figures := by
  refine foldl_of_nodup_keys ?_ hids fun pass seen h f _ hid => h.take hid
  exact ⟨List.nil_subset _, fun _ h => absurd h List.not_mem_nil,
    fun _ h => absurd h List.not_mem_nil⟩

end Swimlane
