import Swimlane.Layout.Drawing
import Swimlane.Proofs.Layout.Grid
import Swimlane.Proofs.Text.Fresh

/-!
# Drawings keep their nodes

A drawing puts ornaments around the members of its grid.  Their identifiers are made fresh,
one after another, against those of the nodes and of the ornaments before them, so no two
figures of a drawing have the same.  The figures that are no ornaments are the members, and
with them every node of the graph is drawn once.
-/

namespace Swimlane

variable {α : Type}

/-! ## Fresh identifiers -/

theorem id_not_mem_taken {taken : List Text} {figures : List (Figure α)} {f : Figure α}
    (hf : f ∈ withFreshIds taken figures) : f.id ∉ taken := by
  induction figures generalizing taken with
  | nil => exact absurd hf List.not_mem_nil
  | cons first rest ih =>
    rw [withFreshIds] at hf
    rcases List.mem_cons.1 hf with rfl | hrest
    · exact freshName_not_mem taken first.id
    · intro htaken
      exact ih hrest (List.mem_cons_of_mem _ htaken)

/-- Fresh identifiers are all different. -/
theorem nodup_withFreshIds (taken : List Text) (figures : List (Figure α)) :
    ((withFreshIds taken figures).map (·.id)).Nodup := by
  induction figures generalizing taken with
  | nil => exact List.nodup_nil
  | cons first rest ih =>
    rw [withFreshIds, List.map_cons, List.nodup_cons]
    refine ⟨?_, ih _⟩
    intro hmem
    obtain ⟨f, hf, hid⟩ := List.mem_map.1 hmem
    exact id_not_mem_taken hf (hid ▸ List.mem_cons_self)

/-- A fresh identifier changes nothing else. -/
theorem exists_of_mem_withFreshIds {taken : List Text} {figures : List (Figure α)}
    {f : Figure α} (hf : f ∈ withFreshIds taken figures) :
    ∃ before ∈ figures, ∃ others, f = { before with id := freshName others before.id } := by
  induction figures generalizing taken with
  | nil => exact absurd hf List.not_mem_nil
  | cons first rest ih =>
    rw [withFreshIds] at hf
    rcases List.mem_cons.1 hf with rfl | hrest
    · exact ⟨first, List.mem_cons_self, taken, rfl⟩
    · obtain ⟨before, hbefore, heq⟩ := ih hrest
      exact ⟨before, List.mem_cons_of_mem first hbefore, heq⟩

/-! ## Ornaments and members -/

/-- The figures that are no ornaments. -/
def membersOf (figures : List (Figure α)) : List (Figure α) :=
  figures.filter fun f => !f.isOrnament

theorem mem_membersOf {figures : List (Figure α)} {f : Figure α} :
    f ∈ membersOf figures ↔ f ∈ figures ∧ f.isOrnament = false := by
  rw [membersOf, List.mem_filter, Bool.not_eq_true']

theorem membersOf_append (front back : List (Figure α)) :
    membersOf (front ++ back) = membersOf front ++ membersOf back :=
  List.filter_append front back

/-- Among ornaments there are no members, whatever they are called. -/
theorem membersOf_withFreshIds {taken : List Text} {figures : List (Figure α)}
    (h : ∀ f ∈ figures, f.isOrnament = true) : membersOf (withFreshIds taken figures) = [] := by
  refine List.filter_eq_nil_iff.2 fun f hf => ?_
  obtain ⟨before, hbefore, others, rfl⟩ := exists_of_mem_withFreshIds hf
  have hornament : Figure.isOrnament { before with id := freshName others before.id } = true :=
    h before hbefore
  rw [hornament]
  exact Bool.false_ne_true

/-- The figures that are ornaments of a kind. -/
def figuresOf (kind : Ornament) (figures : List (Figure α)) : List (Figure α) :=
  figures.filter fun f => f.ornament = some kind

theorem mem_figuresOf {kind : Ornament} {figures : List (Figure α)} {f : Figure α} :
    f ∈ figuresOf kind figures ↔ f ∈ figures ∧ f.ornament = some kind := by
  rw [figuresOf, List.mem_filter, decide_eq_true_iff]

theorem figuresOf_append (kind : Ornament) (front back : List (Figure α)) :
    figuresOf kind (front ++ back) = figuresOf kind front ++ figuresOf kind back :=
  List.filter_append front back

theorem figuresOf_eq_self {kind : Ornament} {figures : List (Figure α)}
    (h : ∀ f ∈ figures, f.ornament = some kind) :
    figuresOf kind figures = figures :=
  List.filter_eq_self.2 fun f hf => decide_eq_true (h f hf)

theorem figuresOf_eq_nil {kind : Ornament} {figures : List (Figure α)}
    (h : ∀ f ∈ figures, f.ornament ≠ some kind) :
    figuresOf kind figures = [] :=
  List.filter_eq_nil_iff.2 fun f hf heq => h f hf (of_decide_eq_true heq)

variable [Length α] {g : Graph} {c : Classification} {s : LayoutSettings α}
  {visits : List Visit}

theorem isOrnament_of_mem_boundaryFigures {bounds : List (Text × Bounds α)} {f : Figure α}
    (hf : f ∈ boundaryFigures g c bounds) : f.isOrnament = true := by
  obtain ⟨entry, -, hentry⟩ := List.mem_filterMap.1 hf
  obtain ⟨b, -, rfl⟩ := Option.map_eq_some_iff.1 hentry
  rfl

/-- A badge is that of a lane in a row, or that of a section in a column. -/
theorem cases_of_mem_badges {grid : Grid α} {f : Figure α} (hf : f ∈ badges c s grid) :
    (∃ lane ∈ c.lanes, ∃ row ∈ grid.rows, f = laneBadge s lane row) ∨
      ∃ band ∈ c.sections, ∃ column ∈ grid.columns, f = sectionBadge s band column := by
  rcases List.mem_append.1 hf with hlane | hsection
  · rw [← List.map_uncurry_zip_eq_zipWith] at hlane
    obtain ⟨⟨lane, row⟩, hpair, rfl⟩ := List.mem_map.1 hlane
    obtain ⟨hmem, hrow⟩ := List.of_mem_zip hpair
    exact Or.inl ⟨lane, hmem, row, (List.mem_filter.1 hrow).1, rfl⟩
  · rw [← List.map_uncurry_zip_eq_zipWith] at hsection
    obtain ⟨⟨band, column⟩, hpair, rfl⟩ := List.mem_map.1 hsection
    obtain ⟨hmem, hcolumn⟩ := List.of_mem_zip hpair
    exact Or.inr ⟨band, hmem, column, (List.mem_filter.1 hcolumn).1, rfl⟩

theorem isOrnament_of_mem_badges {grid : Grid α} {f : Figure α} (hf : f ∈ badges c s grid) :
    f.isOrnament = true := by
  rcases cases_of_mem_badges hf with ⟨_, -, _, -, rfl⟩ | ⟨_, -, _, -, rfl⟩
  · rfl
  · rfl

/-- The members of a drawing are those of its grid. -/
theorem membersOf_ofVisits (g : Graph) (c : Classification) (s : LayoutSettings α)
    (visits : List Visit) : membersOf (Drawing.ofVisits g c s visits).figures =
      (makeGrid g c s (placements g c visits)).members g (nodeSizes g s) := by
  have hmembers : membersOf ((makeGrid g c s (placements g c visits)).members g (nodeSizes g s)) =
      (makeGrid g c s (placements g c visits)).members g (nodeSizes g s) := by
    refine List.filter_eq_self.2 fun f hf => ?_
    rw [Figure.isOrnament, ornament_of_mem_members hf]
    rfl
  rw [Drawing.ofVisits, membersOf_append, membersOf_append, hmembers,
    membersOf_withFreshIds fun _ => isOrnament_of_mem_boundaryFigures,
    membersOf_withFreshIds fun _ => isOrnament_of_mem_badges, List.append_nil, List.nil_append]

/-- The members of a drawing show the nodes of the graph, each once. -/
theorem map_face_membersOf_ofVisits (hids : (g.nodes.map (·.id)).Nodup) (c : Classification)
    (s : LayoutSettings α) (visits : List Visit) :
    ((membersOf (Drawing.ofVisits g c s visits).figures).map Figure.face).Perm
      (g.nodes.map Node.face) := by
  rw [membersOf_ofVisits]
  exact members_perm hids (nodeSizes g s)

/-! ## Identifiers of a drawing -/

/-- The members of a drawing are called like the nodes of the graph, each name once. -/
theorem map_id_membersOf_perm_dedup (g : Graph) (c : Classification) (s : LayoutSettings α)
    (visits : List Visit) :
    ((membersOf (Drawing.ofVisits g c s visits).figures).map (·.id)).Perm
      (g.nodes.map (·.id)).dedup := by
  rw [membersOf_ofVisits]
  exact map_id_members_perm g c s visits (nodeSizes g s)

/-- The members of a drawing are called like the nodes of the graph. -/
theorem map_id_membersOf_ofVisits (hids : (g.nodes.map (·.id)).Nodup) (c : Classification)
    (s : LayoutSettings α) (visits : List Visit) :
    ((membersOf (Drawing.ofVisits g c s visits).figures).map (·.id)).Perm
      (g.nodes.map (·.id)) := by
  have hperm := map_id_membersOf_perm_dedup g c s visits
  rwa [hids.dedup] at hperm

/-- No two figures of a drawing have the same identifier. -/
theorem nodup_ids_ofVisits (g : Graph) (c : Classification) (s : LayoutSettings α)
    (visits : List Visit) : ((Drawing.ofVisits g c s visits).figures.map (·.id)).Nodup := by
  have hperm := map_id_membersOf_perm_dedup g c s visits
  have hnodup := hperm.nodup_iff.2 (List.nodup_dedup _)
  rw [membersOf_ofVisits] at hperm hnodup
  rw [Drawing.ofVisits, List.map_append, List.map_append, List.nodup_append, List.nodup_append]
  refine ⟨⟨nodup_withFreshIds _ _, hnodup, ?_⟩, nodup_withFreshIds _ _, ?_⟩
  · -- a boundary is named against the nodes
    intro id hboundary other hmember heq
    obtain ⟨f, hf, rfl⟩ := List.mem_map.1 hboundary
    exact id_not_mem_taken hf (List.mem_dedup.1 (hperm.subset (heq ▸ hmember)))
  · -- a badge is named against the nodes and the boundaries
    intro id hbefore other hbadge heq
    obtain ⟨f, hf, rfl⟩ := List.mem_map.1 hbadge
    refine id_not_mem_taken hf (heq ▸ ?_)
    rcases List.mem_append.1 hbefore with hboundary | hmember
    · exact List.mem_append_left _ hboundary
    · exact List.mem_append_right _ (List.mem_dedup.1 (hperm.subset hmember))

end Swimlane
