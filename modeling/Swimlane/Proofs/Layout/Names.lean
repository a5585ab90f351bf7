import Swimlane.ComponentType
import Swimlane.Proofs.Flowchart.Walk
import Swimlane.Proofs.Layout.Drawing

/-!
# What ornaments are called

A boundary is called like its group, and a badge by the number of its lane or section; if the
name is taken, it is numbered.  Names of nodes and of earlier ornaments are taken, names of
groups are not: a badge may get the name of a group, and so may the boundary of another group
when it is numbered.  `Graph.IsUnmistakable` excludes just these, and then a figure with the
name of a group is the boundary of that group.

No name is given twice, and this does not need a consistent graph: a graph that was put together
by hand may repeat identifiers, share children among groups and refer to what there is not, and
if only no group lies in itself, it is drawn with figures of different names
(`distinctIds_of_no_circle`).
-/

namespace Swimlane

variable {α : Type}

/-! ## Names that can be mistaken -/

/-- The names that badges have unless they are taken. -/
def badgeNames (c : Classification) : List Text :=
  c.lanes.map (fun lane => "lane_label_".toList ++ decimal lane.2.index) ++
    c.sections.map fun band => "section_label_".toList ++ decimal band.2.index

/-- A form of a name that is reserved: a figure that wants the reserved one gets such a form. -/
def IsDisplaced (reserved wanted : List Text) (name : Text) : Prop :=
  ∃ r ∈ reserved, r ∈ wanted ∧ IsFormOf r name

theorem IsDisplaced.mono {reserved wanted more : List Text} {name : Text}
    (h : IsDisplaced reserved wanted name) (hsub : wanted ⊆ more) :
    IsDisplaced reserved more name := by
  obtain ⟨r, hr, hwanted, hform⟩ := h
  exact ⟨r, hr, hsub hwanted, hform⟩

theorem IsDisplaced.numbered {reserved wanted : List Text} {name : Text}
    (h : IsDisplaced reserved wanted name) (k : Nat) :
    IsDisplaced reserved wanted (numbered name k) := by
  obtain ⟨r, hr, hwanted, hform⟩ := h
  exact ⟨r, hr, hwanted, hform.numbered k⟩

/-- A name that neither a badge nor the boundary of another group can get. -/
structure Graph.IsUnmistakable (g : Graph) (c : Classification) (id : Text) : Prop where
  no_badge : ∀ name ∈ badgeNames c, ¬IsFormOf name id
  /-- It is no form of the name of a boundary group that a node has too. -/
  no_boundary : ¬IsDisplaced (g.nodes.map (·.id)) (c.boundaries.map (·.1)) id

/-- A name is unmistakable if it does not even begin like one that it could be mistaken for. -/
theorem isUnmistakable_of_not_isPrefix {g : Graph} {c : Classification} {id : Text}
    (hbadge : ∀ name ∈ badgeNames c, ¬name <+: id)
    (hother : ∀ other ∈ g.nodes.map (·.id), other ∈ c.boundaries.map (·.1) → ¬other <+: id) :
    g.IsUnmistakable c id where
  no_badge name hname hform := hbadge name hname hform.isPrefix
  no_boundary := by
    rintro ⟨other, hnode, hgroup, hform⟩
    exact hother other hnode hgroup hform.isPrefix

/-! ## Fresh names in a row -/

/-- A figure keeps its name, or it gets a form of a reserved one.  Its name may be taken by a
figure before it, but that has got it as a form of a reserved one already. -/
theorem cases_of_mem_zip_withFreshIds {reserved earlier taken : List Text}
    {figures : List (Figure α)} (hids : (earlier ++ figures.map (·.id)).Nodup)
    (htaken : ∀ t ∈ taken, t ∈ reserved ∨ t ∈ earlier ∨ IsDisplaced reserved earlier t)
    {pair : Figure α × Figure α} (hpair : pair ∈ figures.zip (withFreshIds taken figures)) :
    pair.2.id = pair.1.id ∨
      IsDisplaced reserved (earlier ++ figures.map (·.id)) pair.2.id := by
  induction figures generalizing taken earlier with
  | nil => exact absurd hpair List.not_mem_nil
  | cons first rest ih =>
    have hname : freshName taken first.id = first.id ∨
        IsDisplaced reserved (earlier ++ [first.id]) (freshName taken first.id) := by
      by_cases hmem : first.id ∈ taken
      · obtain ⟨k, hfresh, -⟩ := freshName_of_mem hmem
        rw [hfresh]
        rcases htaken _ hmem with hreserved | hearlier | hdisplaced
        · exact Or.inr ⟨first.id, hreserved, List.mem_append_right _ List.mem_cons_self,
            (IsFormOf.refl _).numbered k⟩
        · exact absurd rfl ((List.nodup_append.1 hids).2.2 _ hearlier _ List.mem_cons_self)
        · exact Or.inr ((hdisplaced.numbered k).mono (List.subset_append_left _ _))
      · exact Or.inl (freshName_of_not_mem hmem)
    have hsplit : earlier ++ (first :: rest).map (·.id) =
        (earlier ++ [first.id]) ++ rest.map (·.id) := by
      rw [List.append_assoc]
      rfl
    rw [hsplit] at hids ⊢
    rw [withFreshIds, List.zip_cons_cons] at hpair
    rcases List.mem_cons.1 hpair with rfl | hrest
    · exact hname.imp_right fun hdisplaced => hdisplaced.mono (List.subset_append_left _ _)
    · refine ih hids ?_ hrest
      intro t ht
      rcases List.mem_cons.1 ht with rfl | hbefore
      · rcases hname with hsame | hdisplaced
        · rw [hsame]
          exact Or.inr (Or.inl (List.mem_append_right _ List.mem_cons_self))
        · exact Or.inr (Or.inr hdisplaced)
      · rcases htaken t hbefore with hreserved | hearlier | hdisplaced
        · exact Or.inl hreserved
        · exact Or.inr (Or.inl (List.mem_append_left _ hearlier))
        · exact Or.inr (Or.inr (hdisplaced.mono (List.subset_append_left _ _)))

theorem length_withFreshIds (taken : List Text) (figures : List (Figure α)) :
    (withFreshIds taken figures).length = figures.length := by
  induction figures generalizing taken with
  | nil => rfl
  | cons first rest ih => rw [withFreshIds, List.length_cons, List.length_cons, ih]

/-- A figure changes nothing but its name when it gets a fresh one. -/
theorem eq_of_mem_zip_withFreshIds {taken : List Text} {figures : List (Figure α)}
    {pair : Figure α × Figure α} (hpair : pair ∈ figures.zip (withFreshIds taken figures)) :
    pair.2 = { pair.1 with id := pair.2.id } := by
  induction figures generalizing taken with
  | nil => exact absurd hpair List.not_mem_nil
  | cons first rest ih =>
    rw [withFreshIds, List.zip_cons_cons] at hpair
    rcases List.mem_cons.1 hpair with rfl | hrest
    · rfl
    · exact ih hrest

/-! ## Boundaries and badges -/

variable [Length α] {g : Graph} {c : Classification} {s : LayoutSettings α} {visits : List Visit}

/-- The boundaries of a drawing as their groups have them, each with what is drawn for it. -/
def namedBoundaries (g : Graph) (c : Classification) (s : LayoutSettings α)
    (visits : List Visit) : List (Figure α × Figure α) :=
  let members := (makeGrid g c s (placements g c visits)).members g (nodeSizes g s)
  let own := boundaryFigures g c (allBounds g c s.grid.boundaryPadding members)
  own.zip (withFreshIds (g.nodes.map (·.id)) own)

/-- The figure is drawn for the boundary of the group with the name. -/
def IsBoundaryOf (g : Graph) (c : Classification) (s : LayoutSettings α) (visits : List Visit)
    (shown : Figure α) (id : Text) : Prop :=
  ∃ own, (own, shown) ∈ namedBoundaries g c s visits ∧ own.id = id

/-- Boundaries are called like boundary groups, in their order. -/
theorem map_id_boundaryFigures_sublist (g : Graph) (c : Classification)
    (bounds : List (Text × Bounds α)) :
    ((boundaryFigures g c bounds).map (·.id)).Sublist (c.boundaries.map (·.1)) := by
  rw [boundaryFigures]
  induction c.boundaries with
  | nil => exact List.Sublist.refl _
  | cons entry rest ih =>
    rw [List.filterMap_cons, List.map_cons]
    cases bounds.lookup entry.1 with
    | none => exact ih.cons _
    | some b => exact ih.cons_cons _

/-- A figure that is drawn for a boundary has its name, or a form of the name of a boundary
group that a node has too. -/
theorem cases_of_mem_namedBoundaries {pair : Figure α × Figure α}
    (hpair : pair ∈ namedBoundaries g c s visits) : pair.2.id = pair.1.id ∨
      IsDisplaced (g.nodes.map (·.id)) (c.boundaries.map (·.1)) pair.2.id := by
  have hids := map_id_boundaryFigures_sublist g c (allBounds g c s.grid.boundaryPadding
    ((makeGrid g c s (placements g c visits)).members g (nodeSizes g s)))
  have hnodup := hids.nodup (withRole_nodup c .boundary)
  rw [← List.nil_append (List.map _ _)] at hnodup
  exact (cases_of_mem_zip_withFreshIds hnodup (fun t ht => Or.inl ht) hpair).imp_right
    fun hdisplaced => hdisplaced.mono hids.subset

/-- The bounds of the boundaries of a drawing. -/
def drawnBounds (g : Graph) (c : Classification) (s : LayoutSettings α) (visits : List Visit) :
    List (Text × Bounds α) :=
  allBounds g c s.grid.boundaryPadding
    ((makeGrid g c s (placements g c visits)).members g (nodeSizes g s))

theorem map_fst_namedBoundaries (g : Graph) (c : Classification) (s : LayoutSettings α)
    (visits : List Visit) : (namedBoundaries g c s visits).map (·.1) =
      boundaryFigures g c (drawnBounds g c s visits) :=
  List.map_fst_zip (Nat.le_of_eq (length_withFreshIds _ _).symm)

/-- A boundary of a drawing is drawn for one of its group. -/
theorem exists_own_of_mem {f : Figure α} (hf : f ∈ withFreshIds (g.nodes.map (·.id))
    (boundaryFigures g c (drawnBounds g c s visits))) :
    ∃ own, (own, f) ∈ namedBoundaries g c s visits := by
  rw [← List.map_snd_zip (Nat.le_of_eq (length_withFreshIds _ _))] at hf
  obtain ⟨pair, hpair, rfl⟩ := List.mem_map.1 hf
  exact ⟨pair.1, hpair⟩

/-- No two figures are drawn for the boundary of one group. -/
theorem IsBoundaryOf.unique {shown other : Figure α} {id : Text}
    (h : IsBoundaryOf g c s visits shown id) (h' : IsBoundaryOf g c s visits other id) :
    shown = other := by
  obtain ⟨own, hown, rfl⟩ := h
  obtain ⟨own', hown', hid⟩ := h'
  have hids := (map_id_boundaryFigures_sublist g c (drawnBounds g c s visits)).nodup
    (withRole_nodup c .boundary)
  rw [← map_fst_namedBoundaries, List.map_map] at hids
  exact (Prod.mk.inj (List.inj_on_of_nodup_map hids hown hown' hid.symm)).2

/-- What is drawn for a boundary is one of the figures of the drawing. -/
theorem IsBoundaryOf.mem_figures {shown : Figure α} {id : Text}
    (h : IsBoundaryOf g c s visits shown id) :
    shown ∈ (Drawing.ofVisits g c s visits).figures := by
  obtain ⟨own, hown, -⟩ := h
  exact List.mem_append_left _ (List.mem_append_left _ (List.of_mem_zip hown).2)

/-- What is drawn for a boundary has its bounds. -/
theorem IsBoundaryOf.exists_bounds {shown : Figure α} {id : Text}
    (h : IsBoundaryOf g c s visits shown id) : ∃ info b, (id, info) ∈ c.boundaries ∧
      (drawnBounds g c s visits).lookup id = some b ∧
      shown = { boundaryFigure g (id, info) b with id := shown.id } := by
  obtain ⟨own, hown, rfl⟩ := h
  obtain ⟨entry, hentry, hbounds⟩ := List.mem_filterMap.1 (List.of_mem_zip hown).1
  obtain ⟨b, hb, rfl⟩ := Option.map_eq_some_iff.1 hbounds
  exact ⟨entry.2, b, hentry, hb, eq_of_mem_zip_withFreshIds hown⟩

/-- Where no node is called like a boundary group, boundaries are called like their groups. -/
theorem IsBoundaryOf.id_eq {shown : Figure α} {id : Text} (h : IsBoundaryOf g c s visits shown id)
    (hnodes : ∀ n ∈ g.nodes, c.role? n.id ≠ some .boundary) : shown.id = id := by
  obtain ⟨own, hown, rfl⟩ := h
  rcases cases_of_mem_namedBoundaries hown with hid | ⟨other, hnode, hgroup, -⟩
  · exact hid
  · obtain ⟨n, hn, rfl⟩ := List.mem_map.1 hnode
    exact absurd (role?_eq_some_iff.2 hgroup) (hnodes n hn)

/-- A boundary with bounds is drawn. -/
theorem exists_isBoundaryOf {id : Text} {b : Bounds α} (hid : id ∈ c.boundaries.map (·.1))
    (hb : (drawnBounds g c s visits).lookup id = some b) :
    ∃ shown, IsBoundaryOf g c s visits shown id := by
  obtain ⟨entry, hentry, rfl⟩ := List.mem_map.1 hid
  have hown : boundaryFigure g entry b ∈ boundaryFigures g c (drawnBounds g c s visits) :=
    List.mem_filterMap.2 ⟨entry, hentry, by rw [hb]; rfl⟩
  rw [← map_fst_namedBoundaries] at hown
  obtain ⟨pair, hpair, hfst⟩ := List.mem_map.1 hown
  exact ⟨pair.2, pair.1, hpair, by rw [hfst]; rfl⟩

/-- A badge is called like its lane or section has it. -/
theorem badge_of_mem_badges {grid : Grid α} {f : Figure α} (hf : f ∈ badges c s grid) :
    f.id ∈ badgeNames c ∧ f.componentType = badgeType := by
  rcases cases_of_mem_badges hf with ⟨lane, hlane, _, -, rfl⟩ | ⟨band, hband, _, -, rfl⟩
  · exact ⟨List.mem_append_left _ (List.mem_map.2 ⟨lane, hlane, rfl⟩), rfl⟩
  · exact ⟨List.mem_append_right _ (List.mem_map.2 ⟨band, hband, rfl⟩), rfl⟩

/-! ## Figures by their names -/

/-- A figure of a drawing is drawn for a boundary, or it is a badge, or it is no ornament. -/
theorem cases_of_mem_ofVisits {f : Figure α} (hf : f ∈ (Drawing.ofVisits g c s visits).figures) :
    (f.ornament = some .boundary ∧ ∃ own, (own, f) ∈ namedBoundaries g c s visits) ∨
    (f.isOrnament = true ∧ f.componentType = badgeType ∧ ∃ name ∈ badgeNames c, IsFormOf name f.id)
      ∨ f.isOrnament = false := by
  rcases List.mem_append.1 hf with hfront | hbadge
  · rcases List.mem_append.1 hfront with hboundary | hmember
    · obtain ⟨before, hbefore, others, rfl⟩ := exists_of_mem_withFreshIds hboundary
      obtain ⟨entry, -, hentry⟩ := List.mem_filterMap.1 hbefore
      obtain ⟨b, -, rfl⟩ := Option.map_eq_some_iff.1 hentry
      exact Or.inl ⟨rfl, exists_own_of_mem hboundary⟩
    · refine Or.inr (Or.inr ?_)
      rw [Figure.isOrnament, ornament_of_mem_members hmember]
      rfl
  · obtain ⟨before, hbefore, others, rfl⟩ := exists_of_mem_withFreshIds hbadge
    obtain ⟨hname, htype⟩ := badge_of_mem_badges hbefore
    have hornament : before.isOrnament = true := isOrnament_of_mem_badges hbefore
    exact Or.inr (Or.inl ⟨hornament, htype, before.id, hname,
      isFormOf_freshName others before.id⟩)

theorem ornament_of_mem_badges {grid : Grid α} {f : Figure α} (hf : f ∈ badges c s grid) :
    f.ornament ≠ some .boundary := by
  rcases cases_of_mem_badges hf with ⟨_, -, _, -, rfl⟩ | ⟨_, -, _, -, rfl⟩
  · exact fun h => by cases h
  · exact fun h => by cases h

/-- The boundaries among the figures of a drawing are what is drawn for boundary groups. -/
theorem exists_isBoundaryOf_iff {f : Figure α} : (∃ id, IsBoundaryOf g c s visits f id) ↔
    f ∈ (Drawing.ofVisits g c s visits).figures ∧ f.ornament = some .boundary := by
  constructor
  · rintro ⟨id, h⟩
    refine ⟨h.mem_figures, ?_⟩
    obtain ⟨info, b, -, -, heq⟩ := h.exists_bounds
    rw [heq]
    rfl
  · rintro ⟨hf, hornament⟩
    rcases List.mem_append.1 hf with hfront | hbadge
    · rcases List.mem_append.1 hfront with hboundary | hmember
      · obtain ⟨own, hown⟩ := exists_own_of_mem hboundary
        exact ⟨own.id, own, hown, rfl⟩
      · rw [ornament_of_mem_members hmember] at hornament
        cases hornament
    · obtain ⟨before, hbefore, others, rfl⟩ := exists_of_mem_withFreshIds hbadge
      exact absurd hornament (ornament_of_mem_badges (f := before) hbefore)

/-- A figure of a drawing is an ornament if no node is called like it, and only then. -/
theorem isOrnament_iff_of_mem_ofVisits (hids : (g.nodes.map (·.id)).Nodup) {f : Figure α}
    (hf : f ∈ (Drawing.ofVisits g c s visits).figures) :
    f.isOrnament = true ↔ f.id ∉ g.nodes.map (·.id) := by
  constructor
  · intro hornament
    rcases List.mem_append.1 hf with hfront | hbadge
    · rcases List.mem_append.1 hfront with hboundary | hmember
      · exact id_not_mem_taken hboundary
      · rw [Figure.isOrnament, ornament_of_mem_members hmember] at hornament
        cases hornament
    · exact fun hnode => id_not_mem_taken hbadge (List.mem_append_right _ hnode)
  · intro hnode
    by_contra hmember
    have hmem : f ∈ membersOf (Drawing.ofVisits g c s visits).figures :=
      mem_membersOf.2 ⟨hf, eq_false_of_ne_true hmember⟩
    exact hnode ((map_id_membersOf_ofVisits hids c s visits).subset
      (List.mem_map.2 ⟨f, hmem, rfl⟩))

/-- A figure with an unmistakable name that no node has is drawn for the boundary with that
name. -/
theorem exists_own_of_isUnmistakable (hids : (g.nodes.map (·.id)).Nodup) {f : Figure α}
    (hf : f ∈ (Drawing.ofVisits g c s visits).figures) (hnode : f.id ∉ g.nodes.map (·.id))
    (hid : g.IsUnmistakable c f.id) : f.ornament = some .boundary ∧
      ∃ own, (own, f) ∈ namedBoundaries g c s visits ∧ own.id = f.id := by
  rcases cases_of_mem_ofVisits hf with ⟨hboundary, own, hpair⟩ | ⟨-, -, name, hname, hform⟩ |
    hmember
  · refine ⟨hboundary, own, hpair, ?_⟩
    rcases cases_of_mem_namedBoundaries hpair with hsame | hdisplaced
    · exact hsame.symm
    · exact absurd hdisplaced hid.no_boundary
  · exact absurd hform (hid.no_badge name hname)
  · rw [(isOrnament_iff_of_mem_ofVisits hids hf).2 hnode] at hmember
    cases hmember

/-- No badge has the type of an account boundary. -/
theorem boundary_of_isAccountBoundary {f : Figure α}
    (hf : f ∈ (Drawing.ofVisits g c s visits).figures) (hornament : f.isOrnament = true)
    (htype : isAccountBoundary (canonicalType f.componentType) = true) :
    f.ornament = some .boundary := by
  rcases cases_of_mem_ofVisits hf with ⟨hboundary, -⟩ | ⟨-, hbadge, -⟩ | hmember
  · exact hboundary
  · rw [hbadge] at htype
    exact absurd htype (by decide +kernel)
  · rw [hmember] at hornament
    cases hornament

/-! ## Graphs that were put together by hand -/

/-- Groups that only list groups of a lower rank lie in no circle. -/
theorem Graph.no_circle_of_rank {g : Graph} (rank : Text → Nat)
    (h : ∀ x ∈ g.groups, ∀ id ∈ x.childGroupIds, rank id < rank x.id) (id : Text) :
    ¬Relation.TransGen g.Lists id id := by
  have hlists {outer inner : Text} (hlies : g.Lists outer inner) : rank inner < rank outer := by
    obtain ⟨x, hx, hchild⟩ := hlies
    obtain ⟨hmem, rfl⟩ := Graph.mem_of_group? hx
    exact h x hmem inner (List.mem_filterMap.2 ⟨_, hchild, rfl⟩)
  have hreach {outer inner : Text} (hpath : Relation.TransGen g.Lists outer inner) :
      rank inner < rank outer := by
    induction hpath with
    | single hlies => exact hlists hlies
    | tail _ hlies ih => exact (hlists hlies).trans ih
  exact fun hcircle => Nat.lt_irrefl _ (hreach hcircle)

/-- A graph in which no group lies in itself can be drawn, whatever else is wrong with it; no two
figures have the same name, and the members are the nodes, those of one name only once. -/
theorem distinctIds_of_no_circle {g : Graph} (hg : ∀ id, ¬Relation.TransGen g.Lists id id)
    (c : Classification) (s : LayoutSettings α) :
    ∃ d, Drawing.ofGraph? g c s = some d ∧ (d.figures.map (·.id)).Nodup ∧
      ((membersOf d.figures).map (·.id)).Perm (g.nodes.map (·.id)).dedup := by
  have htop : ∀ x ∈ g.topGroups, ¬g.LeadsToCircle x.id := by
    rintro x - ⟨inner, -, hcircle⟩
    exact hg inner hcircle
  obtain ⟨visits, hvisits⟩ := Graph.exists_visits_iff.2 htop
  refine ⟨Drawing.ofVisits g c s visits, Drawing.ofGraph?_of_visits hvisits c s, ?_, ?_⟩
  · exact nodup_ids_ofVisits g c s visits
  · exact map_id_membersOf_perm_dedup g c s visits

/-- Nodes and groups that occur twice, a node that two groups list, children and a group that do
not exist, and nodes that are called like a boundary and a badge. -/
def tangledGraph : Graph where
  direction := .leftRight
  nodes :=
    [⟨['a'], ['a'], defaultComponentType, none, some ['x'], 0⟩,
      ⟨"vpc".toList, ['v'], defaultComponentType, none, none, 1⟩,
      ⟨['a'], ['b'], defaultComponentType, none, none, 2⟩,
      ⟨"lane_label_0".toList, ['l'], defaultComponentType, none, some "vpc".toList, 3⟩]
  edges := []
  groups :=
    [⟨"lane_1".toList, ['1'], none, [.node ['a']], 0, 0⟩,
      ⟨"vpc".toList, ['2'], some "lane_1".toList, [.node ['a'], .node ['z']], 1, 1⟩,
      ⟨"lane_1".toList, ['3'], none, [.group "vpc".toList, .node ['a'], .group ['x']], 2, 0⟩]

theorem distinctIds_of_tangledGraph :
    (∀ id, ¬Relation.TransGen tangledGraph.Lists id id) ∧ ∃ d : Drawing Rat,
      Drawing.ofGraph? tangledGraph (Classification.ofGraph tangledGraph) .default = some d ∧
        (d.figures.map (·.id)).Nodup ∧
        ((membersOf d.figures).map (·.id)).Perm
          ["vpc".toList, ['a'], "lane_label_0".toList] := by
  have hcircle := Graph.no_circle_of_rank (g := tangledGraph)
    (fun id => if id = "lane_1".toList then 1 else 0) (by decide +kernel)
  have hnames : (tangledGraph.nodes.map (·.id)).dedup =
      ["vpc".toList, ['a'], "lane_label_0".toList] := by
    decide +kernel
  refine ⟨hcircle, ?_⟩
  rw [← hnames]
  exact distinctIds_of_no_circle hcircle (Classification.ofGraph tangledGraph) .default

end Swimlane
