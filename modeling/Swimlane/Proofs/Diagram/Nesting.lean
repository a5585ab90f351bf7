import Swimlane.Proofs.Diagram.Canvas

/-!
# Boundaries in boundaries of a diagram

In a drawing a boundary encloses those of the groups in its own.  When boundaries of one account
are collapsed, the one that stays grows to enclose the others wherever they are, and nothing
around it grows with it.  So the boundary of an outer group encloses in the diagram what was drawn
for an inner one, but what the inner one has become only if it encloses everything that was
collapsed into that (`Nests`).
-/

namespace Swimlane

/-- How a boundary of a diagram lies to that of a group in its own, for which `inner` was
drawn. -/
structure Nests (g : Graph) (c : Classification) (s : LayoutSettings Rat) (visits : List Visit)
    (inner shownOuter shownInner : Figure Rat) : Prop where
  /-- What was drawn for the inner group is enclosed. -/
  drawn : shownOuter.box.Encloses s.grid.boundaryPadding inner.box
  /-- What that has become is enclosed if all its parts are, and only then. -/
  encloses_iff : ∀ margin, shownOuter.box.Encloses margin shownInner.box ↔
    ∀ part id, IsPartOf g c s visits part id shownInner → shownOuter.box.Encloses margin part.box
  /-- It is if the group of each of its parts lies in that of a part of the outer boundary. -/
  encloses_of_inside :
    (∀ part id, IsPartOf g c s visits part id shownInner →
      ∃ host hostId, IsPartOf g c s visits host hostId shownOuter ∧ g.IsInside id hostId) →
    shownOuter.box.Encloses s.grid.boundaryPadding shownInner.box

variable {g : Graph} {c : Classification} {s : LayoutSettings Rat} {visits : List Visit}
  {policy : EdgePolicy}

/-- A boundary of a diagram encloses its parts. -/
theorem encloses_of_isPartOf (hg : g.IsConsistent) {shown : Figure Rat}
    (hshown : shown ∈ (Diagram.ofDrawing g c policy (Drawing.ofVisits g c s visits)).figures)
    {part : Figure Rat} {id : Text} (hpart : IsPartOf g c s visits part id shown) :
    shown.box.Encloses 0 part.box :=
  (encloses_iff_forall_isPartOf hg hshown hpart).1 (Bounds.Encloses.refl _) part id hpart

/-- A boundary of a diagram encloses what was drawn for a group in that of one of its parts. -/
theorem encloses_drawn_of_isInside (hg : g.IsConsistent) {shown : Figure Rat}
    (hshown : shown ∈ (Diagram.ofDrawing g c policy (Drawing.ofVisits g c s visits)).figures)
    {host part : Figure Rat} {hostId id : Text} (hhost : IsPartOf g c s visits host hostId shown)
    (hpart : IsBoundaryOf g c s visits part id) (hinside : g.IsInside id hostId) :
    shown.box.Encloses s.grid.boundaryPadding part.box := by
  have hnested := (hg.boundariesEnclose c s visits).nested host part hostId id hhost.1 hpart hinside
  have htrans := (encloses_of_isPartOf hg hshown hhost).trans hnested
  rwa [zero_add] at htrans

/-- Nesting in a diagram, for the boundaries of two groups that are still there. -/
theorem nests_ofDrawing (hg : g.IsConsistent) {shownOuter shownInner : Figure Rat}
    (hshownOuter : shownOuter ∈
      (Diagram.ofDrawing g c policy (Drawing.ofVisits g c s visits)).figures)
    (hshownInner : shownInner ∈
      (Diagram.ofDrawing g c policy (Drawing.ofVisits g c s visits)).figures)
    {outer inner : Figure Rat} {outerId innerId : Text}
    (houter : IsPartOf g c s visits outer outerId shownOuter)
    (hinner : IsPartOf g c s visits inner innerId shownInner)
    (hinside : g.IsInside innerId outerId) :
    Nests g c s visits inner shownOuter shownInner where
  drawn := encloses_drawn_of_isInside hg hshownOuter houter hinner.1 hinside
  encloses_iff margin := encloses_iff_forall_isPartOf hg hshownInner hinner
  encloses_of_inside h := by
    refine (encloses_iff_forall_isPartOf hg hshownInner hinner).2 fun part id hpart => ?_
    obtain ⟨host, hostId, hhost, hin⟩ := h part id hpart
    exact encloses_drawn_of_isInside hg hshownOuter hhost hpart.1 hin

/-- If a text becomes a diagram, and of two boundary groups, one in the other, both have their
boundaries in it, then the outer boundary encloses what was drawn for the inner group, and the
inner boundary if it encloses everything that was collapsed into it. -/
theorem nests_of_ofText {text : Text} {s : Settings Rat} {cancelled : Bool} {d : Diagram Rat}
    (h : Outcome.ofText text s cancelled = .ok (.positioned d)) (hs : s.layout.IsLoaded) :
    ∃ f visits, Flowchart.ofText text = .ok f ∧ f.graph.visits? = some visits ∧
      0 ≤ (f.layoutSettings s.layout).grid.boundaryPadding ∧
      ∀ outer inner outerId innerId shownOuter shownInner,
        IsBoundaryOf f.graph (Classification.ofGraph f.graph) (f.layoutSettings s.layout) visits
          outer outerId →
        IsBoundaryOf f.graph (Classification.ofGraph f.graph) (f.layoutSettings s.layout) visits
          inner innerId →
        f.graph.IsInside innerId outerId →
        shownOuter ∈ d.figures → shownOuter.id = outer.id →
        shownInner ∈ d.figures → shownInner.id = inner.id →
        Nests f.graph (Classification.ofGraph f.graph) (f.layoutSettings s.layout) visits
          inner shownOuter shownInner := by
  obtain ⟨f, visits, hf, hvisits, rfl⟩ := eq_ofDrawing_of_ofText h
  have hpadding := (hs.layoutSettings f).isSensible.grid.boundaryPadding
  refine ⟨f, visits, hf, hvisits, hpadding, ?_⟩
  intro outer inner outerId innerId shownOuter shownInner houter hinner hinside hshownOuter hout
    hshownInner hin
  exact nests_ofDrawing (isConsistent_of_ofText hf) hshownOuter hshownInner
    ⟨houter, Or.inl hout.symm⟩ ⟨hinner, Or.inl hin.symm⟩ hinside

/-! ## An account in two places -/

/-- The figures of a drawing, given its boundaries in the order of their indexes and from the
inside out. -/
def drawnFigures (g : Graph) (c : Classification) (s : LayoutSettings Rat) (visits : List Visit)
    (entries : List (Text × RoleInfo)) (insideOut : List Text) : List (Figure Rat) :=
  let grid := makeGrid g c s (placements g c visits)
  let members := grid.members g (nodeSizes g s)
  let bounds := boundAll g s.grid.boundaryPadding (members.map (locateMember g)) insideOut
  let nodeIds := g.nodes.map (·.id)
  let boundaries := withFreshIds nodeIds
    (entries.filterMap fun entry => (bounds.lookup entry.1).map (boundaryFigure g entry))
  boundaries ++ members ++ withFreshIds (boundaries.map (·.id) ++ nodeIds) (badges c s grid)

theorem figures_ofVisits (g : Graph) (c : Classification) (s : LayoutSettings Rat)
    (visits : List Visit) : (Drawing.ofVisits g c s visits).figures =
      drawnFigures g c s visits c.boundaries (boundariesInsideOut g c) := rfl

/-- A boundary of an account in two others, and in the outer of these another one of the same
account. -/
def accountsInNet : Text :=
  "graph LR\nsubgraph net1[\"vpc\"]\nsubgraph net2[\"vpc\"]\nsubgraph p[\"aws account\"]\n".toList
    ++ "subgraph lane1\na\nend\nend\nend\nsubgraph q[\"aws account\"]\nb\nend\nend".toList

/-- The boundaries of the example in the order of their indexes. -/
def accountsInNetIds : List Text := ["net1".toList, "net2".toList, ['p'], ['q']]

/-- Where the boundaries of the example end in its diagram, above and below. -/
def accountsInNetEnds : List (Text × Rat × Rat) :=
  [("net1".toList, -24.5, 224.5), ("net2".toList, -8.5, 104.5), (['p'], 7.5, 208.5)]

theorem exists_diagram_of_accountsInNet : ∃ (d : Diagram Rat) (f : Flowchart)
    (visits : List Visit), Outcome.ofText accountsInNet .default false = .ok (.positioned d) ∧
      Flowchart.ofText accountsInNet = .ok f ∧ f.graph.visits? = some visits ∧
      ∀ ends ∈ accountsInNetEnds, ∃ shown ∈ d.figures,
        (shown.id, shown.box.y, shown.box.bottom) = ends := by
  have hread : ((Flowchart.ofText accountsInNet).map fun f => f.graph.visits?.map fun visits =>
      let c := Classification.ofGraph f.graph
      let boundaries := c.entries.filter (·.2.role = .boundary)
      let drawn := drawnFigures f.graph c (f.layoutSettings .default) visits boundaries
        [['p'], "net2".toList, ['q'], "net1".toList]
      decide (c.hasRoles = true ∧
        boundaries.Pairwise (fun a b : Text × RoleInfo => a.2.index ≤ b.2.index) ∧
        boundaries.map (·.1) = accountsInNetIds ∧
        accountsInNetIds.map f.graph.depthOf = [0, 1, 2, 1] ∧
        ∀ ends ∈ accountsInNetEnds, ∃ k ∈ (passFigures drawn).kept,
          (k.id, k.box.y, k.box.bottom) = ends)).toOption = some (some true) := by
    decide +kernel
  obtain ⟨f, hf, hvisited⟩ := exists_of_toOption_map hread
  obtain ⟨visits, hvisits, hfacts⟩ := Option.map_eq_some_iff.1 hvisited
  obtain ⟨hroles, hindexes, hids, hdepths, hkept⟩ := of_decide_eq_true hfacts
  -- the kernel does not unfold a sort of several entries, so the two orders are shown to be these
  have hboundaries : (Classification.ofGraph f.graph).boundaries =
      (Classification.ofGraph f.graph).entries.filter (·.2.role = .boundary) :=
    List.mergeSort_of_pairwise (hindexes.imp fun h => decide_eq_true h)
  have hinsideOut : boundariesInsideOut f.graph (Classification.ofGraph f.graph) =
      [['p'], "net2".toList, ['q'], "net1".toList] := by
    have hsort (w x y z : Text) (h : [w, x, y, z].map f.graph.depthOf = [0, 1, 2, 1]) :
        [w, x, y, z].mergeSort (fun a b => decide (f.graph.depthOf b ≤ f.graph.depthOf a)) =
          [y, x, z, w] := by
      simp only [List.map_cons, List.map_nil, List.cons.injEq, and_true] at h
      simp [List.mergeSort, List.MergeSort.Internal.splitInTwo, h]
    rw [boundariesInsideOut, hboundaries, hids]
    exact hsort _ _ _ _ hdepths
  rw [← hboundaries, ← hinsideOut, ← figures_ofVisits] at hkept
  have hd := ofText_of_hasRoles hf hroles hvisits (.default : Settings Rat)
  refine ⟨_, f, visits, hd, hf, hvisits, fun ends hmem => ?_⟩
  obtain ⟨k, hk, hkends⟩ := hkept ends hmem
  exact ⟨k.withIcon, List.mem_map.2 ⟨k, hk, rfl⟩, hkends⟩

/-- The boundary groups of the example have boundaries under their own names, and those of the
accounts are the inner ones of a nest. -/
theorem boundaries_of_accountsInNet {f : Flowchart} (hf : Flowchart.ofText accountsInNet = .ok f)
    (s : LayoutSettings Rat) (visits : List Visit) :
    (∀ part id, IsBoundaryOf f.graph (Classification.ofGraph f.graph) s visits part id →
      part.id = id) ∧
    (∀ id ∈ ["net1".toList, "net2".toList, ['p']],
      ∃ drawn, IsBoundaryOf f.graph (Classification.ofGraph f.graph) s visits drawn id) ∧
    (∀ part id, IsBoundaryOf f.graph (Classification.ofGraph f.graph) s visits part id →
      isAccountBoundary (canonicalType part.componentType) = true → id = ['p'] ∨ id = ['q']) ∧
    f.graph.IsInside ['p'] "net1".toList ∧ f.graph.IsInside ['p'] "net2".toList ∧
    f.graph.IsInside ['q'] "net1".toList := by
  have hread : ((Flowchart.ofText accountsInNet).map fun f =>
      let c := Classification.ofGraph f.graph
      decide ((∀ n ∈ f.graph.nodes, c.role? n.id ≠ some .boundary) ∧
        (∀ id ∈ ["net1".toList, "net2".toList, ['p']], c.role? id = some .boundary ∧
          ∃ n ∈ f.graph.nodes, id ∈ f.graph.enclosing n.groupId) ∧
        (∀ entry ∈ c.entries, isAccountBoundary (canonicalType (boundaryType entry.2.provider)) =
          true → entry.1 = ['p'] ∨ entry.1 = ['q']) ∧
        (∃ x ∈ f.graph.groups, x.id = ['p'] ∧
          f.graph.enclosing x.parentId = ["net2".toList, "net1".toList]) ∧
        ∃ x ∈ f.graph.groups, x.id = ['q'] ∧
          f.graph.enclosing x.parentId = ["net1".toList])).toOption = some true := by
    decide +kernel
  rw [hf] at hread
  obtain ⟨hnodes, hdrawn, haccounts, ⟨p, hp, hpid, hpAround⟩, q, hq, hqid, hqAround⟩ :=
    of_decide_eq_true (Option.some.inj hread)
  have hg := isConsistent_of_ofText hf
  refine ⟨fun part id h => h.id_eq hnodes, ?_, ?_, ?_, ?_, ?_⟩
  · intro id hid
    obtain ⟨hrole, n, hn, haround⟩ := hdrawn id hid
    exact exists_isBoundaryOf_of_mem_enclosing hg hn hrole haround
  · intro part id hpart htype
    obtain ⟨info, b, hentry, -, heq⟩ := hpart.exists_bounds
    rw [heq] at htype
    refine haccounts (id, info) ?_ htype
    exact (List.mem_filter.1 ((List.mergeSort_perm _ _).subset hentry)).1
  · exact hpid ▸ hg.isInside_of_mem_enclosing hp (by rw [hpAround]; decide)
  · exact hpid ▸ hg.isInside_of_mem_enclosing hp (by rw [hpAround]; decide)
  · exact hqid ▸ hg.isInside_of_mem_enclosing hq (by rw [hqAround]; decide)

/-- The outermost boundary of the example encloses the one that grew. -/
theorem nests_of_accountsInNet : ∃ (d : Diagram Rat) (f : Flowchart) (visits : List Visit),
    Outcome.ofText accountsInNet .default false = .ok (.positioned d) ∧
      Flowchart.ofText accountsInNet = .ok f ∧
      ∃ inner, ∃ shownOuter ∈ d.figures, ∃ shownInner ∈ d.figures,
        shownOuter.id = "net1".toList ∧ shownInner.id = ['p'] ∧
        Nests f.graph (Classification.ofGraph f.graph) (f.layoutSettings .default) visits
          inner shownOuter shownInner ∧
        shownOuter.box.Encloses 0 shownInner.box := by
  obtain ⟨d, f, visits, hd, hf, hvisits, hends⟩ := exists_diagram_of_accountsInNet
  obtain ⟨hown, hdrawn, haccounts, hp, -, hq⟩ :=
    boundaries_of_accountsInNet hf (f.layoutSettings .default) visits
  obtain ⟨f', visits', hf', hvisits', hpadding, hnests⟩ := nests_of_ofText hd .default
  rw [hf] at hf'
  cases hf'
  rw [hvisits] at hvisits'
  cases hvisits'
  obtain ⟨outer, houter⟩ := hdrawn "net1".toList (by decide)
  obtain ⟨inner, hinner⟩ := hdrawn ['p'] (by decide)
  obtain ⟨shownOuter, hshownOuter, houterEnds⟩ := hends _ List.mem_cons_self
  obtain ⟨shownInner, hshownInner, hinnerEnds⟩ := hends (['p'], 7.5, 208.5) (by decide +kernel)
  have hout : shownOuter.id = "net1".toList := (Prod.mk.inj houterEnds).1
  have hin : shownInner.id = ['p'] := (Prod.mk.inj hinnerEnds).1
  have hnest := hnests outer inner _ _ shownOuter shownInner houter hinner hp hshownOuter
    (hout.trans (hown _ _ houter).symm) hshownInner (hin.trans (hown _ _ hinner).symm)
  refine ⟨d, f, visits, hd, hf, inner, shownOuter, hshownOuter, shownInner, hshownInner, hout,
    hin, hnest, (hnest.encloses_of_inside fun part id hpart => ?_).weaken hpadding⟩
  refine ⟨outer, "net1".toList, ⟨houter, Or.inl ((hown _ _ houter).trans hout.symm)⟩, ?_⟩
  rcases hpart.2 with hsame | ⟨hboundary, htype⟩
  · rw [← hown _ _ hpart.1, hsame, hin]
    exact hp
  · rcases haccounts part id hpart.1 (htype ▸ hboundary) with rfl | rfl
    · exact hp
    · exact hq

/-- The inner boundary around the one that grew does not enclose it any more. -/
theorem exists_boundary_beyond_outer : ∃ (d : Diagram Rat) (f : Flowchart) (visits : List Visit),
    Outcome.ofText accountsInNet .default false = .ok (.positioned d) ∧
      (Settings.default : Settings Rat).layout.IsLoaded ∧
      Flowchart.ofText accountsInNet = .ok f ∧ f.graph.visits? = some visits ∧
      f.graph.IsInside ['p'] "net2".toList ∧
      ∃ outer inner : Figure Rat, ∃ shownOuter ∈ d.figures, ∃ shownInner ∈ d.figures,
        IsBoundaryOf f.graph (Classification.ofGraph f.graph) (f.layoutSettings .default) visits
          outer "net2".toList ∧ shownOuter.id = outer.id ∧
        IsBoundaryOf f.graph (Classification.ofGraph f.graph) (f.layoutSettings .default) visits
          inner ['p'] ∧ shownInner.id = inner.id ∧
        ¬ shownOuter.box.Encloses 0 shownInner.box := by
  obtain ⟨d, f, visits, hd, hf, hvisits, hends⟩ := exists_diagram_of_accountsInNet
  obtain ⟨hown, hdrawn, -, -, hp, -⟩ :=
    boundaries_of_accountsInNet hf (f.layoutSettings .default) visits
  obtain ⟨outer, houter⟩ := hdrawn "net2".toList (by decide)
  obtain ⟨inner, hinner⟩ := hdrawn ['p'] (by decide)
  obtain ⟨shownOuter, hshownOuter, houterEnds⟩ :=
    hends ("net2".toList, -8.5, 104.5) (by decide +kernel)
  obtain ⟨shownInner, hshownInner, hinnerEnds⟩ := hends (['p'], 7.5, 208.5) (by decide +kernel)
  obtain ⟨hout, houterEnds⟩ := Prod.mk.inj houterEnds
  obtain ⟨hin, hinnerEnds⟩ := Prod.mk.inj hinnerEnds
  refine ⟨d, f, visits, hd, .default, hf, hvisits, hp, outer, inner, shownOuter, hshownOuter,
    shownInner, hshownInner, houter, hout.trans (hown _ _ houter).symm, hinner,
    hin.trans (hown _ _ hinner).symm, ?_⟩
  rintro ⟨-, -, -, hbottom⟩
  have hle : shownInner.box.bottom + 0 ≤ shownOuter.box.bottom := hbottom
  rw [(Prod.mk.inj houterEnds).2, (Prod.mk.inj hinnerEnds).2] at hle
  norm_num at hle

end Swimlane
