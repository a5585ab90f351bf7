import Swimlane.Proofs.Diagram.Ends
import Swimlane.Proofs.Layout.Canvas
import Swimlane.Proofs.Tidy.Growth

/-!
# What is drawn lies on the canvas, if there is room for it

A diagram is as wide and as high as its figures reach to the right and downwards, also after
boundaries of one account were collapsed.  Nothing makes it larger to the left or upwards, so
a figure lies on the canvas if there was room for it in the drawing, or for all boundaries that
were collapsed into it (`HasRoom`).  Members always have room; two boundaries around one node do
not with the default settings, and then the outer one begins beyond the corner of the canvas.
-/

namespace Swimlane

/-! ## Figures of a diagram and of its drawing -/

section Figures

variable {g : Graph} {c : Classification} {s : LayoutSettings Rat} {visits : List Visit}
  {policy : EdgePolicy}

/-- To enclose a figure of a diagram is to enclose all figures of the drawing that merged into
it. -/
theorem encloses_iff_of_mem_ofDrawing {shown : Figure Rat}
    (hshown : shown ∈
      (Diagram.ofDrawing g c policy (Drawing.ofVisits g c s visits)).figures)
    {b : Bounds Rat} {margin : Rat} : b.Encloses margin shown.box.bounds ↔
      ∀ f ∈ (Drawing.ofVisits g c s visits).figures, f.MergesInto shown →
        b.Encloses margin f.box.bounds := by
  obtain ⟨k, hk, rfl⟩ := List.mem_map.1 hshown
  exact (passFigures_grows (nodup_ids_ofVisits g c s visits)).encloses k hk b margin

/-- Every figure of a drawing merges into one of the diagram. -/
theorem exists_mergesInto_of_mem_ofVisits (policy : EdgePolicy) {f : Figure Rat}
    (hf : f ∈ (Drawing.ofVisits g c s visits).figures) : ∃ shown ∈
      (Diagram.ofDrawing g c policy (Drawing.ofVisits g c s visits)).figures,
      f.MergesInto shown := by
  obtain ⟨k, hk, hmerges, -⟩ :=
    (passFigures_grows (nodup_ids_ofVisits g c s visits)).merges f hf
  exact ⟨k.withIcon, List.mem_map.2 ⟨k, hk, rfl⟩, hmerges⟩

/-- Only figures of one kind merge, and only boundaries merge into others. -/
theorem eq_of_mergesInto (hg : g.IsConsistent) {shown : Figure Rat}
    (hshown : shown ∈
      (Diagram.ofDrawing g c policy (Drawing.ofVisits g c s visits)).figures)
    {f : Figure Rat} (hf : f ∈ (Drawing.ofVisits g c s visits).figures)
    (hmerges : f.MergesInto shown) : f.ornament = shown.ornament ∧
      (shown.ornament ≠ some .boundary → f.label = shown.label) := by
  obtain ⟨k, hk, rfl⟩ := List.mem_map.1 hshown
  obtain ⟨own, hown, box, rfl⟩ := (exists_shown hg policy hk).2
  rcases hmerges with hid | ⟨hboundary, htype⟩
  · rw [List.inj_on_of_nodup_map (nodup_ids_ofVisits g c s visits) hf hown hid]
    exact ⟨rfl, fun _ => rfl⟩
  · have hbefore : isAccountBoundary (canonicalType f.componentType) = true :=
      htype.symm ▸ hboundary
    have hkept := ornament_of_isAccountBoundary hg hown hboundary
    exact ⟨(ornament_of_isAccountBoundary hg hf hbefore).trans hkept.symm,
      fun hother => absurd hkept hother⟩

/-- What was drawn for the boundary of a group is part of a figure of a diagram: it is what the
figure was, or it was collapsed into it. -/
def IsPartOf (g : Graph) (c : Classification) (s : LayoutSettings Rat) (visits : List Visit)
    (part : Figure Rat) (id : Text) (shown : Figure Rat) : Prop :=
  IsBoundaryOf g c s visits part id ∧ part.MergesInto shown

/-- What encloses a boundary of a diagram encloses all its parts, and the other way round. -/
theorem encloses_iff_forall_isPartOf (hg : g.IsConsistent) {shown : Figure Rat}
    (hshown : shown ∈ (Diagram.ofDrawing g c policy (Drawing.ofVisits g c s visits)).figures)
    {part : Figure Rat} {id : Text} (hpart : IsPartOf g c s visits part id shown)
    {b : Bounds Rat} {margin : Rat} : b.Encloses margin shown.box.bounds ↔
      ∀ part id, IsPartOf g c s visits part id shown → b.Encloses margin part.box.bounds := by
  rw [encloses_iff_of_mem_ofDrawing hshown]
  constructor
  · intro h other otherId hother
    exact h other hother.1.mem_figures hother.2
  · intro h f hf hmerges
    have hornament : f.ornament = some .boundary := by
      rw [(eq_of_mergesInto hg hshown hf hmerges).1,
        ← (eq_of_mergesInto hg hshown hpart.1.mem_figures hpart.2).1]
      exact (exists_isBoundaryOf_iff.1 ⟨id, hpart.1⟩).2
    obtain ⟨otherId, hother⟩ := exists_isBoundaryOf_iff.2 ⟨hf, hornament⟩
    exact h f otherId ⟨hother, hmerges⟩

end Figures

/-! ## The canvas -/

variable {g : Graph} {c : Classification} {s : LayoutSettings Rat} {visits : List Visit}
  {policy : EdgePolicy} {shown : Figure Rat}

/-- No figure of a diagram reaches out of it to the right or downwards. -/
theorem le_size_of_mem_ofDrawing (g : Graph) (c : Classification) (policy : EdgePolicy)
    (drawing : Drawing Rat) (hshown : shown ∈ (Diagram.ofDrawing g c policy drawing).figures) :
    shown.box.right ≤ (Diagram.ofDrawing g c policy drawing).size.width ∧
      shown.box.bottom ≤ (Diagram.ofDrawing g c policy drawing).size.height :=
  ⟨Length.le_largest_of_mem _ (List.mem_map.2 ⟨shown, hshown, rfl⟩),
    Length.le_largest_of_mem _ (List.mem_map.2 ⟨shown, hshown, rfl⟩)⟩

/-- Is there room for a figure of a diagram to the left of the grid and above it? -/
def HasRoom (g : Graph) (c : Classification) (s : LayoutSettings Rat) (visits : List Visit)
    (shown : Figure Rat) : Prop :=
  match shown.ornament with
  | none => True
  | some .laneBadge => LaneBadgesFit c s
  | some .sectionBadge => SectionBadgeFits c s shown.label
  | some .boundary => ∀ part id, IsPartOf g c s visits part id shown → BoundaryFits g c s id

/-- What merged into a figure for which there is room begins on the canvas. -/
theorem beginsWithin_of_mergesInto (hg : g.IsConsistent) (hs : s.IsSensible)
    (hshown : shown ∈
      (Diagram.ofDrawing g c policy (Drawing.ofVisits g c s visits)).figures)
    (hroom : HasRoom g c s visits shown) {f : Figure Rat}
    (hf : f ∈ (Drawing.ofVisits g c s visits).figures) (hmerges : f.MergesInto shown) :
    f.box.BeginsWithin := by
  obtain ⟨hornament, hlabel⟩ := eq_of_mergesInto hg hshown hf hmerges
  apply beginsWithin_of_mem_ofVisits hg hs hf
  · intro hlane
    rw [HasRoom, ← hornament, hlane] at hroom
    exact hroom
  · intro hsection
    rw [HasRoom, ← hornament, hsection] at hroom
    rw [hlabel (by rw [← hornament, hsection]; decide)]
    exact hroom
  · intro id hid
    rw [HasRoom, ← hornament, (exists_isBoundaryOf_iff.1 ⟨id, hid⟩).2] at hroom
    exact hroom f id ⟨hid, hmerges⟩

/-- A figure of a diagram for which there is room begins on the canvas. -/
theorem beginsWithin_of_mem_ofDrawing (hg : g.IsConsistent) (hs : s.IsSensible)
    (hshown : shown ∈
      (Diagram.ofDrawing g c policy (Drawing.ofVisits g c s visits)).figures)
    (hroom : HasRoom g c s visits shown) : shown.box.BeginsWithin := by
  have hself : shown.box.bounds.Encloses 0 shown.box.bounds := Bounds.Encloses.refl _
  have hcanvas : (Bounds.mk 0 0 shown.box.right shown.box.bottom).Encloses 0 shown.box.bounds := by
    rw [encloses_iff_of_mem_ofDrawing hshown] at hself ⊢
    intro f hf hmerges
    obtain ⟨hleft, htop⟩ := beginsWithin_of_mergesInto hg hs hshown hroom hf hmerges
    have hinside := hself f hf hmerges
    exact ⟨by rw [add_zero]; exact hleft, by rw [add_zero]; exact htop, hinside.right,
      hinside.bottom⟩
  have hleft := hcanvas.left
  have htop := hcanvas.top
  rw [add_zero] at hleft htop
  exact ⟨hleft, htop⟩

/-- The settings of a flowchart's layout are among those that the program works with. -/
theorem LayoutSettings.IsLoaded.layoutSettings (hs : s.IsLoaded) (f : Flowchart) :
    (f.layoutSettings s).IsLoaded := by
  unfold Flowchart.layoutSettings
  split
  · exact hs.withInitial _
  · exact hs

/-- If a text becomes a diagram, then no figure reaches out of the canvas to the right or
downwards, and a figure for which there is room lies within it. -/
theorem isWithin_of_ofText {text : Text} {s : Settings Rat} {cancelled : Bool} {d : Diagram Rat}
    (h : Outcome.ofText text s cancelled = .ok (.positioned d)) (hs : s.layout.IsLoaded) :
    ∃ f visits, Flowchart.ofText text = .ok f ∧ f.graph.visits? = some visits ∧
      ∀ shown ∈ d.figures,
        shown.box.right ≤ d.size.width ∧ shown.box.bottom ≤ d.size.height ∧
        (HasRoom f.graph (Classification.ofGraph f.graph) (f.layoutSettings s.layout) visits
          shown → shown.box.IsWithin d.size) := by
  obtain ⟨f, visits, hf, hvisits, rfl⟩ := eq_ofDrawing_of_ofText h
  have hg := isConsistent_of_ofText hf
  refine ⟨f, visits, hf, hvisits, fun shown hshown => ?_⟩
  obtain ⟨hright, hbottom⟩ := le_size_of_mem_ofDrawing _ _ _ _ hshown
  refine ⟨hright, hbottom, fun hroom => ?_⟩
  obtain ⟨hleft, htop⟩ :=
    beginsWithin_of_mem_ofDrawing hg (hs.layoutSettings f).isSensible hshown hroom
  exact ⟨hleft, hright, htop, hbottom⟩

/-- A boundary in a section of a lane, and a node beside it. -/
def boundaryInLane : Text :=
  "graph LR\nsubgraph lane1\nsubgraph stage1\nsubgraph vpc\na\n".toList ++
    "end\nend\nend\nb".toList

/-- There is room for the badges and for the boundary. -/
theorem isWithin_of_boundaryInLane : ∃ (d : Diagram Rat) (f : Flowchart),
    Outcome.ofText boundaryInLane .default false = .ok (.positioned d) ∧
      Flowchart.ofText boundaryInLane = .ok f ∧
      d.figures.map (·.ornament) = [some .boundary, none, none, some .laneBadge,
        some .sectionBadge] ∧
      ∀ shown ∈ d.figures, shown.box.IsWithin d.size := by
  have hread : ((Flowchart.ofText boundaryInLane).map fun f => f.graph.visits?.map fun visits =>
      let c := Classification.ofGraph f.graph
      let s := f.layoutSettings (.default : LayoutSettings Rat)
      let d := Diagram.ofDrawing f.graph c (Settings.default : Settings Rat).edgePolicy
        (Drawing.ofVisits f.graph c s visits)
      decide (c.hasRoles = true ∧ LaneBadgesFit c s ∧
        (∀ shown ∈ d.figures, SectionBadgeFits c s shown.label) ∧
        (∀ n ∈ f.graph.nodes, ∀ id ∈ f.graph.enclosing n.groupId, BoundaryFits f.graph c s id) ∧
        d.figures.map (·.ornament) = [some .boundary, none, none, some .laneBadge,
          some .sectionBadge])).toOption = some (some true) := by
    decide +kernel
  obtain ⟨f, hf, hvisited⟩ := exists_of_toOption_map hread
  obtain ⟨visits, hvisits, hfacts⟩ := Option.map_eq_some_iff.1 hvisited
  obtain ⟨hroles, hlane, hsection, hfits, hornaments⟩ := of_decide_eq_true hfacts
  have hd := ofText_of_hasRoles hf hroles hvisits (.default : Settings Rat)
  obtain ⟨f', visits', hf', hvisits', hwithin⟩ := isWithin_of_ofText hd .default
  rw [hf] at hf'
  cases hf'
  rw [hvisits] at hvisits'
  cases hvisits'
  refine ⟨_, f, hd, hf, hornaments, fun shown hshown => (hwithin shown hshown).2.2 ?_⟩
  unfold HasRoom
  split
  · trivial
  · exact hlane
  · exact hsection shown hshown
  · exact fun part id _ n hn hid => hfits n hn id hid n hn hid

/-- A boundary in a boundary, and nothing else. -/
def boundaryInAccount : Text :=
  "graph LR\nsubgraph p[\"aws account\"]\nsubgraph vpc\na\nend\nend".toList

/-- Two paddings of a boundary are more than there is around a cell. -/
theorem exists_figure_off_canvas : ∃ (d : Diagram Rat), ∃ shown ∈ d.figures,
    Outcome.ofText boundaryInAccount .default false = .ok (.positioned d) ∧
      (Settings.default : Settings Rat).layout.IsLoaded ∧ shown.box.x < 0 ∧
      ¬ shown.box.IsWithin d.size := by
  have hread : ((Flowchart.ofText boundaryInAccount).map fun f => f.graph.visits?.map fun visits =>
      let c := Classification.ofGraph f.graph
      let s := f.layoutSettings (.default : LayoutSettings Rat)
      decide (c.hasRoles = true ∧ s.grid.boundaryPadding = 16 ∧
        (c.role? ['p'] = some .boundary ∧ c.role? "vpc".toList = some .boundary) ∧
        (∃ n ∈ f.graph.nodes, f.graph.enclosing n.groupId = ["vpc".toList, ['p']]) ∧
        (∃ x ∈ f.graph.groups, x.id = "vpc".toList ∧ f.graph.enclosing x.parentId = [['p']]) ∧
        ∀ m ∈ (makeGrid f.graph c s (placements f.graph c visits)).members f.graph
          (nodeSizes f.graph s), m.box.x = 20)).toOption = some (some true) := by
    decide +kernel
  obtain ⟨f, hf, hvisited⟩ := exists_of_toOption_map hread
  obtain ⟨visits, hvisits, hfacts⟩ := Option.map_eq_some_iff.1 hvisited
  obtain ⟨hroles, hpad, ⟨hp, hvpc⟩, ⟨n, hn, haround⟩, ⟨x, hx, hxid, hxaround⟩, hleft⟩ :=
    of_decide_eq_true hfacts
  have hg := isConsistent_of_ofText hf
  have hd := ofText_of_hasRoles hf hroles hvisits (.default : Settings Rat)
  have hencloses := hg.boundariesEnclose (Classification.ofGraph f.graph)
    (f.layoutSettings .default) visits
  have hlies (id : Text) (hid : id ∈ ["vpc".toList, ['p']]) : f.graph.LiesIn n.groupId id :=
    hg.mem_enclosing_iff.1 (haround ▸ hid)
  obtain ⟨outer, houter⟩ := (hencloses.exists_iff ['p'] hp).2 ⟨n, hn, hlies _ (by decide)⟩
  obtain ⟨inner, hinner⟩ := (hencloses.exists_iff "vpc".toList hvpc).2
    ⟨n, hn, hlies _ (by decide)⟩
  obtain ⟨m, hm, hid⟩ := exists_member_of_node hg (Classification.ofGraph f.graph)
    (f.layoutSettings .default) visits hn
  have hmember := hencloses.member inner _ hinner m hm n hn hid (hlies _ (by decide))
  have hnested := hencloses.nested outer inner _ _ houter hinner
    ⟨x, hx, hxid, hg.mem_enclosing_iff.1 (by rw [hxaround]; decide)⟩
  obtain ⟨shown, hshown, hmerges⟩ :=
    exists_mergesInto_of_mem_ofVisits (Settings.default : Settings Rat).edgePolicy
      houter.mem_figures
  have hgrown := (encloses_iff_of_mem_ofDrawing hshown).1 (Bounds.Encloses.refl _) outer
    houter.mem_figures hmerges
  have hoff : shown.box.x < 0 := by
    rw [membersOf_ofVisits] at hm
    have hpaddings : shown.box.x + (0 + (_ + _)) ≤ m.box.x :=
      (hgrown.trans (hnested.trans hmember)).left
    rw [hleft m hm, hpad] at hpaddings
    linarith
  exact ⟨_, shown, hshown, hd, .default, hoff, fun hwithin => not_lt.2 hwithin.left hoff⟩

end Swimlane
