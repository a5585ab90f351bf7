import Swimlane.Proofs.Diagram
import Swimlane.Proofs.Layout.Names
import Swimlane.Proofs.Tidy.Valid

/-!
# Where edges end in a diagram

An edge that ends at a group ends at the boundary of the group in the diagram, because the
boundary is called like the group, or at the boundary that stayed when that one went.  For this
the name of the group has to be unmistakable: names of ornaments are chosen without a look at
the groups, and a lane whose name is the usual one of a badge makes an edge end at the badge.
-/

namespace Swimlane

variable {α : Type}

/-- An edge of a graph that ended at `old` ends at `new` in its diagram, where `named` are the
boundaries with what is drawn for them. -/
structure Diagram.Attaches (d : Diagram α) (g : Graph) (c : Classification)
    (named : List (Figure α × Figure α)) (policy : EdgePolicy) (new old : Text) : Prop where
  /-- At a node it stays there. -/
  node : old ∈ g.nodes.map (·.id) →
    new = old ∧ ∃ shown, d.figure? new = some shown ∧ shown.isOrnament = false
  /-- At a group it ends at what is drawn for the boundary of the group, or at the boundary of
  the same account that stayed instead. -/
  group : old ∉ g.nodes.map (·.id) → g.IsUnmistakable c old →
    ∃ shown, d.figure? new = some shown ∧ shown.ornament = some .boundary ∧
      ∃ pair ∈ named, pair.1.id = old ∧ pair.2.id = old ∧
        (new = old ∨ policy = .remap ∧ isAccountBoundary shown.componentType = true ∧
          shown.componentType = canonicalType pair.2.componentType)

/-- An edge of a graph that stays in its diagram has its name, and both ends where they must
be. -/
structure Diagram.Draws (d : Diagram α) (g : Graph) (c : Classification)
    (named : List (Figure α × Figure α)) (policy : EdgePolicy) (kept e : Edge) : Prop where
  name : kept.name = e.name
  source : d.Attaches g c named policy kept.source e.source
  target : d.Attaches g c named policy kept.target e.target

/-- No badge has an edge. -/
def Diagram.LeavesBadges (d : Diagram α) : Prop :=
  ∀ badge ∈ d.figures, badge.isBadge = true →
    ∀ e ∈ d.edges, e.source ≠ badge.id ∧ e.target ≠ badge.id

/-! ## Figures -/

/-- Where identifiers differ, a figure is found by its own. -/
theorem Diagram.figure?_of_mem {d : Diagram α} (hids : (d.figures.map (·.id)).Nodup)
    {f : Figure α} (hf : f ∈ d.figures) : d.figure? f.id = some f :=
  find?_of_mem hids hf

/-! ## Badges -/

variable {g : Graph} {c : Classification} {policy : EdgePolicy} {new old : Text}

/-- An end that is where it must be is at no badge, if its own name is unmistakable. -/
theorem Diagram.Attaches.ne_badge {d : Diagram α} {named : List (Figure α × Figure α)}
    (h : d.Attaches g c named policy new old) (hids : (d.figures.map (·.id)).Nodup)
    (hold : old ∈ g.ids) (hgroups : ∀ x ∈ g.groups, g.IsUnmistakable c x.id) {badge : Figure α}
    (hbadge : badge ∈ d.figures) (hisBadge : badge.isBadge = true) : new ≠ badge.id := by
  rintro rfl
  have hfound := Diagram.figure?_of_mem hids hbadge
  by_cases hnode : old ∈ g.nodes.map (·.id)
  · obtain ⟨-, shown, hshown, hmember⟩ := h.node hnode
    cases hfound.symm.trans hshown
    rw [Figure.isOrnament, Option.isSome_eq_false_iff, Option.isNone_iff_eq_none] at hmember
    rw [Figure.isBadge, hmember] at hisBadge
    cases hisBadge
  · obtain ⟨x, hx, rfl⟩ := List.mem_map.1 ((List.mem_append.1 hold).resolve_left hnode)
    obtain ⟨shown, hshown, hboundary, -⟩ := h.group hnode (hgroups x hx)
    cases hfound.symm.trans hshown
    rw [Figure.isBadge, hboundary] at hisBadge
    cases hisBadge

/-- If the groups of a graph have unmistakable names, then no badge of its diagram has an edge. -/
theorem leavesBadges_of_draws {d : Diagram α} {named : List (Figure α × Figure α)}
    (h : List.SublistForall₂ (d.Draws g c named policy) d.edges g.edges)
    (hids : (d.figures.map (·.id)).Nodup)
    (hends : ∀ e ∈ g.edges, e.source ∈ g.ids ∧ e.target ∈ g.ids)
    (hgroups : ∀ x ∈ g.groups, g.IsUnmistakable c x.id) : d.LeavesBadges := by
  intro badge hbadge hisBadge k hk
  obtain ⟨e, he, hdraws⟩ := exists_of_mem_of_sublistForall₂ h hk
  exact ⟨hdraws.source.ne_badge hids (hends e he).1 hgroups hbadge hisBadge,
    hdraws.target.ne_badge hids (hends e he).2 hgroups hbadge hisBadge⟩

/-! ## Figures that stay -/

variable [Length α] {s : LayoutSettings α} {visits : List Visit}

/-- What has the type of an account boundary is a boundary. -/
theorem ornament_of_isAccountBoundary (hg : g.IsConsistent) {f : Figure α}
    (hf : f ∈ (Drawing.ofVisits g c s visits).figures)
    (htype : isAccountBoundary (canonicalType f.componentType) = true) :
    f.ornament = some .boundary := by
  refine boundary_of_isAccountBoundary hf ?_ htype
  by_contra hmember
  rw [isLasting_of_mem_ofVisits hg hf (eq_false_of_ne_true hmember)] at htype
  cases htype

/-- A figure that stays is found in the diagram, and is what it was in the drawing. -/
theorem exists_shown (hg : g.IsConsistent) (policy : EdgePolicy) {k : Figure α}
    (hk : k ∈ (passFigures (Drawing.ofVisits g c s visits).figures).kept) :
    (Diagram.ofDrawing g c policy (Drawing.ofVisits g c s visits)).figure? k.id =
        some k.withIcon ∧
      ∃ f ∈ (Drawing.ofVisits g c s visits).figures, k.Remains f := by
  constructor
  · exact Diagram.figure?_of_mem (keeps_ofDrawing hg c s visits policy).figure_ids
      (List.mem_map.2 ⟨k, hk, rfl⟩)
  · exact exists_of_mem_of_sublistForall₂ (passFigures_holds _).order hk

/-! ## Ends -/

/-- An end that no boundary went from is at its own figure. -/
theorem attaches_of_kept (hg : g.IsConsistent)
    (hkept : old ∈ (passFigures (Drawing.ofVisits g c s visits).figures).kept.map (·.id)) :
    (Diagram.ofDrawing g c policy (Drawing.ofVisits g c s visits)).Attaches g c
      (namedBoundaries g c s visits) policy old old := by
  obtain ⟨k, hk, rfl⟩ := List.mem_map.1 hkept
  obtain ⟨hshown, f, hf, box, rfl⟩ := exists_shown hg policy hk
  refine ⟨fun hnode => ⟨rfl, _, hshown, ?_⟩, fun hnode hid => ?_⟩
  · by_contra hornament
    exact (isOrnament_iff_of_mem_ofVisits hg.node_ids hf).1 (eq_true_of_ne_false hornament) hnode
  · obtain ⟨hboundary, own, hpair, hown⟩ := exists_own_of_isUnmistakable hg.node_ids hf hnode hid
    exact ⟨_, hshown, hboundary, (own, f), hpair, hown, rfl, Or.inl rfl⟩

/-- An end at a boundary that went is at the one that stayed, which is of the same account. -/
theorem attaches_of_replaced (hg : g.IsConsistent) (hpolicy : policy = .remap)
    (hentry : (old, new) ∈ (passFigures (Drawing.ofVisits g c s visits).figures).replaced) :
    (Diagram.ofDrawing g c policy (Drawing.ofVisits g c s visits)).Attaches g c
      (namedBoundaries g c s visits) policy new old := by
  obtain ⟨gone, hgone, rfl, htype, k, hk, rfl, hsame⟩ :=
    (passFigures_holds _).stand_ins (old, new) hentry
  obtain ⟨hshown, f, hf, box, rfl⟩ := exists_shown hg policy hk
  have hornament : gone.isOrnament = true := by
    rw [Figure.isOrnament, ornament_of_isAccountBoundary hg hgone htype]
    rfl
  refine ⟨fun hnode => ?_, fun hnode hid => ?_⟩
  · exact absurd hnode ((isOrnament_iff_of_mem_ofVisits hg.node_ids hgone).1 hornament)
  · obtain ⟨-, own, hpair, hown⟩ := exists_own_of_isUnmistakable hg.node_ids hgone hnode hid
    have htypes : canonicalType f.componentType = canonicalType gone.componentType := hsame
    have hboundary : f.ornament = some .boundary :=
      ornament_of_isAccountBoundary hg hf (htypes ▸ htype)
    exact ⟨_, hshown, hboundary, (own, gone), hpair, hown, rfl,
      Or.inr ⟨hpolicy, htypes ▸ htype, htypes⟩⟩

/-- An end that stands for another after the figures were tidied is where it must be. -/
theorem attaches_of_standsFor (hg : g.IsConsistent)
    (hstands : StandsFor policy (passFigures (Drawing.ofVisits g c s visits).figures).replaced
      new old)
    (hkept : new ∈ (passFigures (Drawing.ofVisits g c s visits).figures).kept.map (·.id)) :
    (Diagram.ofDrawing g c policy (Drawing.ofVisits g c s visits)).Attaches g c
      (namedBoundaries g c s visits) policy new old := by
  obtain ⟨hnew, hdrop⟩ := hstands
  cases hlookup : (passFigures (Drawing.ofVisits g c s visits).figures).replaced.lookup old with
  | none =>
    rw [hlookup, Option.getD_none] at hnew
    subst hnew
    exact attaches_of_kept hg hkept
  | some survivor =>
    rw [hlookup, Option.getD_some] at hnew
    subst hnew
    have hpolicy : policy = .remap := by
      cases policy with
      | remap => rfl
      | drop =>
        rw [hlookup] at hdrop
        cases hdrop rfl
    exact attaches_of_replaced hg hpolicy (mem_of_lookup hlookup)

/-! ## Diagrams -/

/-- The edges of a diagram are edges of its graph, in their order, and end where they must. -/
theorem draws_ofDrawing (hg : g.IsConsistent) (c : Classification) (s : LayoutSettings α)
    (visits : List Visit) (policy : EdgePolicy) :
    List.SublistForall₂
      ((Diagram.ofDrawing g c policy (Drawing.ofVisits g c s visits)).Draws g c
        (namedBoundaries g c s visits) policy)
      (Diagram.ofDrawing g c policy (Drawing.ofVisits g c s visits)).edges g.edges := by
  have hkept := tidyEdges_keepsIds policy (Drawing.ofVisits g c s visits).figures hg.edge_ids_nodup
  have hends := (tidyEdges_holds policy (Drawing.ofVisits g c s visits).figures g.edges).ends
  refine sublistForall₂_imp (fun k hk e _ hke => ?_) hkept
  obtain ⟨hid, hremains⟩ := hke
  exact ⟨Prod.ext hid hremains.label, attaches_of_standsFor hg hremains.source (hends k hk).1,
    attaches_of_standsFor hg hremains.target (hends k hk).2⟩

/-- What becomes of a text is the diagram of its graph, for some visit of its groups. -/
theorem eq_ofDrawing_of_ofText {text : Text} {s : Settings α} {cancelled : Bool} {d : Diagram α}
    (h : Outcome.ofText text s cancelled = .ok (.positioned d)) :
    ∃ f visits, Flowchart.ofText text = .ok f ∧ f.graph.visits? = some visits ∧
      d = Diagram.ofDrawing f.graph (Classification.ofGraph f.graph) s.edgePolicy
        (Drawing.ofVisits f.graph (Classification.ofGraph f.graph) (f.layoutSettings s.layout)
          visits) := by
  unfold Outcome.ofText at h
  cases hf : Flowchart.ofText text with
  | error e =>
    rw [hf] at h
    cases h
  | ok f =>
    simp only [hf] at h
    split at h
    · cases h
    · unfold Outcome.ofFlowchart at h
      simp only at h
      split at h
      · split at h
        · next drawing hdrawing =>
          cases h
          obtain ⟨visits, hvisits, rfl⟩ := Option.map_eq_some_iff.1 hdrawing
          exact ⟨f, visits, rfl, hvisits, rfl⟩
        · cases h
      · cases h

/-- If a text becomes a diagram, then every edge of the flowchart is dropped or stays, in its
order and under its own name, and ends where it must: at its node, or at the boundary of its
group if the name of the group is unmistakable.  If the names of all groups are, then no badge
has an edge. -/
theorem draws_of_ofText {text : Text} {s : Settings α} {cancelled : Bool} {d : Diagram α}
    (h : Outcome.ofText text s cancelled = .ok (.positioned d)) :
    ∃ f visits, Flowchart.ofText text = .ok f ∧ f.graph.visits? = some visits ∧
      List.SublistForall₂
        (d.Draws f.graph (Classification.ofGraph f.graph)
          (namedBoundaries f.graph (Classification.ofGraph f.graph) (f.layoutSettings s.layout)
            visits) s.edgePolicy)
        d.edges f.graph.edges ∧
      ((∀ x ∈ f.graph.groups, f.graph.IsUnmistakable (Classification.ofGraph f.graph) x.id) →
        d.LeavesBadges) := by
  obtain ⟨f, visits, hf, hvisits, rfl⟩ := eq_ofDrawing_of_ofText h
  have hg := isConsistent_of_ofText hf
  have hdraws := draws_ofDrawing hg (Classification.ofGraph f.graph) (f.layoutSettings s.layout)
    visits s.edgePolicy
  obtain ⟨draft, hsound, hfinish⟩ := exists_draft_of_ofText hf
  exact ⟨f, visits, hf, hvisits, hdraws,
    leavesBadges_of_draws hdraws (keeps_ofDrawing hg _ _ visits _).figure_ids
      (hsound.ends_finish hfinish)⟩

/-- Links to a boundary, to a lane and to a node. -/
def linksToGroups : Text :=
  "graph LR\nsubgraph p[\"aws account\"]\na\nend\nsubgraph lane_1\nb\nend\n".toList ++
    "b-->p\na-->lane_1\nb-->a".toList

/-- Both groups have unmistakable names. -/
theorem draws_of_linksToGroups : ∃ (d : Diagram Rat) (f : Flowchart),
    Outcome.ofText linksToGroups ⟨.default, .remap⟩ false = .ok (.positioned d) ∧
      Flowchart.ofText linksToGroups = .ok f ∧ d.LeavesBadges ∧
      ∃ visits, f.graph.visits? = some visits ∧
        List.SublistForall₂
          (d.Draws f.graph (Classification.ofGraph f.graph)
            (namedBoundaries f.graph (Classification.ofGraph f.graph) (f.layoutSettings .default)
              visits) .remap)
          d.edges f.graph.edges := by
  have hread : ((Flowchart.ofText linksToGroups).map fun f =>
      (Classification.ofGraph f.graph).hasRoles).toOption = some true := by
    decide +kernel
  have hnames : ((Flowchart.ofText linksToGroups).map fun f =>
      decide (∀ x ∈ f.graph.groups,
        (∀ name ∈ badgeNames (Classification.ofGraph f.graph), ¬name <+: x.id) ∧
        ∀ other ∈ f.graph.nodes.map (·.id),
          other ∈ (Classification.ofGraph f.graph).boundaries.map (·.1) →
            ¬other <+: x.id)).toOption = some true := by
    decide +kernel
  cases hf : Flowchart.ofText linksToGroups with
  | error e =>
    rw [hf] at hread
    cases hread
  | ok f =>
    rw [hf] at hread hnames
    have hapart := of_decide_eq_true (Option.some.inj hnames)
    obtain ⟨d, hd⟩ := exists_diagram_of_hasRoles hf (Option.some.inj hread)
      (⟨.default, .remap⟩ : Settings Rat)
    obtain ⟨f', visits, hf', hvisits, hdraws, hbadges⟩ := draws_of_ofText hd
    rw [hf] at hf'
    cases hf'
    have hleaves : d.LeavesBadges := hbadges fun x hx =>
      isUnmistakable_of_not_isPrefix (hapart x hx).1 (hapart x hx).2
    exact ⟨d, f, hd, rfl, hleaves, visits, hvisits, hdraws⟩

/-- A lane with the usual name of its own badge, and a link to it. -/
def linkToBadgeName : Text := "graph LR\nsubgraph lane_label_0\na\nend\nb-->lane_label_0".toList

/-- The diagram that a text became, if it did. -/
def Outcome.diagram? : Outcome α → Option (Diagram α)
  | .plain _ => none
  | .positioned d => some d

/-- An edge to a group with a badge's name ends at the badge. -/
theorem exists_edge_to_badge : ∃ (d : Diagram Rat) (f : Flowchart),
    Outcome.ofText linkToBadgeName .default false = .ok (.positioned d) ∧
      Flowchart.ofText linkToBadgeName = .ok f ∧
      ∃ e ∈ d.edges, e ∈ f.graph.edges ∧ e.target ∉ f.graph.nodes.map (·.id) ∧
        ∃ shown, d.figure? e.target = some shown ∧ shown.isBadge = true := by
  have hread : ((Flowchart.ofText linkToBadgeName).map fun f =>
      ((Classification.ofGraph f.graph).hasRoles, f.graph.nodes.map (·.id), f.graph.edges)).toOption =
      some (true, [['a'], ['b']], [⟨['e', '0'], ['b'], "lane_label_0".toList, none⟩]) := by
    decide +kernel
  have hshown : ((Outcome.ofText linkToBadgeName (.default : Settings Rat) false).map fun o =>
      o.diagram?.map fun d =>
        (d.edges, (d.figure? "lane_label_0".toList).map (·.isBadge))).toOption =
      some (some ([⟨['e', '0'], ['b'], "lane_label_0".toList, none⟩], some true)) := by
    decide +kernel
  cases hf : Flowchart.ofText linkToBadgeName with
  | error e =>
    rw [hf] at hread
    cases hread
  | ok f =>
    rw [hf] at hread
    obtain ⟨hroles, hread⟩ := Prod.mk.inj (Option.some.inj hread)
    obtain ⟨hnodes, hedges⟩ := Prod.mk.inj hread
    obtain ⟨d, hd⟩ := exists_diagram_of_hasRoles hf hroles (.default : Settings Rat)
    rw [hd] at hshown
    obtain ⟨hkept, hfigure⟩ := Prod.mk.inj (Option.some.inj (Option.some.inj hshown))
    obtain ⟨shown, hshown, hbadge⟩ := Option.map_eq_some_iff.1 hfigure
    refine ⟨d, f, hd, rfl, ⟨['e', '0'], ['b'], "lane_label_0".toList, none⟩, ?_, ?_, ?_, shown,
      hshown, hbadge⟩
    · rw [hkept]
      exact List.mem_singleton_self _
    · rw [hedges]
      exact List.mem_singleton_self _
    · rw [hnodes]
      decide

end Swimlane
