import Swimlane.Proofs.Classification
import Swimlane.Proofs.Diagram.Ends
import Swimlane.Proofs.Layout.Boundary

/-!
# Which boundaries of a drawing are left

When a drawing is tidied the boundaries of accounts are collapsed, those of one type into the
first of them; other boundaries are left alone (`passFigures_covers`).  A boundary is that of an
account exactly if the names of its group mention a provider, and otherwise it has the type of
all boundaries without one (`canonicalType_boundaryType`).  So of each account there is one
boundary in a diagram, and as many boundaries without a provider as there are in the drawing
(`collapses_of_ofText`).
-/

namespace Swimlane

variable {α : Type}

/-! ## Types of boundaries -/

/-- The names of a group mention a provider. -/
def GroupFacts.MentionsProvider (f : GroupFacts) : Prop :=
  ∃ entry ∈ providerWords, occursIn entry.1 f.words = true

theorem GroupFacts.provider?_eq_none_iff {f : GroupFacts} :
    f.provider? = none ↔ ¬f.MentionsProvider := by
  rw [provider?, Option.map_eq_none_iff, List.find?_eq_none, MentionsProvider]
  constructor
  · rintro h ⟨entry, hentry, hoccurs⟩
    exact h entry hentry hoccurs
  · intro h entry hentry hoccurs
    exact h ⟨entry, hentry, hoccurs⟩

/-- The boundaries of every provider are account boundaries. -/
theorem isAccountBoundary_of_mem_providerWords : ∀ entry ∈ providerWords,
    isAccountBoundary (canonicalType (boundaryType (some entry.2))) = true := by
  decide +kernel

theorem canonicalType_boundaryType_none :
    canonicalType (boundaryType none) = "boundary".toList := by
  decide +kernel

/-- The type of a boundary tells whether the names of its group mention a provider. -/
theorem canonicalType_boundaryType (f : GroupFacts) :
    (f.MentionsProvider ∧
      isAccountBoundary (canonicalType (boundaryType f.provider?)) = true) ∨
    (¬f.MentionsProvider ∧ canonicalType (boundaryType f.provider?) = "boundary".toList) := by
  cases hprovider : f.provider? with
  | none =>
    have hnone := GroupFacts.provider?_eq_none_iff.1 hprovider
    exact Or.inr ⟨hnone, canonicalType_boundaryType_none⟩
  | some p =>
    obtain ⟨entry, hentry, rfl⟩ := Option.map_eq_some_iff.1 hprovider
    have hmem := List.mem_of_find?_eq_some hentry
    refine Or.inl ⟨⟨entry, hmem, ?_⟩, isAccountBoundary_of_mem_providerWords entry hmem⟩
    simpa using List.find?_some hentry

/-! ## Figures that stay -/

section Figures

variable [Length α] {pass : FigurePass α} {seen : List (Figure α)} {f : Figure α}

/-- What is left of the figures that a pass has seen. -/
structure FigurePass.Covers (pass : FigurePass α) (seen : List (Figure α)) : Prop where
  ids : pass.kept.map (·.id) ⊆ seen.map (·.id)
  /-- Every type is left. -/
  types : ∀ f ∈ seen, canonicalType f.componentType ∈ pass.kept.map (·.componentType)
  /-- What is no account boundary is left as it was. -/
  others : ∀ f ∈ seen, isAccountBoundary (canonicalType f.componentType) = false →
    { f with componentType := canonicalType f.componentType } ∈ pass.kept

/-- A boundary that goes takes no type and no other figure with it. -/
theorem FigurePass.Covers.grow (h : pass.Covers seen)
    (hboundary : isAccountBoundary (canonicalType f.componentType) = true)
    (htype : canonicalType f.componentType ∈ pass.kept.map (·.componentType))
    (replaced : List (Text × Text)) (drops : List DropCause) :
    (⟨grown pass.kept (canonicalType f.componentType) f, replaced, drops⟩ :
      FigurePass α).Covers (seen ++ [f]) where
  ids := by
    rw [map_grown (·.id) (fun _ _ => rfl), List.map_append]
    exact List.Subset.trans h.ids (List.subset_append_left _ _)
  types other hother := by
    rw [map_grown (·.componentType) (fun _ _ => rfl)]
    rcases List.mem_append.1 hother with hbefore | hlast
    · exact h.types other hbefore
    · rw [List.mem_singleton.1 hlast]
      exact htype
  others other hother hplain := by
    have hbefore : other ∈ seen := by
      refine (List.mem_append.1 hother).resolve_right fun hlast => ?_
      rw [List.mem_singleton.1 hlast, hboundary] at hplain
      cases hplain
    -- only boundaries of the account grow
    have hne : canonicalType other.componentType ≠ canonicalType f.componentType := by
      intro heq
      rw [heq, hboundary] at hplain
      cases hplain
    refine List.mem_map.2 ⟨_, h.others other hbefore hplain, ?_⟩
    exact if_neg hne

omit [Length α] in
/-- A figure that stays adds itself and its type. -/
theorem FigurePass.Covers.keep (h : pass.Covers seen) :
    ({ pass with
        kept := pass.kept ++ [{ f with componentType := canonicalType f.componentType }] } :
      FigurePass α).Covers (seen ++ [f]) where
  ids := by
    rw [List.map_append, List.map_append]
    refine List.append_subset.2 ⟨?_, List.subset_append_right _ _⟩
    exact List.Subset.trans h.ids (List.subset_append_left _ _)
  types other hother := by
    rw [List.map_append, List.mem_append]
    rcases List.mem_append.1 hother with hbefore | hlast
    · exact Or.inl (h.types other hbefore)
    · rw [List.mem_singleton.1 hlast]
      exact Or.inr List.mem_cons_self
  others other hother hplain := by
    rcases List.mem_append.1 hother with hbefore | hlast
    · exact List.mem_append_left _ (h.others other hbefore hplain)
    · rw [List.mem_singleton.1 hlast]
      exact List.mem_append_right _ List.mem_cons_self

/-- A pass over figures with different identifiers goes on to cover them. -/
theorem FigurePass.Covers.take (h : pass.Covers seen) (hid : f.id ∉ seen.map (·.id)) :
    (pass.take f).Covers (seen ++ [f]) := by
  rcases pass.take_cases f with ⟨htaken, -⟩ | ⟨-, hboundary, survivor, hmem, htype, htake⟩ |
    ⟨-, -, htake⟩
  · exact absurd (h.ids htaken) hid
  · rw [htake]
    exact h.grow hboundary (List.mem_map.2 ⟨survivor, hmem, htype⟩) _ _
  · rw [htake]
    exact h.keep

/-- Of figures with different identifiers every type is left, and all that are no account
boundaries. -/
theorem passFigures_covers {figures : List (Figure α)} (hids : (figures.map (·.id)).Nodup) :
    (passFigures figures).Covers figures := by
  refine foldl_of_nodup_keys ?_ hids fun pass seen h f _ hid => h.take hid
  exact ⟨List.Subset.refl _, fun _ h => absurd h List.not_mem_nil,
    fun _ h => absurd h List.not_mem_nil⟩

end Figures

/-! ## Boundaries of a diagram -/

/-- The boundaries of a diagram and those of its drawing, where `drawn` relates what was drawn to
the names of the groups. -/
structure Diagram.Collapses (d : Diagram α) (g : Graph) (drawn : Figure α → Text → Prop) :
    Prop where
  /-- Only boundaries without a provider have the same type. -/
  distinct : (figuresOf .boundary d.figures).Pairwise fun a b =>
    a.componentType = b.componentType → a.componentType = "boundary".toList
  /-- Every boundary was drawn for a group, whose names tell whether it is one of an account. -/
  group : ∀ shown ∈ figuresOf .boundary d.figures, ∃ own, ∃ x ∈ g.groups, drawn own x.id ∧
    own.id = shown.id ∧ g.roleOf? x = some .boundary ∧
    (isAccountBoundary shown.componentType = true ↔ (GroupFacts.of g x).MentionsProvider) ∧
    (shown.componentType = "boundary".toList ↔ ¬(GroupFacts.of g x).MentionsProvider)
  /-- There is a boundary of every type that was drawn. -/
  types : ∀ own id, drawn own id → ∃ shown ∈ figuresOf .boundary d.figures,
    shown.componentType = canonicalType own.componentType
  /-- Every boundary without a provider is left. -/
  others : ∀ own, ∀ x ∈ g.groups, drawn own x.id → ¬(GroupFacts.of g x).MentionsProvider →
    ∃ shown ∈ figuresOf .boundary d.figures, shown.id = own.id ∧
      shown.componentType = "boundary".toList

section Diagrams

variable [Length α] {g : Graph} {s : LayoutSettings α} {visits : List Visit}

/-- What is drawn for a boundary has the type that the names of its group ask for. -/
theorem IsBoundaryOf.exists_group (hids : (g.groups.map (·.id)).Nodup) {own : Figure α} {id : Text}
    (h : IsBoundaryOf g (Classification.ofGraph g) s visits own id) :
    ∃ x ∈ g.groups, x.id = id ∧ g.roleOf? x = some .boundary ∧
      own.componentType = boundaryType (GroupFacts.of g x).provider? := by
  obtain ⟨info, b, hmem, -, heq⟩ := h.exists_bounds
  obtain ⟨x, hx, index, hrole, hentry⟩ := Classification.exists_group_of_mem_withRole hids hmem
  obtain ⟨hid, rfl⟩ := Prod.mk.inj hentry
  refine ⟨x, hx, hid.symm, hrole, ?_⟩
  rw [heq]
  rfl

variable {policy : EdgePolicy}

/-- A boundary of a diagram was drawn for a group, and has the type that its names ask for. -/
theorem exists_group_of_mem_boundaries (hg : g.IsConsistent) {shown : Figure α}
    (hshown : shown ∈ figuresOf .boundary (Diagram.ofDrawing g (Classification.ofGraph g) policy
      (Drawing.ofVisits g (Classification.ofGraph g) s visits)).figures) :
    ∃ own, ∃ x ∈ g.groups, IsBoundaryOf g (Classification.ofGraph g) s visits own x.id ∧
      own.id = shown.id ∧ g.roleOf? x = some .boundary ∧
      shown.componentType = canonicalType (boundaryType (GroupFacts.of g x).provider?) := by
  obtain ⟨hmem, hornament⟩ := mem_figuresOf.1 hshown
  obtain ⟨k, hk, rfl⟩ := List.mem_map.1 hmem
  obtain ⟨own, hown, box, rfl⟩ := (exists_shown hg policy hk).2
  obtain ⟨id, hid⟩ := exists_isBoundaryOf_iff.2 ⟨hown, hornament⟩
  obtain ⟨x, hx, rfl, hrole, htype⟩ := hid.exists_group hg.group_ids
  refine ⟨own, x, hx, hid, rfl, hrole, ?_⟩
  rw [← htype]
  rfl

/-- Boundaries of one type have no provider. -/
theorem pairwise_boundaries (hg : g.IsConsistent) :
    (figuresOf .boundary (Diagram.ofDrawing g (Classification.ofGraph g) policy
      (Drawing.ofVisits g (Classification.ofGraph g) s visits)).figures).Pairwise fun a b =>
        a.componentType = b.componentType → a.componentType = "boundary".toList := by
  have hkept := (passFigures_holds
    (Drawing.ofVisits g (Classification.ofGraph g) s visits).figures).boundaries
  have hshown : (Diagram.ofDrawing g (Classification.ofGraph g) policy
      (Drawing.ofVisits g (Classification.ofGraph g) s visits)).figures.Pairwise fun a b =>
        isAccountBoundary a.componentType = true → a.componentType ≠ b.componentType :=
    List.pairwise_map.2 hkept
  refine (hshown.filter _).imp_of_mem fun {a b} ha _ hdistinct hsame => ?_
  obtain ⟨own, x, -, -, -, -, htype⟩ := exists_group_of_mem_boundaries hg ha
  rcases canonicalType_boundaryType (GroupFacts.of g x) with ⟨-, haccount⟩ | ⟨-, hboundary⟩
  · rw [← htype] at haccount
    exact absurd hsame (hdistinct haccount)
  · rw [htype, hboundary]

/-- A boundary that is none of an account is left. -/
theorem exists_shown_of_not_isAccountBoundary (policy : EdgePolicy) {c : Classification}
    {own : Figure α}
    (hown : own ∈ (Drawing.ofVisits g c s visits).figures)
    (hornament : own.ornament = some .boundary)
    (hplain : isAccountBoundary (canonicalType own.componentType) = false) :
    ∃ shown ∈ figuresOf .boundary
      (Diagram.ofDrawing g c policy (Drawing.ofVisits g c s visits)).figures,
      shown.id = own.id ∧ shown.componentType = canonicalType own.componentType := by
  have hkept := (passFigures_covers (nodup_ids_ofVisits g c s visits)).others own hown hplain
  exact ⟨_, mem_figuresOf.2 ⟨List.mem_map.2 ⟨_, hkept, rfl⟩, hornament⟩, rfl, rfl⟩

/-- There is a boundary of every type that was drawn. -/
theorem exists_shown_of_type (hg : g.IsConsistent) {c : Classification} {own : Figure α}
    (hown : own ∈ (Drawing.ofVisits g c s visits).figures)
    (hornament : own.ornament = some .boundary) : ∃ shown ∈ figuresOf .boundary
      (Diagram.ofDrawing g c policy (Drawing.ofVisits g c s visits)).figures,
      shown.componentType = canonicalType own.componentType := by
  cases haccount : isAccountBoundary (canonicalType own.componentType) with
  | false =>
    obtain ⟨shown, hshown, -, htype⟩ :=
      exists_shown_of_not_isAccountBoundary policy hown hornament haccount
    exact ⟨shown, hshown, htype⟩
  | true =>
    have hcovers := passFigures_covers (nodup_ids_ofVisits g c s visits)
    obtain ⟨k, hk, htype⟩ := List.mem_map.1 (hcovers.types own hown)
    obtain ⟨f, hf, box, rfl⟩ := (exists_shown hg policy hk).2
    -- what has the type of an account boundary is a boundary
    have hsame : canonicalType f.componentType = canonicalType own.componentType := htype
    have hboundary : f.ornament = some .boundary :=
      ornament_of_isAccountBoundary hg hf (hsame ▸ haccount)
    exact ⟨_, mem_figuresOf.2 ⟨List.mem_map.2 ⟨_, hk, rfl⟩, hboundary⟩, htype⟩

/-- The diagram of a graph collapses the boundaries of accounts, and no others. -/
theorem collapses_ofDrawing (hg : g.IsConsistent) (s : LayoutSettings α) (visits : List Visit)
    (policy : EdgePolicy) :
    (Diagram.ofDrawing g (Classification.ofGraph g) policy
      (Drawing.ofVisits g (Classification.ofGraph g) s visits)).Collapses g
      (IsBoundaryOf g (Classification.ofGraph g) s visits) where
  distinct := pairwise_boundaries hg
  group shown hshown := by
    have hplain : isAccountBoundary "boundary".toList = false := by decide +kernel
    obtain ⟨own, x, hx, hown, hid, hrole, htype⟩ := exists_group_of_mem_boundaries hg hshown
    refine ⟨own, x, hx, hown, hid, hrole, ?_⟩
    rw [htype]
    rcases canonicalType_boundaryType (GroupFacts.of g x) with ⟨hmentions, haccount⟩ |
      ⟨hnone, hboundary⟩
    · refine ⟨iff_of_true haccount hmentions, iff_of_false (fun heq => ?_) (not_not.2 hmentions)⟩
      rw [heq, hplain] at haccount
      cases haccount
    · rw [hboundary, hplain]
      exact ⟨iff_of_false Bool.false_ne_true hnone, iff_of_true rfl hnone⟩
  types own id hown := by
    obtain ⟨hmem, hornament⟩ := exists_isBoundaryOf_iff.1 ⟨id, hown⟩
    exact exists_shown_of_type hg hmem hornament
  others own x hx hown hnone := by
    have hplain : isAccountBoundary "boundary".toList = false := by decide +kernel
    obtain ⟨hmem, hornament⟩ := exists_isBoundaryOf_iff.1 ⟨x.id, hown⟩
    obtain ⟨y, hy, hid, -, htype⟩ := hown.exists_group hg.group_ids
    rw [List.inj_on_of_nodup_map hg.group_ids hy hx hid,
      GroupFacts.provider?_eq_none_iff.2 hnone] at htype
    have hboundary : canonicalType own.componentType = "boundary".toList := by
      rw [htype]
      exact canonicalType_boundaryType_none
    rw [← hboundary] at hplain ⊢
    exact exists_shown_of_not_isAccountBoundary policy hmem hornament hplain

end Diagrams

/-- If a text becomes a diagram, then the boundaries of accounts in the diagram have different
types, and the boundaries of groups that mention no provider are all left, with one type. -/
theorem collapses_of_ofText [Length α] {text : Text} {s : Settings α} {cancelled : Bool}
    {d : Diagram α} (h : Outcome.ofText text s cancelled = .ok (.positioned d)) :
    ∃ f visits, Flowchart.ofText text = .ok f ∧ f.graph.visits? = some visits ∧
      d.Collapses f.graph (IsBoundaryOf f.graph (Classification.ofGraph f.graph)
        (f.layoutSettings s.layout) visits) := by
  obtain ⟨f, visits, hf, hvisits, rfl⟩ := eq_ofDrawing_of_ofText h
  exact ⟨f, visits, hf, hvisits, collapses_ofDrawing (isConsistent_of_ofText hf) _ _ _⟩

/-- Two boundaries of one account, one of another, and two without a provider. -/
def accountsAndNets : Text :=
  "graph LR\nsubgraph p[\"aws account\"]\na\nend\nsubgraph q[\"amazon account\"]\nb\n".toList ++
    "end\nsubgraph r[\"azure account\"]\nc\nend\nsubgraph vpc\nd\nend\n".toList ++
    "subgraph tenant\ne\nend".toList

theorem collapses_of_accountsAndNets : ∃ (d : Diagram Rat) (f : Flowchart) (visits : List Visit),
    Outcome.ofText accountsAndNets .default false = .ok (.positioned d) ∧
      Flowchart.ofText accountsAndNets = .ok f ∧ f.graph.visits? = some visits ∧
      d.Collapses f.graph (IsBoundaryOf f.graph (Classification.ofGraph f.graph)
        (f.layoutSettings .default) visits) := by
  have hread : ((Flowchart.ofText accountsAndNets).map fun f =>
      (Classification.ofGraph f.graph).hasRoles).toOption = some true := by
    decide +kernel
  obtain ⟨f, hf, hroles⟩ := exists_of_toOption_map hread
  obtain ⟨d, hd⟩ := exists_diagram_of_hasRoles hf hroles (.default : Settings Rat)
  obtain ⟨f', visits, hf', hvisits, hcollapses⟩ := collapses_of_ofText hd
  exact ⟨d, f', visits, hd, hf', hvisits, hcollapses⟩

/-- Two boundaries without a provider. -/
def twoNets : Text := "graph LR\nsubgraph vpc\na\nend\nsubgraph tenant\nb\nend".toList

/-- Boundaries without a provider have one type, however many there are. -/
theorem exists_boundaries_of_one_type : ∃ d : Diagram Rat,
    Outcome.ofText twoNets .default false = .ok (.positioned d) ∧
      ¬((figuresOf .boundary d.figures).map (·.componentType)).Nodup := by
  have hread : ((Flowchart.ofText twoNets).map fun f =>
      let c := Classification.ofGraph f.graph
      decide (c.hasRoles = true ∧ (∀ n ∈ f.graph.nodes, c.role? n.id ≠ some .boundary) ∧
        (∀ x ∈ f.graph.groups, (GroupFacts.of f.graph x).provider? = none) ∧
        ∀ id ∈ ["vpc".toList, "tenant".toList], c.role? id = some .boundary ∧
          (∃ x ∈ f.graph.groups, x.id = id) ∧
          ∃ n ∈ f.graph.nodes, id ∈ f.graph.enclosing n.groupId)).toOption = some true := by
    decide +kernel
  obtain ⟨f, hf, hfacts⟩ := exists_of_toOption_map hread
  obtain ⟨hroles, hnodes, hnone, hnets⟩ := of_decide_eq_true hfacts
  have hg := isConsistent_of_ofText hf
  obtain ⟨visits, hvisits⟩ := hg.exists_visits
  have hcollapses :=
    collapses_ofDrawing hg (f.layoutSettings (.default : LayoutSettings Rat)) visits .drop
  have hd := ofText_of_hasRoles hf hroles hvisits (.default : Settings Rat)
  have hshown (id : Text) (hid : id ∈ ["vpc".toList, "tenant".toList]) :
      ∃ shown ∈ figuresOf .boundary (Diagram.ofDrawing f.graph (Classification.ofGraph f.graph)
        .drop (Drawing.ofVisits f.graph (Classification.ofGraph f.graph)
          (f.layoutSettings (.default : LayoutSettings Rat)) visits)).figures,
        shown.id = id ∧ shown.componentType = "boundary".toList := by
    obtain ⟨hrole, ⟨x, hx, rfl⟩, n, hn, haround⟩ := hnets id hid
    obtain ⟨own, hown⟩ := exists_isBoundaryOf_of_mem_enclosing hg hn hrole haround
    obtain ⟨shown, hshown, hsame, htype⟩ := hcollapses.others own x hx hown
      (GroupFacts.provider?_eq_none_iff.1 (hnone x hx))
    exact ⟨shown, hshown, hsame.trans (hown.id_eq hnodes), htype⟩
  obtain ⟨a, ha, hvpc, hatype⟩ := hshown "vpc".toList (by decide)
  obtain ⟨b, hb, htenant, hbtype⟩ := hshown "tenant".toList (by decide)
  refine ⟨_, hd, fun hnodup => ?_⟩
  have hsame := List.inj_on_of_nodup_map hnodup ha hb (hatype.trans hbtype.symm)
  rw [hsame, htenant] at hvpc
  exact absurd hvpc (by decide)

end Swimlane
