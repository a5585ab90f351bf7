import Swimlane.Proofs.Tidy

/-!
# A tidied drawing is valid and accounted for

Whatever figures and edges come in, even with identifiers that repeat or mean nothing, what
comes out of `tidy` satisfies `Tidied.IsTidy`: identifiers and pairs of ends are unique, edges
join different figures that are there, and there is one account boundary a type.  And nothing
goes unrecorded: `Tidied.AccountsFor` says that what is left stands in its old order and that
the causes make up the rest.  Both passes carry these facts as invariants over what they have
seen.
-/

namespace Swimlane

variable {α : Type}

/-! ## What is left -/

/-- A figure that stays has its type made canonical, and its box may have grown. -/
def Figure.Remains (kept f : Figure α) : Prop :=
  ∃ box, kept = { f with componentType := canonicalType f.componentType, box }

/-- The end of an edge after the boundaries with `replaced` identifiers went: a boundary that
stayed stands for one that went, unless its edges are dropped. -/
def StandsFor (policy : EdgePolicy) (replaced : List (Text × Text)) (new old : Text) : Prop :=
  new = (replaced.lookup old).getD old ∧ (policy = .drop → replaced.lookup old = none)

/-- An edge that stays has its label, its identifier up to a number, and ends that stand for
its own. -/
structure Edge.Remains (policy : EdgePolicy) (replaced : List (Text × Text)) (kept e : Edge) :
    Prop where
  label : kept.label = e.label
  id : kept.id = e.id ∨ ∃ k, kept.id = numbered e.id k
  source : StandsFor policy replaced kept.source e.source
  target : StandsFor policy replaced kept.target e.target

/-- No two boundaries of one account are among figures with canonical types. -/
def HasDistinctBoundaries (figures : List (Figure α)) : Prop :=
  figures.Pairwise fun a b =>
    isAccountBoundary a.componentType = true → a.componentType ≠ b.componentType

/-- A drawing that can be relied on. -/
structure Tidied.IsTidy (t : Tidied α) : Prop where
  figure_ids : (t.figures.map (·.id)).Nodup
  boundaries : HasDistinctBoundaries t.figures
  edge_ids : (t.edges.map (·.id)).Nodup
  /-- No two edges join the same figures in the same direction. -/
  pairs : (t.edges.map fun e => (e.source, e.target)).Nodup
  ends : ∀ e ∈ t.edges, e.source ∈ t.figures.map (·.id) ∧ e.target ∈ t.figures.map (·.id)
  no_loops : ∀ e ∈ t.edges, e.source ≠ e.target

/-- Each boundary that went has one of its own type among `kept` in its place. -/
def HasStandIns (replaced : List (Text × Text)) (figures kept : List (Figure α)) : Prop :=
  ∀ entry ∈ replaced, ∃ f ∈ figures, f.id = entry.1 ∧
    isAccountBoundary (canonicalType f.componentType) = true ∧
    ∃ k ∈ kept, k.id = entry.2 ∧ k.componentType = canonicalType f.componentType

/-- What is left of figures and edges, and the causes of what went. -/
structure Tidied.AccountsFor (t : Tidied α) (policy : EdgePolicy) (replaced : List (Text × Text))
    (figures : List (Figure α)) (edges : List Edge) : Prop where
  /-- The figures that stay are in their order. -/
  figure_order : List.SublistForall₂ Figure.Remains t.figures figures
  /-- The edges that stay are in their order. -/
  edge_order : List.SublistForall₂ (Edge.Remains policy replaced) t.edges edges
  stand_ins : HasStandIns replaced figures t.figures
  figure_count : figures.length =
    t.figures.length + t.drops.count .duplicateNode + t.drops.count .duplicateBoundary
  edge_count : edges.length = t.edges.length + t.drops.count .boundaryEdge +
    t.drops.count .danglingEdge + t.drops.count .selfLoop + t.drops.count .duplicateEdge

/-! ## Figures -/

/-- The causes for which figures go. -/
def figureCauses : List DropCause := [.duplicateNode, .duplicateBoundary]

/-- What holds of a pass over any figures. -/
structure FigurePass.Holds (pass : FigurePass α) (seen : List (Figure α)) : Prop where
  ids : (pass.kept.map (·.id)).Nodup
  boundaries : HasDistinctBoundaries pass.kept
  order : List.SublistForall₂ Figure.Remains pass.kept seen
  stand_ins : HasStandIns pass.replaced seen pass.kept
  count : seen.length = pass.kept.length + pass.drops.length
  causes : ∀ cause ∈ pass.drops, cause ∈ figureCauses

/-- Whether boundaries are distinct depends on the types alone. -/
theorem hasDistinctBoundaries_iff {figures : List (Figure α)} : HasDistinctBoundaries figures ↔
    (figures.map (·.componentType)).Pairwise fun a b => isAccountBoundary a = true → a ≠ b := by
  rw [HasDistinctBoundaries, List.pairwise_map]

/-- Boundaries that are replaced stay so while more figures are seen and those that stayed keep
their identifiers and types. -/
theorem HasStandIns.mono {replaced : List (Text × Text)} {figures more kept kept' : List (Figure α)}
    (h : HasStandIns replaced figures kept) (hsub : figures ⊆ more)
    (hkept : ∀ k ∈ kept, ∃ k' ∈ kept', k'.id = k.id ∧ k'.componentType = k.componentType) :
    HasStandIns replaced more kept' := by
  intro entry hentry
  obtain ⟨f, hf, hid, hboundary, k, hk, hkid, htype⟩ := h entry hentry
  obtain ⟨k', hk', hsameId, hsameType⟩ := hkept k hk
  exact ⟨f, hsub hf, hid, hboundary, k', hk', hsameId.trans hkid, hsameType.trans htype⟩

section Figures

variable {pass : FigurePass α} {seen : List (Figure α)} {f : Figure α}

/-- A figure whose identifier is taken goes. -/
theorem FigurePass.Holds.drop (h : pass.Holds seen) (f : Figure α) :
    ({ pass with drops := pass.drops ++ [.duplicateNode] } : FigurePass α).Holds (seen ++ [f]) where
  ids := h.ids
  boundaries := h.boundaries
  order := sublistForall₂_append_right h.order [f]
  stand_ins := h.stand_ins.mono (List.subset_append_left _ _) fun k hk => ⟨k, hk, rfl, rfl⟩
  count := by
    simp only [List.length_append, List.length_singleton, h.count]
    omega
  causes := List.forall_mem_append.2 ⟨h.causes, List.forall_mem_singleton.2 (by decide)⟩

/-- A figure stays if its identifier is new and there is no boundary of its type. -/
theorem FigurePass.Holds.keep (h : pass.Holds seen) (hid : f.id ∉ pass.kept.map (·.id))
    (hnew : isAccountBoundary (canonicalType f.componentType) = true →
      canonicalType f.componentType ∉ pass.kept.map (·.componentType)) :
    ({ pass with
        kept := pass.kept ++ [{ f with componentType := canonicalType f.componentType }] } :
      FigurePass α).Holds (seen ++ [f]) where
  ids := nodup_map_append_singleton h.ids hid
  boundaries := by
    refine List.pairwise_append.2 ⟨h.boundaries, List.pairwise_singleton _ _, ?_⟩
    intro k hk last hlast hboundary hsame
    rw [List.mem_singleton.1 hlast] at hsame
    replace hsame : k.componentType = canonicalType f.componentType := hsame
    exact hnew (hsame ▸ hboundary) (List.mem_map.2 ⟨k, hk, hsame⟩)
  order := sublistForall₂_concat h.order ⟨f.box, rfl⟩
  stand_ins := h.stand_ins.mono (List.subset_append_left _ _) fun k hk =>
    ⟨k, List.mem_append_left _ hk, rfl, rfl⟩
  count := by
    simp only [List.length_append, List.length_singleton, h.count]
    omega
  causes := h.causes

variable [Length α]

theorem Figure.Remains.absorb {kept f : Figure α} (h : kept.Remains f) (other : Figure α) :
    (kept.absorb other).Remains f := by
  obtain ⟨box, rfl⟩ := h
  exact ⟨_, rfl⟩

/-- A figure is found again after growing. -/
theorem exists_mem_grown {kept : List (Figure α)} {k : Figure α} (hk : k ∈ kept) (type : Text)
    (f : Figure α) :
    ∃ k' ∈ grown kept type f, k'.id = k.id ∧ k'.componentType = k.componentType := by
  refine ⟨_, List.mem_map.2 ⟨k, hk, rfl⟩, ?_, ?_⟩
  · split <;> rfl
  · split <;> rfl

/-- A boundary goes where there is one of its type, which grows. -/
theorem FigurePass.Holds.grow (h : pass.Holds seen)
    (hboundary : isAccountBoundary (canonicalType f.componentType) = true) {survivor : Figure α}
    (hsurvivor : survivor ∈ pass.kept)
    (htype : survivor.componentType = canonicalType f.componentType) :
    (⟨grown pass.kept (canonicalType f.componentType) f, (f.id, survivor.id) :: pass.replaced,
      pass.drops ++ [.duplicateBoundary]⟩ : FigurePass α).Holds (seen ++ [f]) where
  ids := by
    rw [map_grown (·.id) (fun _ _ => rfl)]
    exact h.ids
  boundaries := by
    rw [hasDistinctBoundaries_iff, map_grown (·.componentType) (fun _ _ => rfl),
      ← hasDistinctBoundaries_iff]
    exact h.boundaries
  order := by
    refine sublistForall₂_append_right (sublistForall₂_map_left (fun k g hk => ?_) h.order) [f]
    split
    · exact hk.absorb f
    · exact hk
  stand_ins := by
    intro entry hentry
    rcases List.mem_cons.1 hentry with rfl | hbefore
    · obtain ⟨k, hk, hkid, hktype⟩ := exists_mem_grown hsurvivor (canonicalType f.componentType) f
      exact ⟨f, List.mem_append_right _ List.mem_cons_self, rfl, hboundary, k, hk, hkid,
        hktype.trans htype⟩
    · exact h.stand_ins.mono (List.subset_append_left _ _)
        (fun k hk => exists_mem_grown hk _ f) entry hbefore
  count := by
    simp only [grown, List.length_append, List.length_singleton, List.length_map, h.count]
    omega
  causes := List.forall_mem_append.2 ⟨h.causes, List.forall_mem_singleton.2 (by decide)⟩

/-- A pass over any figures goes on to hold what it must. -/
theorem FigurePass.Holds.take (h : pass.Holds seen) : (pass.take f).Holds (seen ++ [f]) := by
  rcases pass.take_cases f with ⟨-, htake⟩ | ⟨-, hboundary, survivor, hsurvivor, htype, htake⟩ |
    ⟨hid, hnew, htake⟩
  · rw [htake]
    exact h.drop f
  · rw [htake]
    exact h.grow hboundary hsurvivor htype
  · rw [htake]
    exact h.keep hid hnew

/-- What the pass over any figures holds in the end. -/
theorem passFigures_holds (figures : List (Figure α)) : (passFigures figures).Holds figures := by
  refine foldl_of_seen ?_ (fun pass seen f h => h.take) figures
  exact ⟨List.nodup_nil, List.Pairwise.nil, .nil, fun _ h => absurd h List.not_mem_nil, rfl,
    fun _ h => absurd h List.not_mem_nil⟩

end Figures

/-! ## Edges -/

/-- An edge stays if its ends, after boundaries went, are different figures that stayed and
that no edge before joins. -/
theorem newEnds_eq_ok {policy : EdgePolicy} {ids : List Text} {replaced joined : List (Text × Text)}
    {e : Edge} {source target : Text} :
    newEnds policy ids replaced joined e = .ok (source, target) ↔
      StandsFor policy replaced source e.source ∧ StandsFor policy replaced target e.target ∧
        source ∈ ids ∧ target ∈ ids ∧ source ≠ target ∧ (source, target) ∉ joined := by
  have huntouched : ¬(policy = .drop && ((replaced.lookup e.source).isSome ||
      (replaced.lookup e.target).isSome)) = true ↔
      (policy = .drop → replaced.lookup e.source = none) ∧
        (policy = .drop → replaced.lookup e.target = none) := by
    simp only [Bool.and_eq_true, Bool.or_eq_true, decide_eq_true_eq, not_and, not_or,
      Bool.not_eq_true, Option.isSome_eq_false_iff, Option.isNone_iff_eq_none, imp_and]
  have hknown {s t : Text} : ¬(!ids.contains s || !ids.contains t) = true ↔ s ∈ ids ∧ t ∈ ids := by
    simp
  have hunseen {s t : Text} : ¬joined.contains (s, t) = true ↔ (s, t) ∉ joined := by simp
  constructor
  · intro h
    simp only [newEnds] at h
    split at h
    · cases h
    · next htouched =>
      split at h
      · cases h
      · next hids =>
        split at h
        · cases h
        · next hloop =>
          split at h
          · cases h
          · next hjoined =>
            cases h
            exact ⟨⟨rfl, (huntouched.1 htouched).1⟩, ⟨rfl, (huntouched.1 htouched).2⟩,
              (hknown.1 hids).1, (hknown.1 hids).2, hloop, hunseen.1 hjoined⟩
  · rintro ⟨⟨rfl, hsource⟩, ⟨rfl, htarget⟩, hs, ht, hloop, hnew⟩
    simp only [newEnds]
    rw [if_neg (huntouched.2 ⟨hsource, htarget⟩), if_neg (hknown.2 ⟨hs, ht⟩), if_neg hloop,
      if_neg (hunseen.2 hnew)]

/-- What holds of a pass over any edges. -/
structure EdgePass.Holds (policy : EdgePolicy) (figureIds : List Text)
    (replaced : List (Text × Text)) (pass : EdgePass) (seen : List Edge) : Prop where
  ids : (pass.kept.map (·.id)).Nodup
  pairs : (pass.kept.map fun e => (e.source, e.target)).Nodup
  ends : ∀ e ∈ pass.kept, e.source ∈ figureIds ∧ e.target ∈ figureIds
  no_loops : ∀ e ∈ pass.kept, e.source ≠ e.target
  order : List.SublistForall₂ (Edge.Remains policy replaced) pass.kept seen
  count : seen.length = pass.kept.length + pass.drops.length
  causes : ∀ cause ∈ pass.drops, cause ∈ edgeCauses

/-- A pass over any edges goes on to hold what it must. -/
theorem EdgePass.Holds.take {pass : EdgePass} {policy : EdgePolicy} {figureIds : List Text}
    {replaced : List (Text × Text)} {seen : List Edge} {e : Edge}
    (h : pass.Holds policy figureIds replaced seen) :
    (pass.take policy figureIds replaced e).Holds policy figureIds replaced (seen ++ [e]) := by
  rcases pass.take_cases policy figureIds replaced e with ⟨cause, hcause, htake⟩ |
    ⟨source, target, hends, htake⟩
  · rw [htake]
    refine ⟨h.ids, h.pairs, h.ends, h.no_loops, sublistForall₂_append_right h.order [e], ?_,
      List.forall_mem_append.2 ⟨h.causes, List.forall_mem_singleton.2 hcause⟩⟩
    simp only [List.length_append, List.length_singleton, h.count]
    omega
  · rw [htake]
    obtain ⟨hsource, htarget, hsourceId, htargetId, hloop, hnew⟩ := newEnds_eq_ok.1 hends
    refine ⟨nodup_map_append_singleton h.ids (freshName_not_mem _ _),
      nodup_map_append_singleton h.pairs hnew,
      List.forall_mem_append.2 ⟨h.ends, List.forall_mem_singleton.2 ⟨hsourceId, htargetId⟩⟩,
      List.forall_mem_append.2 ⟨h.no_loops, List.forall_mem_singleton.2 hloop⟩,
      sublistForall₂_concat h.order ⟨rfl, freshName_cases _ _, hsource, htarget⟩, ?_, h.causes⟩
    simp only [List.length_append, List.length_singleton, h.count]
    omega

/-- A pass over edges has kept identifiers, too. -/
def EdgePass.KeepsIds (policy : EdgePolicy) (replaced : List (Text × Text)) (pass : EdgePass)
    (seen : List Edge) : Prop :=
  List.SublistForall₂ (fun kept e => kept.id = e.id ∧ kept.Remains policy replaced e) pass.kept seen

/-- An edge whose identifier no edge before it has keeps it. -/
theorem EdgePass.KeepsIds.take {policy : EdgePolicy} {ids : List Text}
    {replaced : List (Text × Text)} {pass : EdgePass} {seen : List Edge} {e : Edge}
    (h : pass.KeepsIds policy replaced seen) (hid : e.id ∉ seen.map (·.id)) :
    (pass.take policy ids replaced e).KeepsIds policy replaced (seen ++ [e]) := by
  have hnew : e.id ∉ pass.kept.map (·.id) := by
    intro hmem
    obtain ⟨k, hk, hkid⟩ := List.mem_map.1 hmem
    obtain ⟨first, hfirst, hsame, -⟩ := exists_of_mem_of_sublistForall₂ h hk
    exact hid (List.mem_map.2 ⟨first, hfirst, hsame.symm.trans hkid⟩)
  rcases pass.take_cases policy ids replaced e with ⟨cause, -, htake⟩ |
    ⟨source, target, hends, htake⟩
  · rw [htake]
    exact sublistForall₂_append_right h [e]
  · obtain ⟨hsource, htarget, -⟩ := newEnds_eq_ok.1 hends
    rw [htake, freshName_of_not_mem hnew]
    exact sublistForall₂_concat h ⟨rfl, rfl, Or.inl rfl, hsource, htarget⟩

section Drawings

variable [Length α]

/-- What the pass over any edges of a drawing holds in the end. -/
theorem tidyEdges_holds (policy : EdgePolicy) (figures : List (Figure α)) (edges : List Edge) :
    (tidyEdges policy figures edges).Holds policy ((passFigures figures).kept.map (·.id))
      (passFigures figures).replaced edges := by
  refine foldl_of_seen ?_ (fun pass seen e h => h.take) edges
  exact ⟨List.nodup_nil, List.nodup_nil, fun _ h => absurd h List.not_mem_nil,
    fun _ h => absurd h List.not_mem_nil, .nil, rfl, fun _ h => absurd h List.not_mem_nil⟩

/-- Edges with different identifiers keep them. -/
theorem tidyEdges_keepsIds (policy : EdgePolicy) (figures : List (Figure α)) {edges : List Edge}
    (hids : (edges.map (·.id)).Nodup) :
    (tidyEdges policy figures edges).KeepsIds policy (passFigures figures).replaced edges := by
  refine foldl_of_nodup_keys ?_ hids fun pass seen h e _ hid => h.take hid
  exact .nil

/-! ## Drawings -/

/-- The causes of figures are recorded by the pass over figures alone. -/
theorem count_drops_of_figures (policy : EdgePolicy) (figures : List (Figure α))
    (edges : List Edge) {cause : DropCause} (hcause : cause ∉ edgeCauses) :
    (tidy policy figures edges).drops.count cause = (passFigures figures).drops.count cause := by
  have hnone : (tidyEdges policy figures edges).drops.count cause = 0 :=
    List.count_eq_zero.2 fun hmem => hcause ((tidyEdges_holds policy figures edges).causes _ hmem)
  rw [count_drops, hnone, Nat.add_zero]

/-- The causes of edges are recorded by the pass over edges alone. -/
theorem count_drops_of_edges (policy : EdgePolicy) (figures : List (Figure α)) (edges : List Edge)
    {cause : DropCause} (hcause : cause ∉ figureCauses) :
    (tidy policy figures edges).drops.count cause =
      (tidyEdges policy figures edges).drops.count cause := by
  have hnone : (passFigures figures).drops.count cause = 0 :=
    List.count_eq_zero.2 fun hmem => hcause ((passFigures_holds figures).causes _ hmem)
  rw [count_drops, hnone, Nat.zero_add]

/-- A tidied drawing is valid, whatever it was before. -/
theorem isTidy_tidy (policy : EdgePolicy) (figures : List (Figure α)) (edges : List Edge) :
    (tidy policy figures edges).IsTidy where
  figure_ids := (passFigures_holds figures).ids
  boundaries := (passFigures_holds figures).boundaries
  edge_ids := (tidyEdges_holds policy figures edges).ids
  pairs := (tidyEdges_holds policy figures edges).pairs
  ends := (tidyEdges_holds policy figures edges).ends
  no_loops := (tidyEdges_holds policy figures edges).no_loops

/-- What is left of any drawing stands in its old order, and the causes make up the rest. -/
theorem accountsFor_tidy (policy : EdgePolicy) (figures : List (Figure α)) (edges : List Edge) :
    (tidy policy figures edges).AccountsFor policy (passFigures figures).replaced figures
      edges where
  figure_order := (passFigures_holds figures).order
  edge_order := (tidyEdges_holds policy figures edges).order
  stand_ins := (passFigures_holds figures).stand_ins
  figure_count := by
    have hfigures := passFigures_holds figures
    rw [count_drops_of_figures policy figures edges (by decide),
      count_drops_of_figures policy figures edges (by decide), hfigures.count,
      length_eq_sum_counts (by decide) hfigures.causes]
    exact (Nat.add_assoc _ _ _).symm
  edge_count := by
    have hedges := tidyEdges_holds policy figures edges
    rw [count_drops_of_edges policy figures edges (by decide),
      count_drops_of_edges policy figures edges (by decide),
      count_drops_of_edges policy figures edges (by decide),
      count_drops_of_edges policy figures edges (by decide), hedges.count,
      length_eq_counts hedges.causes]
    simp only [Nat.add_assoc]
    rfl

/-- Whatever comes in, what is left is a valid drawing and all the rest is accounted for. -/
theorem tidy_valid_and_accounted (policy : EdgePolicy) (figures : List (Figure α))
    (edges : List Edge) : (tidy policy figures edges).IsTidy ∧
      (tidy policy figures edges).AccountsFor policy (passFigures figures).replaced figures edges :=
  ⟨isTidy_tidy policy figures edges, accountsFor_tidy policy figures edges⟩

end Drawings

end Swimlane
