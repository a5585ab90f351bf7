import Swimlane.Proofs.Tidy.Valid

/-!
# Tidying again changes nothing

A valid drawing whose types are canonical is a fixed point of `tidy`: no figure and no edge
has a cause to go, no edge needs another identifier, and no box grows.  What `tidy` returns is
valid, so it is such a fixed point as soon as the canonical types of its figures are canonical
themselves.
-/

namespace Swimlane

variable {α : Type} [Length α]

/-! ## Fixed points -/

/-- A pass over figures that have identifiers, boundaries and types as they should be keeps
them all. -/
theorem passFigures_eq_self {figures : List (Figure α)} (hids : (figures.map (·.id)).Nodup)
    (hboundaries : HasDistinctBoundaries figures)
    (htypes : ∀ f ∈ figures, canonicalType f.componentType = f.componentType) :
    passFigures figures = ⟨figures, [], []⟩ := by
  induction figures using List.reverseRecOn with
  | nil => rfl
  | append_singleton before f ih =>
    have hmem : f ∈ before ++ [f] := List.mem_append_right _ List.mem_cons_self
    have htype : canonicalType f.componentType = f.componentType := htypes f hmem
    rw [List.map_append, List.map_singleton] at hids
    obtain ⟨hbefore, -, hdisjoint⟩ := List.nodup_append.1 hids
    obtain ⟨hdistinct, -, hlast⟩ := List.pairwise_append.1 hboundaries
    have hpass : passFigures before = ⟨before, [], []⟩ :=
      ih hbefore hdistinct fun k hk => htypes k (List.mem_append_left _ hk)
    have hfold : passFigures (before ++ [f]) = (passFigures before).take f := by
      rw [passFigures, List.foldl_append]
      rfl
    rw [hfold, hpass]
    rcases FigurePass.take_cases ⟨before, [], []⟩ f with
      ⟨hid, -⟩ | ⟨-, hboundary, survivor, hsurvivor, hsame, -⟩ | ⟨-, -, htake⟩
    · exact absurd rfl (hdisjoint _ hid _ List.mem_cons_self)
    · rw [htype] at hboundary hsame
      exact absurd hsame (hlast survivor hsurvivor f List.mem_cons_self (hsame ▸ hboundary))
    · rw [htake, htype]

/-- A pass over edges that are valid for figures of which none went keeps them all. -/
theorem foldl_take_eq_self (policy : EdgePolicy) {figureIds : List Text} {edges : List Edge}
    (hids : (edges.map (·.id)).Nodup) (hpairs : (edges.map fun e => (e.source, e.target)).Nodup)
    (hends : ∀ e ∈ edges, e.source ∈ figureIds ∧ e.target ∈ figureIds)
    (hloops : ∀ e ∈ edges, e.source ≠ e.target) :
    edges.foldl (EdgePass.take policy figureIds []) ⟨[], []⟩ = ⟨edges, []⟩ := by
  induction edges using List.reverseRecOn with
  | nil => rfl
  | append_singleton before e ih =>
    have hmem : e ∈ before ++ [e] := List.mem_append_right _ List.mem_cons_self
    rw [List.map_append, List.map_singleton] at hids hpairs
    obtain ⟨hbefore, -, hnew⟩ := List.nodup_append.1 hids
    obtain ⟨hapart, -, hunseen⟩ := List.nodup_append.1 hpairs
    have hfold := ih hbefore hapart (fun k hk => hends k (List.mem_append_left _ hk))
      fun k hk => hloops k (List.mem_append_left _ hk)
    have hfresh : e.id ∉ before.map (·.id) := fun hid => hnew _ hid _ List.mem_cons_self rfl
    have hstands (id : Text) : StandsFor policy [] id id := ⟨rfl, fun _ => rfl⟩
    have hok : newEnds policy figureIds [] (before.map fun k => (k.source, k.target)) e =
        .ok (e.source, e.target) :=
      newEnds_eq_ok.2 ⟨hstands _, hstands _, (hends e hmem).1, (hends e hmem).2, hloops e hmem,
        fun hpair => hunseen _ hpair _ List.mem_cons_self rfl⟩
    rw [List.foldl_append, hfold, List.foldl_cons, List.foldl_nil, EdgePass.take, hok]
    simp only [freshName_of_not_mem hfresh]

/-- A valid drawing with canonical types is a fixed point. -/
theorem Tidied.IsTidy.tidy_eq_self {t : Tidied α} (h : t.IsTidy)
    (htypes : ∀ f ∈ t.figures, canonicalType f.componentType = f.componentType)
    (policy : EdgePolicy) : tidy policy t.figures t.edges = ⟨t.figures, t.edges, []⟩ := by
  simp only [tidy, passFigures_eq_self h.figure_ids h.boundaries htypes,
    foldl_take_eq_self policy h.edge_ids h.pairs h.ends h.no_loops, List.append_nil]

/-! ## Tidying twice -/

/-- The types of a tidied drawing are canonical, if making types canonical twice is no
different from doing it once. -/
theorem canonicalType_of_mem_tidy {policy : EdgePolicy} {figures : List (Figure α)}
    {edges : List Edge} (htypes : ∀ f ∈ figures,
      canonicalType (canonicalType f.componentType) = canonicalType f.componentType) :
    ∀ k ∈ (tidy policy figures edges).figures,
      canonicalType k.componentType = k.componentType := by
  intro k hk
  obtain ⟨f, hf, box, rfl⟩ :=
    exists_of_mem_of_sublistForall₂ (accountsFor_tidy policy figures edges).figure_order hk
  exact htypes f hf

/-- Tidying a drawing that was tidied under any policy returns it as it is, with nothing
gone. -/
theorem tidy_tidy (first second : EdgePolicy) {figures : List (Figure α)} (edges : List Edge)
    (htypes : ∀ f ∈ figures,
      canonicalType (canonicalType f.componentType) = canonicalType f.componentType) :
    tidy second (tidy first figures edges).figures (tidy first figures edges).edges =
      ⟨(tidy first figures edges).figures, (tidy first figures edges).edges, []⟩ :=
  (isTidy_tidy first figures edges).tidy_eq_self (canonicalType_of_mem_tidy htypes) second

/-- A figure of which only the identifier and the type matter. -/
def plainFigure (id type : String) : Figure Rat :=
  ⟨id.toList, ⟨0, 0, 1, 1⟩, [], type.toList, none, none, none, none, none⟩

/-- A node that is there twice, and two accounts of one provider. -/
def repeatedFigures : List (Figure Rat) :=
  [plainFigure "p" "AWS account", plainFigure "a" "db", plainFigure "a" "svc",
    plainFigure "q" "amazon-boundary", plainFigure "b" ""]

/-- Edges of which two have one identifier, and a third the numbered form of it. -/
def repeatedEdges : List Edge :=
  [⟨"e0".toList, "a".toList, "b".toList, none⟩, ⟨"e0".toList, "b".toList, "q".toList, none⟩,
    ⟨"e0_2".toList, "q".toList, "a".toList, none⟩, ⟨"e1".toList, "p".toList, "q".toList, none⟩]

theorem tidy_tidy_of_repeats : (∀ f ∈ repeatedFigures,
      canonicalType (canonicalType f.componentType) = canonicalType f.componentType) ∧
    tidy .drop (tidy .remap repeatedFigures repeatedEdges).figures
        (tidy .remap repeatedFigures repeatedEdges).edges =
      ⟨(tidy .remap repeatedFigures repeatedEdges).figures,
        (tidy .remap repeatedFigures repeatedEdges).edges, []⟩ :=
  ⟨by decide +kernel, tidy_tidy .remap .drop repeatedEdges (by decide +kernel)⟩

end Swimlane
