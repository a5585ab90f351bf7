import Swimlane.Proofs.Flowchart.Graph
import Swimlane.Proofs.Layout.Rank
import Swimlane.Proofs.Tidy.Fixed

/-!
# Edges that are attached to the boundary that stays

Under one policy the edges of a boundary that goes are dropped, under the other they are attached
to the one of its type that stays.  If figures have different identifiers, the second is the first
after every end has been set to what is left of it (`tidy_remap`).  Which pairs of figures are
joined in the end is known without a look at the order of the edges (`mem_pairs_tidyEdges`), so
whatever is joined under the first policy is joined under the second, too.
-/

namespace Swimlane

variable {α : Type}

/-! ## What is left of an end -/

/-- The identifier of what is left of a figure: its own if it stays, and otherwise that of the
boundary of its type that does. -/
def leftId (figures kept : List (Figure α)) (id : Text) : Text :=
  if (kept.map (·.id)).contains id then id
  else (((figures.find? (·.id = id)).bind fun f =>
    survivor? kept (canonicalType f.componentType)).map (·.id)).getD id

/-- The edge between what is left of its ends. -/
def Edge.retarget (figures kept : List (Figure α)) (e : Edge) : Edge :=
  { e with source := leftId figures kept e.source, target := leftId figures kept e.target }

/-- Where boundaries differ in type, the one that stays is the only one of its type. -/
theorem survivor?_eq_of_mem {kept : List (Figure α)} (hdistinct : HasDistinctBoundaries kept)
    {k : Figure α} (hk : k ∈ kept) (hboundary : isAccountBoundary k.componentType = true) :
    survivor? kept k.componentType = some k := by
  cases hfound : survivor? kept k.componentType with
  | none =>
    exact absurd (List.mem_map.2 ⟨k, hk, rfl⟩) (not_mem_of_survivor?_eq_none hfound hboundary)
  | some other =>
    obtain ⟨-, hother, htype⟩ := survivor?_eq_some hfound
    by_contra hne
    have hsymm : Std.Symm fun a b : Figure α =>
        isAccountBoundary a.componentType = true → a.componentType ≠ b.componentType :=
      ⟨fun a b hab hb heq => hab (heq ▸ hb) heq.symm⟩
    have hapart := List.Pairwise.forall hdistinct hother hk fun heq => hne (heq ▸ rfl)
    exact hapart (htype ▸ hboundary) htype

section Figures

variable [Length α] {figures : List (Figure α)}

/-- Each of the figures that a pass has seen stays or is replaced, and none is both. -/
def FigurePass.Divides (pass : FigurePass α) (seen : List (Figure α)) : Prop :=
  (pass.kept.map (·.id) ++ pass.replaced.map Prod.fst).Perm (seen.map (·.id))

theorem FigurePass.Divides.take {pass : FigurePass α} {seen : List (Figure α)} {f : Figure α}
    (h : pass.Divides seen) (hid : f.id ∉ seen.map (·.id)) :
    (pass.take f).Divides (seen ++ [f]) := by
  rw [Divides, List.map_append, List.map_singleton]
  rcases pass.take_cases f with ⟨htaken, -⟩ | ⟨-, -, survivor, -, -, htake⟩ | ⟨-, -, htake⟩
  · exact absurd (h.subset (List.mem_append_left _ htaken)) hid
  · -- the new key stands in front of the replaced ones, and so between the two parts
    rw [htake, map_grown (·.id) fun _ _ => rfl, List.map_cons]
    exact (List.perm_middle.trans (List.perm_append_singleton _ _).symm).trans (h.append_right _)
  · rw [htake, List.map_append, List.map_singleton, List.append_assoc]
    refine List.Perm.trans ?_ (h.append_right _)
    rw [List.append_assoc]
    exact List.perm_append_comm.append_left _

/-- Of figures with different identifiers each stays or is replaced, and none is both. -/
theorem passFigures_divides (hids : (figures.map (·.id)).Nodup) :
    (passFigures figures).Divides figures := by
  refine foldl_of_nodup_keys ?_ hids fun pass seen h f _ hid => h.take hid
  exact List.Perm.refl []

/-- A figure that stays is not replaced. -/
theorem lookup_replaced_of_mem_kept (hids : (figures.map (·.id)).Nodup) {id : Text}
    (hid : id ∈ (passFigures figures).kept.map (·.id)) :
    (passFigures figures).replaced.lookup id = none := by
  have hnodup := (passFigures_divides hids).nodup_iff.2 hids
  cases hfound : (passFigures figures).replaced.lookup id with
  | none => rfl
  | some new =>
    have hkey := List.mem_map_of_mem (f := Prod.fst) (mem_of_lookup hfound)
    exact absurd rfl ((List.nodup_append.1 hnodup).2.2 id hid id hkey)

/-- A figure that is not replaced stays. -/
theorem mem_kept_of_lookup_eq_none (hids : (figures.map (·.id)).Nodup) {id : Text}
    (hid : id ∈ figures.map (·.id)) (hnone : (passFigures figures).replaced.lookup id = none) :
    id ∈ (passFigures figures).kept.map (·.id) := by
  refine (List.mem_append.1 ((passFigures_divides hids).mem_iff.2 hid)).resolve_right ?_
  intro hkey
  obtain ⟨entry, hentry, rfl⟩ := List.mem_map.1 hkey
  exact bne_iff_ne.1 (List.lookup_eq_none_iff.1 hnone entry hentry) rfl

/-- What stands for a figure is what is left of it. -/
theorem getD_lookup_replaced (hids : (figures.map (·.id)).Nodup) (id : Text) :
    ((passFigures figures).replaced.lookup id).getD id =
      leftId figures (passFigures figures).kept id := by
  by_cases hkept : id ∈ (passFigures figures).kept.map (·.id)
  · rw [leftId, if_pos (List.contains_iff_mem.2 hkept), lookup_replaced_of_mem_kept hids hkept]
    rfl
  rw [leftId, if_neg (mt List.contains_iff_mem.1 hkept)]
  cases hfound : (passFigures figures).replaced.lookup id with
  | some new =>
    have hpass := passFigures_holds figures
    obtain ⟨f, hf, rfl, hboundary, k, hk, rfl, htype⟩ :=
      hpass.stand_ins _ (mem_of_lookup hfound)
    rw [find?_of_mem hids hf, Option.bind_some, ← htype,
      survivor?_eq_of_mem hpass.boundaries hk (htype ▸ hboundary)]
    rfl
  | none =>
    have hunknown : figures.find? (·.id = id) = none := by
      refine List.find?_eq_none.2 fun f hf hid => hkept ?_
      obtain rfl : f.id = id := by simpa using hid
      exact mem_kept_of_lookup_eq_none hids (List.mem_map_of_mem hf) hfound
    rw [hunknown]
    rfl

/-- What stands for a figure stays. -/
theorem lookup_replaced_leftId (hids : (figures.map (·.id)).Nodup) (id : Text) :
    (passFigures figures).replaced.lookup (leftId figures (passFigures figures).kept id) =
      none := by
  rw [← getD_lookup_replaced hids]
  cases hfound : (passFigures figures).replaced.lookup id with
  | none => exact hfound
  | some new =>
    obtain ⟨f, -, -, -, k, hk, hkid, -⟩ :=
      (passFigures_holds figures).stand_ins _ (mem_of_lookup hfound)
    exact lookup_replaced_of_mem_kept hids (List.mem_map.2 ⟨k, hk, hkid⟩)

end Figures

/-! ## Edges -/

/-- To attach an edge is to take the edge between what stands for its ends, if nothing else stands
for these. -/
theorem newEnds_remap {ids : List Text} {replaced joined : List (Text × Text)} {e left : Edge}
    (hsource : (replaced.lookup e.source).getD e.source = left.source)
    (htarget : (replaced.lookup e.target).getD e.target = left.target)
    (hsourceStays : replaced.lookup left.source = none)
    (htargetStays : replaced.lookup left.target = none) :
    newEnds .remap ids replaced joined e = newEnds .drop ids replaced joined left := by
  simp only [newEnds, hsource, htarget, hsourceStays, htargetStays]
  rfl

/-- The ends of the edges that stay so far. -/
def EdgePass.pairs (pass : EdgePass) : List (Text × Text) :=
  pass.kept.map fun k => (k.source, k.target)

variable {policy : EdgePolicy} {ids : List Text} {replaced : List (Text × Text)} {pass : EdgePass}
  {e : Edge}

/-- What is joined stays joined. -/
theorem EdgePass.pairs_subset_take : pass.pairs ⊆ (pass.take policy ids replaced e).pairs := by
  rcases pass.take_cases policy ids replaced e with ⟨cause, -, htake⟩ | ⟨source, target, -, htake⟩
  · rw [htake]
    exact List.Subset.refl _
  · rw [htake, pairs, pairs, List.map_append]
    exact List.subset_append_left _ _

/-- What stands for the ends of an edge is joined once the edge has been taken, if it stays. -/
theorem EdgePass.mem_pairs_take {source target : Text}
    (hsource : StandsFor policy replaced source e.source)
    (htarget : StandsFor policy replaced target e.target) (hsourceId : source ∈ ids)
    (htargetId : target ∈ ids) (hloop : source ≠ target) :
    (source, target) ∈ (pass.take policy ids replaced e).pairs := by
  by_cases hjoined : (source, target) ∈ pass.pairs
  · exact pairs_subset_take hjoined
  · have hends := newEnds_eq_ok.2 ⟨hsource, htarget, hsourceId, htargetId, hloop, hjoined⟩
    rw [pairs] at hends
    rw [take, hends, pairs, List.map_append]
    exact List.mem_append_right _ List.mem_cons_self

/-- A pass has joined what stands for the ends of the edges that it has seen, if it stays. -/
def EdgePass.JoinsAll (policy : EdgePolicy) (ids : List Text) (replaced : List (Text × Text))
    (pass : EdgePass) (seen : List Edge) : Prop :=
  ∀ e ∈ seen, ∀ source ∈ ids, ∀ target ∈ ids, StandsFor policy replaced source e.source →
    StandsFor policy replaced target e.target → source ≠ target → (source, target) ∈ pass.pairs

theorem EdgePass.JoinsAll.take {seen : List Edge} (h : pass.JoinsAll policy ids replaced seen) :
    (pass.take policy ids replaced e).JoinsAll policy ids replaced (seen ++ [e]) := by
  refine List.forall_mem_append.2 ⟨?_, List.forall_mem_singleton.2 ?_⟩
  · intro before hbefore source hsourceId target htargetId hsource htarget hloop
    exact pairs_subset_take (h before hbefore source hsourceId target htargetId hsource htarget hloop)
  · intro source hsourceId target htargetId hsource htarget hloop
    exact mem_pairs_take hsource htarget hsourceId htargetId hloop

section Drawings

variable [Length α] {figures : List (Figure α)} {edges : List Edge}

/-- The pass over all edges has joined what stands for their ends. -/
theorem tidyEdges_joinsAll : (tidyEdges policy figures edges).JoinsAll policy
    ((passFigures figures).kept.map (·.id)) (passFigures figures).replaced edges := by
  refine foldl_of_seen ?_ (fun pass seen e h => h.take) edges
  exact fun _ h => absurd h List.not_mem_nil

/-- Two figures are joined in the end exactly if they stay and stand for the different ends of an
edge. -/
theorem mem_pairs_tidyEdges {source target : Text} :
    (source, target) ∈ (tidyEdges policy figures edges).pairs ↔
      (∃ e ∈ edges, StandsFor policy (passFigures figures).replaced source e.source ∧
        StandsFor policy (passFigures figures).replaced target e.target) ∧
      source ∈ (passFigures figures).kept.map (·.id) ∧
      target ∈ (passFigures figures).kept.map (·.id) ∧ source ≠ target := by
  constructor
  · intro hmem
    obtain ⟨k, hk, heq⟩ := List.mem_map.1 hmem
    obtain ⟨rfl, rfl⟩ := Prod.mk.inj heq
    have hpass := tidyEdges_holds policy figures edges
    obtain ⟨e, he, hremains⟩ := exists_of_mem_of_sublistForall₂ hpass.order hk
    exact ⟨⟨e, he, hremains.source, hremains.target⟩, (hpass.ends k hk).1, (hpass.ends k hk).2,
      hpass.no_loops k hk⟩
  · rintro ⟨⟨e, he, hsource, htarget⟩, hsourceId, htargetId, hloop⟩
    exact tidyEdges_joinsAll e he source hsourceId target htargetId hsource htarget hloop

/-- What is joined if the edges of boundaries that go are dropped is joined if they are attached
to those that stay. -/
theorem pairs_drop_subset_remap :
    (tidyEdges .drop figures edges).pairs ⊆ (tidyEdges .remap figures edges).pairs := by
  rintro ⟨source, target⟩ hmem
  obtain ⟨⟨e, he, hsource, htarget⟩, hends⟩ := mem_pairs_tidyEdges.1 hmem
  have hremap {new old : Text} (h : StandsFor .drop (passFigures figures).replaced new old) :
      StandsFor .remap (passFigures figures).replaced new old :=
    ⟨h.1, fun hpolicy => nomatch hpolicy⟩
  exact mem_pairs_tidyEdges.2 ⟨⟨e, he, hremap hsource, hremap htarget⟩, hends⟩

/-- To attach an edge to what is left is to take the edge between what is left. -/
theorem EdgePass.take_remap (hids : (figures.map (·.id)).Nodup) (pass : EdgePass) (e : Edge) :
    pass.take .remap ids (passFigures figures).replaced e =
      pass.take .drop ids (passFigures figures).replaced
        (e.retarget figures (passFigures figures).kept) := by
  have hends (joined : List (Text × Text)) :
      newEnds .remap ids (passFigures figures).replaced joined e =
        newEnds .drop ids (passFigures figures).replaced joined
          (e.retarget figures (passFigures figures).kept) :=
    newEnds_remap (getD_lookup_replaced hids _) (getD_lookup_replaced hids _)
      (lookup_replaced_leftId hids _) (lookup_replaced_leftId hids _)
  rw [take, take, hends]
  rfl

/-- The pass that attaches edges is the pass over the edges between what is left. -/
theorem tidyEdges_remap (hids : (figures.map (·.id)).Nodup) (edges : List Edge) :
    tidyEdges .remap figures edges =
      tidyEdges .drop figures (edges.map (Edge.retarget figures (passFigures figures).kept)) := by
  rw [tidyEdges, tidyEdges, List.foldl_map]
  congr 1
  funext pass e
  exact EdgePass.take_remap hids pass e

/-- Where figures have different identifiers, to attach the edges of boundaries that go is to set
their ends to the boundaries that stay and then to drop what is left of them: figures, edges and
causes are the same.  So what is joined under the one policy is joined under the other. -/
theorem tidy_remap (hids : (figures.map (·.id)).Nodup) (edges : List Edge) :
    tidy .remap figures edges =
        tidy .drop figures (edges.map (Edge.retarget figures (passFigures figures).kept)) ∧
      ∀ k ∈ (tidy .drop figures edges).edges, ∃ k' ∈ (tidy .remap figures edges).edges,
        k'.source = k.source ∧ k'.target = k.target := by
  constructor
  · have hedges := tidyEdges_remap hids edges
    simp only [tidyEdges] at hedges
    rw [tidy, tidy, hedges]
  · intro k hk
    obtain ⟨k', hk', heq⟩ := List.mem_map.1 (pairs_drop_subset_remap (List.mem_map_of_mem hk))
    exact ⟨k', hk', Prod.mk.inj heq⟩

/-- Two accounts of one provider, and figures with identifiers of their own. -/
def accountFigures : List (Figure Rat) :=
  [plainFigure "p" "AWS account", plainFigure "a" "db", plainFigure "q" "amazon-boundary",
    plainFigure "b" ""]

theorem tidy_remap_of_accounts : (accountFigures.map (·.id)).Nodup ∧
    tidy .remap accountFigures repeatedEdges = tidy .drop accountFigures
      (repeatedEdges.map (Edge.retarget accountFigures (passFigures accountFigures).kept)) ∧
    ∀ k ∈ (tidy .drop accountFigures repeatedEdges).edges,
      ∃ k' ∈ (tidy .remap accountFigures repeatedEdges).edges,
        k'.source = k.source ∧ k'.target = k.target :=
  ⟨by decide +kernel, tidy_remap (by decide +kernel) repeatedEdges⟩

end Drawings

end Swimlane
