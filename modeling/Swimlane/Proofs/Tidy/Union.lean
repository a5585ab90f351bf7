import Mathlib.Order.Bounds.Basic
import Swimlane.Proofs.Tidy.Fixed
import Swimlane.Proofs.Tidy.Growth

/-!
# The boundary that stays is a union

A figure is left out of a drawing from the start if one that was kept has its identifier; all
others are admitted, and so all figures with different identifiers are (`admitted_eq_self`).  Of
each type of account boundary one figure is kept, with the identifier of
the first that was admitted, and its sides are the outermost ones of all that were
(`tidy_unites`).  What was admitted and is no account boundary is kept, with its box as it was.
Identifiers may repeat here in any way; the pass over the figures is followed with the admitted
ones in place of those it has seen.
-/

namespace Swimlane

/-! ## Admitted figures -/

section Admitted

variable {α : Type} [Length α]

/-- The figures that are not left out by a pass over them for an identifier that was kept. -/
def admittedBy (pass : FigurePass α) : List (Figure α) → List (Figure α)
  | [] => []
  | f :: rest =>
      if (pass.kept.map (·.id)).contains f.id then admittedBy (pass.take f) rest
      else f :: admittedBy (pass.take f) rest

/-- The figures of a drawing that are not left out for an identifier that was kept before. -/
def admitted (figures : List (Figure α)) : List (Figure α) := admittedBy ⟨[], [], []⟩ figures

/-- A pass keeps no other identifiers than before and that of the figure it takes. -/
theorem FigurePass.ids_take_subset (pass : FigurePass α) (f : Figure α) :
    (pass.take f).kept.map (·.id) ⊆ f.id :: pass.kept.map (·.id) := by
  rcases pass.take_cases f with ⟨-, htake⟩ | ⟨-, -, survivor, -, -, htake⟩ | ⟨-, -, htake⟩
  · rw [htake]
    exact List.subset_cons_self _ _
  · rw [htake, map_grown (·.id) fun _ _ => rfl]
    exact List.subset_cons_self _ _
  · rw [htake, List.map_append]
    exact List.append_subset.2 ⟨List.subset_cons_self _ _,
      List.cons_subset_cons _ (List.nil_subset _)⟩

/-- Figures with identifiers that are new and different are all admitted. -/
theorem admittedBy_eq_self {pass : FigurePass α} {figures : List (Figure α)}
    (hids : (figures.map (·.id)).Nodup)
    (hnew : ∀ f ∈ figures, f.id ∉ pass.kept.map (·.id)) : admittedBy pass figures = figures := by
  induction figures generalizing pass with
  | nil => rfl
  | cons f rest ih =>
    obtain ⟨hf, hrest⟩ := List.nodup_cons.1 hids
    rw [admittedBy, if_neg (mt List.contains_iff_mem.1 (hnew f List.mem_cons_self))]
    refine congrArg (f :: ·) (ih hrest fun g hg hmem => ?_)
    rcases List.mem_cons.1 (pass.ids_take_subset f hmem) with hsame | hkept
    · exact hf (List.mem_map.2 ⟨g, hg, hsame⟩)
    · exact hnew g (List.mem_cons_of_mem f hg) hkept

/-- Of figures with different identifiers none is left out. -/
theorem admitted_eq_self {figures : List (Figure α)} (hids : (figures.map (·.id)).Nodup) :
    admitted figures = figures :=
  admittedBy_eq_self hids fun _ _ => List.not_mem_nil

/-- The figure with its type made canonical. -/
def Figure.canonical (f : Figure α) : Figure α :=
  { f with componentType := canonicalType f.componentType }

/-- A test of types passes the same figures before and after some have grown. -/
theorem filter_grown (test : Text → Bool) (kept : List (Figure α)) (type : Text) (f : Figure α) :
    (grown kept type f).filter (fun k => test k.componentType) =
      grown (kept.filter fun k => test k.componentType) type f := by
  rw [grown, List.filter_map, grown]
  congr 1
  refine List.filter_congr fun k _ => ?_
  rw [Function.comp_apply]
  split <;> rfl

/-- Figures of other types do not grow. -/
theorem grown_eq_self {kept : List (Figure α)} {type : Text}
    (h : ∀ k ∈ kept, k.componentType ≠ type) (f : Figure α) : grown kept type f = kept := by
  rw [grown, List.map_congr_left fun k hk => if_neg (h k hk), List.map_id'']
  exact fun _ => rfl

/-- Figures of the type all grow. -/
theorem grown_eq_map {kept : List (Figure α)} {type : Text}
    (h : ∀ k ∈ kept, k.componentType = type) (f : Figure α) :
    grown kept type f = kept.map (·.absorb f) :=
  List.map_congr_left fun k hk => if_pos (h k hk)

end Admitted

/-! ## Unions -/

/-- Where the boxes of these figures have one of their sides. -/
def sides (side : Box Rat → Rat) (parts : List (Figure Rat)) : Set Rat :=
  {x | ∃ f ∈ parts, side f.box = x}

theorem sides_singleton (side : Box Rat → Rat) (f : Figure Rat) :
    sides side [f] = {side f.box} := by
  ext x
  simp only [sides, Set.mem_ofPred_eq, List.mem_singleton, exists_eq_left, Set.mem_singleton_iff]
  exact eq_comm

theorem sides_concat (side : Box Rat → Rat) (parts : List (Figure Rat)) (f : Figure Rat) :
    sides side (parts ++ [f]) = insert (side f.box) (sides side parts) := by
  ext x
  simp only [sides, Set.mem_ofPred_eq, List.mem_append, List.mem_singleton, or_and_right,
    exists_or, exists_eq_left, Set.mem_insert_iff]
  rw [or_comm, eq_comm]

/-- The figure is the union of others: it is the first of them but for its type and its box, whose
sides are the outermost of theirs. -/
structure Figure.IsUnionOf (k : Figure Rat) (parts : List (Figure Rat)) : Prop where
  first : ∃ f rest, parts = f :: rest ∧ k.Remains f
  left : IsLeast (sides Box.x parts) k.box.x
  top : IsLeast (sides Box.y parts) k.box.y
  right : IsGreatest (sides Box.right parts) k.box.right
  bottom : IsGreatest (sides Box.bottom parts) k.box.bottom

theorem Figure.isUnionOf_singleton (f : Figure Rat) : f.canonical.IsUnionOf [f] where
  first := ⟨f, [], rfl, f.box, rfl⟩
  left := by rw [sides_singleton]; exact isLeast_singleton
  top := by rw [sides_singleton]; exact isLeast_singleton
  right := by rw [sides_singleton]; exact isGreatest_singleton
  bottom := by rw [sides_singleton]; exact isGreatest_singleton

/-- A union that grows to enclose one more figure is the union with that figure. -/
theorem Figure.IsUnionOf.absorb {k : Figure Rat} {parts : List (Figure Rat)}
    (h : k.IsUnionOf parts) (f : Figure Rat) : (k.absorb f).IsUnionOf (parts ++ [f]) := by
  have hbounds : (k.absorb f).box.bounds = k.box.bounds.join f.box.bounds := Bounds.bounds_box _
  simp only [Box.bounds, Bounds.join, Bounds.mk.injEq, Length.smaller_eq, Length.larger_eq,
    min_comm k.box.x, min_comm k.box.y, max_comm k.box.right, max_comm k.box.bottom] at hbounds
  obtain ⟨hleft, htop, hright, hbottom⟩ := hbounds
  obtain ⟨first, rest, hparts, hremains⟩ := h.first
  constructor
  · exact ⟨first, rest ++ [f], by rw [hparts]; rfl, hremains.absorb f⟩
  · rw [sides_concat, hleft]
    exact h.left.insert _
  · rw [sides_concat, htop]
    exact h.top.insert _
  · rw [sides_concat, hright]
    exact h.right.insert _
  · rw [sides_concat, hbottom]
    exact h.bottom.insert _

/-- What is kept is nothing if there are no parts, and otherwise one figure, their union. -/
def Unites (kept parts : List (Figure Rat)) : Prop :=
  kept = [] ∧ parts = [] ∨ ∃ k, kept = [k] ∧ k.IsUnionOf parts

/-- If nothing is kept, a further part is the union. -/
theorem Unites.start {parts : List (Figure Rat)} (h : Unites [] parts) (f : Figure Rat) :
    Unites [f.canonical] (parts ++ [f]) := by
  rcases h with ⟨-, rfl⟩ | ⟨k, hkept, -⟩
  · exact Or.inr ⟨_, rfl, f.isUnionOf_singleton⟩
  · cases hkept

/-- If something is kept, it grows with a further part. -/
theorem Unites.absorb {kept parts : List (Figure Rat)} (h : Unites kept parts) (hkept : kept ≠ [])
    (f : Figure Rat) : Unites (kept.map (·.absorb f)) (parts ++ [f]) := by
  rcases h with ⟨hnone, -⟩ | ⟨k, rfl, hunion⟩
  · exact absurd hnone hkept
  · exact Or.inr ⟨_, rfl, hunion.absorb f⟩

/-! ## Passes -/

/-- What a pass has made of the figures that it has admitted. -/
structure FigurePass.UnitesAll (pass : FigurePass Rat) (parts : List (Figure Rat)) : Prop where
  /-- What is no account boundary is kept as it was. -/
  others : (pass.kept.filter fun k => !isAccountBoundary k.componentType) =
    (parts.map Figure.canonical).filter fun k => !isAccountBoundary k.componentType
  /-- Of each type of account boundary the union is kept. -/
  boundaries : ∀ type, isAccountBoundary type = true →
    Unites (pass.kept.filter (·.componentType = type))
      (parts.filter (canonicalType ·.componentType = type))

variable {pass : FigurePass Rat} {parts : List (Figure Rat)} {f : Figure Rat}

/-- An account boundary grows if it is of the same type. -/
theorem FigurePass.UnitesAll.grow (h : pass.UnitesAll parts)
    (hboundary : isAccountBoundary (canonicalType f.componentType) = true)
    (hsurvivor : ∃ k ∈ pass.kept, k.componentType = canonicalType f.componentType)
    (replaced : List (Text × Text)) (drops : List DropCause) :
    (⟨grown pass.kept (canonicalType f.componentType) f, replaced, drops⟩ :
      FigurePass Rat).UnitesAll (parts ++ [f]) where
  others := by
    rw [filter_grown (fun type => !isAccountBoundary type), grown_eq_self (fun k hk hsame => ?_),
      h.others, List.map_append, List.filter_append, List.map_singleton, List.filter_singleton]
    · have hcanonical : isAccountBoundary f.canonical.componentType = true := hboundary
      rw [hcanonical]
      exact (List.append_nil _).symm
    · have hplain := (List.mem_filter.1 hk).2
      rw [hsame, hboundary] at hplain
      cases hplain
  boundaries type htype := by
    rw [filter_grown (fun other => decide (other = type)), List.filter_append,
      List.filter_singleton]
    have hof : ∀ k ∈ pass.kept.filter (·.componentType = type), k.componentType = type :=
      fun k hk => of_decide_eq_true (List.mem_filter.1 hk).2
    by_cases hsame : canonicalType f.componentType = type
    · subst hsame
      obtain ⟨k, hk, hktype⟩ := hsurvivor
      have hmem : k ∈ pass.kept.filter (·.componentType = canonicalType f.componentType) :=
        List.mem_filter.2 ⟨hk, decide_eq_true hktype⟩
      rw [grown_eq_map hof, decide_eq_true rfl]
      exact (h.boundaries _ htype).absorb (List.ne_nil_of_mem hmem) f
    · rw [grown_eq_self fun k hk heq => hsame (heq.symm.trans (hof k hk)),
        decide_eq_false hsame, cond_false, List.append_nil]
      exact h.boundaries type htype

/-- A figure that stays is the first of its type or no account boundary. -/
theorem FigurePass.UnitesAll.keep (h : pass.UnitesAll parts)
    (hnew : isAccountBoundary (canonicalType f.componentType) = true →
      canonicalType f.componentType ∉ pass.kept.map (·.componentType)) :
    ({ pass with kept := pass.kept ++ [f.canonical] } : FigurePass Rat).UnitesAll
      (parts ++ [f]) where
  others := by
    rw [List.map_append, List.filter_append, List.filter_append, h.others, List.map_singleton]
  boundaries type htype := by
    rw [List.filter_append, List.filter_append, List.filter_singleton, List.filter_singleton]
    have hcanonical : f.canonical.componentType = canonicalType f.componentType := rfl
    rw [hcanonical]
    by_cases hsame : canonicalType f.componentType = type
    · subst hsame
      have hnone : pass.kept.filter (·.componentType = canonicalType f.componentType) = [] := by
        refine List.filter_eq_nil_iff.2 fun k hk hktype => hnew htype ?_
        exact List.mem_map.2 ⟨k, hk, of_decide_eq_true hktype⟩
      have hunites := h.boundaries _ htype
      rw [hnone] at hunites ⊢
      rw [decide_eq_true rfl]
      exact hunites.start f
    · rw [decide_eq_false hsame, cond_false, cond_false, List.append_nil, List.append_nil]
      exact h.boundaries type htype

/-- A pass goes on to unite what it has admitted. -/
theorem FigurePass.UnitesAll.take (h : pass.UnitesAll parts) (f : Figure Rat) :
    (pass.take f).UnitesAll
      (if (pass.kept.map (·.id)).contains f.id then parts else parts ++ [f]) := by
  rcases pass.take_cases f with ⟨hid, htake⟩ | ⟨hid, hboundary, survivor, hsurvivor, htype, htake⟩ |
    ⟨hid, hnew, htake⟩
  · rw [if_pos (List.contains_iff_mem.2 hid), htake]
    exact ⟨h.others, h.boundaries⟩
  · rw [if_neg (mt List.contains_iff_mem.1 hid), htake]
    exact h.grow hboundary ⟨survivor, hsurvivor, htype⟩ _ _
  · rw [if_neg (mt List.contains_iff_mem.1 hid), htake]
    exact h.keep hnew

/-- A pass over more figures unites them with those that it has admitted before. -/
theorem FigurePass.UnitesAll.foldl (h : pass.UnitesAll parts) (figures : List (Figure Rat)) :
    (figures.foldl FigurePass.take pass).UnitesAll (parts ++ admittedBy pass figures) := by
  induction figures generalizing pass parts with
  | nil =>
    rw [admittedBy, List.append_nil]
    exact h
  | cons f rest ih =>
    have hrest := ih (h.take f)
    rw [admittedBy]
    split at hrest
    · next hid =>
      rw [if_pos hid]
      exact hrest
    · next hid =>
      rw [if_neg hid, List.append_cons]
      exact hrest

/-- What is kept of any figures unites those that are admitted. -/
theorem passFigures_unitesAll (figures : List (Figure Rat)) :
    (passFigures figures).UnitesAll (admitted figures) := by
  have hstart : (⟨[], [], []⟩ : FigurePass Rat).UnitesAll [] :=
    ⟨rfl, fun _ _ => Or.inl ⟨rfl, rfl⟩⟩
  exact hstart.foldl figures

/-- Of each type of account boundary a tidied drawing has the union of those that were admitted, or
nothing if none was; everything else that was admitted it has as it was, but for its type. -/
theorem tidy_unites (policy : EdgePolicy) (figures : List (Figure Rat)) (edges : List Edge) :
    (∀ type, isAccountBoundary type = true →
      Unites ((tidy policy figures edges).figures.filter (·.componentType = type))
        ((admitted figures).filter (canonicalType ·.componentType = type))) ∧
    ((tidy policy figures edges).figures.filter fun k => !isAccountBoundary k.componentType) =
      ((admitted figures).map Figure.canonical).filter
        fun k => !isAccountBoundary k.componentType :=
  ⟨(passFigures_unitesAll figures).boundaries, (passFigures_unitesAll figures).others⟩

theorem tidy_unites_of_accounts : isAccountBoundary "account_boundary_aws".toList = true ∧
    ∃ k, (tidy .drop repeatedFigures repeatedEdges).figures.filter
        (·.componentType = "account_boundary_aws".toList) = [k] ∧
      k.IsUnionOf ((admitted repeatedFigures).filter
        (canonicalType ·.componentType = "account_boundary_aws".toList)) := by
  have hboundary : isAccountBoundary "account_boundary_aws".toList = true := by decide +kernel
  refine ⟨hboundary, ?_⟩
  refine ((tidy_unites .drop repeatedFigures repeatedEdges).1 _ hboundary).resolve_left ?_
  exact fun hnone => absurd hnone.2 (by decide +kernel)

end Swimlane
