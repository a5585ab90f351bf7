import Mathlib.Algebra.BigOperators.Group.Finset.Basic
import Mathlib.Algebra.GroupWithZero.Nat
import Swimlane.Proofs.Layout.Drawing
import Swimlane.Proofs.Passes
import Swimlane.Tidy

/-!
# Tidying accounts for everything

If the figures of a drawing have different identifiers, the only figures that go are account
boundaries; so the members all stay, with their types made canonical.  Of the edges some
stay, in their order and with their own identifiers and labels, and for every other edge one
cause is recorded.  Each pass is followed figure by figure and edge by edge, with what it
has kept of those it has seen as the invariant.
-/

namespace Swimlane

variable {α : Type}

/-! ## Figures -/

/-- What a figure shows once its type is canonical. -/
def canonicalFace (face : Text × Text × Text) : Text × Text × Text :=
  (face.1, face.2.1, canonicalType face.2.2)

/-- The figure is not one of several boundaries of an account: it is an ornament, or its
type is no such boundary. -/
def Figure.IsLasting (f : Figure α) : Prop :=
  f.isOrnament = false → isAccountBoundary (canonicalType f.componentType) = false

/-- What a pass has kept of the figures it has seen. -/
structure FigurePass.Keeps (pass : FigurePass α) (seen : List (Figure α)) : Prop where
  /-- Figures keep their identifiers and their order. -/
  ids : (pass.kept.map (·.id)).Sublist (seen.map (·.id))
  /-- Every member stays, with its type made canonical. -/
  members : (membersOf pass.kept).map Figure.face =
    (membersOf seen).map fun f => canonicalFace f.face
  /-- What went is a boundary that was there already. -/
  drops : ∀ cause ∈ pass.drops, cause = .duplicateBoundary

theorem membersOf_concat_ornament {figures : List (Figure α)} {f : Figure α}
    (hf : f.isOrnament = true) : membersOf (figures ++ [f]) = membersOf figures := by
  rw [membersOf_append, membersOf, membersOf, List.filter_singleton, hf]
  exact List.append_nil _

theorem membersOf_concat_member {figures : List (Figure α)} {f : Figure α}
    (hf : f.isOrnament = false) : membersOf (figures ++ [f]) = membersOf figures ++ [f] := by
  rw [membersOf_append, membersOf, membersOf, List.filter_singleton, hf]
  rfl

/-- A change that leaves the faces of figures alone and makes none of them an ornament leaves
the members' faces alone. -/
theorem map_face_membersOf_map {change : Figure α → Figure α} (figures : List (Figure α))
    (hornament : ∀ f, (change f).isOrnament = f.isOrnament)
    (hface : ∀ f, (change f).face = f.face) :
    (membersOf (figures.map change)).map Figure.face = (membersOf figures).map Figure.face := by
  rw [membersOf, membersOf, List.filter_map, List.map_map]
  simp only [Function.comp_def, hornament, hface]

/-- The survivor is an account boundary of the type. -/
theorem survivor?_eq_some {kept : List (Figure α)} {type : Text} {f : Figure α}
    (h : survivor? kept type = some f) :
    isAccountBoundary type = true ∧ f ∈ kept ∧ f.componentType = type := by
  unfold survivor? at h
  split at h
  · next hboundary =>
    exact ⟨hboundary, List.mem_of_find?_eq_some h, by simpa using List.find?_some h⟩
  · cases h

/-- Where there is no survivor, the type is no account boundary's or no figure has it. -/
theorem not_mem_of_survivor?_eq_none {kept : List (Figure α)} {type : Text}
    (h : survivor? kept type = none) (hboundary : isAccountBoundary type = true) :
    type ∉ kept.map (·.componentType) := by
  rw [survivor?, if_pos hboundary, List.find?_eq_none] at h
  intro hmem
  obtain ⟨k, hk, htype⟩ := List.mem_map.1 hmem
  exact h k hk (decide_eq_true htype)

section Figures

variable [Length α]

/-- Figures after those of a type have grown to enclose another figure. -/
def grown (kept : List (Figure α)) (type : Text) (f : Figure α) : List (Figure α) :=
  kept.map fun k => if k.componentType = type then k.absorb f else k

/-- Growing changes nothing but boxes. -/
theorem map_grown {β : Type} (part : Figure α → β)
    (hpart : ∀ k other : Figure α, part (k.absorb other) = part k) (kept : List (Figure α))
    (type : Text) (f : Figure α) : (grown kept type f).map part = kept.map part := by
  rw [grown, List.map_map]
  refine List.map_congr_left fun k _ => ?_
  rw [Function.comp_apply]
  split
  · exact hpart k f
  · rfl

/-- A figure goes because its identifier is taken, or because there is a boundary of its type,
which grows; otherwise it stays. -/
theorem FigurePass.take_cases (pass : FigurePass α) (f : Figure α) :
    (f.id ∈ pass.kept.map (·.id) ∧
      pass.take f = { pass with drops := pass.drops ++ [.duplicateNode] }) ∨
    (f.id ∉ pass.kept.map (·.id) ∧ isAccountBoundary (canonicalType f.componentType) = true ∧
      ∃ survivor ∈ pass.kept, survivor.componentType = canonicalType f.componentType ∧
        pass.take f =
          { kept := grown pass.kept (canonicalType f.componentType) f
            replaced := (f.id, survivor.id) :: pass.replaced
            drops := pass.drops ++ [.duplicateBoundary] }) ∨
    (f.id ∉ pass.kept.map (·.id) ∧
      (isAccountBoundary (canonicalType f.componentType) = true →
        canonicalType f.componentType ∉ pass.kept.map (·.componentType)) ∧
      pass.take f = { pass with
        kept := pass.kept ++ [{ f with componentType := canonicalType f.componentType }] }) := by
  have hany : pass.kept.any (·.id = f.id) = true ↔ f.id ∈ pass.kept.map (·.id) := by
    rw [List.any_eq_true, List.mem_map]
    exact exists_congr fun k => and_congr_right fun _ => decide_eq_true_iff
  by_cases hid : f.id ∈ pass.kept.map (·.id)
  · exact Or.inl ⟨hid, by rw [FigurePass.take, if_pos (hany.2 hid)]⟩
  refine Or.inr ?_
  have htake : ¬pass.kept.any (·.id = f.id) = true := fun h => hid (hany.1 h)
  cases hsurvivor : survivor? pass.kept (canonicalType f.componentType) with
  | some survivor =>
    obtain ⟨hboundary, hmem, htype⟩ := survivor?_eq_some hsurvivor
    refine Or.inl ⟨hid, hboundary, survivor, hmem, htype, ?_⟩
    simp only [FigurePass.take, if_neg htake, hsurvivor]
    rfl
  | none =>
    refine Or.inr ⟨hid, not_mem_of_survivor?_eq_none hsurvivor, ?_⟩
    simp only [FigurePass.take, if_neg htake, hsurvivor]

/-- A pass keeps what it must when it takes one more figure. -/
theorem FigurePass.Keeps.take {pass : FigurePass α} {seen : List (Figure α)} {f : Figure α}
    (h : pass.Keeps seen) (hid : f.id ∉ seen.map (·.id)) (hlasting : f.IsLasting) :
    (pass.take f).Keeps (seen ++ [f]) := by
  rcases pass.take_cases f with ⟨htaken, -⟩ | ⟨-, hboundary, survivor, -, -, htake⟩ |
    ⟨-, -, htake⟩
  · exact absurd (h.ids.subset htaken) hid
  · -- only an ornament can give way to a boundary that was there before
    have hornament : f.isOrnament = true := by
      by_contra hmember
      rw [hlasting (eq_false_of_ne_true hmember)] at hboundary
      cases hboundary
    rw [htake]
    refine ⟨?_, ?_, ?_⟩
    · show List.Sublist (List.map _ (grown _ _ _)) _
      rw [map_grown (·.id) (fun _ _ => rfl), List.map_append]
      exact h.ids.trans (List.sublist_append_left _ _)
    · show List.map Figure.face (membersOf (grown _ _ _)) = _
      rw [membersOf_concat_ornament hornament, ← h.members]
      refine map_face_membersOf_map _ (fun k => ?_) fun k => ?_
      · split <;> rfl
      · split <;> rfl
    · exact List.forall_mem_append.2 ⟨h.drops, List.forall_mem_singleton.2 rfl⟩
  · rw [htake]
    refine ⟨?_, ?_, h.drops⟩
    · show List.Sublist (List.map _ (pass.kept ++ [_])) _
      rw [List.map_append, List.map_append]
      exact h.ids.append (List.Sublist.refl _)
    · show List.map Figure.face (membersOf (pass.kept ++ [{ f with componentType := _ }])) = _
      cases hornament : f.isOrnament with
      | true =>
        rw [membersOf_concat_ornament hornament, membersOf_concat_ornament (by exact hornament)]
        exact h.members
      | false =>
        rw [membersOf_concat_member hornament, membersOf_concat_member (by exact hornament),
          List.map_append, List.map_append, h.members]
        rfl

/-- A pass keeps what it must of all figures, if their identifiers differ. -/
theorem passFigures_keeps {figures : List (Figure α)} (hids : (figures.map (·.id)).Nodup)
    (hlasting : ∀ f ∈ figures, f.IsLasting) : (passFigures figures).Keeps figures := by
  refine foldl_of_nodup_keys ?_ hids fun pass seen h f hf hid => h.take hid (hlasting f hf)
  exact ⟨List.Sublist.refl _, rfl, fun _ hcause => absurd hcause List.not_mem_nil⟩

end Figures

/-! ## Edges -/

/-- What an edge is known by. -/
def Edge.name (e : Edge) : Text × Option Text := (e.id, e.label)

/-- The causes for which edges go. -/
def edgeCauses : List DropCause := [.boundaryEdge, .danglingEdge, .selfLoop, .duplicateEdge]

/-- What a pass has kept of the edges it has seen. -/
structure EdgePass.Keeps (pass : EdgePass) (seen : List Edge) : Prop where
  /-- Edges keep their identifiers, their labels and their order. -/
  names : (pass.kept.map Edge.name).Sublist (seen.map Edge.name)
  /-- Every edge stays or has a cause recorded for it. -/
  count : seen.length = pass.kept.length + pass.drops.length
  causes : ∀ cause ∈ pass.drops, cause ∈ edgeCauses

theorem cause_of_newEnds {policy : EdgePolicy} {ids : List Text}
    {replaced joined : List (Text × Text)} {e : Edge} {cause : DropCause}
    (h : newEnds policy ids replaced joined e = .error cause) : cause ∈ edgeCauses := by
  simp only [newEnds] at h
  split at h
  · cases h; decide
  · split at h
    · cases h; decide
    · split at h
      · cases h; decide
      · split at h
        · cases h; decide
        · cases h

/-- An edge goes for one of the causes, or it stays with the ends that it gets. -/
theorem EdgePass.take_cases (policy : EdgePolicy) (ids : List Text) (replaced : List (Text × Text))
    (pass : EdgePass) (e : Edge) :
    (∃ cause ∈ edgeCauses,
      pass.take policy ids replaced e = { pass with drops := pass.drops ++ [cause] }) ∨
    ∃ source target,
      newEnds policy ids replaced (pass.kept.map fun k => (k.source, k.target)) e =
          .ok (source, target) ∧
        pass.take policy ids replaced e = { pass with
          kept := pass.kept ++
            [{ e with id := freshName (pass.kept.map (·.id)) e.id, source, target }] } := by
  unfold EdgePass.take
  cases hends : newEnds policy ids replaced (pass.kept.map fun k => (k.source, k.target)) e with
  | error cause => exact Or.inl ⟨cause, cause_of_newEnds hends, rfl⟩
  | ok ends => exact Or.inr ⟨ends.1, ends.2, rfl, rfl⟩

/-- A pass keeps what it must when it takes one more edge. -/
theorem EdgePass.Keeps.take {policy : EdgePolicy} {ids : List Text} {replaced : List (Text × Text)}
    {pass : EdgePass} {seen : List Edge} {e : Edge} (h : pass.Keeps seen)
    (hid : e.id ∉ seen.map (·.id)) : (pass.take policy ids replaced e).Keeps (seen ++ [e]) := by
  have hnew : e.id ∉ pass.kept.map (·.id) := by
    intro hmem
    have hids := h.names.map Prod.fst
    rw [List.map_map, List.map_map] at hids
    exact hid (hids.subset hmem)
  rcases pass.take_cases policy ids replaced e with ⟨cause, hcause, htake⟩ |
    ⟨source, target, -, htake⟩
  · rw [htake]
    refine ⟨?_, ?_, List.forall_mem_append.2 ⟨h.causes, List.forall_mem_singleton.2 hcause⟩⟩
    · rw [List.map_append]
      exact h.names.trans (List.sublist_append_left _ _)
    · simp only [List.length_append, List.length_singleton, h.count]
      omega
  · rw [htake]
    refine ⟨?_, ?_, h.causes⟩
    · show List.Sublist (List.map _ (pass.kept ++ [_])) _
      rw [List.map_append, List.map_append, freshName_of_not_mem hnew]
      exact h.names.append (List.Sublist.refl _)
    · simp only [List.length_append, List.length_singleton, h.count]
      omega

/-- Causes are counted kind by kind. -/
theorem length_eq_sum_counts {causes drops : List DropCause} (hcauses : causes.Nodup)
    (h : ∀ cause ∈ drops, cause ∈ causes) : drops.length = (causes.map drops.count).sum := by
  rw [← List.sum_toFinset _ hcauses]
  have hsum := Multiset.sum_count_eq_card (m := (drops : Multiset DropCause)) fun cause hcause =>
    List.mem_toFinset.2 (h cause hcause)
  simp only [Multiset.coe_count, Multiset.coe_card] at hsum
  exact hsum.symm

/-- The causes of edges are counted by their four kinds. -/
theorem length_eq_counts {drops : List DropCause} (h : ∀ cause ∈ drops, cause ∈ edgeCauses) :
    drops.length = drops.count .boundaryEdge + drops.count .danglingEdge +
      drops.count .selfLoop + drops.count .duplicateEdge := by
  rw [length_eq_sum_counts (by decide) h]
  simp only [edgeCauses, List.map_cons, List.map_nil, List.sum_cons, List.sum_nil, Nat.add_zero,
    Nat.add_assoc]

/-! ## Drawings -/

section Drawings

variable [Length α]

/-- The pass over the edges of a drawing with these figures. -/
def tidyEdges (policy : EdgePolicy) (figures : List (Figure α)) (edges : List Edge) : EdgePass :=
  edges.foldl (EdgePass.take policy ((passFigures figures).kept.map (·.id))
    (passFigures figures).replaced) ⟨[], []⟩

/-- A pass keeps what it must of all edges, if their identifiers differ. -/
theorem tidyEdges_keeps (policy : EdgePolicy) (figures : List (Figure α)) {edges : List Edge}
    (hids : (edges.map (·.id)).Nodup) : (tidyEdges policy figures edges).Keeps edges := by
  refine foldl_of_nodup_keys ?_ hids fun pass seen h e _ hid => h.take hid
  exact ⟨List.Sublist.refl _, rfl, fun _ hcause => absurd hcause List.not_mem_nil⟩

/-- The causes of a drawing are those of its figures and those of its edges. -/
theorem count_drops (policy : EdgePolicy) (figures : List (Figure α)) (edges : List Edge)
    (cause : DropCause) : (tidy policy figures edges).drops.count cause =
      (passFigures figures).drops.count cause +
        (tidyEdges policy figures edges).drops.count cause :=
  List.count_append

/-- Where only boundaries went among the figures, all other causes are those of edges. -/
theorem count_drops_tidy (policy : EdgePolicy) {figures : List (Figure α)} (edges : List Edge)
    (h : (passFigures figures).Keeps figures) {cause : DropCause}
    (hcause : cause ≠ .duplicateBoundary) :
    (tidy policy figures edges).drops.count cause =
      (tidyEdges policy figures edges).drops.count cause := by
  have hnone : (passFigures figures).drops.count cause = 0 :=
    List.count_eq_zero.2 fun hmem => hcause (h.drops cause hmem)
  rw [count_drops, hnone, Nat.zero_add]

end Drawings

end Swimlane
