import Swimlane.Flowchart.Reading
import Swimlane.Layout.Grid
import Swimlane.Proofs.Layout.Order
import Swimlane.Proofs.Reading

/-!
# Edges beside circles

Where edges run in circles and everything that waits is held back, the earliest of all that
waits is listed next, whether it lies on a circle or not.  So an edge that lies on no circle
may run backwards too, but only if its target is declared before its source and before all of
a circle that leads to the source (`forward_iff_no_circle_behind`).
-/

namespace Swimlane

variable {key : Text → Nat} {ids : List Text} {edges : List Edge}

/-- The identifiers that are declared after another one and listed after it. -/
def IsBehind (key : Text → Nat) (order : List Text) (id x : Text) : Prop :=
  Precedes key id x ∧ [id, x].Sublist order

/-- Something behind an identifier runs in a circle, and leads from there to another one. -/
def HasCircleBehind (key : Text → Nat) (edges : List Edge) (order : List Text) (id a : Text) :
    Prop :=
  ∃ c, Relation.TransGen (Leads edges (IsBehind key order id)) c c ∧
    Relation.ReflTransGen (Leads edges (IsBehind key order id)) c a

/-- What a circle behind an identifier leads to is behind it too. -/
theorem HasCircleBehind.isBehind {order : List Text} {id a : Text}
    (h : HasCircleBehind key edges order id a) : IsBehind key order id a := by
  obtain ⟨c, hcircle, hreach⟩ := h
  rcases Relation.ReflTransGen.cases_tail hreach with rfl | ⟨_, -, hlast⟩
  · obtain ⟨_, hfirst, -⟩ := Relation.TransGen.head'_iff.1 hcircle
    exact hfirst.1
  · exact hlast.2.1

section Flow

variable {a b : Text} {before after : List Text} (hab : Leads edges (· ∈ ids) a b)
  (hsplit : flowOrder key ids edges = before ++ b :: after) (ha : a ∉ before)

include hab hsplit ha

/-- If the target of an edge is listed before its source, it is declared before it. -/
theorem not_precedes_of_backwards : ¬Precedes key a b := by
  intro hprecedes
  have hearliest := ((isGreedyOrder_flowOrder key ids edges).forall_isHeld hab hsplit ha).2
  have hne : a ≠ b := fun heq => (heq ▸ hprecedes).asymm (heq ▸ hprecedes)
  exact (hearliest.first a ⟨hab.1, ha⟩ hne).asymm hprecedes

/-- If the target of an edge is listed before its source and does not lead back to it, there is
a circle behind it that leads to the source. -/
theorem hasCircleBehind_of_backwards
    (hback : ¬Relation.ReflTransGen (Leads edges (· ∈ ids)) b a) :
    HasCircleBehind key edges (flowOrder key ids edges) b a := by
  have hgreedy := isGreedyOrder_flowOrder key ids edges
  obtain ⟨hheld, hearliest⟩ := hgreedy.forall_isHeld hab hsplit ha
  -- Of all that waits with the target, only what leads to the source is of interest.
  let leadsBack (x : Text) : Prop := (x ∈ ids ∧ x ∉ before) ∧
    Relation.ReflTransGen (Leads edges fun x => x ∈ ids ∧ x ∉ before) x a
  have hbehind (x : Text) (hx : leadsBack x) : IsBehind key (flowOrder key ids edges) b x := by
    have hne : x ≠ b := by
      rintro rfl
      exact hback (Relation.ReflTransGen.mono (fun _ _ => Leads.mono fun _ hx => hx.1) _ _ hx.2)
    refine ⟨hearliest.first x hx.1 hne, ?_⟩
    have hmem := (hgreedy.mem_iff x).2 hx.1.1
    rw [hsplit, List.mem_append, List.mem_cons] at hmem
    have hafter : x ∈ after := (hmem.resolve_left hx.1.2).resolve_left hne
    rw [hsplit]
    exact ((List.singleton_sublist.2 hafter).cons_cons b).trans (List.sublist_append_right _ _)
  have hheldBack (x : Text) (hx : leadsBack x) : IsHeld edges leadsBack x := by
    obtain ⟨e, he, htarget, hsource⟩ := hheld x hx.1
    exact ⟨e, he, htarget, hsource, .head ⟨hsource, hx.1, e, he, rfl, htarget⟩ hx.2⟩
  obtain ⟨c, hcircle, hreach⟩ :=
    exists_circle_of_forall_isHeld (fun x hx => hx.1.1) hheldBack ⟨⟨hab.1, ha⟩, .refl⟩
  refine ⟨c, ?_, ?_⟩
  · exact Relation.TransGen.mono (fun _ _ => Leads.mono hbehind) _ _ hcircle
  · exact Relation.ReflTransGen.mono (fun _ _ => Leads.mono hbehind) _ _ hreach

end Flow

/-- An edge whose source is declared before its target runs forward, whatever circles there are.
An edge whose target does not lead back to its source runs forward unless there is a circle
behind the target that leads to the source. -/
theorem forward_iff_no_circle_behind {a b : Text} (hab : Leads edges (· ∈ ids) a b) :
    (Precedes key a b → [a, b].Sublist (flowOrder key ids edges)) ∧
      (¬Relation.ReflTransGen (Leads edges (· ∈ ids)) b a →
        ([a, b].Sublist (flowOrder key ids edges) ↔
          ¬HasCircleBehind key edges (flowOrder key ids edges) b a)) := by
  have hgreedy := isGreedyOrder_flowOrder key ids edges
  rcases hgreedy.pair_sublist_or hab with hforward | ⟨before, after, hsplit, ha⟩
  · refine ⟨fun _ => hforward, fun _ => iff_of_true hforward fun hcircle => ?_⟩
    have hlt := idxOf_lt_of_pair_sublist hgreedy.nodup hforward
    exact lt_asymm hlt (idxOf_lt_of_pair_sublist hgreedy.nodup hcircle.isBehind.2)
  · refine ⟨fun hprecedes => absurd hprecedes (not_precedes_of_backwards hab hsplit ha), ?_⟩
    intro hback
    refine iff_of_false (fun hforward => ?_)
      (not_not.2 (hasCircleBehind_of_backwards hab hsplit ha hback))
    have hnodup := hgreedy.nodup
    rw [hsplit] at hnodup hforward
    exact ha (mem_of_pair_sublist hnodup hforward)

/-- A circle that leads to a node which is declared before it. -/
def circleToEarlier : Text := "graph LR\nv\nx-->y\ny-->x\nx-->v".toList

/-- Nothing can be reached from where no edge begins. -/
theorem eq_of_reach {among : Text → Prop} {a b : Text} (hno : ∀ e ∈ edges, e.source ≠ a)
    (h : Relation.ReflTransGen (Leads edges among) a b) : b = a := by
  rcases Relation.ReflTransGen.cases_head h with heq | ⟨c, ⟨-, -, e, he, hsource, -⟩, -⟩
  · exact heq.symm
  · exact absurd hsource (hno e he)

/-- The key by which the nodes of a graph are declared. -/
def Graph.declaredKey (g : Graph) (id : Text) : Nat := ((g.node? id).map (·.order)).getD 0

/-- The edge leaves the circle for a node that leads nowhere and is listed first. -/
theorem flow_circleToEarlier : ∃ f, Flowchart.ofText circleToEarlier = .ok f ∧
    Leads f.graph.edges (· ∈ f.graph.nodes.map (·.id)) ['x'] ['v'] ∧
    (∀ among, ¬Relation.ReflTransGen (Leads f.graph.edges among) ['v'] ['x']) ∧
    f.graph.flow = [['v'], ['x'], ['y']] := by
  have hread : ((Flowchart.ofText circleToEarlier).map fun f => decide (
      ((['x'] ∈ f.graph.nodes.map (·.id) ∧ ['v'] ∈ f.graph.nodes.map (·.id)) ∧
        ∃ e ∈ f.graph.edges, e.source = ['x'] ∧ e.target = ['v']) ∧
      (∀ e ∈ f.graph.edges, e.source ≠ ['v']) ∧
      f.graph.flow = [['v'], ['x'], ['y']])).toOption = some true := by
    decide +kernel
  obtain ⟨f, hf, hfacts⟩ := exists_of_toOption_map hread
  obtain ⟨⟨⟨hx, hv⟩, hedge⟩, hends, hflow⟩ := of_decide_eq_true hfacts
  refine ⟨f, hf, ⟨hx, hv, hedge⟩, fun among hreach => ?_, hflow⟩
  exact absurd (eq_of_reach hends hreach) (by decide)

/-- An edge from a circle runs backwards, although its target does not lead back to it. -/
theorem exists_edge_backwards : ∃ f, Flowchart.ofText circleToEarlier = .ok f ∧
    Leads f.graph.edges (· ∈ f.graph.nodes.map (·.id)) ['x'] ['v'] ∧
    ¬Relation.ReflTransGen (Leads f.graph.edges fun _ => True) ['v'] ['x'] ∧
    ¬[['x'], ['v']].Sublist f.graph.flow := by
  obtain ⟨f, hf, hleads, hback, hflow⟩ := flow_circleToEarlier
  refine ⟨f, hf, hleads, hback _, ?_⟩
  rw [hflow]
  decide

theorem circle_behind_of_circleToEarlier : ∃ f, Flowchart.ofText circleToEarlier = .ok f ∧
    Leads f.graph.edges (· ∈ f.graph.nodes.map (·.id)) ['x'] ['v'] ∧
    ¬Relation.ReflTransGen (Leads f.graph.edges (· ∈ f.graph.nodes.map (·.id))) ['v'] ['x'] ∧
    HasCircleBehind f.graph.declaredKey f.graph.edges f.graph.flow ['v'] ['x'] := by
  obtain ⟨f, hf, hleads, hback, hflow⟩ := flow_circleToEarlier
  have hforward : [['x'], ['v']].Sublist f.graph.flow ↔
      ¬HasCircleBehind f.graph.declaredKey f.graph.edges f.graph.flow ['v'] ['x'] :=
    (forward_iff_no_circle_behind hleads).2 (hback _)
  refine ⟨f, hf, hleads, hback _, not_not.1 fun hno => ?_⟩
  have hpair : [['x'], ['v']].Sublist f.graph.flow := hforward.2 hno
  rw [hflow] at hpair
  revert hpair
  decide

end Swimlane
