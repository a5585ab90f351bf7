import Mathlib.Logic.Relation
import Swimlane.Flowchart.Reading
import Swimlane.Proofs.Flowchart.Graph
import Swimlane.Proofs.Reading
import Swimlane.Proofs.Text.Fresh

/-!
# Drafting step by step

Whatever a statement says, it changes a draft by a few kinds of steps: it sets the
direction, opens or closes a group, mentions a node, or adds an edge between nodes that
have been mentioned before.  `Draft.Step` says once what each step does and under which
condition; the readers below are shown to be sequences of steps, so that an invariant of
drafts has one case a kind of step.  What depends on the kind of a statement has one case a
kind of statement (`Draft.Reads`, and `Draft.AddsEdges` for its edges), and no reader is looked
into again.  Only a statement that says so opens or closes a group (`readStatement_cases`); all
others make additions, which leave the groups as they are.
-/

namespace Swimlane

namespace Draft

/-- One change to a draft. -/
inductive Step : Draft → Draft → Prop
  | turn (d : Draft) (direction : Direction) :
      Step d { d with graph := { d.graph with direction } }
  | close (d : Draft) (x : OpenGroup) (outer : List OpenGroup) (hopen : d.openGroups = x :: outer) :
      Step d { d with openGroups := outer }
  | enter (d : Draft) (line : Nat) (name label : Text) (hgroup : name ∉ d.graph.groups.map (·.id))
      (hnode : d.hasDeclared name = false) : Step d (d.enter line name label)
  | mention (d : Draft) (asStatement : Bool) (id : Text) (r : NodeRef)
      (hname : d.refName r = .ok id) : Step d (d.mention asStatement id r)
  | addEdge (d : Draft) (label : Option Text) (source target : Text)
      (hsource : source ∈ d.graph.nodes.map (·.id)) (htarget : target ∈ d.graph.nodes.map (·.id)) :
      Step d (d.addEdge label (source, target))

/-- Any number of changes to a draft. -/
abbrev Steps : Draft → Draft → Prop := Relation.ReflTransGen Step

/-- One change to the nodes and edges of a draft alone. -/
inductive Addition : Draft → Draft → Prop
  | mention (d : Draft) (asStatement : Bool) (id : Text) (r : NodeRef)
      (hname : d.refName r = .ok id) : Addition d (d.mention asStatement id r)
  | addEdge (d : Draft) (label : Option Text) (source target : Text)
      (hsource : source ∈ d.graph.nodes.map (·.id)) (htarget : target ∈ d.graph.nodes.map (·.id)) :
      Addition d (d.addEdge label (source, target))

/-- Any number of changes to the nodes and edges of a draft. -/
abbrev Additions : Draft → Draft → Prop := Relation.ReflTransGen Addition

theorem Addition.step {d d' : Draft} (h : Addition d d') : Step d d' := by
  cases h with
  | mention asStatement id r hname => exact .mention d asStatement id r hname
  | addEdge label source target hsource htarget =>
    exact .addEdge d label source target hsource htarget

/-- Additions are steps. -/
theorem Additions.steps {d d' : Draft} (h : Additions d d') : Steps d d' :=
  Relation.ReflTransGen.mono (fun _ _ => Addition.step) _ _ h

/-- What every step keeps, a sequence of steps keeps. -/
theorem Steps.keep {P : Draft → Prop} (hstep : ∀ d d', Step d d' → P d → P d') {d d' : Draft}
    (h : Steps d d') (hd : P d) : P d' := by
  induction h with
  | refl => exact hd
  | tail _ hlast ih => exact hstep _ _ hlast ih

/-! ## Nodes stay -/

/-- A reference leaves every node its identifier. -/
theorem describe_id (r : NodeRef) (n : Node) : (describe r n).id = n.id := by
  unfold describe
  split <;> rfl

/-- A node that is new comes last. -/
theorem addNode_of_new {d : Draft} {id : Text} (hnew : d.graph.hasNode id = false) (r : NodeRef) :
    d.addNode id r = { d with graph := { d.graph with nodes := d.graph.nodes ++
      [describe r ⟨id, id, defaultComponentType, none, none, d.graph.nodes.length⟩] } } := by
  rw [addNode, hnew, if_neg Bool.false_ne_true]

theorem map_id_addNode (d : Draft) (id : Text) (r : NodeRef) :
    (d.addNode id r).graph.nodes.map (·.id) =
      if d.graph.hasNode id then d.graph.nodes.map (·.id) else d.graph.nodes.map (·.id) ++ [id] := by
  rw [addNode]
  split
  · exact Graph.map_nodes_changeNode (·.id) (describe_id r) d.graph id
  · simp [describe_id]

@[simp] theorem graph_markImplied (d : Draft) (isNew declares : Bool) (id : Text) :
    (d.markImplied isNew declares id).graph = d.graph := by
  unfold markImplied
  split
  · rfl
  · split <;> rfl

@[simp] theorem openGroups_markImplied (d : Draft) (isNew declares : Bool) (id : Text) :
    (d.markImplied isNew declares id).openGroups = d.openGroups := by
  unfold markImplied
  split
  · rfl
  · split <;> rfl

@[simp] theorem openGroups_addNode (d : Draft) (id : Text) (r : NodeRef) :
    (d.addNode id r).openGroups = d.openGroups := by
  unfold addNode
  split <;> rfl

/-- A claim changes nothing, or makes a node without a group a child of the innermost open
group. -/
theorem claim_cases (d : Draft) (id : Text) :
    d.claim id = d ∨ ∃ x outer n, d.openGroups = x :: outer ∧ n ∈ d.graph.nodes ∧ n.id = id ∧
      n.groupId = none ∧ d.claim id = { d with graph := d.graph.putInto id x.id } := by
  unfold claim
  split
  · next x outer n hopen hnode =>
    split
    · exact Or.inl rfl
    · next hfree =>
      obtain ⟨hn, hid⟩ := Graph.mem_of_node? hnode
      exact Or.inr ⟨x, outer, n, hopen, hn, hid, by simpa using hfree, rfl⟩
  · exact Or.inl rfl

/-- Outside of all groups, no node is claimed. -/
theorem claim_eq_self {d : Draft} (hopen : d.openGroups = []) (id : Text) : d.claim id = d := by
  rw [claim, hopen]

/-- A claim changes nothing about nodes but their groups. -/
theorem map_nodes_claim {β : Type} (part : Node → β)
    (hpart : ∀ n p, part { n with groupId := p } = part n) (d : Draft) (id : Text) :
    (d.claim id).graph.nodes.map part = d.graph.nodes.map part := by
  rcases d.claim_cases id with h | ⟨x, outer, n, -, -, -, -, h⟩
  · rw [h]
  · rw [h]
    exact Graph.map_nodes_putInto part hpart d.graph id x.id

theorem map_id_claim (d : Draft) (id : Text) :
    (d.claim id).graph.nodes.map (·.id) = d.graph.nodes.map (·.id) :=
  map_nodes_claim (·.id) (fun _ _ => rfl) d id

theorem openGroups_mention (d : Draft) (asStatement : Bool) (id : Text) (r : NodeRef) :
    (d.mention asStatement id r).openGroups = d.openGroups := by
  rw [mention]
  rcases claim_cases (markImplied _ _ _ _) id with h | ⟨x, outer, n, -, -, -, -, h⟩ <;> rw [h] <;>
    simp

/-- The identifiers of the nodes after one of them was mentioned. -/
theorem map_id_mention (d : Draft) (asStatement : Bool) (id : Text) (r : NodeRef) :
    (d.mention asStatement id r).graph.nodes.map (·.id) =
      if d.graph.hasNode id then d.graph.nodes.map (·.id) else d.graph.nodes.map (·.id) ++ [id] := by
  rw [mention, map_id_claim, graph_markImplied, map_id_addNode]

/-- After it was mentioned, a node is there. -/
theorem mem_mention (d : Draft) (asStatement : Bool) (id : Text) (r : NodeRef) :
    id ∈ (d.mention asStatement id r).graph.nodes.map (·.id) := by
  rw [map_id_mention]
  split
  · next h => exact Graph.hasNode_iff.1 h
  · simp

/-- A mention adds the node, if it is not there. -/
theorem hasNode_mention (d : Draft) (asStatement : Bool) (id : Text) (r : NodeRef) {x : Text} :
    (d.mention asStatement id r).graph.hasNode x = true ↔ d.graph.hasNode x = true ∨ x = id := by
  rw [Graph.hasNode_iff, Graph.hasNode_iff, map_id_mention]
  split
  · next h =>
    refine ⟨Or.inl, fun hx => hx.elim (fun hold => hold) ?_⟩
    rintro rfl
    exact Graph.hasNode_iff.1 h
  · rw [List.mem_append, List.mem_singleton]

@[simp] theorem nodes_enter (d : Draft) (line : Nat) (name label : Text) :
    (d.enter line name label).graph.nodes = d.graph.nodes := by
  unfold enter
  cases d.innermost <;> rfl

/-- A step takes no node away. -/
theorem Step.nodes_prefix {d d' : Draft} (h : Step d d') :
    d.graph.nodes.map (·.id) <+: d'.graph.nodes.map (·.id) := by
  cases h with
  | turn => exact List.prefix_refl _
  | close => exact List.prefix_refl _
  | enter line name label =>
    simp only [nodes_enter, List.prefix_refl]
  | mention asStatement id r =>
    rw [map_id_mention]
    split
    · exact List.prefix_refl _
    · exact List.prefix_append _ _
  | addEdge => exact List.prefix_refl _

/-- No sequence of steps takes a node away. -/
theorem Steps.nodes_prefix {d d' : Draft} (h : Steps d d') :
    d.graph.nodes.map (·.id) <+: d'.graph.nodes.map (·.id) := by
  induction h with
  | refl => exact List.prefix_refl _
  | tail _ hlast ih => exact ih.trans hlast.nodes_prefix

/-! ## The readers are sequences of steps -/

/-- The name of a new group is no group's and no declared node's. -/
theorem groupName_free (d : Draft) (id : Option Text) (label : Text) :
    d.groupName id label ∉ d.graph.groups.map (·.id) ∧
      d.hasDeclared (d.groupName id label) = false := by
  have hnew (base : Text) : d.newName base ∉ d.graph.groups.map (·.id) ∧
      d.hasDeclared (d.newName base) = false := by
    have hfree : d.newName base ∉ d.graph.ids := freshName_not_mem d.graph.ids base
    rw [Graph.ids, List.mem_append, not_or] at hfree
    refine ⟨hfree.2, ?_⟩
    rw [hasDeclared, Bool.and_eq_false_iff]
    exact Or.inl (by rw [← Bool.not_eq_true, Graph.hasNode_iff]; exact hfree.1)
  unfold groupName
  split
  · next id =>
    split
    · next h =>
      rw [Bool.and_eq_true, Bool.not_eq_true', Bool.not_eq_true'] at h
      exact ⟨by rw [← Graph.hasGroup_iff, h.1]; exact Bool.false_ne_true, h.2⟩
    · exact hnew id
  · exact hnew _

/-- A group that is opened has a name that no group has and no declared node. -/
theorem enter_of_openGroup {d d' : Draft} {line : Nat} {header : Text}
    (h : d.openGroup line header = .ok d') : ∃ name label, name ∉ d.graph.groups.map (·.id) ∧
      d.hasDeclared name = false ∧ d' = d.enter line name label := by
  unfold openGroup at h
  split at h
  · cases h
  · cases h
    obtain ⟨hgroup, hnode⟩ := d.groupName_free (readGroupHeader header).1 (readGroupHeader header).2
    exact ⟨_, _, hgroup, hnode, rfl⟩

/-- Opening a group is a step. -/
theorem step_of_openGroup {d d' : Draft} {line : Nat} {header : Text}
    (h : d.openGroup line header = .ok d') : Step d d' := by
  obtain ⟨name, label, hgroup, hnode, rfl⟩ := enter_of_openGroup h
  exact .enter d line name label hgroup hnode

/-- A reference adds to the draft, and after it the node is there. -/
theorem addition_of_refer {d d' : Draft} {asStatement : Bool} {r : NodeRef} {id : Text}
    (h : d.refer asStatement r = .ok (id, d')) :
    Addition d d' ∧ id ∈ d'.graph.nodes.map (·.id) := by
  obtain ⟨name, hname, h⟩ := ok_of_bind h
  cases h
  exact ⟨.mention d asStatement _ r hname, d.mem_mention asStatement _ r⟩

/-- The side of a link adds to the draft, and after it its nodes are there. -/
theorem additions_of_referSide {parts : List Text} {d d' : Draft} {ids : List Text}
    (h : d.referSide parts = .ok (ids, d')) :
    Additions d d' ∧ ∀ id ∈ ids, id ∈ d'.graph.nodes.map (·.id) := by
  induction parts generalizing d ids with
  | nil =>
    cases h
    exact ⟨.refl, fun _ hid => absurd hid List.not_mem_nil⟩
  | cons part rest ih =>
    obtain ⟨r, -, h⟩ := ok_of_bind h
    obtain ⟨⟨id, d₁⟩, hrefer, h⟩ := ok_of_bind h
    obtain ⟨⟨others, d₂⟩, hrest, h⟩ := ok_of_bind h
    cases h
    obtain ⟨haddition, hid⟩ := addition_of_refer hrefer
    obtain ⟨hadditions, hids⟩ := ih hrest
    refine ⟨.head haddition hadditions, fun name hname => ?_⟩
    rcases List.mem_cons.1 hname with rfl | hname
    · exact hadditions.steps.nodes_prefix.subset hid
    · exact hids name hname

/-- Edges between nodes that are there add to the draft. -/
theorem additions_foldl_addEdge (label : Option Text) {pairs : List (Text × Text)} {d : Draft}
    (h : ∀ p ∈ pairs, p.1 ∈ d.graph.nodes.map (·.id) ∧ p.2 ∈ d.graph.nodes.map (·.id)) :
    Additions d (pairs.foldl (·.addEdge label ·) d) := by
  induction pairs generalizing d with
  | nil => exact .refl
  | cons p rest ih =>
    obtain ⟨hsource, htarget⟩ := h p (List.mem_cons_self ..)
    rw [List.foldl_cons]
    exact .head (.addEdge d label p.1 p.2 hsource htarget)
      (ih fun q hq => h q (List.mem_cons_of_mem _ hq))

/-- A link adds to the draft. -/
theorem additions_of_addLink {d d' : Draft} {link : Link} (h : d.addLink link = .ok d') :
    Additions d d' := by
  obtain ⟨⟨sources, d₁⟩, hleft, h⟩ := ok_of_bind h
  obtain ⟨⟨targets, d₂⟩, hright, h⟩ := ok_of_bind h
  cases h
  obtain ⟨hadditions₁, hsources⟩ := additions_of_referSide hleft
  obtain ⟨hadditions₂, htargets⟩ := additions_of_referSide hright
  refine (hadditions₁.trans hadditions₂).trans (additions_foldl_addEdge link.label fun p hp => ?_)
  obtain ⟨source, hsource, hp⟩ := List.mem_flatMap.1 hp
  obtain ⟨target, htarget, rfl⟩ := List.mem_map.1 hp
  exact ⟨hadditions₂.steps.nodes_prefix.subset (hsources source hsource), htargets target htarget⟩

/-- A chain adds to the draft. -/
theorem additions_of_addChain {statement : Text} {parts : List Text} {d d' : Draft}
    (h : d.addChain statement parts = .ok d') : Additions d d' := by
  induction parts generalizing d with
  | nil => cases h; exact .refl
  | cons part rest ih =>
    rw [addChain] at h
    split at h
    · cases h
    · obtain ⟨d₁, hlink, h⟩ := ok_of_bind h
      exact (additions_of_addLink hlink).trans (ih h)

/-- What the edges of a statement do to a draft: invisible links leave it as it is, chains and
links are added, and a statement without an arrow has none. -/
inductive AddsEdges (d : Draft) (statement : Text) : Option Draft → Prop
  | invisible (htildes : hasTildes (mask statement) = true) : AddsEdges d statement (some d)
  | chain (htildes : hasTildes (mask statement) = false) {parts : List Text}
      (hchain : chain? statement = some parts) {d' : Draft}
      (hadd : d.addChain statement parts = .ok d') : AddsEdges d statement (some d')
  | link (htildes : hasTildes (mask statement) = false) (hchain : chain? statement = none)
      {link : Link} (hlink : link? statement = some link) {d' : Draft}
      (hadd : d.addLink link = .ok d') : AddsEdges d statement (some d')
  | plain (htildes : hasTildes (mask statement) = false) (hchain : chain? statement = none)
      (hlink : link? statement = none) (harrow : hasArrow (mask statement) = false) :
      AddsEdges d statement none

theorem addsEdges_of_addEdges {d : Draft} {statement : Text} {result : Option Draft}
    (h : d.addEdges statement = .ok result) : AddsEdges d statement result := by
  unfold addEdges at h
  split at h
  · next htildes =>
    cases h
    exact .invisible htildes
  · next htildes =>
    have htildes := Bool.eq_false_iff.2 htildes
    split at h
    · next hchain =>
      obtain ⟨d', hadd, rfl⟩ := ok_of_map h
      exact .chain htildes hchain hadd
    · next hchain =>
      split at h
      · next hlink =>
        obtain ⟨d', hadd, rfl⟩ := ok_of_map h
        exact .link htildes hchain hlink hadd
      · next hlink =>
        split at h
        · cases h
        · next harrow =>
          cases h
          exact .plain htildes hchain hlink (Bool.eq_false_iff.2 harrow)

/-- The edges of a statement add to the draft. -/
theorem additions_of_addEdges {d d' : Draft} {statement : Text}
    (h : d.addEdges statement = .ok (some d')) : Additions d d' := by
  cases addsEdges_of_addEdges h with
  | invisible _ => exact .refl
  | chain _ _ hadd => exact additions_of_addChain hadd
  | link _ _ _ hadd => exact additions_of_addLink hadd

/-- What a statement that is accepted does to a draft, by its kind. -/
inductive Reads (d : Draft) (line : Nat) (statement : Text) : Draft → Prop
  | close (hend : statement = "end".toList) {x : OpenGroup} {outer : List OpenGroup}
      (hopen : d.openGroups = x :: outer) : Reads d line statement { d with openGroups := outer }
  | openGroup (hend : statement ≠ "end".toList) {header : Text}
      (hheader : subgraphHeader? statement = some header) {d' : Draft}
      (hgroup : d.openGroup line header = .ok d') : Reads d line statement d'
  | turn (hend : statement ≠ "end".toList) (hheader : subgraphHeader? statement = none)
      {direction : Direction} (hdirection : directionLine? statement = some direction) :
      Reads d line statement
        (if d.openGroups = [] then { d with graph := { d.graph with direction } } else d)
  | style (hend : statement ≠ "end".toList) (hheader : subgraphHeader? statement = none)
      (hdirection : directionLine? statement = none) (hstyle : isStyle statement = true) :
      Reads d line statement d
  | edges (hend : statement ≠ "end".toList) (hheader : subgraphHeader? statement = none)
      (hdirection : directionLine? statement = none) (hstyle : isStyle statement = false)
      {d' : Draft} (hedges : d.addEdges statement = .ok (some d')) : Reads d line statement d'
  | node (hend : statement ≠ "end".toList) (hheader : subgraphHeader? statement = none)
      (hdirection : directionLine? statement = none) (hstyle : isStyle statement = false)
      (hedges : d.addEdges statement = .ok none) {r : NodeRef} (href : readRef statement = .ok r)
      {id : Text} {d' : Draft} (hrefer : d.refer true r = .ok (id, d')) : Reads d line statement d'

theorem reads_of_readStatement {d d' : Draft} {line : Nat} {statement : Text}
    (h : d.readStatement line statement = .ok d') : Reads d line statement d' := by
  unfold readStatement at h
  split at h
  · next hend =>
    split at h
    · cases h
    · next hopen =>
      cases h
      exact .close hend hopen
  · next hend =>
    split at h
    · next hheader => exact .openGroup hend hheader h
    · next hheader =>
      split at h
      · next hdirection =>
        cases h
        exact .turn hend hheader hdirection
      · next hdirection =>
        split at h
        · next hstyle =>
          cases h
          exact .style hend hheader hdirection hstyle
        · next hstyle =>
          have hstyle := Bool.eq_false_iff.2 hstyle
          obtain ⟨result, hedges, h⟩ := ok_of_bind h
          cases result with
          | some d₁ =>
            cases h
            exact .edges hend hheader hdirection hstyle hedges
          | none =>
            obtain ⟨r, href, h⟩ := ok_of_bind h
            obtain ⟨⟨id, d₁⟩, hrefer, h⟩ := ok_of_bind h
            cases h
            exact .node hend hheader hdirection hstyle hedges href hrefer

/-- A statement closes the innermost group, opens a group, sets the direction, or adds to the nodes
and edges. -/
theorem readStatement_cases {d d' : Draft} {line : Nat} {statement : Text}
    (h : d.readStatement line statement = .ok d') :
    (statement = "end".toList ∧
      ∃ x outer, d.openGroups = x :: outer ∧ d' = { d with openGroups := outer }) ∨
    (statement ≠ "end".toList ∧ ∃ header, subgraphHeader? statement = some header ∧
      d.openGroup line header = .ok d') ∨
    (statement ≠ "end".toList ∧ subgraphHeader? statement = none ∧
      ((∃ direction, d' = { d with graph := { d.graph with direction } }) ∨ Additions d d')) := by
  cases reads_of_readStatement h with
  | close hend hopen => exact Or.inl ⟨hend, _, _, hopen, rfl⟩
  | openGroup hend hheader hgroup => exact Or.inr (Or.inl ⟨hend, _, hheader, hgroup⟩)
  | @turn hend hheader direction _ =>
    refine Or.inr (Or.inr ⟨hend, hheader, ?_⟩)
    split
    · exact Or.inl ⟨direction, rfl⟩
    · exact Or.inr .refl
  | style hend hheader _ _ => exact Or.inr (Or.inr ⟨hend, hheader, Or.inr .refl⟩)
  | edges hend hheader _ _ hedges =>
    exact Or.inr (Or.inr ⟨hend, hheader, Or.inr (additions_of_addEdges hedges)⟩)
  | node hend hheader _ _ _ _ hrefer =>
    exact Or.inr (Or.inr ⟨hend, hheader, Or.inr (.single (addition_of_refer hrefer).1)⟩)

/-- Reading a statement is a sequence of steps. -/
theorem steps_of_readStatement {d d' : Draft} {line : Nat} {statement : Text}
    (h : d.readStatement line statement = .ok d') : Steps d d' := by
  rcases readStatement_cases h with ⟨-, x, outer, hopen, rfl⟩ | ⟨-, header, -, hheader⟩ |
    ⟨-, -, ⟨direction, rfl⟩ | hadditions⟩
  · exact .single (.close d x outer hopen)
  · exact .single (step_of_openGroup hheader)
  · exact .single (.turn d direction)
  · exact hadditions.steps

/-- Reading a statement of a text is a sequence of steps. -/
theorem steps_of_read {d d' : Draft} {s : Statement} (h : d.read s = .ok d') : Steps d d' :=
  steps_of_readStatement (ok_of_mapError h)

/-- Reading the statements of a text is a sequence of steps. -/
theorem steps_of_foldlM_read {rest : List Statement} {d d' : Draft}
    (h : rest.foldlM Draft.read d = .ok d') : Steps d d' := by
  induction rest generalizing d with
  | nil => cases h; exact .refl
  | cons s rest ih =>
    rw [List.foldlM_cons] at h
    obtain ⟨d₁, hread, h⟩ := ok_of_bind h
    exact (steps_of_read hread).trans (ih h)

end Draft

/-- The draft after a header is an empty one. -/
theorem start_of_readHeader {s : Statement} {d : Draft} (h : readHeader s = .ok d) :
    ∃ direction, d = .start direction := by
  unfold readHeader at h
  split at h
  · cases h
  · cases h; exact ⟨_, rfl⟩
  · split at h
    · cases h; exact ⟨_, rfl⟩
    · cases h

/-- The draft of a text comes from an empty one by a sequence of steps. -/
theorem steps_of_draftOf {ss : List Statement} {d : Draft} (h : draftOf ss = .ok d) :
    ∃ direction, Draft.Steps (.start direction) d := by
  cases ss with
  | nil => cases h
  | cons header rest =>
    obtain ⟨d₁, hheader, h⟩ := ok_of_bind h
    obtain ⟨direction, rfl⟩ := start_of_readHeader hheader
    exact ⟨direction, Draft.steps_of_foldlM_read h⟩

end Swimlane
