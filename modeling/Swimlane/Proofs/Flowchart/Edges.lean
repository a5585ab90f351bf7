import Swimlane.Proofs.Flowchart.Consistent
import Swimlane.Proofs.Flowchart.Statement

/-!
# Statements that add edges

A link leads from each node of its left side to each of its right side, and whether it can be
added depends on its two sides alone.  A statement with which there are more edges has none of the
other meanings of statements, so it is read for the edges of its links; and so is a longer one
that begins with it.
-/

namespace Swimlane

namespace Draft

/-! ## The sides of a link -/

@[simp] theorem edges_mention (d : Draft) (asStatement : Bool) (id : Text) (r : NodeRef) :
    (d.mention asStatement id r).graph.edges = d.graph.edges := by
  have hclaim (d : Draft) : (d.claim id).graph.edges = d.graph.edges := by
    rcases d.claim_cases id with h | ⟨x, outer, n, -, -, -, -, h⟩ <;> rw [h]
    rfl
  rw [mention, hclaim, graph_markImplied, edges_addNode]

/-- A step takes no edge away. -/
theorem Step.edges_prefix {d d' : Draft} (h : Step d d') : d.graph.edges <+: d'.graph.edges := by
  cases h with
  | turn => exact List.prefix_refl _
  | close => exact List.prefix_refl _
  | enter line name label => rw [edges_enter]
  | mention asStatement id r => rw [edges_mention]
  | addEdge => exact List.prefix_append _ _

/-- No sequence of steps takes an edge away. -/
theorem Steps.edges_prefix {d d' : Draft} (h : Steps d d') :
    d.graph.edges <+: d'.graph.edges := by
  induction h with
  | refl => exact List.prefix_refl _
  | tail _ hlast ih => exact ih.trans hlast.edges_prefix

/-- Does the text refer to a node, by a name that nodes may have if by a name? -/
def IsReadable (part : Text) : Prop :=
  ∃ r, readRef part = .ok r ∧ ∀ id ∈ r.id, isNodeId id = true

/-- The name by which a text refers to a node, if by any. -/
def namedBy? (part : Text) : Option Text := (readRef part).toOption.bind (·.id)

/-- Do the identifiers belong to the references, one by one?  A reference by name has the name
for its identifier. -/
def AreNamed (parts ids : List Text) : Prop :=
  List.Forall₂ (fun part id => ∀ name ∈ namedBy? part, name = id) parts ids

/-- A side of a link can be read if all its references can, whatever the draft. -/
theorem exists_referSide {parts : List Text} (h : ∀ part ∈ parts, IsReadable part) (d : Draft) :
    ∃ ids d', d.referSide parts = .ok (ids, d') := by
  induction parts generalizing d with
  | nil => exact ⟨[], d, rfl⟩
  | cons part rest ih =>
    obtain ⟨r, href, hid⟩ := h part List.mem_cons_self
    obtain ⟨name, hname⟩ : ∃ name, d.refName r = .ok name := by
      rw [refName]
      split
      · next id hcase => exact ⟨id, if_pos (hid id hcase)⟩
      · exact ⟨_, rfl⟩
    obtain ⟨ids, d', hrest⟩ := ih (fun p hp => h p (List.mem_cons_of_mem part hp))
      (d.mention false name r)
    refine ⟨name :: ids, d', ?_⟩
    rw [referSide, href]
    show (d.refer false r >>= _) = _
    rw [refer, hname]
    show ((d.mention false name r).referSide rest >>= _) = _
    rw [hrest]
    rfl

/-- A side of a link that is read has readable references, gives each its identifier and adds no
edge. -/
theorem of_referSide {parts : List Text} {d d' : Draft} {ids : List Text}
    (h : d.referSide parts = .ok (ids, d')) :
    (∀ part ∈ parts, IsReadable part) ∧ AreNamed parts ids ∧ d'.graph.edges = d.graph.edges := by
  induction parts generalizing d ids with
  | nil =>
    cases h
    exact ⟨fun _ hpart => absurd hpart List.not_mem_nil, .nil, rfl⟩
  | cons part rest ih =>
    obtain ⟨r, href, h⟩ := ok_of_bind h
    obtain ⟨⟨id, d₁⟩, hrefer, h⟩ := ok_of_bind h
    obtain ⟨⟨others, d₂⟩, hrest, h⟩ := ok_of_bind h
    cases h
    obtain ⟨name, hname, hrefer⟩ := ok_of_bind hrefer
    cases hrefer
    obtain ⟨hreadable, hnamed, hedges⟩ := ih hrest
    have hid : ∀ x ∈ r.id, isNodeId x = true ∧ x = id := by
      intro x hx
      rw [refName, hx] at hname
      dsimp only at hname
      split at hname
      · next hnode =>
        cases hname
        exact ⟨hnode, rfl⟩
      · cases hname
    have hnamedBy : ∀ name ∈ namedBy? part, name = id := by
      rw [namedBy?, href]
      exact fun x hx => (hid x hx).2
    refine ⟨fun p hp => ?_, .cons hnamedBy hnamed, hedges.trans (d.edges_mention false id r)⟩
    rcases List.mem_cons.1 hp with rfl | hp
    · exact ⟨r, href, fun x hx => (hid x hx).1⟩
    · exact hreadable p hp

end Draft

/-! ## The edges of a link -/

/-- What an edge joins, and its label. -/
def Edge.joins (e : Edge) : Text × Option Text × Text := (e.source, e.label, e.target)

/-- The edges of one link: its sources, its label and its targets. -/
structure Bundle where
  sources : List Text
  label : Option Text
  targets : List Text
deriving DecidableEq

/-- From each source an edge leads to each target. -/
def Bundle.joins (s : Bundle) : List (Text × Option Text × Text) :=
  s.sources.flatMap fun source => s.targets.map fun target => (source, s.label, target)

theorem Bundle.length_joins (x : Bundle) :
    x.joins.length = x.sources.length * x.targets.length := by
  rw [joins, List.length_flatMap]
  simp

namespace Draft

/-- What the edges of a draft join, in the order in which they were added. -/
def joins (d : Draft) : List (Text × Option Text × Text) := d.graph.edges.map Edge.joins

/-- Can both sides of the link be read? -/
def CanLink (link : Link) : Prop :=
  ∀ part ∈ splitOpen '&' link.left ++ splitOpen '&' link.right, IsReadable part

/-- Edges are numbered one after another. -/
theorem edges_foldl_addEdge (label : Option Text) (pairs : List (Text × Text)) (d : Draft) :
    (pairs.foldl (·.addEdge label ·) d).graph.edges = d.graph.edges ++ pairs.mapIdx fun i ends =>
      ⟨'e' :: decimal (d.graph.edges.length + i), ends.1, ends.2, label⟩ := by
  induction pairs generalizing d with
  | nil => simp
  | cons p rest ih =>
    rw [List.foldl_cons, ih]
    simp [addEdge, List.mapIdx_cons, Nat.add_assoc, Nat.add_comm 1]

theorem joins_foldl_addEdge (label : Option Text) (pairs : List (Text × Text)) (d : Draft) :
    (pairs.foldl (·.addEdge label ·) d).joins =
      d.joins ++ pairs.map fun p => (p.1, label, p.2) := by
  induction pairs generalizing d with
  | nil => simp
  | cons p rest ih =>
    rw [List.foldl_cons, ih]
    simp [joins, addEdge, Edge.joins]

/-- A link can be added if both its sides can be read, whatever the draft. -/
theorem exists_addLink {link : Link} (h : CanLink link) (d : Draft) :
    ∃ d', d.addLink link = .ok d' := by
  obtain ⟨sources, d₁, hleft⟩ := exists_referSide
    (fun part hpart => h part (List.mem_append_left _ hpart)) d
  obtain ⟨targets, d₂, hright⟩ := exists_referSide
    (fun part hpart => h part (List.mem_append_right _ hpart)) d₁
  refine ⟨(sources.flatMap fun source => targets.map fun target => (source, target)).foldl
    (·.addEdge link.label ·) d₂, ?_⟩
  rw [addLink, hleft]
  show (d₁.referSide _ >>= _) = _
  rw [hright]
  rfl

/-- A link that is added leads from each of its sources to each of its targets. -/
theorem of_addLink {d d' : Draft} {link : Link} (h : d.addLink link = .ok d') :
    CanLink link ∧ ∃ sources targets, AreNamed (splitOpen '&' link.left) sources ∧
      AreNamed (splitOpen '&' link.right) targets ∧
      d'.joins = d.joins ++ (Bundle.mk sources link.label targets).joins := by
  obtain ⟨⟨sources, d₁⟩, hleft, h⟩ := ok_of_bind h
  obtain ⟨⟨targets, d₂⟩, hright, h⟩ := ok_of_bind h
  cases h
  obtain ⟨hread₁, hnamed₁, hedges₁⟩ := of_referSide hleft
  obtain ⟨hread₂, hnamed₂, hedges₂⟩ := of_referSide hright
  refine ⟨fun part hpart => (List.mem_append.1 hpart).elim (hread₁ part) (hread₂ part),
    sources, targets, hnamed₁, hnamed₂, ?_⟩
  have hjoins : d₂.joins = d.joins := by rw [joins, hedges₂, hedges₁, joins]
  rw [joins_foldl_addEdge, hjoins]
  simp [Bundle.joins, List.map_flatMap, Function.comp_def]

/-! ## Statements that add edges -/

/-- Is the statement read for its edges alone, for none of the other meanings of statements? -/
structure IsForEdges (s : Text) : Prop where
  not_end : s ≠ "end".toList
  no_header : subgraphHeader? s = none
  no_direction : directionLine? s = none
  no_style : isStyle s = false
  no_tildes : hasTildes (mask s) = false

theorem edges_of_openGroup {d d' : Draft} {line : Nat} {header : Text}
    (h : d.openGroup line header = .ok d') : d'.graph.edges = d.graph.edges := by
  obtain ⟨name, label, -, -, rfl⟩ := enter_of_openGroup h
  exact edges_enter d line name label

theorem edges_of_refer {d d' : Draft} {asStatement : Bool} {r : NodeRef} {id : Text}
    (h : d.refer asStatement r = .ok (id, d')) : d'.graph.edges = d.graph.edges := by
  obtain ⟨name, -, h⟩ := ok_of_bind h
  cases h
  exact edges_mention d asStatement _ r

/-- A statement with which there are more edges is read for its edges. -/
theorem of_more_edges {d d' : Draft} {line : Nat} {s : Text}
    (h : d.readStatement line s = .ok d') (hmore : d.graph.edges.length < d'.graph.edges.length) :
    IsForEdges s ∧ d.addEdges s = .ok (some d') := by
  have hsame (heq : d'.graph.edges = d.graph.edges) : False := by
    rw [heq] at hmore
    exact Nat.lt_irrefl _ hmore
  cases reads_of_readStatement h with
  | close _ _ => exact (hsame rfl).elim
  | openGroup _ _ hgroup => exact (hsame (edges_of_openGroup hgroup)).elim
  | turn _ _ _ =>
    refine (hsame ?_).elim
    split <;> rfl
  | style _ _ _ _ => exact (hsame rfl).elim
  | edges hend hheader hdirection hstyle hedges =>
    refine ⟨⟨hend, hheader, hdirection, hstyle, ?_⟩, hedges⟩
    cases addsEdges_of_addEdges hedges with
    | invisible _ => exact (hsame rfl).elim
    | chain htildes _ _ => exact htildes
    | link htildes _ _ _ => exact htildes
  | node _ _ _ _ _ _ hrefer => exact (hsame (edges_of_refer hrefer)).elim

/-- A plain statement without invisible links is read for its edges. -/
theorem IsPlainStatement.isForEdges {s : Text} (h : IsPlainStatement s)
    (htildes : hasTildes (mask s) = false) : IsForEdges s :=
  ⟨h.not_end, h.no_header, h.no_direction, h.no_style, htildes⟩

namespace IsForEdges

variable {s : Text} (h : IsForEdges s) (d : Draft) (line : Nat)

include h

theorem readStatement_eq (x : Except SyntaxFault Draft) (hedges : d.addEdges s = x.map some) :
    d.readStatement line s = x := by
  simp only [readStatement, if_neg h.not_end, h.no_header, h.no_direction, h.no_style, hedges]
  cases x <;> rfl

/-- A chain is read link by link. -/
theorem readStatement_of_chain {parts : List Text} (hparts : chain? s = some parts) :
    d.readStatement line s = d.addChain s parts := by
  refine h.readStatement_eq d line _ ?_
  simp only [addEdges, h.no_tildes, hparts, Bool.false_eq_true, if_false]

/-- A link that is no chain is added. -/
theorem readStatement_of_link (hchain : chain? s = none) {link : Link}
    (hlink : link? s = some link) : d.readStatement line s = d.addLink link := by
  refine h.readStatement_eq d line _ ?_
  simp only [addEdges, h.no_tildes, hchain, hlink, Bool.false_eq_true, if_false]

end IsForEdges

end Draft

/-! ## The meaning of longer statements -/

namespace Draft

/-- If the beginning of a statement is read for its edges, so is all of it. -/
theorem IsForEdges.append {s : Text} (h : IsForEdges s) {c : Char} (hc : c ∈ s)
    (hsign : c = '-' ∨ c = '=') {more : Text} (htildes : hasTildes (mask (s ++ more)) = false) :
    IsForEdges (s ++ more) where
  not_end heq := by
    have hmem : c ∈ "end".toList := heq ▸ List.mem_append_left more hc
    rcases hsign with rfl | rfl <;> exact absurd hmem (by decide)
  no_header := by
    have hne : c ∉ "subgraph".toList := by rcases hsign with rfl | rfl <;> decide
    have hheader := h.no_header
    rw [subgraphHeader?] at hheader ⊢
    by_cases hword : startsWith "subgraph".toList (s ++ more) = true
    · obtain ⟨rest, rfl⟩ := prefix_of_prefix_append hne hc (List.isPrefixOf_iff_prefix.1 hword)
      have hrest : c ∈ rest := (List.mem_append.1 hc).resolve_left hne
      obtain ⟨d, rest, rfl⟩ := List.exists_cons_of_ne_nil (List.ne_nil_of_mem hrest)
      have hshort : startsWith "subgraph".toList ("subgraph".toList ++ d :: rest) = true :=
        List.isPrefixOf_iff_prefix.2 (List.prefix_append _ _)
      rw [if_pos hshort] at hheader
      rw [if_pos hword]
      change (if isBlank d = true then some (trimStart rest) else none) = none at hheader
      change (if isBlank d = true then some (trimStart (rest ++ more)) else none) = none
      split at hheader
      · cases hheader
      · next hblank => exact if_neg hblank
    · exact if_neg hword
  no_direction := directionLine?_eq_none (List.mem_append_left more hc) hsign
  no_style := by
    have hne : ∀ w ∈ styleWords, c ∉ w := by rcases hsign with rfl | rfl <;> decide
    have hstyle := h.no_style
    rw [isStyle, List.any_eq_false] at hstyle ⊢
    intro w hw hword
    exact hstyle w hw (List.isPrefixOf_iff_prefix.2
      (prefix_of_prefix_append (hne w hw) hc (List.isPrefixOf_iff_prefix.1 hword)))
  no_tildes := htildes

end Draft

end Swimlane
