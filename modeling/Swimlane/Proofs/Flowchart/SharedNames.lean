import Swimlane.Proofs.Flowchart.Forest
import Swimlane.Proofs.Flowchart.OpenGroups

/-!
# Names that a node shares with a group

A new group never takes the name of a declared node, a name that is made up is no node's and no
group's, and the bare end of an edge that has the name of a group goes when the draft is
finished.  What remains is a declaration, a statement of its own or an end of an edge with a
body, under the name of a group that is there already.  `shared_iff_of_ofText` shows that names
are shared in this way and in no other.
-/

namespace Swimlane

/-! ## What a statement declares -/

/-- The references that texts stand for, those of them that can be read. -/
def refsOf (parts : List Text) : List NodeRef :=
  parts.filterMap fun part => (Draft.readRef part).toOption

/-- The references at the ends of a link. -/
def Link.refs (link : Link) : List NodeRef :=
  refsOf (splitOpen '&' link.left) ++ refsOf (splitOpen '&' link.right)

/-- The references at the ends of the edges of a statement; `none` if it has no edges. -/
def edgeRefs? (statement : Text) : Option (List NodeRef) :=
  if hasTildes (mask statement) then some []
  else
    match chain? statement with
    | some parts => some (parts.flatMap fun part => (link? part).elim [] Link.refs)
    | none => (link? statement).map Link.refs

/-- The names of the references that say more than a name. -/
def bodyNames (refs : List NodeRef) : List Text := (refs.filter (·.hasBody)).filterMap (·.id)

/-- The names under which a statement declares nodes.  A statement without edges declares the
one it refers to. -/
def Statement.declaredNames (s : Statement) : List Text :=
  if s.closes || s.opens || (Draft.directionLine? s.text).isSome || Draft.isStyle s.text then []
  else
    match edgeRefs? s.text with
    | some refs => bodyNames refs
    | none => ((Draft.readRef s.text).toOption.bind (·.id)).toList

theorem mem_bodyNames {refs : List NodeRef} {id : Text} :
    id ∈ bodyNames refs ↔ ∃ r ∈ refs, r.hasBody = true ∧ r.id = some id := by
  simp [bodyNames, and_assoc]

theorem mem_bodyNames_append {refs others : List NodeRef} {id : Text} :
    id ∈ bodyNames (refs ++ others) ↔ id ∈ bodyNames refs ∨ id ∈ bodyNames others := by
  rw [bodyNames, List.filter_append, List.filterMap_append, List.mem_append]
  rfl

namespace Draft

variable {d d' : Draft} {id : Text}

/-! ## What a reference declares -/

theorem hasDeclared_iff :
    d.hasDeclared id = true ↔ id ∈ d.graph.nodes.map (·.id) ∧ id ∉ d.implied := by
  rw [hasDeclared, Bool.and_eq_true, Graph.hasNode_iff, Bool.not_eq_true', List.contains_eq_mem,
    decide_eq_false_iff_not]

theorem implied_mention (d : Draft) (asStatement : Bool) (name : Text) (r : NodeRef) :
    (d.mention asStatement name r).implied =
      if asStatement || r.hasBody then d.implied.filter (· ≠ name)
      else if d.graph.hasNode name then d.implied else name :: d.implied := by
  have hclaim (e : Draft) : (e.claim name).implied = e.implied := by
    rcases e.claim_cases name with hsame | ⟨x, outer, n, -, -, -, -, hclaim⟩
    · rw [hsame]
    · rw [hclaim]
  have hadd : (d.addNode name r).implied = d.implied := by
    unfold addNode
    split <;> rfl
  rw [mention, hclaim, markImplied, apply_ite implied, apply_ite implied, hadd]
  cases d.graph.hasNode name <;> rfl

/-- A reference declares the node it mentions if it stands for itself or has a body, and no
other. -/
theorem hasDeclared_mention (d : Draft) (asStatement : Bool) (name : Text) (r : NodeRef) :
    (d.mention asStatement name r).hasDeclared id = true ↔
      d.hasDeclared id = true ∨ ((asStatement || r.hasBody) = true ∧ name = id) := by
  have hnodes : id ∈ (d.mention asStatement name r).graph.nodes.map (·.id) ↔
      id ∈ d.graph.nodes.map (·.id) ∨ name = id := by
    rw [map_id_mention]
    split
    · next hold =>
      exact ⟨Or.inl, fun h => h.elim (·) fun hname => hname ▸ Graph.hasNode_iff.1 hold⟩
    · rw [List.mem_append, List.mem_singleton, eq_comm (a := id)]
  rw [hasDeclared_iff, hasDeclared_iff, hnodes, implied_mention]
  by_cases hname : name = id
  · subst hname
    split
    · next hdeclares => simp [hdeclares]
    · next hbare =>
      split
      · next hold => simp [hbare, Graph.hasNode_iff.1 hold]
      · next hnew =>
        rw [Graph.hasNode_iff] at hnew
        simp [hbare, hnew]
  · have hother : id ≠ name := fun h => hname h.symm
    split
    · simp [hname, hother]
    · split <;> simp [hname, hother]

/-- With a name of a group, a reference declares a node only if it spells out the name. -/
theorem hasDeclared_of_refer (hid : id ∈ d.graph.groups.map (·.id)) {asStatement : Bool}
    {r : NodeRef} {name : Text} (h : d.refer asStatement r = .ok (name, d')) :
    d'.hasDeclared id = true ↔
      d.hasDeclared id = true ∨ ((asStatement || r.hasBody) = true ∧ r.id = some id) := by
  obtain ⟨name, hname, h⟩ := ok_of_bind h
  cases h
  rw [hasDeclared_mention]
  refine or_congr_right (and_congr_right fun _ => ?_)
  unfold refName at hname
  cases hspelt : r.id with
  | some spelt =>
    rw [hspelt] at hname
    dsimp only at hname
    split at hname
    · cases hname
      exact (Option.some_inj).symm
    · cases hname
  | none =>
    -- a name that is made up is no group's
    rw [hspelt] at hname
    cases hname
    refine iff_of_false (fun heq => ?_) (fun heq => by cases heq)
    exact freshName_not_mem d.graph.ids _ (heq ▸ List.mem_append_right _ hid)

/-! ## What edges declare -/

/-- Additions leave the groups. -/
theorem Additions.group_ids (h : Additions d d') :
    d'.graph.groups.map (·.id) = d.graph.groups.map (·.id) := by
  rw [← Graph.map_fst_parentage, ← Graph.map_fst_parentage,
    (Prod.mk.inj h.nestingState_eq).2]

/-- The side of a link declares the nodes of which it says more than the name. -/
theorem hasDeclared_of_referSide {parts : List Text} (hid : id ∈ d.graph.groups.map (·.id))
    {ids : List Text} (h : d.referSide parts = .ok (ids, d')) :
    d'.hasDeclared id = true ↔ d.hasDeclared id = true ∨ id ∈ bodyNames (refsOf parts) := by
  induction parts generalizing d ids with
  | nil =>
    cases h
    exact ⟨Or.inl, fun h => h.elim (·) fun hmem => absurd hmem List.not_mem_nil⟩
  | cons part rest ih =>
    obtain ⟨r, hr, h⟩ := ok_of_bind h
    obtain ⟨⟨name, d₁⟩, hrefer, h⟩ := ok_of_bind h
    obtain ⟨⟨others, d₂⟩, hrest, h⟩ := ok_of_bind h
    cases h
    have hid₁ : id ∈ d₁.graph.groups.map (·.id) := by
      rw [Additions.group_ids (.single (addition_of_refer hrefer).1)]
      exact hid
    have hrefs : refsOf (part :: rest) = [r] ++ refsOf rest := by
      rw [refsOf, List.filterMap_cons, hr]
      rfl
    rw [ih hid₁ hrest, hasDeclared_of_refer hid hrefer, hrefs, mem_bodyNames_append, or_assoc]
    simp [mem_bodyNames]

theorem hasDeclared_foldl_addEdge (label : Option Text) (pairs : List (Text × Text)) (d : Draft) :
    (pairs.foldl (·.addEdge label ·) d).hasDeclared id = d.hasDeclared id := by
  induction pairs generalizing d with
  | nil => rfl
  | cons p rest ih =>
    rw [List.foldl_cons, ih]
    rfl

/-- A link declares the nodes at its ends that have bodies. -/
theorem hasDeclared_of_addLink (hid : id ∈ d.graph.groups.map (·.id)) {link : Link}
    (h : d.addLink link = .ok d') :
    d'.hasDeclared id = true ↔ d.hasDeclared id = true ∨ id ∈ bodyNames link.refs := by
  obtain ⟨⟨sources, d₁⟩, hleft, h⟩ := ok_of_bind h
  obtain ⟨⟨targets, d₂⟩, hright, h⟩ := ok_of_bind h
  cases h
  have hid₁ : id ∈ d₁.graph.groups.map (·.id) := by
    rw [Additions.group_ids (additions_of_referSide hleft).1]
    exact hid
  rw [hasDeclared_foldl_addEdge, hasDeclared_of_referSide hid₁ hright,
    hasDeclared_of_referSide hid hleft, Link.refs, mem_bodyNames_append, or_assoc]

/-- A chain declares what its links declare. -/
theorem hasDeclared_of_addChain {statement : Text} {parts : List Text}
    (hid : id ∈ d.graph.groups.map (·.id)) (h : d.addChain statement parts = .ok d') :
    d'.hasDeclared id = true ↔ d.hasDeclared id = true ∨
      id ∈ bodyNames (parts.flatMap fun part => (link? part).elim [] Link.refs) := by
  induction parts generalizing d with
  | nil =>
    cases h
    exact ⟨Or.inl, fun h => h.elim (·) fun hmem => absurd hmem List.not_mem_nil⟩
  | cons part rest ih =>
    rw [addChain] at h
    split at h
    · cases h
    · next link hpart =>
      obtain ⟨d₁, hlink, h⟩ := ok_of_bind h
      have hid₁ : id ∈ d₁.graph.groups.map (·.id) := by
        rw [Additions.group_ids (additions_of_addLink hlink)]
        exact hid
      rw [ih hid₁ h, hasDeclared_of_addLink hid hlink, List.flatMap_cons, mem_bodyNames_append,
        hpart, or_assoc]
      rfl

/-- A statement has no edges, or they declare the nodes at their ends that have bodies. -/
theorem addEdges_cases (hid : id ∈ d.graph.groups.map (·.id)) {statement : Text}
    {result : Option Draft} (h : d.addEdges statement = .ok result) :
    (result = none ∧ edgeRefs? statement = none) ∨ ∃ d' refs, result = some d' ∧
      edgeRefs? statement = some refs ∧
      (d'.hasDeclared id = true ↔ d.hasDeclared id = true ∨ id ∈ bodyNames refs) := by
  cases addsEdges_of_addEdges h with
  | invisible htildes =>
    have hrefs : edgeRefs? statement = some [] := by rw [edgeRefs?, if_pos htildes]
    refine Or.inr ⟨d, [], rfl, hrefs, Or.inl, fun h => h.elim (·) fun hmem => ?_⟩
    exact absurd hmem List.not_mem_nil
  | chain htildes hchain hadd =>
    refine Or.inr ⟨_, _, rfl, ?_, hasDeclared_of_addChain hid hadd⟩
    simp only [edgeRefs?, htildes, hchain, Bool.false_eq_true, if_false]
  | link htildes hchain hlink hadd =>
    refine Or.inr ⟨_, _, rfl, ?_, hasDeclared_of_addLink hid hadd⟩
    simp only [edgeRefs?, htildes, hchain, hlink, Bool.false_eq_true, if_false, Option.map_some]
  | plain htildes hchain hlink _ =>
    refine Or.inl ⟨rfl, ?_⟩
    simp only [edgeRefs?, htildes, hchain, hlink, Bool.false_eq_true, if_false, Option.map_none]

/-! ## What a text declares -/

/-- Is the name that of a group and of a declared node? -/
def isShared (d : Draft) (id : Text) : Bool := d.graph.hasGroup id && d.hasDeclared id

theorem isShared_iff : d.isShared id = true ↔
    id ∈ d.graph.groups.map (·.id) ∧ d.hasDeclared id = true := by
  rw [isShared, Bool.and_eq_true, Graph.hasGroup_iff]

/-- A new group shares its name with no declared node. -/
theorem isShared_enter {name : Text} (hfree : d.hasDeclared name = false) (line : Nat)
    (label : Text) : (d.enter line name label).isShared id = d.isShared id := by
  have hdeclared : (d.enter line name label).hasDeclared id = d.hasDeclared id := by
    rw [hasDeclared, Graph.hasNode, nodes_enter]
    rfl
  have hgroups : id ∈ (d.enter line name label).graph.groups.map (·.id) ↔
      id ∈ d.graph.groups.map (·.id) ∨ id = name := by
    rw [map_id_groups_enter, List.mem_append, List.mem_singleton]
  rw [Bool.eq_iff_iff, isShared_iff, isShared_iff, hdeclared, hgroups]
  refine and_congr_left fun hold => or_iff_left fun hsame => ?_
  rw [hsame, hfree] at hold
  cases hold

/-- Where the groups stay, names become shared that are declared and are a group's. -/
theorem isShared_of_hasDeclared {names : List Text}
    (hgroups : d'.graph.groups.map (·.id) = d.graph.groups.map (·.id))
    (hdeclared : id ∈ d.graph.groups.map (·.id) →
      (d'.hasDeclared id = true ↔ d.hasDeclared id = true ∨ id ∈ names)) :
    d'.isShared id = true ↔
      d.isShared id = true ∨ (id ∈ d.graph.groups.map (·.id) ∧ id ∈ names) := by
  rw [isShared_iff, isShared_iff, hgroups, ← and_or_left]
  exact and_congr_right hdeclared

/-- What a statement about nodes or edges declares. -/
theorem declaredNames_plain {s : Statement} (hend : s.text ≠ "end".toList)
    (hheader : subgraphHeader? s.text = none) (hdirection : directionLine? s.text = none)
    (hstyle : isStyle s.text = false) : s.declaredNames = match edgeRefs? s.text with
      | some refs => bodyNames refs
      | none => ((readRef s.text).toOption.bind (·.id)).toList := by
  have hopens : s.opens = false := by rw [Statement.opens, hheader]; rfl
  rw [Statement.declaredNames, Statement.closes_eq_false hend, hopens, hdirection, hstyle]
  rfl

/-- A statement makes a name shared if it declares a node under the name of a group, and in no
other way. -/
theorem isShared_of_read {s : Statement} (h : d.read s = .ok d') :
    d'.isShared id = true ↔ d.isShared id = true ∨
      (id ∈ d.graph.groups.map (·.id) ∧ id ∈ s.declaredNames) := by
  have hnone (hempty : s.declaredNames = []) (hsame : d'.isShared id = d.isShared id) :
      d'.isShared id = true ↔ d.isShared id = true ∨
        (id ∈ d.graph.groups.map (·.id) ∧ id ∈ s.declaredNames) := by
    rw [hsame, hempty]
    exact (or_iff_left fun hmem => List.not_mem_nil hmem.2).symm
  cases reads_of_readStatement (ok_of_mapError h) with
  | close hend _ =>
    exact hnone (by rw [Statement.declaredNames, Statement.closes_iff.2 hend]; rfl) rfl
  | openGroup _ hheader hgroup =>
    have hopens : s.opens = true := by rw [Statement.opens, hheader]; rfl
    obtain ⟨name, label, -, hfree, rfl⟩ := enter_of_openGroup hgroup
    refine hnone ?_ (isShared_enter hfree s.line label)
    rw [Statement.declaredNames, hopens, Bool.or_true]
    rfl
  | turn hend hheader hdirection =>
    have hopens : s.opens = false := by rw [Statement.opens, hheader]; rfl
    refine hnone ?_ (by split <;> rfl)
    rw [Statement.declaredNames, hdirection, Statement.closes_eq_false hend, hopens]
    rfl
  | style _ _ _ hstyle =>
    refine hnone ?_ rfl
    rw [Statement.declaredNames, hstyle, Bool.or_true]
    rfl
  | edges hend hheader hdirection hstyle hedges =>
    refine isShared_of_hasDeclared (Additions.group_ids (additions_of_addEdges hedges))
      fun hid => ?_
    obtain ⟨hnone, -⟩ | ⟨d₂, refs, hsame, hrefs, hdeclared⟩ := addEdges_cases hid hedges
    · cases hnone
    · cases hsame
      rw [hdeclared, declaredNames_plain hend hheader hdirection hstyle, hrefs]
  | node hend hheader hdirection hstyle hedges href hrefer =>
    refine isShared_of_hasDeclared (Additions.group_ids (.single (addition_of_refer hrefer).1))
      fun hid => ?_
    obtain ⟨-, hrefs⟩ | ⟨d₂, refs, hsome, -⟩ := addEdges_cases hid hedges
    · rw [hasDeclared_of_refer hid hrefer, declaredNames_plain hend hheader hdirection hstyle,
        hrefs, href]
      simp [Except.toOption]
    · cases hsome

/-- Among statements that are read one after another, those make a name shared that declare a
node under the name of a group that is there. -/
theorem isShared_of_foldlM_read {ss : List Statement} (h : ss.foldlM Draft.read d = .ok d') :
    d'.isShared id = true ↔ d.isShared id = true ∨ ∃ before s after m, ss = before ++ s :: after ∧
      before.foldlM Draft.read d = .ok m ∧ id ∈ m.graph.groups.map (·.id) ∧
      id ∈ s.declaredNames := by
  induction ss generalizing d with
  | nil =>
    cases h
    refine (or_iff_left ?_).symm
    rintro ⟨before, s, after, m, hss, -⟩
    exact List.append_ne_nil_of_right_ne_nil before (List.cons_ne_nil s after) hss.symm
  | cons s rest ih =>
    rw [List.foldlM_cons] at h
    obtain ⟨d₁, hread, hrest⟩ := ok_of_bind h
    rw [ih hrest, isShared_of_read hread, or_assoc]
    refine or_congr_right ⟨?_, ?_⟩
    · rintro (⟨hid, hnames⟩ | ⟨before, s', after, m, rfl, hbefore, hid, hnames⟩)
      · exact ⟨[], s, rest, d, rfl, rfl, hid, hnames⟩
      · refine ⟨s :: before, s', after, m, rfl, ?_, hid, hnames⟩
        rw [List.foldlM_cons, hread]
        exact hbefore
    · rintro ⟨before, s', after, m, hss, hbefore, hid, hnames⟩
      cases before with
      | nil =>
        cases hss
        cases hbefore
        exact Or.inl ⟨hid, hnames⟩
      | cons first before =>
        obtain ⟨rfl, rfl⟩ := List.cons.inj hss
        rw [List.foldlM_cons, hread] at hbefore
        exact Or.inr ⟨before, s', after, m, rfl, hbefore, hid, hnames⟩

/-- When a draft is finished, the names of groups and of declared nodes are both kept. -/
theorem isShared_finish {g : Graph} (h : d.finish = .ok g) :
    (id ∈ g.nodes.map (·.id) ∧ id ∈ g.groups.map (·.id)) ↔ d.isShared id = true := by
  have hgroups : g.groups.map (·.id) = d.graph.groups.map (·.id) := by
    rw [← Graph.map_id_frames, frames_finish h, Graph.map_id_frames]
  rw [hgroups, isShared_iff, and_comm]
  refine and_congr_right fun hid => ?_
  have hstray : d.isStray id = false ↔ id ∉ d.implied := by
    rw [isStray, Graph.hasGroup_iff.2 hid, Bool.and_true, List.contains_eq_mem,
      decide_eq_false_iff_not]
  rw [hasDeclared_iff, ← hstray, (finish_eq_ok h).2, List.mem_map, List.mem_map]
  constructor
  · rintro ⟨n, hn, rfl⟩
    obtain ⟨hn, hkept⟩ := List.mem_filter.1 hn
    exact ⟨⟨n, hn, rfl⟩, by simpa using hkept⟩
  · rintro ⟨⟨n, hn, rfl⟩, hkept⟩
    exact ⟨n, List.mem_filter.2 ⟨hn, by simpa using hkept⟩, rfl⟩

end Draft

/-! ## Flowcharts that were read -/

/-- A name is that of a node and of a group if and only if a statement declares a node under the
name of a group that was opened before.  In no other way do the names of nodes and groups meet:
whatever is declared before, implied, or made up, a group that is opened later has a name of
its own, or is what the implied node is taken for. -/
theorem shared_iff_of_ofText {text : Text} {f : Flowchart} (h : Flowchart.ofText text = .ok f)
    (id : Text) : (id ∈ f.graph.nodes.map (·.id) ∧ id ∈ f.graph.groups.map (·.id)) ↔
      ∃ before s after d, statements text = before ++ s :: after ∧ draftOf before = .ok d ∧
        id ∈ d.graph.groups.map (·.id) ∧ id ∈ s.declaredNames := by
  obtain ⟨d, hd, hrest⟩ := ok_of_bind h
  obtain ⟨g, hfinish, hf⟩ := ok_of_bind hrest
  cases hf
  rw [Draft.isShared_finish hfinish]
  generalize statements text = ss at hd
  cases ss with
  | nil => cases hd
  | cons header rest =>
    obtain ⟨start, hstart, hd⟩ := ok_of_bind hd
    obtain ⟨direction, rfl⟩ := start_of_readHeader hstart
    have hdraft (before : List Statement) : draftOf (header :: before) =
        before.foldlM Draft.read (.start direction) := by
      show (readHeader header >>= fun start => before.foldlM Draft.read start) = _
      rw [hstart]
      rfl
    have hempty : (Draft.start direction).isShared id = false := rfl
    rw [Draft.isShared_of_foldlM_read hd, hempty, or_iff_right Bool.false_ne_true]
    constructor
    · rintro ⟨before, s, after, m, rfl, hbefore, hid, hnames⟩
      exact ⟨header :: before, s, after, m, rfl, (hdraft before).trans hbefore, hid, hnames⟩
    · rintro ⟨before, s, after, m, hss, hbefore, hid, hnames⟩
      cases before with
      | nil => cases hbefore
      | cons first before =>
        obtain ⟨rfl, rfl⟩ := List.cons.inj hss
        exact ⟨before, s, after, m, rfl, (hdraft before).symm.trans hbefore, hid, hnames⟩

/-- A name that is implied and declared before a group asks for it, one that is only implied,
and one that is declared, in a link, when its group is there. -/
def linksAroundGroups : Text :=
  "graph LR\na-->h\na[x]\nsubgraph a\nb-->g\nend\n".toList ++
    "subgraph h\nc-->h\nend\nsubgraph g\nend\nb-->g[x]".toList

/-- The first group takes another name, the second takes that of the end of an edge, and the
third shares its name. -/
theorem shared_iff_of_linksAroundGroups : ∃ f, Flowchart.ofText linksAroundGroups = .ok f ∧
    f.graph.nodes.map (·.id) = [['a'], ['b'], ['g'], ['c']] ∧
    f.graph.groups.map (·.id) = ["a_2".toList, ['h'], ['g']] ∧
    ∀ id, (id ∈ f.graph.nodes.map (·.id) ∧ id ∈ f.graph.groups.map (·.id)) ↔
      ∃ before s after d, statements linksAroundGroups = before ++ s :: after ∧
        draftOf before = .ok d ∧ id ∈ d.graph.groups.map (·.id) ∧ id ∈ s.declaredNames := by
  have h : ((Flowchart.ofText linksAroundGroups).map fun f =>
      (f.graph.nodes.map (·.id), f.graph.groups.map (·.id))).toOption =
      some ([['a'], ['b'], ['g'], ['c']], ["a_2".toList, ['h'], ['g']]) := by
    decide +kernel
  obtain ⟨f, hf, hids⟩ := exists_of_toOption_map h
  obtain ⟨hnodes, hgroups⟩ := Prod.mk.inj hids
  exact ⟨f, hf, hnodes, hgroups, shared_iff_of_ofText hf⟩

/-- A node that is declared under the name of a group. -/
def nodeAfterGroup : Text := "graph LR\nsubgraph g\na\nend\ng[x]".toList

/-- Names of nodes and groups are not apart in every text. -/
theorem exists_node_named_as_group : ∃ f, Flowchart.ofText nodeAfterGroup = .ok f ∧
    ['g'] ∈ f.graph.nodes.map (·.id) ∧ ['g'] ∈ f.graph.groups.map (·.id) := by
  have h : ((Flowchart.ofText nodeAfterGroup).map fun f =>
      (f.graph.nodes.map (·.id), f.graph.groups.map (·.id))).toOption =
      some ([['a'], ['g']], [['g']]) := by
    decide +kernel
  obtain ⟨f, hf, hids⟩ := exists_of_toOption_map h
  obtain ⟨hnodes, hgroups⟩ := Prod.mk.inj hids
  refine ⟨f, hf, ?_, ?_⟩
  · rw [hnodes]
    decide
  · rw [hgroups]
    decide

end Swimlane
