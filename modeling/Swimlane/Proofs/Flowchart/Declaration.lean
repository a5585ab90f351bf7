import Swimlane.Proofs.Flowchart.Appending
import Swimlane.Proofs.Flowchart.Edges
import Swimlane.Proofs.Flowchart.FirstFault
import Swimlane.Proofs.Flowchart.SharedNames

/-!
# Lines that declare nodes

A line with a word and a quoted label in the delimiters of a shape declares the node, wherever it
stands after the header: with its shape, and with its label, of which the ends of lines are broken
and the blanks around it are trimmed away (`declares_or_refused_of_quotedNode`).  Two labels are
not read for what they are, quotes or not, and the line is refused: one with the three colons of
a class, and after an angle one with a square bracket.
-/

namespace Swimlane

/-! ## Nodes with a label and a shape -/

/-- Has the graph the node, with the label and the shape and with the type that the shape
suggests? -/
structure Graph.Shows (g : Graph) (id label : Text) (shape : Shape) : Prop where
  hasNode : g.hasNode id = true
  node : ∀ n ∈ g.nodes, n.id = id →
    n.label = label ∧ n.shape = some shape ∧ n.componentType = shape.componentType

namespace Draft

/-- Has the draft declared the node, with the label and the shape? -/
structure Declares (d : Draft) (id label : Text) (shape : Shape) : Prop where
  declared : d.hasDeclared id = true
  shows : d.graph.Shows id label shape

/-- A reference with a label and a shape declares its node with these. -/
theorem declares_mention (d : Draft) (asStatement : Bool) (id label : Text) (shape : Shape) :
    (d.mention asStatement id ⟨some id, some label, some shape⟩).Declares id label shape := by
  obtain ⟨r, hr⟩ : ∃ r, r = (⟨some id, some label, some shape⟩ : NodeRef) := ⟨_, rfl⟩
  have hbody : (asStatement || r.hasBody) = true := by simp [hr, NodeRef.hasBody]
  have hdeclared : (d.mention asStatement id r).hasDeclared id = true :=
    (hasDeclared_mention d asStatement id r).2 (Or.inr ⟨hbody, rfl⟩)
  have hdescribe (n : Node) : (describe r n).label = label ∧ (describe r n).shape = some shape ∧
      (describe r n).componentType = shape.componentType := by
    rw [hr]
    exact ⟨rfl, rfl, rfl⟩
  have hadded : ∀ n ∈ (d.addNode id r).graph.nodes, n.id = id →
      n.label = label ∧ n.shape = some shape ∧ n.componentType = shape.componentType := by
    intro n hn hid
    rw [addNode] at hn
    split at hn
    · obtain ⟨m, -, rfl⟩ := List.mem_map.1 hn
      split at hid
      · next hm => simpa [hm] using hdescribe m
      · next hm => exact absurd hid hm
    · next hnew =>
      rcases List.mem_append.1 hn with hn | hn
      · exact absurd (Graph.hasNode_iff.2 (List.mem_map.2 ⟨n, hn, hid⟩)) hnew
      · rw [List.mem_singleton.1 hn]
        exact hdescribe _
  rw [← hr]
  refine ⟨hdeclared, ((hasNode_mention d asStatement id r).2 (Or.inr rfl)), fun n hn hid => ?_⟩
  -- the claim of the node for a group changes none of these
  have hpart := map_nodes_claim (fun n => (n.id, n.label, n.shape, n.componentType))
    (fun _ _ => rfl) ((d.addNode id r).markImplied (!d.graph.hasNode id)
      (asStatement || r.hasBody) id) id
  have hmem := List.mem_map_of_mem (f := fun n => (n.id, n.label, n.shape, n.componentType)) hn
  rw [mention, hpart, graph_markImplied] at hmem
  obtain ⟨m, hm, hsame⟩ := List.mem_map.1 hmem
  simp only [Prod.mk.injEq] at hsame
  obtain ⟨hmid, hlabel, hshape, htype⟩ := hsame
  rw [← hlabel, ← hshape, ← htype]
  exact hadded m hm (hmid.trans hid)

/-- A declared node stays as it is when the draft is finished. -/
theorem Declares.shows_finish {d : Draft} {id label : Text} {shape : Shape}
    (h : d.Declares id label shape) {g : Graph} (hfinish : d.finish = .ok g) :
    g.Shows id label shape := by
  obtain ⟨hmem, himplied⟩ := hasDeclared_iff.1 h.declared
  obtain ⟨n, hn, hid⟩ := List.mem_map.1 hmem
  have hkept : d.isStray n.id = false := by
    rw [isStray, hid, List.contains_eq_mem, decide_eq_false himplied, Bool.false_and]
  refine ⟨?_, fun m hm => h.shows.node m ((nodes_finish_sublist hfinish).subset hm)⟩
  rw [Graph.hasNode_iff, (finish_eq_ok hfinish).2]
  exact List.mem_map.2 ⟨n, List.mem_filter.2 ⟨hn, by rw [hkept]; rfl⟩, hid⟩

end Draft

/-! ## Lines of nodes -/

/-- Is the label in the delimiters read as it is?  It must not have the three colons of a class
and, after an angle, no square bracket. -/
def KeepsLabel (dl : Delimiters) (label : Text) : Prop :=
  ¬ [':', ':', ':'] <:+: label ∧ (dl.shape = .asymmetric → '[' ∉ label)

section QuotedNode

variable {id : Text} (hid : IsWord id) (htitle : ¬ startsWith "accTitle".toList id)
  (hdescription : ¬ startsWith "accDescr".toList id) {dl : Delimiters}
  (hdl : dl ∈ nodeDelimiters) {label : Text} (hquote : '"' ∉ label)

include hid htitle hdescription hdl hquote

/-- A label that is not read as it is makes the line refused, for its brackets or for its name. -/
theorem Draft.readStatement_quotedNode_refused (hlabel : ¬ KeepsLabel dl label) (d : Draft)
    (line : Nat) : d.readStatement line (quotedNode id dl label) =
        .error (.unbalancedBrackets (withoutClass (quotedNode id dl label))) ∨
      ∃ name, '>' ∈ name ∧
        d.readStatement line (quotedNode id dl label) = .error (.invalidNode name) := by
  rw [(isPlainStatement_quotedNode hid hdl htitle hdescription).readStatement_ref line
    (addEdges_quotedNode hid hdl hquote d)]
  by_cases hclass : [':', ':', ':'] <:+: label
  · left
    obtain ⟨front, hfront, hcut⟩ := withoutClass_quotedNode_of_infix hid hdl hclass
    have hbalanced := isBalanced_cut hid hdl fun hmem => hquote (hfront.subset hmem)
    have href : readRef (quotedNode id dl label) =
        .error (.unbalancedBrackets (withoutClass (quotedNode id dl label))) := by
      rw [readRef, hcut]
      split
      · next hnil => simp at hnil
      · rw [hbalanced, if_neg Bool.false_ne_true]
    rw [href]
    rfl
  · right
    simp only [KeepsLabel, hclass, not_false_eq_true, true_and, Classical.not_imp, not_not]
      at hlabel
    obtain ⟨hshape, hbracket⟩ := hlabel
    obtain ⟨name, hname, hangle⟩ := exists_id_of_ofText_angle hid hbracket
    rw [← eq_angle hdl hshape] at hname
    have hne : quotedNode id dl label ≠ [] := by
      obtain ⟨c, rest, rfl, -⟩ := hid.exists_cons
      exact List.cons_ne_nil c _
    have hinvalid : isNodeId name = false :=
      isNodeId_eq_false hangle (by decide) (by decide)
    refine ⟨name, hangle, ?_⟩
    rw [readRef_eq_ok hne (withoutClass_quotedNode hid hdl hclass)
      (isBalanced_quotedNode hid hdl hquote)]
    show (d.refer true (NodeRef.ofText (quotedNode id dl label)) >>= fun p => pure p.2) = _
    rw [refer, refName, hname]
    simp only [hinvalid]
    rfl

/-- After a text that can be read so far, the line of a node declares the node with the shape and
the label, and leaves the edges and the open groups as they are; but if the label is not read as
it is, the text is refused at this line. -/
theorem declares_or_refused_of_quotedNode (hfeed : '\n' ∉ label) {s : Text} {d : Draft}
    (h : draftOf (statements s) = .ok d) :
    (KeepsLabel dl label → ∃ d',
      draftOf (statements (s ++ '\n' :: quotedNode id dl label)) = .ok d' ∧
      d'.Declares id (trim (breakLines label)) dl.shape ∧
      d'.graph.edges = d.graph.edges ∧ d'.openGroups = d.openGroups ∧
      (d.openGroups = [] → ∃ f, Flowchart.ofText (s ++ '\n' :: quotedNode id dl label) = .ok f ∧
        f.graph.Shows id (trim (breakLines label)) dl.shape)) ∧
    (¬ KeepsLabel dl label → ∃ fault,
      Flowchart.ofText (s ++ '\n' :: quotedNode id dl label) = .error ⟨nextLine s, fault⟩ ∧
      (fault = .unbalancedBrackets (withoutClass (quotedNode id dl label)) ∨
        ∃ name, '>' ∈ name ∧ fault = .invalidNode name)) := by
  have hline := isStatementLine_quotedNode hid hdl hquote hfeed
  have hdraft := draftOf_append_statement h hline
  refine ⟨fun hkeeps => ?_, fun hcut => ?_⟩
  · have hread := Draft.readStatement_quotedNode hid hdl hquote htitle hdescription hkeeps.1
      hkeeps.2 d (nextLine s)
    rw [Draft.read, hread] at hdraft
    have hdeclares := d.declares_mention true id (trim (breakLines label)) dl.shape
    have hopen := d.openGroups_mention true id
      ⟨some id, some (trim (breakLines label)), some dl.shape⟩
    refine ⟨_, hdraft, hdeclares, d.edges_mention true id _, hopen, fun hclosed => ?_⟩
    obtain ⟨f, hf, hfinish⟩ := ofText_of_draftOf_ok hdraft (hopen.trans hclosed)
    exact ⟨f, hf, hdeclares.shows_finish hfinish⟩
  · have hrefused {fault : SyntaxFault} (hread : d.readStatement (nextLine s)
        (quotedNode id dl label) = .error fault) :
        Flowchart.ofText (s ++ '\n' :: quotedNode id dl label) = .error ⟨nextLine s, fault⟩ := by
      rw [Draft.read, hread] at hdraft
      exact ofText_of_draftOf_error hdraft
    rcases Draft.readStatement_quotedNode_refused hid htitle hdescription hdl hquote hcut d
      (nextLine s) with hread | ⟨name, hangle, hread⟩
    · exact ⟨_, hrefused hread, Or.inl rfl⟩
    · exact ⟨_, hrefused hread, Or.inr ⟨name, hangle, rfl⟩⟩

end QuotedNode

/-- An arrow, a semicolon, a comment, brackets, tildes and the end of a line in the label of a
hexagon. -/
theorem declares_hexagon_of_marks : ∃ f, Flowchart.ofText ("graph LR".toList ++ '\n' ::
      quotedNode ['x'] ⟨['\x7b', '\x7b'], ['\x7d', '\x7d'], .hexagon⟩
        " a --> b; %% [(<br/>~~~ | \x7d]".toList) = .ok f ∧
    f.graph.Shows ['x'] "a --> b; %% [(\n~~~ | \x7d]".toList .hexagon := by
  have hdraft : draftOf (statements "graph LR".toList) = .ok (.start .leftRight) := by
    decide +kernel
  have hword : IsWord ['x'] := by decide
  have hhexagon : ⟨['\x7b', '\x7b'], ['\x7d', '\x7d'], .hexagon⟩ ∈ nodeDelimiters := by
    simp [nodeDelimiters, doubleDelimiters]
  have hquote : '"' ∉ " a --> b; %% [(<br/>~~~ | \x7d]".toList := by decide
  obtain ⟨hkept, -⟩ := declares_or_refused_of_quotedNode hword (by decide) (by decide) hhexagon
    hquote (by decide) hdraft
  have hkeeps : KeepsLabel ⟨['\x7b', '\x7b'], ['\x7d', '\x7d'], .hexagon⟩
      " a --> b; %% [(<br/>~~~ | \x7d]".toList := by
    refine ⟨?_, fun hshape => by cases hshape⟩
    rw [← occursIn_iff]
    decide
  obtain ⟨d', -, -, -, -, hfinish⟩ := hkept hkeeps
  obtain ⟨f, hread, hshows⟩ := hfinish rfl
  have hclean : trim (breakLines " a --> b; %% [(<br/>~~~ | \x7d]".toList) =
      "a --> b; %% [(\n~~~ | \x7d]".toList := by decide +kernel
  rw [hclean] at hshows
  exact ⟨f, hread, hshows⟩

/-- The colons of a class are found in a quoted label, and so is a square bracket after an
angle. -/
theorem exists_quoted_labels_refused :
    Flowchart.ofText ("graph LR".toList ++ '\n' ::
        quotedNode ['a'] ⟨['['], [']'], .rectangle⟩ "x:::y".toList) =
      .error ⟨2, .unbalancedBrackets "a[\"x".toList⟩ ∧
    Flowchart.ofText ("graph LR".toList ++ '\n' :: quotedNode ['a'] angle "x[y".toList) =
      .error ⟨2, .invalidNode "a>\"x".toList⟩ :=
  ⟨ofText_of_draftOf_error (by decide +kernel), ofText_of_draftOf_error (by decide +kernel)⟩

end Swimlane
