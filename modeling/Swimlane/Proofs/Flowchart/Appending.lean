import Swimlane.Proofs.Flowchart.Continued
import Swimlane.Proofs.Flowchart.Forest
import Swimlane.Proofs.Flowchart.Quoting
import Swimlane.Proofs.Passes

/-!
# Appending to a text

Lines that are appended to a text add statements to those of the text, and the draft of the
longer text goes on from the draft of the shorter.  If both can be read, all groups of the
shorter are closed, so nothing that was read of it is revised: `Graph.IsContinuedBy` says what
the longer flowchart has in common with the shorter.  Only a node that turns out to be a group
may go.
-/

namespace Swimlane

/-! ## Statements of lines -/

theorem lineContent_dropReturn (line : Text) :
    lineContent (dropReturn line) = lineContent line := by
  rw [lineContent, lineContent, trim_dropReturn]

/-- The statements of lines are those of the first and those of the others. -/
theorem statementsFrom_cons_eq (number : Nat) (line : Text) (rest : List Text) :
    statementsFrom number (line :: rest) =
      statementsFrom number [line] ++ statementsFrom (number + 1) rest := by
  rw [statementsFrom, statementsFrom]
  cases lineContent line with
  | code text => simp [statementsFrom]
  | nothing => rfl
  | settings value => rfl

/-- A line is read for its content. -/
theorem statementsFrom_singleton {line other : Text} (h : lineContent line = lineContent other)
    (number : Nat) : statementsFrom number [line] = statementsFrom number [other] := by
  simp only [statementsFrom, h]

/-- It makes no difference to statements how a line ends, and whether an empty one comes
last. -/
theorem statementsFrom_linesOfPieces (number : Nat) (parts : List Text) :
    statementsFrom number (linesOfPieces parts) = statementsFrom number parts := by
  induction parts generalizing number with
  | nil => rfl
  | cons part rest ih =>
    cases rest with
    | nil =>
      rw [linesOfPieces]
      split
      · next hempty => rw [hempty]; rfl
      · rfl
    | cons next rest =>
      rw [linesOfPieces, statementsFrom_cons_eq, ih,
        statementsFrom_singleton (lineContent_dropReturn part), ← statementsFrom_cons_eq]
      exact List.cons_ne_nil _ _

theorem statementsFrom_append (number : Nat) (front back : List Text) :
    statementsFrom number (front ++ back) =
      statementsFrom number front ++ statementsFrom (number + front.length) back := by
  induction front generalizing number with
  | nil => rfl
  | cons line rest ih =>
    rw [List.cons_append, statementsFrom_cons_eq, statementsFrom_cons_eq number line rest, ih,
      List.append_assoc, List.length_cons, Nat.add_assoc, Nat.add_comm 1]

/-- The statements of a text after which another text follows on a new line. -/
theorem statements_append (s t : Text) : statements (s ++ '\n' :: t) =
    statements s ++ statementsFrom (1 + (pieces (· = '\n') s).length) (pieces (· = '\n') t) := by
  rw [statements, statements, lines, lines, statementsFrom_linesOfPieces,
    statementsFrom_linesOfPieces, pieces_append (decide_eq_true rfl), statementsFrom_append]

/-! ## Drafts -/

/-- The draft of a text goes on with the statements that are added to it. -/
theorem draftOf_append {ss more : List Statement} {d : Draft} (h : draftOf ss = .ok d) :
    draftOf (ss ++ more) = more.foldlM Draft.read d := by
  cases ss with
  | nil => cases h
  | cons header rest =>
    obtain ⟨start, hstart, hrest⟩ := ok_of_bind h
    show (readHeader header >>= fun start => (rest ++ more).foldlM Draft.read start) = _
    rw [hstart]
    show (rest ++ more).foldlM Draft.read start = _
    rw [List.foldlM_append, hrest]
    rfl

/-! ## A line after a text -/

/-- The number of a line that follows a text. -/
def nextLine (s : Text) : Nat := 1 + (pieces (· = '\n') s).length

/-- The draft of a text goes on with the statements of a line after it. -/
theorem draftOf_append_line {s line : Text} {d : Draft} (h : draftOf (statements s) = .ok d)
    (hfeed : '\n' ∉ line) : draftOf (statements (s ++ '\n' :: line)) =
      (statementsFrom (nextLine s) [line]).foldlM Draft.read d := by
  have hopen : ∀ c ∈ line, decide (c = '\n') = false := by
    intro c hc
    refine decide_eq_false ?_
    rintro rfl
    exact hfeed hc
  rw [statements_append, pieces_eq_singleton hopen, draftOf_append h]
  rfl

/-- A line that is a statement is read in the draft of the text before it. -/
theorem draftOf_append_statement {s line : Text} {d : Draft}
    (h : draftOf (statements s) = .ok d) (hline : IsStatementLine line) :
    draftOf (statements (s ++ '\n' :: line)) = d.read ⟨nextLine s, line⟩ := by
  rw [draftOf_append_line h hline.no_feed, statementsFrom_cons hline, statementsFrom,
    List.foldlM_cons]
  exact bind_pure _

/-! ## What is continued -/

/-- A group without the nodes in it. -/
def Group.nesting (x : Group) : Group × List Text := (x.frame, x.childGroupIds)

/-- The second graph has the edges and groups of the first before any others, and every node
of the first that is no group in the second, in the same order and place. -/
structure Graph.IsContinuedBy (g h : Graph) : Prop where
  edges : g.edges <+: h.edges
  groups : g.groups.map Group.nesting <+: h.groups.map Group.nesting
  nodes : List.SublistForall₂ (fun n m => n.StaysAs m)
    (g.nodes.filter fun n => !h.hasGroup n.id) h.nodes

/-- Taking nodes out of a group leaves its child groups. -/
theorem childGroupIds_filter (d : Draft) (x : Group) :
    Group.childGroupIds { x with children := x.children.filter d.keepsChild } =
      x.childGroupIds := by
  rw [Group.childGroupIds, Group.childGroupIds, List.filterMap_filter]
  refine List.filterMap_congr fun child _ => ?_
  cases child with
  | node id => split <;> rfl
  | group id => rfl

theorem map_nesting_finish {d : Draft} {g : Graph} (h : d.finish = .ok g) :
    g.groups.map Group.nesting = d.graph.groups.map Group.nesting := by
  rw [(Draft.finish_eq_ok h).2, List.map_map]
  refine List.map_congr_left fun x _ => ?_
  exact Prod.ext rfl (childGroupIds_filter d x)

/-- The graph of a draft is continued by the graph of a draft that continues it. -/
theorem Draft.Continues.isContinuedBy {d d' : Draft} {g h : Graph} (hcont : d.Continues d')
    (hg : d.finish = .ok g) (hh : d'.finish = .ok h) : g.IsContinuedBy h where
  edges := by
    rw [(Draft.finish_eq_ok hg).2, (Draft.finish_eq_ok hh).2]
    exact hcont.edges
  groups := by
    rw [map_nesting_finish hg, map_nesting_finish hh]
    exact hcont.groups.map _
  nodes := by
    obtain ⟨before, after, hnodes, hstay⟩ := hcont.nodes
    have hgroup (id : Text) : h.hasGroup id = d'.graph.hasGroup id := by
      rw [Bool.eq_iff_iff, Graph.hasGroup_iff, Graph.hasGroup_iff, ← Graph.map_id_frames,
        Draft.frames_finish hh, Graph.map_id_frames]
    have hkept : List.SublistForall₂ Node.StaysAs
        (d.graph.nodes.filter fun n => !h.hasGroup n.id && !d.isStray n.id)
        (before.filter fun m => !d'.isStray m.id) := by
      refine sublistForall₂_filter (fun n m hnm hkeep => ?_) hstay
      rw [Bool.and_eq_true, Bool.not_eq_true', hgroup] at hkeep
      rw [hnm.id, Draft.isStray, hkeep.1, Bool.and_false]
      rfl
    rw [(Draft.finish_eq_ok hg).2]
    simp only [List.filter_filter]
    rw [(Draft.finish_eq_ok hh).2] at hkept ⊢
    simp only [hnodes, List.filter_append]
    exact sublistForall₂_append_right hkept _

/-! ## Texts -/

/-- If a text can be read, and still can be after more lines were appended, then what was read
of it is continued. -/
theorem isContinuedBy_of_ofText_append {s t : Text} {f f' : Flowchart}
    (h : Flowchart.ofText s = .ok f) (h' : Flowchart.ofText (s ++ '\n' :: t) = .ok f') :
    f.graph.IsContinuedBy f'.graph := by
  obtain ⟨d, hd, hrest⟩ := ok_of_bind h
  obtain ⟨g, hfinish, hf⟩ := ok_of_bind hrest
  obtain ⟨d', hd', hrest'⟩ := ok_of_bind h'
  obtain ⟨g', hfinish', hf'⟩ := ok_of_bind hrest'
  cases hf
  cases hf'
  rw [statements_append, draftOf_append hd] at hd'
  have hcont := (Draft.steps_of_foldlM_read hd').continues (isSound_of_draftOf hd)
    (Draft.finish_eq_ok hfinish).1
  exact hcont.isContinuedBy hfinish hfinish'

/-- A group, and a link to a name that is not a group's yet. -/
def linkToLaterGroup : Text := "graph LR\na-->b\nsubgraph A\nc\nend\nc-->X".toList

/-- The name is a group's, and a node from before goes into it. -/
def laterGroup : Text := "subgraph X\nb-->d\nend\nX-->A".toList

theorem isContinuedBy_of_laterGroup : ∃ f f' : Flowchart,
    Flowchart.ofText linkToLaterGroup = .ok f ∧
      Flowchart.ofText (linkToLaterGroup ++ '\n' :: laterGroup) = .ok f' ∧
      f.graph.IsContinuedBy f'.graph := by
  have hread : (Flowchart.ofText linkToLaterGroup).isOk = true := by decide +kernel
  have hread' : (Flowchart.ofText (linkToLaterGroup ++ '\n' :: laterGroup)).isOk = true := by
    decide +kernel
  cases h : Flowchart.ofText linkToLaterGroup with
  | error e => rw [h] at hread; cases hread
  | ok f =>
    cases h' : Flowchart.ofText (linkToLaterGroup ++ '\n' :: laterGroup) with
    | error e => rw [h'] at hread'; cases hread'
    | ok f' => exact ⟨f, f', rfl, rfl, isContinuedBy_of_ofText_append h h'⟩

end Swimlane
