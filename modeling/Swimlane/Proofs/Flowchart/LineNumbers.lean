import Swimlane.Flowchart.Reading

/-!
# Line numbers are only carried along

The numbers of lines are of no consequence for what is read: they are kept with the groups that
are open, for the error if one is never closed, and are told with each fault.  So texts with the
same statements give the same flowchart or the same fault, whatever lines the statements stand on
(`ofText_congr`).
-/

namespace Swimlane

/-- The statement on another line. -/
def Statement.onLine (line : Nat) (s : Statement) : Statement := ⟨line, s.text⟩

/-- The error on another line. -/
def SyntaxError.onLine (line : Nat) (e : SyntaxError) : SyntaxError := ⟨line, e.fault⟩

/-- What is done after a reading that gives something else may give something else itself. -/
theorem bind_map_eq {ε β γ β' γ' : Type} {φ : β → β'} {ψ : γ → γ'} {f : β → Except ε γ}
    {g : β' → Except ε γ'} (h : ∀ b, g (φ b) = (f b).map ψ) (x : Except ε β) :
    (x.map φ >>= g) = (x >>= f).map ψ := by
  cases x with
  | error e => rfl
  | ok b => exact h b

namespace Draft

variable (line : Nat) (d : Draft)

/-- The draft as if its open groups had all been opened on one line. -/
def onLine : Draft := { d with openGroups := d.openGroups.map fun g => ⟨g.id, line⟩ }

/-! ## Groups -/

theorem innermost_onLine : (d.onLine line).innermost = d.innermost := by
  rw [innermost, innermost, onLine, List.head?_map, Option.map_map]
  rfl

theorem newGroup_onLine (name label : Text) :
    (d.onLine line).newGroup name label = d.newGroup name label := by
  rw [newGroup, newGroup, innermost_onLine, onLine, List.length_map]

theorem enter_onLine (opened : Nat) (name label : Text) :
    (d.onLine line).enter line name label = (d.enter opened name label).onLine line := by
  rw [enter, innermost_onLine, newGroup_onLine]
  rfl

theorem openGroup_onLine (opened : Nat) (header : Text) :
    (d.onLine line).openGroup line header = (d.openGroup opened header).map (onLine line) := by
  rw [openGroup, openGroup]
  split
  · rfl
  · exact congrArg Except.ok (enter_onLine line d opened _ _)

/-! ## Nodes -/

theorem claim_onLine (id : Text) : (d.onLine line).claim id = (d.claim id).onLine line := by
  obtain ⟨graph, openGroups, implied⟩ := d
  cases openGroups with
  | nil => rfl
  | cons group outer =>
    simp only [claim, onLine, List.map_cons]
    cases graph.node? id with
    | none => rfl
    | some node =>
      dsimp only
      split <;> rfl

theorem addNode_onLine (id : Text) (r : NodeRef) :
    (d.onLine line).addNode id r = (d.addNode id r).onLine line := by
  rw [addNode, addNode]
  have hgraph : (d.onLine line).graph = d.graph := rfl
  rw [hgraph]
  split <;> rfl

theorem markImplied_onLine (isNew declares : Bool) (id : Text) :
    (d.onLine line).markImplied isNew declares id =
      (d.markImplied isNew declares id).onLine line := by
  rw [markImplied, markImplied]
  split
  · rfl
  · split <;> rfl

theorem mention_onLine (asStatement : Bool) (id : Text) (r : NodeRef) :
    (d.onLine line).mention asStatement id r = (d.mention asStatement id r).onLine line := by
  rw [mention, addNode_onLine, markImplied_onLine, claim_onLine]
  rfl

/-- What a reading gives, with the draft on one line. -/
def besideOnLine {β : Type} (x : β × Draft) : β × Draft := (x.1, x.2.onLine line)

theorem refer_onLine (asStatement : Bool) (r : NodeRef) :
    (d.onLine line).refer asStatement r = (d.refer asStatement r).map (besideOnLine line) := by
  have hname : (d.onLine line).refName r = d.refName r := rfl
  rw [refer, refer, hname]
  cases d.refName r with
  | error e => rfl
  | ok id => exact congrArg (fun d => Except.ok (id, d)) (mention_onLine line d asStatement id r)

/-! ## Edges -/

theorem referSide_onLine (parts : List Text) :
    (d.onLine line).referSide parts = (d.referSide parts).map (besideOnLine line) := by
  induction parts generalizing d with
  | nil => rfl
  | cons part rest ih =>
    rw [referSide, referSide]
    cases readRef part with
    | error e => rfl
    | ok r =>
      change ((d.onLine line).refer false r >>= _) = Except.map _ (d.refer false r >>= _)
      rw [refer_onLine]
      refine bind_map_eq (fun x => ?_) _
      change ((x.2.onLine line).referSide rest >>= _) = Except.map _ (x.2.referSide rest >>= _)
      rw [ih]
      refine bind_map_eq (fun y => ?_) _
      rfl

theorem foldl_addEdge_onLine (label : Option Text) (pairs : List (Text × Text)) :
    pairs.foldl (·.addEdge label ·) (d.onLine line) =
      (pairs.foldl (·.addEdge label ·) d).onLine line := by
  induction pairs generalizing d with
  | nil => rfl
  | cons pair pairs ih => exact ih (d.addEdge label pair)

theorem addLink_onLine (link : Link) :
    (d.onLine line).addLink link = (d.addLink link).map (onLine line) := by
  rw [addLink, addLink, referSide_onLine]
  refine bind_map_eq (fun x => ?_) _
  change ((x.2.onLine line).referSide _ >>= _) = Except.map _ (x.2.referSide _ >>= _)
  rw [referSide_onLine]
  exact bind_map_eq (fun y => congrArg Except.ok (foldl_addEdge_onLine line y.2 link.label _)) _

theorem addChain_onLine (statement : Text) (parts : List Text) :
    (d.onLine line).addChain statement parts = (d.addChain statement parts).map (onLine line) := by
  induction parts generalizing d with
  | nil => rfl
  | cons part rest ih =>
    rw [addChain, addChain]
    cases link? part with
    | none => rfl
    | some link =>
      dsimp only
      rw [addLink_onLine]
      exact bind_map_eq (fun x => ih x) _

theorem addEdges_onLine (statement : Text) :
    (d.onLine line).addEdges statement =
      (d.addEdges statement).map (Option.map (onLine line)) := by
  rw [addEdges, addEdges]
  split
  · rfl
  · cases chain? statement with
    | some parts =>
      dsimp only
      rw [addChain_onLine]
      cases d.addChain statement parts <;> rfl
    | none =>
      cases link? statement with
      | some link =>
        dsimp only
        rw [addLink_onLine]
        cases d.addLink link <;> rfl
      | none =>
        dsimp only
        split <;> rfl

/-! ## Statements -/

theorem readStatement_onLine (opened : Nat) (statement : Text) :
    (d.onLine line).readStatement line statement =
      (d.readStatement opened statement).map (onLine line) := by
  rw [readStatement, readStatement]
  split
  · cases hopen : d.openGroups with
    | nil => simp [onLine, hopen]; rfl
    | cons group outer => simp [onLine, hopen]; rfl
  · cases subgraphHeader? statement with
    | some header => exact openGroup_onLine line d opened header
    | none =>
      cases directionLine? statement with
      | some direction =>
        have hopen : (d.onLine line).openGroups = [] ↔ d.openGroups = [] := List.map_eq_nil_iff
        dsimp only
        simp only [hopen]
        split <;> rfl
      | none =>
        dsimp only
        split
        · rfl
        · rw [addEdges_onLine]
          refine bind_map_eq (fun x => ?_) _
          cases x with
          | some d => rfl
          | none =>
            change (readRef statement >>= _) = Except.map _ (readRef statement >>= _)
            cases readRef statement with
            | error e => rfl
            | ok r =>
              change ((d.onLine line).refer true r >>= _) = Except.map _ (d.refer true r >>= _)
              rw [refer_onLine]
              refine bind_map_eq (fun y => ?_) _
              rfl

theorem read_onLine (s : Statement) :
    (d.onLine line).read (s.onLine line) =
      ((d.read s).map (onLine line)).mapError (SyntaxError.onLine line) := by
  rw [read, read]
  have hstatement := readStatement_onLine line d s.line s.text
  change ((d.onLine line).readStatement line s.text).mapError _ = _
  rw [hstatement]
  cases d.readStatement s.line s.text <;> rfl

/-- One statement after another is read the same on one line. -/
theorem foldlM_read_onLine (ss : List Statement) :
    (ss.map (Statement.onLine line)).foldlM read (d.onLine line) =
      ((ss.foldlM read d).map (onLine line)).mapError (SyntaxError.onLine line) := by
  induction ss generalizing d with
  | nil => rfl
  | cons s ss ih =>
    rw [List.map_cons, List.foldlM_cons, List.foldlM_cons, read_onLine]
    cases d.read s with
    | error e => rfl
    | ok next => exact ih next

theorem finish_onLine : (d.onLine line).finish = d.finish.mapError (SyntaxError.onLine line) := by
  rw [finish, finish, onLine, List.getLast?_map]
  cases d.openGroups.getLast? <;> rfl

end Draft

/-! ## Texts -/

theorem readHeader_onLine (line : Nat) (s : Statement) :
    readHeader (s.onLine line) =
      ((readHeader s).map (Draft.onLine line)).mapError (SyntaxError.onLine line) := by
  have htext : (s.onLine line).text = s.text := rfl
  rw [readHeader, readHeader, htext]
  cases headerDirection? s.text with
  | none => rfl
  | some direction =>
    cases direction with
    | none => rfl
    | some word =>
      dsimp only
      cases Direction.ofWord? word <;> rfl

/-- All statements may stand on the first line. -/
theorem draftOf_onLine (ss : List Statement) :
    draftOf (ss.map (Statement.onLine 1)) =
      ((draftOf ss).map (Draft.onLine 1)).mapError (SyntaxError.onLine 1) := by
  cases ss with
  | nil => rfl
  | cons header rest =>
    rw [List.map_cons, draftOf, draftOf, readHeader_onLine]
    cases readHeader header with
    | error e => rfl
    | ok d => exact Draft.foldlM_read_onLine 1 d rest

/-- Texts with the same statements and the same initial settings give the same flowchart or have
the same fault. -/
theorem ofText_congr {s t : Text}
    (hstatements : (statements s).map (·.text) = (statements t).map (·.text))
    (hsettings : initialSettings s = initialSettings t) :
    (Flowchart.ofText s).mapError (·.fault) = (Flowchart.ofText t).mapError (·.fault) := by
  have honLine (ss : List Statement) :
      ss.map (Statement.onLine 1) = (ss.map (·.text)).map (⟨1, ·⟩) := by
    rw [List.map_map]
    rfl
  have hread (s : Text) : (Flowchart.ofText s).mapError (·.fault) =
      ((draftOf (((statements s).map (·.text)).map (⟨1, ·⟩)) >>= Draft.finish).map
        fun graph => (⟨graph, initialSettings s⟩ : Flowchart)).mapError (·.fault) := by
    rw [← honLine, draftOf_onLine, Flowchart.ofText]
    cases draftOf (statements s) with
    | error e => rfl
    | ok d =>
      change (d.finish >>= _).mapError _ = (((d.onLine 1).finish).map _).mapError _
      rw [Draft.finish_onLine]
      cases d.finish <;> rfl
  rw [hread, hread, hstatements, hsettings]

end Swimlane
