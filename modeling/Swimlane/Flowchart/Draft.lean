import Swimlane.Flowchart.Fault
import Swimlane.Flowchart.Link
import Swimlane.Text.Fresh
import Swimlane.Text.Words

/-!
# Drafts

A flowchart is drafted statement by statement.  A draft is the graph so far, the groups
that are still open, and the nodes that have only been referred to as the end of an edge:
such a name may still turn out to be the name of a group.
-/

namespace Swimlane

/-- A group that is still open, and the line that opened it. -/
structure OpenGroup where
  id : Text
  line : Nat
deriving DecidableEq

/-- A flowchart of which not all statements have been read. -/
structure Draft where
  graph : Graph
  /-- The open groups, innermost first. -/
  openGroups : List OpenGroup
  /-- Nodes known only as the ends of edges. -/
  implied : List Text
deriving DecidableEq

namespace Draft

/-- The draft before the first statement. -/
def start (direction : Direction) : Draft := ⟨{ Graph.empty with direction }, [], []⟩

/-! ## Names -/

/-- A name that no node and no group has. -/
def newName (d : Draft) (base : Text) : Text := freshName d.graph.ids base

/-- Has the node been declared, and not only been implied? -/
def hasDeclared (d : Draft) (id : Text) : Bool := d.graph.hasNode id && !d.implied.contains id

/-! ## Groups -/

/-- The innermost group that is open. -/
def innermost (d : Draft) : Option Text := d.openGroups.head?.map (·.id)

/-- The name of a group with a header.  A name that is taken by a group or by a declared
node is numbered; one that is only implied so far becomes the group's. -/
def groupName (d : Draft) (id : Option Text) (label : Text) : Text :=
  match id with
  | some id => if !d.graph.hasGroup id && !d.hasDeclared id then id else d.newName id
  | none => d.newName (slug "group".toList label)

/-- A new group inside the innermost open one. -/
def newGroup (d : Draft) (name label : Text) : Group :=
  ⟨name, label, d.innermost, [], d.graph.groups.length, d.openGroups.length⟩

/-- The draft with a new group inside the innermost open one; the new group is open. -/
def enter (d : Draft) (line : Nat) (name label : Text) : Draft :=
  let graph :=
    match d.innermost with
    | some parent => d.graph.addChild parent (.group name)
    | none => d.graph
  { d with
    graph := { graph with groups := graph.groups ++ [d.newGroup name label] }
    openGroups := ⟨name, line⟩ :: d.openGroups }

/-- Opens a group with a header. -/
def openGroup (d : Draft) (line : Nat) (header : Text) : Except SyntaxFault Draft :=
  if !isBalanced header then .error (.unbalancedBrackets header)
  else
    let (id, label) := readGroupHeader header
    .ok (d.enter line (d.groupName id label) label)

/-! ## Nodes -/

/-- The reference that a text stands for. -/
def readRef (s : Text) : Except SyntaxFault NodeRef :=
  match withoutClass s with
  | [] => .error (.missingEndpoint s)
  | text => if isBalanced text then .ok (.ofText text) else .error (.unbalancedBrackets text)

/-- The identifier of the node that is referred to; a label alone makes a new one. -/
def refName (d : Draft) (r : NodeRef) : Except SyntaxFault Text :=
  match r.id with
  | some id => if isNodeId id then .ok id else .error (.invalidNode id)
  | none => .ok (d.newName (slug "node".toList (r.label.getD [])))

/-- A node with what a reference says of it in addition. -/
def describe (r : NodeRef) (n : Node) : Node :=
  let n := { n with label := r.label.getD n.label }
  match r.shape with
  | some shape => { n with shape := some shape, componentType := shape.componentType }
  | none => n

/-- Adds a node to the innermost open group, unless it has a group already. -/
def claim (d : Draft) (id : Text) : Draft :=
  match d.openGroups, d.graph.node? id with
  | group :: _, some node =>
      if node.groupId.isSome then d else { d with graph := d.graph.putInto id group.id }
  | _, _ => d

/-- Adds a node, or what a reference says of it, to the graph. -/
def addNode (d : Draft) (id : Text) (r : NodeRef) : Draft :=
  if d.graph.hasNode id then { d with graph := d.graph.changeNode id (describe r) }
  else
    let node : Node := ⟨id, id, defaultComponentType, none, none, d.graph.nodes.length⟩
    { d with graph := { d.graph with nodes := d.graph.nodes ++ [describe r node] } }

/-- Keeps track of which nodes are only implied.  A reference with a body declares its
node wherever it stands, and one that is new and bare implies it. -/
def markImplied (d : Draft) (isNew declares : Bool) (id : Text) : Draft :=
  if declares then { d with implied := d.implied.filter (· ≠ id) }
  else if isNew then { d with implied := id :: d.implied }
  else d

/-- The draft after a reference to the node with an identifier. -/
def mention (d : Draft) (asStatement : Bool) (id : Text) (r : NodeRef) : Draft :=
  let isNew := !d.graph.hasNode id
  ((d.addNode id r).markImplied isNew (asStatement || r.hasBody) id).claim id

/-- Refers to a node, in a statement of its own or at the end of an edge. -/
def refer (d : Draft) (asStatement : Bool) (r : NodeRef) : Except SyntaxFault (Text × Draft) := do
  let id ← d.refName r
  return (id, d.mention asStatement id r)

/-! ## Edges -/

/-- Refers to the nodes of one side of a link. -/
def referSide (d : Draft) : List Text → Except SyntaxFault (List Text × Draft)
  | [] => .ok ([], d)
  | part :: rest => do
      let (id, d) ← d.refer false (← readRef part)
      let (ids, d) ← d.referSide rest
      return (id :: ids, d)

/-- Adds an edge; edges are numbered from zero. -/
def addEdge (d : Draft) (label : Option Text) (ends : Text × Text) : Draft :=
  let edge : Edge := ⟨'e' :: decimal d.graph.edges.length, ends.1, ends.2, label⟩
  { d with graph := { d.graph with edges := d.graph.edges ++ [edge] } }

/-- Adds an edge from each node of the left side of a link to each of the right side. -/
def addLink (d : Draft) (link : Link) : Except SyntaxFault Draft := do
  let (sources, d) ← d.referSide (splitOpen '&' link.left)
  let (targets, d) ← d.referSide (splitOpen '&' link.right)
  let pairs := sources.flatMap fun source => targets.map fun target => (source, target)
  return pairs.foldl (·.addEdge link.label ·) d

/-- Adds the links of a chain, each of which has to be a link by itself. -/
def addChain (d : Draft) (statement : Text) : List Text → Except SyntaxFault Draft
  | [] => .ok d
  | part :: rest =>
      match link? part with
      | none => .error (.missingEndpoint statement)
      | some link => do (← d.addLink link).addChain statement rest

/-- Adds the edges of a statement; `none` if there is no arrow in it.  Invisible links
leave no trace. -/
def addEdges (d : Draft) (statement : Text) : Except SyntaxFault (Option Draft) :=
  if hasTildes (mask statement) then .ok (some d)
  else
    match chain? statement with
    | some parts => (d.addChain statement parts).map some
    | none =>
        match link? statement with
        | some link => (d.addLink link).map some
        | none =>
            if hasArrow (mask statement) then .error (.missingEndpoint statement) else .ok none

/-! ## Statements -/

/-- The header of a group that a statement opens. -/
def subgraphHeader? (statement : Text) : Option Text :=
  if startsWith "subgraph".toList statement then
    match statement.drop 8 with
    | [] => some []
    | c :: rest => if isBlank c then some (trimStart rest) else none
  else none

/-- The direction that a statement sets. -/
def directionLine? (statement : Text) : Option Direction :=
  match words statement with
  | [first, second] => if first = "direction".toList then Direction.ofWord? second else none
  | _ => none

/-- The beginnings of statements about looks, which have no effect on the graph. -/
def styleWords : List Text :=
  ["classDef ".toList, "class ".toList, "style ".toList, "linkStyle ".toList, "click ".toList,
   "accTitle".toList, "accDescr".toList, "title ".toList]

/-- Is the statement about looks? -/
def isStyle (statement : Text) : Bool := styleWords.any (startsWith · statement)

/-- Reads a statement.  A direction counts only outside all groups. -/
def readStatement (d : Draft) (line : Nat) (statement : Text) : Except SyntaxFault Draft :=
  if statement = "end".toList then
    match d.openGroups with
    | [] => .error .unmatchedEnd
    | _ :: outer => .ok { d with openGroups := outer }
  else
    match subgraphHeader? statement with
    | some header => d.openGroup line header
    | none =>
        match directionLine? statement with
        | some direction =>
            .ok (if d.openGroups = [] then { d with graph := { d.graph with direction } } else d)
        | none =>
            if isStyle statement then .ok d
            else do
              match ← d.addEdges statement with
              | some d => return d
              | none => return (← d.refer true (← readRef statement)).2

/-- Reads a statement of a text. -/
def read (d : Draft) (s : Statement) : Except SyntaxError Draft :=
  (d.readStatement s.line s.text).mapError (⟨s.line, ·⟩)

/-! ## The finished graph -/

/-- The graph of a draft.  All groups have to be closed; an implied node that has the name
of a group is the group. -/
def finish (d : Draft) : Except SyntaxError Graph :=
  match d.openGroups.getLast? with
  | some outermost => .error ⟨outermost.line, .unclosedSubgraph outermost.id⟩
  | none =>
      let stray (id : Text) : Bool := d.implied.contains id && d.graph.hasGroup id
      let keep : Child → Bool
        | .node id => !stray id
        | .group _ => true
      .ok { d.graph with
        nodes := d.graph.nodes.filter (!stray ·.id)
        groups := d.graph.groups.map fun g => { g with children := g.children.filter keep } }

end Draft

end Swimlane
