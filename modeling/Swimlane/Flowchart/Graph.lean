import Swimlane.Text.Basic

/-!
# Flowcharts as graphs

A flowchart has a direction, nodes, edges and groups.  Groups are nested: a group lists
its children, nodes and other groups, and may name its parent; a node may name the group
that it belongs to.  A graph that was read from text is consistent in all of this, a graph
that was put together by hand need not be.  Where an identifier occurs more than once, the
last occurrence is the one that is looked up.
-/

namespace Swimlane

/-! ## Directions -/

/-- The direction in which a flowchart runs. -/
inductive Direction
  | topDown
  | bottomTop
  | leftRight
  | rightLeft
deriving DecidableEq

namespace Direction

/-- The direction that a word names, in letters of either case. -/
def ofWord? (word : Text) : Option Direction :=
  let capitals := word.map Char.toUpper
  if capitals = ['T', 'D'] ∨ capitals = ['T', 'B'] then some topDown
  else if capitals = ['B', 'T'] then some bottomTop
  else if capitals = ['L', 'R'] then some leftRight
  else if capitals = ['R', 'L'] then some rightLeft
  else none

/-- The word for a direction. -/
def word : Direction → Text
  | topDown => ['T', 'D']
  | bottomTop => ['B', 'T']
  | leftRight => ['L', 'R']
  | rightLeft => ['R', 'L']

/-- Does the flow run along the horizontal axis? -/
def isHorizontal : Direction → Bool
  | leftRight | rightLeft => true
  | topDown | bottomTop => false

/-- Does the flow run against its axis? -/
def isReversed : Direction → Bool
  | bottomTop | rightLeft => true
  | topDown | leftRight => false

/-- Reading the word for a direction gives the direction. -/
theorem ofWord?_word (d : Direction) : ofWord? d.word = some d := by
  cases d <;> decide

end Direction

/-! ## Shapes -/

/-- The outline of a node, as its brackets show it. -/
inductive Shape
  | rectangle
  | roundRect
  | stadium
  | subroutine
  | cylinder
  | circle
  | diamond
  | hexagon
  | parallelogram
  | parallelogramAlt
  | trapezoid
  | trapezoidAlt
  | asymmetric
deriving DecidableEq

/-- The type of a component of which nothing else is known. -/
def defaultComponentType : Text := "component".toList

/-- The component type that a shape suggests. -/
def Shape.componentType : Shape → Text
  | .rectangle => defaultComponentType
  | .roundRect | .stadium => "service".toList
  | .subroutine => "function".toList
  | .cylinder => "database".toList
  | .circle => "endpoint".toList
  | .diamond => "decision".toList
  | .hexagon => "process".toList
  | .parallelogram | .parallelogramAlt | .trapezoid | .trapezoidAlt => "io".toList
  | .asymmetric => "signal".toList

/-! ## Nodes, edges and groups -/

/-- A node. -/
structure Node where
  id : Text
  label : Text
  componentType : Text
  shape : Option Shape
  groupId : Option Text
  /-- The rank of the node among all nodes in the order of their declaration. -/
  order : Nat
deriving DecidableEq

/-- An edge between two nodes or groups. -/
structure Edge where
  id : Text
  source : Text
  target : Text
  label : Option Text
deriving DecidableEq

/-- The sources of the edges to an identifier. -/
def sourcesOf (edges : List Edge) (id : Text) : List Text :=
  (edges.filter (·.target = id)).map (·.source)

/-- The targets of the edges from an identifier. -/
def targetsOf (edges : List Edge) (id : Text) : List Text :=
  (edges.filter (·.source = id)).map (·.target)

/-- A child of a group. -/
inductive Child
  | node (id : Text)
  | group (id : Text)
deriving DecidableEq

/-- A group of nodes and of further groups. -/
structure Group where
  id : Text
  label : Text
  parentId : Option Text
  children : List Child
  order : Nat
  /-- The number of groups around this one. -/
  depth : Nat
deriving DecidableEq

/-- The groups among the children of a group. -/
def Group.childGroupIds (g : Group) : List Text :=
  g.children.filterMap fun
    | .group id => some id
    | .node _ => none

/-- A flowchart; nodes, edges and groups are in the order of the text. -/
structure Graph where
  direction : Direction
  nodes : List Node
  edges : List Edge
  groups : List Group
deriving DecidableEq

namespace Graph

/-- A flowchart without contents. -/
def empty : Graph := ⟨.topDown, [], [], []⟩

/-- The node with an identifier. -/
def node? (g : Graph) (id : Text) : Option Node := g.nodes.findRev? (·.id = id)

/-- The group with an identifier. -/
def group? (g : Graph) (id : Text) : Option Group := g.groups.findRev? (·.id = id)

/-- Is there a node with the identifier? -/
def hasNode (g : Graph) (id : Text) : Bool := g.nodes.any (·.id = id)

/-- Is there a group with the identifier? -/
def hasGroup (g : Graph) (id : Text) : Bool := g.groups.any (·.id = id)

/-- The groups that no other group encloses. -/
def topGroups (g : Graph) : List Group := g.groups.filter (·.parentId.isNone)

/-- The identifiers of nodes and groups. -/
def ids (g : Graph) : List Text := g.nodes.map (·.id) ++ g.groups.map (·.id)

/-- Changes the node with an identifier. -/
def changeNode (g : Graph) (id : Text) (f : Node → Node) : Graph :=
  { g with nodes := g.nodes.map fun n => if n.id = id then f n else n }

/-- Adds a child to the group with an identifier. -/
def addChild (g : Graph) (id : Text) (child : Child) : Graph :=
  { g with groups := g.groups.map fun x =>
      if x.id = id then { x with children := x.children ++ [child] } else x }

/-- Puts a node into a group. -/
def putInto (g : Graph) (nodeId groupId : Text) : Graph :=
  (g.changeNode nodeId fun n => { n with groupId := some groupId }).addChild groupId (.node nodeId)

end Graph

end Swimlane
