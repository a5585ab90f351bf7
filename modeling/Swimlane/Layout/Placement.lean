import Swimlane.Classification.Classification
import Swimlane.Flowchart.Nesting
import Swimlane.Layout.Figure

/-!
# Placement

A node is placed in the slot of the innermost lane and the innermost section around it.
The groups are visited first, and a node goes where it is met first; the nodes that no
group lists follow, and go where the group that they name puts them.
-/

namespace Swimlane

/-- A lane and a section, each of which may be missing. -/
structure Slot where
  laneId : Option Text
  sectionId : Option Text
deriving DecidableEq

namespace Classification

/-- The innermost group with a role, among groups around a node. -/
def nearest? (c : Classification) (role : Role) (around : List Text) : Option Text :=
  around.find? fun id => c.role? id = some role

/-- The slot of a node in some groups, the innermost first. -/
def slot (c : Classification) (around : List Text) : Slot :=
  ⟨c.nearest? .laneBand around, c.nearest? .sectionBand around⟩

end Classification

/-- A node and its slot. -/
structure Placement where
  nodeId : Text
  slot : Slot
deriving DecidableEq

/-- The first placement of each node. -/
def firstPlacements (placements : List Placement) : List Placement :=
  placements.foldl
    (fun done p => if done.any (·.nodeId = p.nodeId) then done else done ++ [p]) []

/-- The placements of the nodes that a visit meets. -/
def visitPlacements (g : Graph) (c : Classification) (visits : List Visit) : List Placement :=
  visits.filterMap fun
    | .enter _ _ => none
    | .meet id around => if g.hasNode id then some ⟨id, c.slot around⟩ else none

/-- The placement of a node by the group that it names. -/
def ownPlacement (g : Graph) (c : Classification) (n : Node) : Placement :=
  ⟨n.id, c.slot (g.enclosing n.groupId)⟩

/-- The placements of all nodes, given the visit of the groups. -/
def placements (g : Graph) (c : Classification) (visits : List Visit) : List Placement :=
  firstPlacements (visitPlacements g c visits ++ g.nodes.map (ownPlacement g c))

/-! ## Warnings -/

/-- Does a group list a node that exists? -/
def Graph.listsNode (g : Graph) (x : Group) : Bool :=
  x.children.any fun
    | .node id => g.hasNode id
    | .group _ => false

/-- What is odd about a group in some other groups. -/
def groupWarning? (g : Graph) (c : Classification) (x : Group) (around : List Text) :
    Option LayoutWarning :=
  match c.role? x.id with
  | none => if g.listsNode x then some (.unclassifiedGroup x.id) else none
  | some .boundary => none
  | some role => (c.nearest? role around).map (.nestedRole x.id)

/-- What is odd about a node that no group lists. -/
def nodeWarning? (g : Graph) (c : Classification) (n : Node) : Option LayoutWarning :=
  match n.groupId with
  | none => none
  | some id =>
      if !g.hasGroup id then some (.unknownGroup n.id id)
      else if (c.role? id).isNone then some (.unclassifiedGroup id)
      else none

/-- The nodes that a visit does not meet, the first of each identifier. -/
def unmetNodes (g : Graph) (met : List Text) : List Node :=
  g.nodes.foldl
    (fun done n => if met.contains n.id || done.any (·.id = n.id) then done else done ++ [n]) []

/-- The warnings without those that repeat one about a group without a role. -/
def noteOnce (warnings : List LayoutWarning) : List LayoutWarning :=
  warnings.foldl
    (fun done w =>
      match w with
      | .unclassifiedGroup _ => if done.contains w then done else done ++ [w]
      | _ => done ++ [w]) []

/-- The warnings about the placement of the nodes, given the visit of the groups. -/
def placementWarnings (g : Graph) (c : Classification) (visits : List Visit) :
    List LayoutWarning :=
  let inGroups := visits.filterMap fun
    | .enter x around => groupWarning? g c x around
    | .meet _ _ => none
  let met := (visitPlacements g c visits).map (·.nodeId)
  noteOnce (inGroups ++ (unmetNodes g met).filterMap (nodeWarning? g c))

end Swimlane
