import Swimlane.Layout.Placement
import Swimlane.Settings.Basic

/-!
# Boundaries

A boundary is drawn as a box around everything in it: the nodes below its group, and the
boxes of the boundaries below it, with some space on every side.  The boxes are computed
from the inside out, by the depth of the groups, because a box needs those within it.
-/

namespace Swimlane

variable {α : Type} [Length α]

/-- The boundaries from the inside out: of equal depth, in the order of their indexes. -/
def boundariesInsideOut (g : Graph) (c : Classification) : List Text :=
  let depth (id : Text) : Nat := ((g.group? id).map (·.depth)).getD 0
  (c.boundaries.map (·.1)).mergeSort (fun a b => decide (depth b ≤ depth a))

/-- Something drawn, and the groups around it, the innermost first. -/
structure Located (α : Type) where
  around : List Text
  bounds : Bounds α

/-- The member of a node. -/
def locateMember (g : Graph) (f : Figure α) : Located α where
  around := ((g.node? f.id).map fun n => g.enclosing n.groupId).getD []
  bounds := f.box.bounds

/-- The boundary of a group. -/
def locateBoundary (g : Graph) (id : Text) (b : Bounds α) : Located α where
  around := g.enclosing ((g.group? id).bind (·.parentId))
  bounds := b

/-- The bounds of a boundary, given all members of the drawing and the boundaries further
in; there are none if there is nothing in it. -/
def boundaryBounds? (pad : α) (drawn : List (Located α)) (id : Text) : Option (Bounds α) :=
  let contents := (drawn.filter (·.around.contains id)).map (·.bounds)
  (Bounds.joinAll? contents).map (Bounds.padded pad)

/-- The bounds of boundaries from the inside out, as far as they are not empty. -/
def boundAll (g : Graph) (pad : α) (drawn : List (Located α)) : List Text → List (Text × Bounds α)
  | [] => []
  | id :: rest =>
      match boundaryBounds? pad drawn id with
      | some b => (id, b) :: boundAll g pad (drawn ++ [locateBoundary g id b]) rest
      | none => boundAll g pad drawn rest

/-- The bounds of all boundaries that are not empty. -/
def allBounds (g : Graph) (c : Classification) (pad : α) (members : List (Figure α)) :
    List (Text × Bounds α) :=
  boundAll g pad (members.map (locateMember g)) (boundariesInsideOut g c)

/-- The type of a boundary, which tells the provider. -/
def boundaryType (provider : Option Text) : Text :=
  match provider with
  | some p => p ++ "_boundary".toList
  | none => "boundary".toList

/-- The figure of a boundary. -/
def boundaryFigure (g : Graph) (entry : Text × RoleInfo) (b : Bounds α) : Figure α where
  id := entry.1
  box := b.box
  label := ((g.group? entry.1).map (·.label)).getD entry.1
  componentType := boundaryType entry.2.provider
  ornament := some .boundary
  laneId := none
  sectionId := none
  badgeLabel := some entry.2.badgeLabel
  icon := none

/-- The figures of the boundaries that are not empty, in the order of their indexes. -/
def boundaryFigures (g : Graph) (c : Classification) (bounds : List (Text × Bounds α)) :
    List (Figure α) :=
  c.boundaries.filterMap fun entry => (bounds.lookup entry.1).map (boundaryFigure g entry)

/-- The warnings about the boundaries that are empty. -/
def emptyWarnings (c : Classification) (bounds : List (Text × Bounds α)) : List LayoutWarning :=
  ((c.boundaries.map (·.1)).filter fun id => (bounds.lookup id).isNone).map .emptyBoundary

end Swimlane
