import Swimlane.Layout.Badge
import Swimlane.Layout.Boundary
import Swimlane.Text.Fresh

/-!
# Drawings

The drawing of a flowchart has the boundaries behind, then the members in their cells, and
the badges of the lanes and sections.  A boundary or badge whose name is taken already gets
a fresh one.
-/

namespace Swimlane

variable {α : Type} [Length α]

/-- A drawing. -/
structure Drawing (α : Type) where
  direction : Direction
  /-- The boundaries, the members and the badges, in this order. -/
  figures : List (Figure α)
  edges : List Edge
  size : Size α
  /-- The right lower corner of the grid. -/
  grid : Size α
  laneCount : Nat
  sectionCount : Nat
  warnings : List LayoutWarning

/-- The figures with fresh names, none of which is one of `taken`. -/
def withFreshIds (taken : List Text) : List (Figure α) → List (Figure α)
  | [] => []
  | f :: rest =>
      let id := freshName taken f.id
      { f with id } :: withFreshIds (id :: taken) rest

/-- The drawing of a graph, given the visit of its groups. -/
def Drawing.ofVisits (g : Graph) (c : Classification) (s : LayoutSettings α)
    (visits : List Visit) : Drawing α :=
  let grid := makeGrid g c s (placements g c visits)
  let members := grid.members g (nodeSizes g s)
  let bounds := allBounds g c s.grid.boundaryPadding members
  let nodeIds := g.nodes.map (·.id)
  let boundaries := withFreshIds nodeIds (boundaryFigures g c bounds)
  let badges := withFreshIds (boundaries.map (·.id) ++ nodeIds) (badges c s grid)
  let figures := boundaries ++ members ++ badges
  { direction := g.direction
    figures
    edges := g.edges
    size := Figure.extent grid.size figures
    grid := grid.size
    laneCount := c.lanes.length
    sectionCount := c.sections.length
    warnings := placementWarnings g c visits ++ emptyWarnings c bounds }

/-- The drawing of a graph; there is none if a group lies within itself. -/
def Drawing.ofGraph? (g : Graph) (c : Classification) (s : LayoutSettings α) : Option (Drawing α) :=
  g.visits?.map (Drawing.ofVisits g c s)

end Swimlane
