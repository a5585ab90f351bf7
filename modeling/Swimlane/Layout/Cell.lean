import Swimlane.Layout.Crossing
import Swimlane.Layout.Figure
import Swimlane.Layout.Rank
import Swimlane.Settings.Basic

/-!
# The layout of a cell

The nodes of a cell stand in ranks along the flow of the edges between them.  The main
axis runs along the flow, the cross axis across it.  A rank is as deep as its deepest node,
which all its nodes are centred on, and ranks are centred on the widest of them.
-/

namespace Swimlane

variable {α : Type} [Length α]

/-- A node and its place in a cell. -/
structure Spot (α : Type) where
  id : Text
  x : α
  y : α

/-- The size of a cell without its padding, and the places of its nodes. -/
structure CellLayout (α : Type) where
  size : Size α
  spots : List (Spot α)

/-- Where things begin that are put one after another with a gap between them. -/
def offsets (gap origin : α) : List α → List α
  | [] => []
  | size :: rest => origin :: offsets gap (origin + (size + gap)) rest

/-- What things take up that are put one after another with a gap between them. -/
def span (gap : α) (sizes : List α) : α := Length.sum sizes + Length.times gap (sizes.length - 1)

/-- The extents of a node along the flow and across it. -/
structure Extents (α : Type) where
  main : α
  cross : α

namespace Direction

/-- The extents of a size. -/
def extents (d : Direction) (size : Size α) : Extents α :=
  if d.isHorizontal then ⟨size.width, size.height⟩ else ⟨size.height, size.width⟩

/-- The size with these extents. -/
def size (d : Direction) (e : Extents α) : Size α :=
  if d.isHorizontal then ⟨e.main, e.cross⟩ else ⟨e.cross, e.main⟩

/-- The place of a node with coordinates along the flow and across it. -/
def spot (d : Direction) (id : Text) (main cross : α) : Spot α :=
  if d.isHorizontal then ⟨id, main, cross⟩ else ⟨id, cross, main⟩

/-- A coordinate along the flow that takes so much of a total: against the axis it is
measured from the other end. -/
def along (d : Direction) (total main extent : α) : α :=
  if d.isReversed then total - main - extent else main

end Direction

/-- A rank of a cell: its nodes with their extents. -/
abbrev RankRow (α : Type) := List (Text × Extents α)

/-- The extent of a rank along the flow. -/
def RankRow.depth (row : RankRow α) : α := Length.largest Length.zero (row.map (·.2.main))

/-- The extent of a rank across the flow. -/
def RankRow.breadth (gap : α) (row : RankRow α) : α := span gap (row.map (·.2.cross))

/-- The places of the nodes of a rank that begins at `start`, in a cell with these extents. -/
def RankRow.spots (d : Direction) (gap : α) (total : Extents α) (start : α) (row : RankRow α) :
    List (Spot α) :=
  let margin := Length.half (total.cross - row.breadth gap)
  List.zipWith
    (fun node cross =>
      let main := start + Length.half (row.depth - node.2.main)
      d.spot node.1 (d.along total.main main node.2.main) cross)
    row (offsets gap margin (row.map (·.2.cross)))

/-- The layout of nodes in ranks. -/
def layRanks (d : Direction) (s : LayoutSettings α) (rows : List (RankRow α)) : CellLayout α :=
  let depths := rows.map RankRow.depth
  let total : Extents α :=
    ⟨span s.rankSpacing depths,
      Length.largest Length.zero (rows.map (RankRow.breadth s.nodeSpacing))⟩
  let starts := offsets s.rankSpacing Length.zero depths
  ⟨d.size total, (List.zipWith (RankRow.spots d s.nodeSpacing total) starts rows).flatten⟩

/-- The ranks of the members of a cell, untangled. -/
def cellRanks (passes : Nat) (edges : List Edge) (members : List Text) : List (List Text) :=
  let inner := edges.filter (·.isWithin members)
  let key (id : Text) : Nat := members.idxOf id
  untangle inner passes (rankRows (flowRanks key members inner) members)

/-- The layout of a cell with these members. -/
def layCell (d : Direction) (s : LayoutSettings α) (edges : List Edge)
    (sizeOf : Text → Size α) (members : List Text) : CellLayout α :=
  layRanks d s ((cellRanks s.orderPasses edges members).map fun rank =>
    rank.map fun id => (id, d.extents (sizeOf id)))

end Swimlane
