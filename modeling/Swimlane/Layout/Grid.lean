import Swimlane.Layout.Cell
import Swimlane.Layout.Label
import Swimlane.Layout.Placement

/-!
# The grid

Lanes are the rows of a grid and sections its columns.  Nodes without a lane have a row of
their own below all lanes, and nodes without a section a column of their own before all
sections, if there are such nodes.  Where a lane and a section cross there is a cell; a row
is as high as its highest cell and a column as wide as its widest, and a cell's contents
are centred in it.
-/

namespace Swimlane

variable {α : Type} [Length α]

/-- A row or a column: where it begins and how much it takes up. -/
structure Track (α : Type) where
  /-- The lane or section; none for the row or column of nodes without one. -/
  band : Option Text
  start : α
  size : α

/-- Where a row or column ends. -/
def Track.finish (t : Track α) : α := t.start + t.size

/-- The tracks one after another. -/
def makeTracks (gap origin : α) (bands : List (Option Text × α)) : List (Track α) :=
  List.zipWith (fun band start => ⟨band.1, start, band.2⟩) bands
    (offsets gap origin (bands.map (·.2)))

/-- A cell that has members. -/
structure GridCell (α : Type) where
  slot : Slot
  layout : CellLayout α

/-- The grid with the cells in it, row by row. -/
structure Grid (α : Type) where
  rows : List (Track α)
  columns : List (Track α)
  cells : List (GridCell α)
  /-- The left upper corner of the first cell. -/
  originX : α
  originY : α

/-! ## Cells -/

/-- The members of a slot: in a section in the order of the nodes, else along the flow. -/
def slotMembers (g : Graph) (flow : List Text) (placements : List Placement) (slot : Slot) :
    List Text :=
  let ids := (placements.filter (·.slot = slot)).map (·.nodeId)
  let rank (id : Text) : Nat :=
    match slot.sectionId with
    | none => flow.idxOf id
    | some _ => ((g.node? id).map (·.order)).getD 0
  ids.mergeSort (fun a b => decide (rank a ≤ rank b))

/-- The sizes of the nodes of a graph. -/
def nodeSizes (g : Graph) (s : LayoutSettings α) : List (Text × Size α) :=
  g.nodes.reverse.map fun n => (n.id, nodeSize s n.label)

/-- The size of a node among these. -/
def sizeIn (sizes : List (Text × Size α)) (id : Text) : Size α :=
  (sizes.lookup id).getD ⟨Length.zero, Length.zero⟩

/-- The order in which nodes are listed along the flow of a graph. -/
def Graph.flow (g : Graph) : List Text :=
  flowOrder (fun id => ((g.node? id).map (·.order)).getD 0) (g.nodes.map (·.id)) g.edges

/-- The cells of a grid with these rows and columns, row by row. -/
def gridCells (g : Graph) (s : LayoutSettings α) (placements : List Placement)
    (rows columns : List (Option Text)) : List (GridCell α) :=
  let flow := g.flow
  let sizes := nodeSizes g s
  rows.flatMap fun row => columns.filterMap fun column =>
    match slotMembers g flow placements ⟨row, column⟩ with
    | [] => none
    | members => some ⟨⟨row, column⟩, layCell g.direction s g.edges (sizeIn sizes) members⟩

/-! ## Rows and columns -/

/-- The size of a row or column with these contents: the largest of them with the padding
around it, and at least the least size. -/
def trackSize (least padding : α) (contents : List α) : α :=
  Length.largest least (contents.map (· + Length.twice padding))

/-- The rows of the grid: the lanes, and what lies outside of them. -/
def rowBands (c : Classification) (placements : List Placement) : List (Option Text) :=
  c.lanes.map (some ·.1) ++ if placements.any (·.slot.laneId.isNone) then [none] else []

/-- The columns of the grid: what lies outside of the sections, and the sections. -/
def columnBands (c : Classification) (placements : List Placement) : List (Option Text) :=
  (if placements.any (·.slot.sectionId.isNone) then [none] else [])
    ++ c.sections.map (some ·.1)

/-- What the badges of these bands take up before the grid begins. -/
def badgeSpace (s : LayoutSettings α) (extent : Size α → α) (bands : List (Text × RoleInfo)) : α :=
  Length.largest Length.zero
    (bands.map fun band => extent (badgeSize s band.2.badgeLabel) + s.grid.badgeGap)

/-- The grid of a graph. -/
def makeGrid (g : Graph) (c : Classification) (s : LayoutSettings α)
    (placements : List Placement) : Grid α :=
  let rowKeys := rowBands c placements
  let columnKeys := columnBands c placements
  let cells := gridCells g s placements rowKeys columnKeys
  let height (row : Option Text) : α :=
    trackSize s.grid.minCellHeight s.grid.cellPadding
      ((cells.filter (·.slot.laneId = row)).map (·.layout.size.height))
  let width (column : Option Text) : α :=
    trackSize s.grid.minCellWidth s.grid.cellPadding
      ((cells.filter (·.slot.sectionId = column)).map (·.layout.size.width))
  let originX := badgeSpace s Size.width c.lanes
  let originY := badgeSpace s Size.height c.sections
  { rows := makeTracks s.grid.rowGap originY (rowKeys.map fun row => (row, height row))
    columns := makeTracks s.grid.columnGap originX
      (columnKeys.map fun column => (column, width column))
    cells, originX, originY }

namespace Grid

/-- The right lower corner of a grid. -/
def size (grid : Grid α) : Size α :=
  ⟨(grid.columns.getLast?.map Track.finish).getD grid.originX,
    (grid.rows.getLast?.map Track.finish).getD grid.originY⟩

/-! ## Members -/

/-- The figure of a node at a place in the drawing. -/
def member (g : Graph) (sizes : List (Text × Size α)) (slot : Slot) (x y : α) (spot : Spot α) :
    Option (Figure α) :=
  (g.node? spot.id).map fun n =>
    let size := sizeIn sizes spot.id
    { id := n.id
      box := ⟨x + spot.x, y + spot.y, size.width, size.height⟩
      label := n.label
      componentType := n.componentType
      ornament := none
      laneId := slot.laneId
      sectionId := slot.sectionId
      badgeLabel := none
      icon := none }

/-- The figures of a cell, which is centred in its row and column. -/
def cellMembers (grid : Grid α) (g : Graph) (sizes : List (Text × Size α)) (cell : GridCell α) :
    List (Figure α) :=
  match grid.rows.find? (·.band = cell.slot.laneId),
    grid.columns.find? (·.band = cell.slot.sectionId) with
  | some row, some column =>
      let x := column.start + Length.half (column.size - cell.layout.size.width)
      let y := row.start + Length.half (row.size - cell.layout.size.height)
      cell.layout.spots.filterMap (member g sizes cell.slot x y)
  | _, _ => []

/-- The figures of all nodes, cell by cell. -/
def members (grid : Grid α) (g : Graph) (sizes : List (Text × Size α)) : List (Figure α) :=
  grid.cells.flatMap (grid.cellMembers g sizes)

end Grid

end Swimlane
