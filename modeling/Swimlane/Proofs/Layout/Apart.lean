import Mathlib.Data.Set.Basic
import Swimlane.Proofs.Flowchart.Forest
import Swimlane.Proofs.Flowchart.Nesting
import Swimlane.Proofs.Layout.Cell
import Swimlane.Proofs.Layout.Drawing
import Swimlane.Proofs.Settings

/-!
# Members never overlap

The rows of the grid are apart, and so are its columns; every cell fits into its row and its
column, and every member into its cell.  So members of different cells do not overlap, and
those of one cell do not by the geometry of the cell (`members_pairwise`).  All settings
that the program works with are sensible enough for this.
-/

namespace Swimlane

/-! ## Boxes -/

namespace Box

/-- The points within a box, its sides left out. -/
def interior (b : Box Rat) : Set (Rat × Rat) :=
  fun p => b.x < p.1 ∧ p.1 < b.right ∧ b.y < p.2 ∧ p.2 < b.bottom

/-- The box lies beside the other, above it or below it. -/
def IsClearOf (a b : Box Rat) : Prop := a.SpacedX 0 b ∨ a.SpacedY 0 b

variable {a b : Box Rat}

theorem SpacedX.isClearOf {gap : Rat} (hgap : 0 ≤ gap) (h : a.SpacedX gap b) : a.IsClearOf b := by
  refine Or.inl (h.imp (fun h => ?_) fun h => ?_) <;> linarith

theorem SpacedY.isClearOf {gap : Rat} (hgap : 0 ≤ gap) (h : a.SpacedY gap b) : a.IsClearOf b := by
  refine Or.inr (h.imp (fun h => ?_) fun h => ?_) <;> linarith

/-- Boxes that are clear of each other have no point in common. -/
theorem IsClearOf.interior_inter (h : a.IsClearOf b) : a.interior ∩ b.interior = ∅ := by
  rw [Set.eq_empty_iff_forall_notMem]
  rintro ⟨x, y⟩ ⟨⟨hax, hax', hay, hay'⟩, hbx, hbx', hby, hby'⟩
  simp only at hax hax' hay hay' hbx hbx' hby hby'
  rcases h with (h | h) | (h | h) <;> linarith

/-- Boxes that are clear of each other and take up space have different corners. -/
theorem IsClearOf.corner_ne (h : a.IsClearOf b) (ha : 0 < a.width ∧ 0 < a.height)
    (hb : 0 < b.width ∧ 0 < b.height) : (a.x, a.y) ≠ (b.x, b.y) := by
  intro heq
  obtain ⟨hx, hy⟩ := Prod.mk.inj heq
  unfold IsClearOf SpacedX SpacedY right bottom at h
  obtain ⟨haw, hah⟩ := ha
  obtain ⟨hbw, hbh⟩ := hb
  rcases h with (h | h) | (h | h) <;> linarith

/-- The box moved to the right and downwards. -/
def shift (b : Box Rat) (x y : Rat) : Box Rat := ⟨x + b.x, y + b.y, b.width, b.height⟩

end Box

namespace Direction

variable {d : Direction} {gap : Rat} {a b : Box Rat}

theorem BeforeAlong.shift (h : d.BeforeAlong gap a b) (x y : Rat) :
    d.BeforeAlong gap (a.shift x y) (b.shift x y) := by
  unfold BeforeAlong Box.right Box.bottom at h
  unfold BeforeAlong Box.right Box.bottom Box.shift
  cases d <;> simp only at h ⊢ <;> linarith

theorem BeforeAcross.shift (h : d.BeforeAcross gap a b) (x y : Rat) :
    d.BeforeAcross gap (a.shift x y) (b.shift x y) := by
  unfold BeforeAcross Box.right Box.bottom at h
  unfold BeforeAcross Box.right Box.bottom Box.shift
  split at h
  · next hd =>
    rw [if_pos hd]
    linarith
  · next hd =>
    rw [if_neg hd]
    linarith

theorem SpacedAlong.isClearOf (hgap : 0 ≤ gap) (h : d.SpacedAlong gap a b) : a.IsClearOf b := by
  unfold SpacedAlong at h
  split at h
  · exact h.isClearOf hgap
  · exact h.isClearOf hgap

theorem SpacedAcross.isClearOf (hgap : 0 ≤ gap) (h : d.SpacedAcross gap a b) : a.IsClearOf b := by
  unfold SpacedAcross at h
  split at h
  · exact h.isClearOf hgap
  · exact h.isClearOf hgap

end Direction

/-! ## Rows and columns -/

theorem le_trackSize_of_mem {least padding x : Rat} {contents : List Rat} (hx : x ∈ contents) :
    x + padding * 2 ≤ trackSize least padding contents :=
  Length.le_largest_of_mem least (List.mem_map.2 ⟨x, hx, rfl⟩)

theorem mem_of_find?_band {tracks : List (Track Rat)} {band : Option Text} {t : Track Rat}
    (h : tracks.find? (·.band = band) = some t) : t ∈ tracks ∧ t.band = band := by
  have hband := List.find?_some h
  exact ⟨List.mem_of_find?_eq_some h, of_decide_eq_true hband⟩

/-- One track ends before the other begins. -/
def Track.IsClearOf (a b : Track Rat) : Prop := a.finish ≤ b.start ∨ b.finish ≤ a.start

instance : Std.Symm Track.IsClearOf := ⟨fun _ _ h => h.symm⟩

/-- The bands with these keys, each as large as its contents ask for. -/
def fittingBands (least padding : Rat) (contents : Option Text → List Rat)
    (keys : List (Option Text)) : List (Option Text × Rat) :=
  keys.map fun key => (key, trackSize least padding (contents key))

section Tracks

variable {gap least padding origin : Rat} {contents : Option Text → List Rat}
  {keys : List (Option Text)} (hgap : 0 ≤ gap) (hleast : 0 ≤ least)

include hleast in
theorem fittingBands_nonneg : ∀ band ∈ fittingBands least padding contents keys, 0 ≤ band.2 := by
  intro band hband
  obtain ⟨key, -, rfl⟩ := List.mem_map.1 hband
  exact hleast.trans (Length.le_largest _ _)

include hgap hleast

/-- What is among the contents of a track fits into it with the padding. -/
theorem le_size_of_mem_contents {t : Track Rat}
    (ht : t ∈ makeTracks gap origin (fittingBands least padding contents keys)) {x : Rat}
    (hx : x ∈ contents t.band) : x + padding * 2 ≤ t.size := by
  obtain ⟨band, hband, start, rfl, -⟩ :=
    mem_zipWith_offsets hgap (fittingBands_nonneg hleast) ht
  obtain ⟨key, -, rfl⟩ := List.mem_map.1 hband
  exact le_trackSize_of_mem hx

/-- A track begins no earlier than the first, and has the least size. -/
theorem origin_le_of_mem_makeTracks {t : Track Rat}
    (ht : t ∈ makeTracks gap origin (fittingBands least padding contents keys)) :
    origin ≤ t.start ∧ least ≤ t.size := by
  obtain ⟨band, hband, start, rfl, hstart, -⟩ :=
    mem_zipWith_offsets hgap (fittingBands_nonneg hleast) ht
  obtain ⟨key, -, rfl⟩ := List.mem_map.1 hband
  exact ⟨hstart, Length.le_largest _ _⟩

/-- Tracks of different bands do not overlap. -/
theorem isClearOf_of_mem_makeTracks {a b : Track Rat}
    (ha : a ∈ makeTracks gap origin (fittingBands least padding contents keys))
    (hb : b ∈ makeTracks gap origin (fittingBands least padding contents keys))
    (hne : a.band ≠ b.band) : a.IsClearOf b := by
  have hpairs : (makeTracks gap origin (fittingBands least padding contents keys)).Pairwise
      Track.IsClearOf := by
    refine pairwise_zipWith_offsets hgap (fittingBands_nonneg hleast) (Q := fun _ _ => True)
      (List.pairwise_of_forall fun _ _ => trivial) origin fun a b p q _ hpq => Or.inl ?_
    show p + a.2 ≤ q
    linarith
  exact hpairs.forall ha hb fun heq => hne (congrArg Track.band heq)

end Tracks

section Grid

variable {g : Graph} {c : Classification} {s : LayoutSettings Rat} {ps : List Placement}

theorem rows_makeGrid : (makeGrid g c s ps).rows =
    makeTracks s.grid.rowGap (makeGrid g c s ps).originY
      (fittingBands s.grid.minCellHeight s.grid.cellPadding
        (fun row => ((makeGrid g c s ps).cells.filter (·.slot.laneId = row)).map
          (·.layout.size.height)) (rowBands c ps)) := rfl

theorem columns_makeGrid : (makeGrid g c s ps).columns =
    makeTracks s.grid.columnGap (makeGrid g c s ps).originX
      (fittingBands s.grid.minCellWidth s.grid.cellPadding
        (fun column => ((makeGrid g c s ps).cells.filter (·.slot.sectionId = column)).map
          (·.layout.size.width)) (columnBands c ps)) := rfl

variable (hs : s.IsSensible)

include hs

/-- A cell with its padding is no higher than its row. -/
theorem height_le_row {cell : GridCell Rat} (hcell : cell ∈ (makeGrid g c s ps).cells)
    {row : Track Rat} (hrow : row ∈ (makeGrid g c s ps).rows)
    (hband : row.band = cell.slot.laneId) :
    cell.layout.size.height + s.grid.cellPadding * 2 ≤ row.size := by
  rw [rows_makeGrid] at hrow
  refine le_size_of_mem_contents hs.grid.rowGap hs.grid.minCellHeight hrow ?_
  exact List.mem_map.2 ⟨cell, List.mem_filter.2 ⟨hcell, decide_eq_true hband.symm⟩, rfl⟩

/-- A cell with its padding is no wider than its column. -/
theorem width_le_column {cell : GridCell Rat} (hcell : cell ∈ (makeGrid g c s ps).cells)
    {column : Track Rat} (hcolumn : column ∈ (makeGrid g c s ps).columns)
    (hband : column.band = cell.slot.sectionId) :
    cell.layout.size.width + s.grid.cellPadding * 2 ≤ column.size := by
  rw [columns_makeGrid] at hcolumn
  refine le_size_of_mem_contents hs.grid.columnGap hs.grid.minCellWidth hcolumn ?_
  exact List.mem_map.2 ⟨cell, List.mem_filter.2 ⟨hcell, decide_eq_true hband.symm⟩, rfl⟩

/-- A row begins below the badges of the sections, and has the least height of a cell. -/
theorem originY_le_row {row : Track Rat} (hrow : row ∈ (makeGrid g c s ps).rows) :
    (makeGrid g c s ps).originY ≤ row.start ∧ s.grid.minCellHeight ≤ row.size := by
  rw [rows_makeGrid] at hrow
  exact origin_le_of_mem_makeTracks hs.grid.rowGap hs.grid.minCellHeight hrow

/-- A column begins to the right of the badges of the lanes, and has the least width of a
cell. -/
theorem originX_le_column {column : Track Rat} (hcolumn : column ∈ (makeGrid g c s ps).columns) :
    (makeGrid g c s ps).originX ≤ column.start ∧ s.grid.minCellWidth ≤ column.size := by
  rw [columns_makeGrid] at hcolumn
  exact origin_le_of_mem_makeTracks hs.grid.columnGap hs.grid.minCellWidth hcolumn

theorem row_isClearOf {a b : Track Rat} (ha : a ∈ (makeGrid g c s ps).rows)
    (hb : b ∈ (makeGrid g c s ps).rows) (hne : a.band ≠ b.band) : a.IsClearOf b := by
  rw [rows_makeGrid] at ha hb
  exact isClearOf_of_mem_makeTracks hs.grid.rowGap hs.grid.minCellHeight ha hb hne

theorem column_isClearOf {a b : Track Rat} (ha : a ∈ (makeGrid g c s ps).columns)
    (hb : b ∈ (makeGrid g c s ps).columns) (hne : a.band ≠ b.band) : a.IsClearOf b := by
  rw [columns_makeGrid] at ha hb
  exact isClearOf_of_mem_makeTracks hs.grid.columnGap hs.grid.minCellWidth ha hb hne

/-! ## Sizes of nodes -/

/-- Every node takes up space. -/
theorem nodeSize_pos (label : Text) :
    0 < (nodeSize s label).width ∧ 0 < (nodeSize s label).height := by
  have hrange : s.minNodeWidth ≤ Length.larger s.maxNodeWidth s.minNodeWidth := by
    rw [Length.larger_eq]
    exact le_max_right _ _
  refine ⟨hs.minNodeWidth.trans_le (Length.le_clamp hrange _), ?_⟩
  refine hs.minNodeHeight.trans_le ?_
  show s.minNodeHeight ≤ Length.larger _ s.minNodeHeight
  rw [Length.larger_eq]
  exact le_max_right _ _

theorem sizeIn_pos {id : Text} (hid : id ∈ g.nodes.map (·.id)) :
    0 < (sizeIn (nodeSizes g s) id).width ∧ 0 < (sizeIn (nodeSizes g s) id).height := by
  obtain ⟨n, hn, rfl⟩ := List.mem_map.1 hid
  have hsome : ((nodeSizes g s).lookup n.id).isSome = true := by
    refine List.lookup_isSome_iff.2 ⟨(n.id, nodeSize s n.label), ?_, beq_self_eq_true n.id⟩
    exact List.mem_map.2 ⟨n, List.mem_reverse.2 hn, rfl⟩
  obtain ⟨size, hsize⟩ := Option.isSome_iff_exists.1 hsome
  obtain ⟨m, -, heq⟩ := List.mem_map.1 (mem_of_lookup hsize)
  rw [sizeIn, hsize, ← (Prod.mk.inj heq).2]
  exact nodeSize_pos hs m.label

theorem sizeIn_nonneg (g : Graph) (id : Text) :
    0 ≤ (sizeIn (nodeSizes g s) id).width ∧ 0 ≤ (sizeIn (nodeSizes g s) id).height := by
  by_cases hid : id ∈ g.nodes.map (·.id)
  · have hpos := sizeIn_pos hs hid
    exact ⟨le_of_lt hpos.1, le_of_lt hpos.2⟩
  · have hnone : (nodeSizes g s).lookup id = none := by
      refine List.lookup_eq_none_iff.2 fun entry hentry => ?_
      obtain ⟨n, hn, rfl⟩ := List.mem_map.1 hentry
      refine bne_iff_ne.2 fun (heq : id = n.id) => hid ?_
      exact List.mem_map.2 ⟨n, List.mem_reverse.1 hn, heq.symm⟩
    rw [sizeIn, hnone]
    exact ⟨le_refl 0, le_refl 0⟩

/-! ## Members -/

/-- A member of the drawing stands at its spot of a cell, which is moved to a place where it
fits with its padding between the sides of its row and of its column. -/
theorem mem_cellMembers {cell : GridCell Rat} (hcell : cell ∈ (makeGrid g c s ps).cells) :
    ∃ row ∈ (makeGrid g c s ps).rows, ∃ column ∈ (makeGrid g c s ps).columns,
      row.band = cell.slot.laneId ∧ column.band = cell.slot.sectionId ∧ ∃ x y,
        column.start + s.grid.cellPadding ≤ x ∧
        x + cell.layout.size.width + s.grid.cellPadding ≤ column.finish ∧
        row.start + s.grid.cellPadding ≤ y ∧
        y + cell.layout.size.height + s.grid.cellPadding ≤ row.finish ∧
        (makeGrid g c s ps).cellMembers g (nodeSizes g s) cell =
          cell.layout.spots.filterMap (Grid.member g (nodeSizes g s) cell.slot x y) := by
  obtain ⟨row, column, hrow, hcolumn⟩ := exists_tracks_of_mem_cells hcell
  obtain ⟨hrowMem, hrowBand⟩ := mem_of_find?_band hrow
  obtain ⟨hcolumnMem, hcolumnBand⟩ := mem_of_find?_band hcolumn
  have hheight := height_le_row hs hcell hrowMem hrowBand
  have hwidth := width_le_column hs hcell hcolumnMem hcolumnBand
  refine ⟨row, hrowMem, column, hcolumnMem, hrowBand, hcolumnBand,
    column.start + Length.half (column.size - cell.layout.size.width),
    row.start + Length.half (row.size - cell.layout.size.height), ?_, ?_, ?_, ?_, ?_⟩
  · rw [Length.half_eq]
    linarith
  · rw [Length.half_eq, Track.finish]
    linarith
  · rw [Length.half_eq]
    linarith
  · rw [Length.half_eq, Track.finish]
    linarith
  · rw [Grid.cellMembers, hrow, hcolumn]

end Grid

/-- The slot of a figure. -/
def Figure.slot (f : Figure Rat) : Slot := ⟨f.laneId, f.sectionId⟩

/-- A figure is made of a spot and of the node that stands there. -/
theorem eq_of_member {g : Graph} {sizes : List (Text × Size Rat)} {slot : Slot} {x y : Rat}
    {spot : Spot Rat} {f : Figure Rat} (h : Grid.member g sizes slot x y spot = some f) :
    f.id = spot.id ∧ f.slot = slot ∧ f.box = (spot.box (sizeIn sizes)).shift x y ∧
      f.id ∈ g.nodes.map (·.id) := by
  obtain ⟨n, hn, rfl⟩ := Option.map_eq_some_iff.1 h
  obtain ⟨hmem, hid⟩ := Graph.mem_of_node? hn
  exact ⟨hid, rfl, rfl, List.mem_map.2 ⟨n, hmem, rfl⟩⟩

/-- The rank of a node among the members of a slot. -/
def Graph.rankOf (g : Graph) (ps : List Placement) (slot : Slot) (id : Text) : Nat :=
  rankIn g.edges (slotMembers g g.flow ps slot) id

/-- How two members of a drawing lie to each other. -/
structure MembersApart (g : Graph) (s : LayoutSettings Rat) (ps : List Placement)
    (a b : Figure Rat) : Prop where
  interior_inter : a.box.interior ∩ b.box.interior = ∅
  corner_ne : (a.box.x, a.box.y) ≠ (b.box.x, b.box.y)
  /-- Members of one cell and one rank are apart across the flow. -/
  across : a.slot = b.slot → g.rankOf ps a.slot a.id = g.rankOf ps b.slot b.id →
    g.direction.SpacedAcross s.nodeSpacing a.box b.box
  /-- Members of one cell and different ranks are apart along the flow. -/
  along : a.slot = b.slot → g.rankOf ps a.slot a.id ≠ g.rankOf ps b.slot b.id →
    g.direction.SpacedAlong s.rankSpacing a.box b.box

section Members

variable {g : Graph} {c : Classification} {s : LayoutSettings Rat} {ps : List Placement}
  (hs : s.IsSensible)

include hs

theorem box_pos {f : Figure Rat} (hf : f ∈ (makeGrid g c s ps).members g (nodeSizes g s)) :
    0 < f.box.width ∧ 0 < f.box.height := by
  obtain ⟨cell, hcell, hf⟩ := List.mem_flatMap.1 hf
  obtain ⟨_, -, _, -, -, -, x, y, -, -, -, -, heq⟩ := mem_cellMembers hs hcell
  rw [heq] at hf
  obtain ⟨spot, -, hspot⟩ := List.mem_filterMap.1 hf
  obtain ⟨hid, -, hbox, hnode⟩ := eq_of_member hspot
  rw [hbox]
  rw [hid] at hnode
  exact sizeIn_pos hs hnode

/-- The members of one cell stand one after another. -/
theorem pairwise_cellMembers {cell : GridCell Rat} (hcell : cell ∈ (makeGrid g c s ps).cells) :
    ((makeGrid g c s ps).cellMembers g (nodeSizes g s) cell).Pairwise fun a b =>
      (g.rankOf ps a.slot a.id = g.rankOf ps b.slot b.id ∧
        g.direction.BeforeAcross s.nodeSpacing a.box b.box) ∨
      (g.rankOf ps a.slot a.id < g.rankOf ps b.slot b.id ∧
        g.direction.BeforeAlong s.rankSpacing a.box b.box) := by
  obtain ⟨_, -, _, -, -, -, x, y, -, -, -, -, heq⟩ := mem_cellMembers hs hcell
  rw [heq, layout_of_mem_cells hcell]
  have hspots := layCell_pairwise (d := g.direction) (sizeIn_nonneg hs g) hs.nodeSpacing
    hs.rankSpacing g.edges (slotMembers g g.flow ps cell.slot)
  refine hspots.filterMap _ fun a b hab f hf f' hf' => ?_
  obtain ⟨hid, hslot, hbox, -⟩ := eq_of_member hf
  obtain ⟨hid', hslot', hbox', -⟩ := eq_of_member hf'
  rw [hid, hslot, hbox, hid', hslot', hbox']
  exact hab.imp (fun h => ⟨h.1, h.2.shift x y⟩) fun h => ⟨h.1, h.2.shift x y⟩

/-- A member lies between the sides of the row and the column of its slot, with the padding of
a cell. -/
theorem exists_tracks_of_mem_cellMembers {cell : GridCell Rat}
    (hcell : cell ∈ (makeGrid g c s ps).cells) {f : Figure Rat}
    (hf : f ∈ (makeGrid g c s ps).cellMembers g (nodeSizes g s) cell) :
    f.slot = cell.slot ∧
    (∃ row ∈ (makeGrid g c s ps).rows, row.band = cell.slot.laneId ∧
      row.start + s.grid.cellPadding ≤ f.box.y ∧
      f.box.bottom + s.grid.cellPadding ≤ row.finish) ∧
    ∃ column ∈ (makeGrid g c s ps).columns, column.band = cell.slot.sectionId ∧
      column.start + s.grid.cellPadding ≤ f.box.x ∧
      f.box.right + s.grid.cellPadding ≤ column.finish := by
  obtain ⟨row, hrow, column, hcolumn, hrowBand, hcolumnBand, x, y, hleft, hright, htop, hbottom,
    heq⟩ := mem_cellMembers hs hcell
  rw [heq] at hf
  obtain ⟨spot, hspot, hmember⟩ := List.mem_filterMap.1 hf
  obtain ⟨-, hslot, hbox, -⟩ := eq_of_member hmember
  have hwithin : (spot.box (sizeIn (nodeSizes g s))).IsWithin cell.layout.size := by
    rw [layout_of_mem_cells hcell] at hspot ⊢
    exact layCell_within (sizeIn_nonneg hs g) hs.nodeSpacing hs.rankSpacing g.edges _ spot hspot
  have hleftEdge := hwithin.left
  have hrightEdge := hwithin.right
  have htopEdge := hwithin.top
  have hbottomEdge := hwithin.bottom
  unfold Box.right at hrightEdge
  unfold Box.bottom at hbottomEdge
  refine ⟨hslot, ⟨row, hrow, hrowBand, ?_, ?_⟩, ⟨column, hcolumn, hcolumnBand, ?_, ?_⟩⟩ <;>
    rw [hbox] <;> unfold Box.shift
  · show row.start + s.grid.cellPadding ≤ y + (spot.box _).y
    linarith
  · show y + (spot.box _).y + (spot.box _).height + s.grid.cellPadding ≤ row.finish
    linarith
  · show column.start + s.grid.cellPadding ≤ x + (spot.box _).x
    linarith
  · show x + (spot.box _).x + (spot.box _).width + s.grid.cellPadding ≤ column.finish
    linarith

/-- Members of different cells are clear of each other. -/
theorem isClearOf_of_slot_ne {cell cell' : GridCell Rat}
    (hcell : cell ∈ (makeGrid g c s ps).cells) (hcell' : cell' ∈ (makeGrid g c s ps).cells)
    (hne : cell.slot ≠ cell'.slot) {a b : Figure Rat}
    (ha : a ∈ (makeGrid g c s ps).cellMembers g (nodeSizes g s) cell)
    (hb : b ∈ (makeGrid g c s ps).cellMembers g (nodeSizes g s) cell') : a.box.IsClearOf b.box := by
  obtain ⟨-, ⟨row, hrow, hrowBand, htop, hbottom⟩, column, hcolumn, hcolumnBand, hleft, hright⟩ :=
    exists_tracks_of_mem_cellMembers hs hcell ha
  obtain ⟨-, ⟨row', hrow', hrowBand', htop', hbottom'⟩, column', hcolumn', hcolumnBand', hleft',
    hright'⟩ := exists_tracks_of_mem_cellMembers hs hcell' hb
  have hpadding := hs.grid.cellPadding
  by_cases hlane : cell.slot.laneId = cell'.slot.laneId
  · have hsection : column.band ≠ column'.band := by
      intro heq
      rw [hcolumnBand, hcolumnBand'] at heq
      exact hne (congrArg₂ Slot.mk hlane heq)
    refine Or.inl ((column_isClearOf hs hcolumn hcolumn' hsection).imp (fun h => ?_) fun h => ?_)
    · linarith
    · linarith
  · have hrows : row.band ≠ row'.band := by
      rw [hrowBand, hrowBand']
      exact hlane
    refine Or.inr ((row_isClearOf hs hrow hrow' hrows).imp (fun h => ?_) fun h => ?_)
    · linarith
    · linarith

omit hs in
theorem cells_pairwise : (makeGrid g c s ps).cells.Pairwise fun a b => a.slot ≠ b.slot := by
  rw [cells_makeGrid]
  refine List.Pairwise.filterMap _ ?_ (slotsOf_nodup (rowBands_nodup c ps) (columnBands_nodup c ps))
  intro slot slot' hne cell hcell cell' hcell'
  rw [(layout_of_cellOf? hcell).1, (layout_of_cellOf? hcell').1]
  exact hne

/-- No two members of a drawing overlap, and those of one cell keep their distance. -/
theorem members_pairwise :
    ((makeGrid g c s ps).members g (nodeSizes g s)).Pairwise (MembersApart g s ps) := by
  have hapart {a b : Figure Rat} (ha : a ∈ (makeGrid g c s ps).members g (nodeSizes g s))
      (hb : b ∈ (makeGrid g c s ps).members g (nodeSizes g s)) (h : a.box.IsClearOf b.box) :
      a.box.interior ∩ b.box.interior = ∅ ∧ (a.box.x, a.box.y) ≠ (b.box.x, b.box.y) :=
    ⟨h.interior_inter, h.corner_ne (box_pos hs ha) (box_pos hs hb)⟩
  rw [Grid.members, List.pairwise_flatMap]
  refine ⟨fun cell hcell => ?_, ?_⟩
  · refine (pairwise_cellMembers hs hcell).imp_of_mem fun {a b} ha hb hab => ?_
    have hapart := hapart (List.mem_flatMap.2 ⟨cell, hcell, ha⟩)
      (List.mem_flatMap.2 ⟨cell, hcell, hb⟩)
    rcases hab with ⟨hrank, hacross⟩ | ⟨hrank, halong⟩
    · obtain ⟨hdisjoint, hcorner⟩ := hapart (hacross.spacedAcross.isClearOf hs.nodeSpacing)
      exact ⟨hdisjoint, hcorner, fun _ _ => hacross.spacedAcross, fun _ hne => absurd hrank hne⟩
    · obtain ⟨hdisjoint, hcorner⟩ := hapart (halong.spacedAlong.isClearOf hs.rankSpacing)
      exact ⟨hdisjoint, hcorner, fun _ heq => absurd heq hrank.ne, fun _ _ => halong.spacedAlong⟩
  · refine cells_pairwise.imp_of_mem fun {cell cell'} hcell hcell' hne a ha b hb => ?_
    obtain ⟨hdisjoint, hcorner⟩ := hapart (List.mem_flatMap.2 ⟨cell, hcell, ha⟩)
      (List.mem_flatMap.2 ⟨cell', hcell', hb⟩) (isClearOf_of_slot_ne hs hcell hcell' hne ha hb)
    have hslots : a.slot ≠ b.slot := by
      rw [(exists_tracks_of_mem_cellMembers hs hcell ha).1,
        (exists_tracks_of_mem_cellMembers hs hcell' hb).1]
      exact hne
    exact ⟨hdisjoint, hcorner, fun h => absurd h hslots, fun h => absurd h hslots⟩

end Members

/-! ## Flowcharts -/

/-- The flowchart of every text can be drawn with all settings that the program works with, and
no two members of the drawing overlap. -/
theorem membersApart_of_ofText {text : Text} {f : Flowchart} (hf : Flowchart.ofText text = .ok f)
    {s : LayoutSettings Rat} (hs : s.IsLoaded) :
    ∃ visits d, f.graph.visits? = some visits ∧
      Drawing.ofGraph? f.graph (Classification.ofGraph f.graph) s = some d ∧
      (membersOf d.figures).Pairwise (MembersApart f.graph s
        (placements f.graph (Classification.ofGraph f.graph) visits)) := by
  obtain ⟨visits, hvisits⟩ := (isConsistent_of_ofText hf).exists_visits
  refine ⟨visits, Drawing.ofVisits f.graph (Classification.ofGraph f.graph) s visits, hvisits,
    ?_, ?_⟩
  · rw [Drawing.ofGraph?, hvisits]
    rfl
  · rw [membersOf_ofVisits]
    exact members_pairwise hs.isSensible

/-- A cycle in a section of a lane, drawn from the bottom up. -/
def laneCycle : Text :=
  "graph BT\nsubgraph lane1\nsubgraph stage1\na-->b\n".toList ++
    "b-->a\na-->c\nend\nend\nd-->a".toList

/-- Settings that leave no space between the nodes of a rank. -/
def closeSettings : LayoutSettings Rat :=
  LayoutSettings.default.withInitial
    (.object [("flowchart".toList, .object [("nodeSpacing".toList, .ofNat 0)])])

theorem membersApart_of_laneCycle : ∃ f visits d, Flowchart.ofText laneCycle = .ok f ∧
    f.graph.visits? = some visits ∧
    Drawing.ofGraph? f.graph (Classification.ofGraph f.graph) closeSettings = some d ∧
    (membersOf d.figures).Pairwise (MembersApart f.graph closeSettings
      (placements f.graph (Classification.ofGraph f.graph) visits)) := by
  have hread : (Flowchart.ofText laneCycle).isOk = true := by
    decide +kernel
  cases hf : Flowchart.ofText laneCycle with
  | error e =>
    rw [hf] at hread
    cases hread
  | ok f =>
    have hloaded : closeSettings.IsLoaded := .withInitial .default _
    obtain ⟨visits, d, hdrawn⟩ := membersApart_of_ofText hf hloaded
    exact ⟨f, visits, d, rfl, hdrawn⟩

end Swimlane
