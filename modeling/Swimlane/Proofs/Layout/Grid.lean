import Swimlane.Layout.Grid
import Swimlane.Proofs.Layout.Placement

/-!
# The grid holds every node

Each slot has its members, and each cell lays out the members of its slot; since the rows
and columns of the grid cover all slots, the members of the grid are the nodes of the graph
(`members_perm`), whatever their sizes and whatever the edges.
-/

namespace Swimlane

/-! ## Cells -/

@[simp] theorem id_spot {α : Type} (d : Direction) (id : Text) (main cross : α) :
    (d.spot id main cross).id = id := by
  unfold Direction.spot
  split <;> rfl

variable {α : Type} [Length α]

@[simp] theorem length_offsets (gap origin : α) (sizes : List α) :
    (offsets gap origin sizes).length = sizes.length := by
  induction sizes generalizing origin with
  | nil => rfl
  | cons size sizes ih => rw [offsets, List.length_cons, List.length_cons, ih]

/-- A list joined with one as long, seen from its own side. -/
theorem map_zipWith_left {β γ δ ε : Type} {f : β → γ → δ} (part : δ → ε) (own : β → ε)
    (h : ∀ b c, part (f b c) = own b) {bs : List β} {cs : List γ}
    (hlength : bs.length = cs.length) :
    (List.zipWith f bs cs).map part = bs.map own := by
  induction bs generalizing cs with
  | nil => rfl
  | cons b bs ih =>
    cases cs with
    | nil => cases hlength
    | cons c cs =>
      rw [List.zipWith_cons_cons, List.map_cons, List.map_cons, h, ih (Nat.succ.inj hlength)]

/-- Every node of a rank gets a place. -/
theorem map_id_spots (d : Direction) (gap : α) (total : Extents α) (start : α) (row : RankRow α) :
    (row.spots d gap total start).map (·.id) = row.map (·.1) := by
  refine map_zipWith_left Spot.id Prod.fst (fun node cross => id_spot d node.1 _ cross) ?_
  rw [length_offsets, List.length_map]

/-- Every node of the ranks gets a place. -/
theorem map_id_layRanks (d : Direction) (s : LayoutSettings α) (rows : List (RankRow α)) :
    (layRanks d s rows).spots.map (·.id) = rows.flatten.map (·.1) := by
  have hrows (total : Extents α) {starts : List α} {rows : List (RankRow α)}
      (h : starts.length = rows.length) :
      (List.zipWith (RankRow.spots d s.nodeSpacing total) starts rows).flatten.map (·.id) =
        rows.flatten.map (·.1) := by
    induction rows generalizing starts with
    | nil => rw [List.zipWith_nil_right]; rfl
    | cons row rows ih =>
      cases starts with
      | nil => cases h
      | cons start starts =>
        rw [List.zipWith_cons_cons, List.flatten_cons, List.map_append, map_id_spots,
          ih (Nat.succ.inj h), List.flatten_cons, List.map_append]
  exact hrows _ (by simp)

/-- A cell lays out its members, each once. -/
theorem map_id_layCell_perm (d : Direction) (s : LayoutSettings α) (edges : List Edge)
    (sizeOf : Text → Size α) (members : List Text) :
    ((layCell d s edges sizeOf members).spots.map (·.id)).Perm members := by
  have hfst : ((cellRanks s.orderPasses edges members).map fun rank =>
      rank.map fun id => (id, d.extents (sizeOf id))).flatten.map (·.1) =
      (cellRanks s.orderPasses edges members).flatten := by
    rw [← List.map_flatten, List.map_map]
    exact List.map_id _
  rw [layCell, map_id_layRanks, hfst]
  exact flatten_cellRanks_perm s.orderPasses edges members

/-! ## Slots -/

variable {g : Graph} {c : Classification} {s : LayoutSettings α} {visits : List Visit}

theorem slotMembers_perm (g : Graph) (flow : List Text) (ps : List Placement) (slot : Slot) :
    (slotMembers g flow ps slot).Perm ((ps.filter (·.slot = slot)).map (·.nodeId)) :=
  List.mergeSort_perm _ _

theorem rowBands_nodup (c : Classification) (ps : List Placement) : (rowBands c ps).Nodup := by
  have hlanes : (c.lanes.map (some ·.1)).Nodup := by
    have h := (withRole_nodup c .laneBand).map (fun _ _ h => Option.some.inj h)
    rwa [List.map_map] at h
  rw [rowBands]
  split
  · refine List.nodup_append.2 ⟨hlanes, List.nodup_singleton _, fun a ha b hb hab => ?_⟩
    obtain ⟨lane, -, hlane⟩ := List.mem_map.1 ha
    rw [hab, List.mem_singleton.1 hb] at hlane
    cases hlane
  · rw [List.append_nil]
    exact hlanes

theorem columnBands_nodup (c : Classification) (ps : List Placement) :
    (columnBands c ps).Nodup := by
  have hsections : (c.sections.map (some ·.1)).Nodup := by
    have h := (withRole_nodup c .sectionBand).map (fun _ _ h => Option.some.inj h)
    rwa [List.map_map] at h
  rw [columnBands]
  split
  · refine List.nodup_append.2 ⟨List.nodup_singleton _, hsections, fun a ha b hb hab => ?_⟩
    obtain ⟨section', -, hsection⟩ := List.mem_map.1 hb
    rw [← hab, List.mem_singleton.1 ha] at hsection
    cases hsection
  · exact hsections

/-- Every placement has a row. -/
theorem laneId_mem_rowBands {p : Placement} (hp : p ∈ placements g c visits) :
    p.slot.laneId ∈ rowBands c (placements g c visits) := by
  obtain ⟨around, hslot⟩ := slot_of_mem_placements hp
  rw [rowBands, List.mem_append]
  cases hlane : p.slot.laneId with
  | none =>
    have hany : (placements g c visits).any (·.slot.laneId.isNone) = true :=
      List.any_eq_true.2 ⟨p, hp, by rw [hlane]; rfl⟩
    rw [if_pos hany]
    exact Or.inr (List.mem_singleton_self _)
  | some id =>
    rw [hslot] at hlane
    obtain ⟨lane, hmem, rfl⟩ := List.mem_map.1 (mem_withRole_of_nearest? hlane)
    exact Or.inl (List.mem_map.2 ⟨lane, hmem, rfl⟩)

/-- Every placement has a column. -/
theorem sectionId_mem_columnBands {p : Placement} (hp : p ∈ placements g c visits) :
    p.slot.sectionId ∈ columnBands c (placements g c visits) := by
  obtain ⟨around, hslot⟩ := slot_of_mem_placements hp
  rw [columnBands, List.mem_append]
  cases hsection : p.slot.sectionId with
  | none =>
    have hany : (placements g c visits).any (·.slot.sectionId.isNone) = true :=
      List.any_eq_true.2 ⟨p, hp, by rw [hsection]; rfl⟩
    rw [if_pos hany]
    exact Or.inl (List.mem_singleton_self _)
  | some id =>
    rw [hslot] at hsection
    obtain ⟨band, hmem, rfl⟩ := List.mem_map.1 (mem_withRole_of_nearest? hsection)
    exact Or.inr (List.mem_map.2 ⟨band, hmem, rfl⟩)

/-! ## The cells of the grid -/

/-- The slots of a grid, row by row. -/
def slotsOf (rows columns : List (Option Text)) : List Slot :=
  rows.flatMap fun row => columns.map fun column => ⟨row, column⟩

theorem slotsOf_nodup {rows columns : List (Option Text)} (hrows : rows.Nodup)
    (hcolumns : columns.Nodup) : (slotsOf rows columns).Nodup := by
  refine List.nodup_flatMap.2 ⟨fun row _ => hcolumns.map fun a b h => (Slot.mk.inj h).2, ?_⟩
  refine hrows.imp fun {a b} hne => ?_
  show List.Disjoint _ _
  rw [List.disjoint_left]
  intro slot ha hb
  obtain ⟨column, -, rfl⟩ := List.mem_map.1 ha
  obtain ⟨column', -, h⟩ := List.mem_map.1 hb
  exact hne (Slot.mk.inj h).1.symm

/-- The cell of a slot, if it has members. -/
def cellOf? (g : Graph) (s : LayoutSettings α) (ps : List Placement) (slot : Slot) :
    Option (GridCell α) :=
  match slotMembers g g.flow ps slot with
  | [] => none
  | members => some ⟨slot, layCell g.direction s g.edges (sizeIn (nodeSizes g s)) members⟩

/-- The cells of a grid are those of its slots. -/
theorem gridCells_eq (g : Graph) (s : LayoutSettings α) (ps : List Placement)
    (rows columns : List (Option Text)) :
    gridCells g s ps rows columns = (slotsOf rows columns).filterMap (cellOf? g s ps) := by
  rw [gridCells, slotsOf, List.filterMap_flatMap]
  refine List.flatMap_congr fun row _ => ?_
  rw [List.filterMap_map]
  rfl

theorem cells_makeGrid (g : Graph) (c : Classification) (s : LayoutSettings α)
    (ps : List Placement) : (makeGrid g c s ps).cells =
      (slotsOf (rowBands c ps) (columnBands c ps)).filterMap (cellOf? g s ps) :=
  gridCells_eq g s ps (rowBands c ps) (columnBands c ps)

/-- A cell lays out the members of its slot. -/
theorem layout_of_cellOf? {ps : List Placement} {slot : Slot} {cell : GridCell α}
    (h : cellOf? g s ps slot = some cell) : cell.slot = slot ∧ cell.layout =
      layCell g.direction s g.edges (sizeIn (nodeSizes g s)) (slotMembers g g.flow ps slot) := by
  unfold cellOf? at h
  split at h
  · cases h
  · cases h
    exact ⟨rfl, rfl⟩

theorem layout_of_mem_cells {ps : List Placement} {cell : GridCell α}
    (hcell : cell ∈ (makeGrid g c s ps).cells) : cell.layout =
      layCell g.direction s g.edges (sizeIn (nodeSizes g s))
        (slotMembers g g.flow ps cell.slot) := by
  rw [cells_makeGrid] at hcell
  obtain ⟨slot, -, hslot⟩ := List.mem_filterMap.1 hcell
  obtain ⟨rfl, hlayout⟩ := layout_of_cellOf? hslot
  exact hlayout

/-- The cell of a slot lays out what was placed there. -/
theorem map_id_cellOf?_perm (g : Graph) (s : LayoutSettings α) (ps : List Placement)
    (slot : Slot) : ((cellOf? g s ps slot).toList.flatMap fun cell =>
      cell.layout.spots.map (·.id)).Perm ((ps.filter (·.slot = slot)).map (·.nodeId)) := by
  refine List.Perm.trans ?_ (slotMembers_perm g g.flow ps slot)
  cases hcell : cellOf? g s ps slot with
  | none =>
    unfold cellOf? at hcell
    split at hcell
    · next hnil => rw [hnil]; exact List.Perm.refl _
    · cases hcell
  | some cell =>
    rw [Option.toList_some, List.flatMap_singleton, (layout_of_cellOf? hcell).2]
    exact map_id_layCell_perm _ _ _ _ _

/-- The cells of slots lay out what was placed in these. -/
theorem map_id_filterMap_cellOf?_perm (g : Graph) (s : LayoutSettings α) (ps : List Placement)
    (slots : List Slot) : ((slots.filterMap (cellOf? g s ps)).flatMap fun cell =>
      cell.layout.spots.map (·.id)).Perm
      ((slots.flatMap fun slot => ps.filter (·.slot = slot)).map (·.nodeId)) := by
  induction slots with
  | nil => exact List.Perm.refl _
  | cons slot slots ih =>
    have hcons : (slot :: slots).filterMap (cellOf? g s ps) =
        (cellOf? g s ps slot).toList ++ slots.filterMap (cellOf? g s ps) := by
      rw [List.filterMap_cons]
      cases cellOf? g s ps slot <;> rfl
    rw [hcons, List.flatMap_append, List.flatMap_cons, List.map_append]
    exact (map_id_cellOf?_perm g s ps slot).append ih

/-- The cells together lay out every node once. -/
theorem map_id_cells_perm (g : Graph) (c : Classification) (s : LayoutSettings α)
    (visits : List Visit) : ((makeGrid g c s (placements g c visits)).cells.flatMap fun cell =>
      cell.layout.spots.map (·.id)).Perm (g.nodes.map (·.id)).dedup := by
  have hslots := slotsOf_nodup (rowBands_nodup c (placements g c visits))
    (columnBands_nodup c (placements g c visits))
  have hcover : ∀ p ∈ placements g c visits, p.slot ∈
      slotsOf (rowBands c (placements g c visits)) (columnBands c (placements g c visits)) :=
    fun p hp => List.mem_flatMap.2 ⟨_, laneId_mem_rowBands hp,
      List.mem_map.2 ⟨_, sectionId_mem_columnBands hp, rfl⟩⟩
  rw [cells_makeGrid]
  exact (map_id_filterMap_cellOf?_perm g s _ _).trans
    (((flatMap_filter_perm hslots hcover).map _).trans (map_nodeId_placements_dedup g c visits))

/-! ## Rows and columns -/

theorem map_band_makeTracks (gap origin : α) (bands : List (Option Text × α)) :
    (makeTracks gap origin bands).map (·.band) = bands.map (·.1) := by
  have hlength : bands.length = (offsets gap origin (bands.map (·.2))).length := by
    rw [length_offsets, List.length_map]
  exact map_zipWith_left Track.band Prod.fst (fun _ _ => rfl) hlength

/-- A band that is among those of the tracks has a track. -/
theorem exists_find?_of_mem {β : Type} {tracks : List (Track β)} {band : Option Text}
    (h : band ∈ tracks.map (·.band)) : ∃ t, tracks.find? (·.band = band) = some t := by
  obtain ⟨t, ht, hband⟩ := List.mem_map.1 h
  refine Option.isSome_iff_exists.1 (List.find?_isSome.2 ⟨t, ht, ?_⟩)
  exact decide_eq_true hband

theorem map_band_rows (g : Graph) (c : Classification) (s : LayoutSettings α)
    (ps : List Placement) : (makeGrid g c s ps).rows.map (·.band) = rowBands c ps := by
  rw [makeGrid, map_band_makeTracks, List.map_map]
  exact List.map_id _

theorem map_band_columns (g : Graph) (c : Classification) (s : LayoutSettings α)
    (ps : List Placement) : (makeGrid g c s ps).columns.map (·.band) = columnBands c ps := by
  rw [makeGrid, map_band_makeTracks, List.map_map]
  exact List.map_id _

/-- Every cell of a grid has a row and a column. -/
theorem exists_tracks_of_mem_cells {ps : List Placement} {cell : GridCell α}
    (hcell : cell ∈ (makeGrid g c s ps).cells) : ∃ row column,
      (makeGrid g c s ps).rows.find? (·.band = cell.slot.laneId) = some row ∧
      (makeGrid g c s ps).columns.find? (·.band = cell.slot.sectionId) = some column := by
  rw [cells_makeGrid] at hcell
  obtain ⟨slot, hslot, hcell⟩ := List.mem_filterMap.1 hcell
  rw [(layout_of_cellOf? hcell).1]
  obtain ⟨row, hrow, hslot⟩ := List.mem_flatMap.1 hslot
  obtain ⟨column, hcolumn, rfl⟩ := List.mem_map.1 hslot
  rw [← map_band_rows g c s ps] at hrow
  rw [← map_band_columns g c s ps] at hcolumn
  obtain ⟨r, hr⟩ := exists_find?_of_mem hrow
  obtain ⟨k, hk⟩ := exists_find?_of_mem hcolumn
  exact ⟨r, k, hr, hk⟩

/-! ## Members -/

/-- What a figure shows of its node. -/
def Figure.face (f : Figure α) : Text × Text × Text := (f.id, f.label, f.componentType)

/-- What a drawing shows of a node. -/
def Node.face (n : Node) : Text × Text × Text := (n.id, n.label, n.componentType)

/-- Every place whose node exists becomes a figure that shows the node. -/
theorem map_face_filterMap_member (sizes : List (Text × Size α)) (slot : Slot) (x y : α)
    {spots : List (Spot α)} (h : ∀ spot ∈ spots, spot.id ∈ g.nodes.map (·.id)) :
    (spots.filterMap (Grid.member g sizes slot x y)).map (fun f => some f.face) =
      spots.map fun spot => (g.node? spot.id).map Node.face := by
  induction spots with
  | nil => rfl
  | cons spot spots ih =>
    have hnode : (g.node? spot.id).isSome = true := by
      rw [Graph.node?_isSome, Graph.hasNode_iff]
      exact h spot List.mem_cons_self
    obtain ⟨n, hn⟩ := Option.isSome_iff_exists.1 hnode
    have hmember : Grid.member g sizes slot x y spot = some
        { id := n.id, box := ⟨x + spot.x, y + spot.y, (sizeIn sizes spot.id).width,
            (sizeIn sizes spot.id).height⟩, label := n.label, componentType := n.componentType,
          ornament := none, laneId := slot.laneId, sectionId := slot.sectionId,
          badgeLabel := none, icon := none } := by
      rw [Grid.member, hn]
      rfl
    rw [List.filterMap_cons_some hmember, List.map_cons, List.map_cons, hn,
      ih fun spot' hspot => h spot' (List.mem_cons_of_mem spot hspot)]
    rfl

theorem ornament_of_mem_members {grid : Grid α} {sizes : List (Text × Size α)} {f : Figure α}
    (hf : f ∈ grid.members g sizes) : f.ornament = none := by
  obtain ⟨cell, -, hf⟩ := List.mem_flatMap.1 hf
  unfold Grid.cellMembers at hf
  split at hf
  · obtain ⟨spot, -, hspot⟩ := List.mem_filterMap.1 hf
    obtain ⟨n, -, rfl⟩ := Option.map_eq_some_iff.1 hspot
    rfl
  · exact absurd hf List.not_mem_nil

/-- The members of a grid show the nodes that their identifiers find, each once. -/
theorem map_face_members_perm (g : Graph) (c : Classification) (s : LayoutSettings α)
    (visits : List Visit) (sizes : List (Text × Size α)) :
    (((makeGrid g c s (placements g c visits)).members g sizes).map fun f => some f.face).Perm
      ((g.nodes.map (·.id)).dedup.map fun id => (g.node? id).map Node.face) := by
  have hperm := map_id_cells_perm g c s visits
  have hcell (cell : GridCell α) (hcell : cell ∈ (makeGrid g c s (placements g c visits)).cells) :
      ((makeGrid g c s (placements g c visits)).cellMembers g sizes cell).map
        (fun f => some f.face) =
        (cell.layout.spots.map (·.id)).map fun id => (g.node? id).map Node.face := by
    obtain ⟨row, column, hrow, hcolumn⟩ := exists_tracks_of_mem_cells hcell
    rw [Grid.cellMembers, hrow, hcolumn, List.map_map]
    refine map_face_filterMap_member sizes _ _ _ fun spot hspot => List.mem_dedup.1 ?_
    exact hperm.subset (List.mem_flatMap.2 ⟨cell, hcell, List.mem_map.2 ⟨spot, hspot, rfl⟩⟩)
  rw [Grid.members, List.map_flatMap, List.flatMap_congr hcell, ← List.map_flatMap]
  exact hperm.map _

/-- The members of a grid are called like the nodes of the graph, each name once. -/
theorem map_id_members_perm (g : Graph) (c : Classification) (s : LayoutSettings α)
    (visits : List Visit) (sizes : List (Text × Size α)) :
    (((makeGrid g c s (placements g c visits)).members g sizes).map (·.id)).Perm
      (g.nodes.map (·.id)).dedup := by
  have hnames : ((g.nodes.map (·.id)).dedup.map fun id => (g.node? id).map Node.face).map
      (Option.map Prod.fst) = (g.nodes.map (·.id)).dedup.map some := by
    rw [List.map_map]
    refine List.map_congr_left fun id hid => ?_
    have hsome : (g.node? id).isSome = true := by
      rw [Graph.node?_isSome, Graph.hasNode_iff]
      exact List.mem_dedup.1 hid
    obtain ⟨n, hn⟩ := Option.isSome_iff_exists.1 hsome
    show ((g.node? id).map Node.face).map Prod.fst = some id
    rw [hn, ← (Graph.mem_of_node? hn).2]
    rfl
  have hfaces := (map_face_members_perm g c s visits sizes).map (Option.map Prod.fst)
  rw [hnames] at hfaces
  simpa [List.filterMap_map, Function.comp_def, Figure.face] using hfaces.filterMap id

/-- The members of a grid are the nodes of the graph, each once, with its own label and
type. -/
theorem members_perm (hids : (g.nodes.map (·.id)).Nodup) (sizes : List (Text × Size α)) :
    (((makeGrid g c s (placements g c visits)).members g sizes).map Figure.face).Perm
      (g.nodes.map Node.face) := by
  have hfound : (g.nodes.map (·.id)).map (fun id => (g.node? id).map Node.face) =
      g.nodes.map fun n => some n.face := by
    rw [List.map_map]
    refine List.map_congr_left fun n hn => ?_
    show (g.node? n.id).map Node.face = _
    rw [Graph.node?_of_mem hids hn]
    rfl
  have hsome := map_face_members_perm g c s visits sizes
  rw [hids.dedup, hfound] at hsome
  simpa [List.filterMap_map, Function.comp_def] using hsome.filterMap id

end Swimlane
