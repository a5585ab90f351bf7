import Mathlib.Algebra.Order.Field.Basic
import Swimlane.Proofs.Layout.Bands

/-!
# Where badges collide

A badge is as wide as its label asks for and as high as the settings say, and it stands in the
middle of a row or column that is made for the cells in it alone.  So badges may collide.
`BadgesMeet` says when they do, pair by pair, by the middles of their rows and columns, and
which lengths keep them apart whatever is written on them.
-/

namespace Swimlane

/-! ## Boxes with no point in common -/

namespace Box

variable {a b : Box Rat}

/-- Nothing is within a box without height. -/
theorem interior_eq_empty (h : a.height = 0) : a.interior = ∅ := by
  rw [Set.eq_empty_iff_forall_notMem]
  rintro ⟨x, y⟩ ⟨-, -, htop, hbottom⟩
  rw [bottom, h, add_zero] at hbottom
  exact lt_asymm htop hbottom

/-- Boxes that take up space have no point in common if and only if they are clear of each
other. -/
theorem interior_inter_iff (ha : 0 < a.width ∧ 0 < a.height) (hb : 0 < b.width ∧ 0 < b.height) :
    a.interior ∩ b.interior = ∅ ↔ a.IsClearOf b := by
  refine ⟨fun hempty => ?_, IsClearOf.interior_inter⟩
  by_contra hmeet
  unfold IsClearOf SpacedX SpacedY at hmeet
  push Not at hmeet
  obtain ⟨⟨hab, hba⟩, hab', hba'⟩ := hmeet
  simp only [add_zero] at hab hba hab' hba'
  have hax : a.x < a.right := lt_add_of_pos_right a.x ha.1
  have hay : a.y < a.bottom := lt_add_of_pos_right a.y ha.2
  have hbx : b.x < b.right := lt_add_of_pos_right b.x hb.1
  have hby : b.y < b.bottom := lt_add_of_pos_right b.y hb.2
  -- a point between the inner sides of the two boxes
  obtain ⟨x, hx, hx'⟩ := exists_between (max_lt (lt_min hax hba) (lt_min hab hbx))
  obtain ⟨y, hy, hy'⟩ := exists_between (max_lt (lt_min hay hba') (lt_min hab' hby))
  obtain ⟨hxa, hxb⟩ := max_lt_iff.1 hx
  obtain ⟨hya, hyb⟩ := max_lt_iff.1 hy
  obtain ⟨hxa', hxb'⟩ := lt_min_iff.1 hx'
  obtain ⟨hya', hyb'⟩ := lt_min_iff.1 hy'
  have hpoint : (x, y) ∈ a.interior ∩ b.interior :=
    ⟨⟨hxa, hxa', hya, hya'⟩, hxb, hxb', hyb, hyb'⟩
  rw [hempty] at hpoint
  exact hpoint

/-- Boxes of one height, which may be none, have no point in common if and only if they have no
height or lie beside each other or one below the other. -/
theorem interior_inter_iff_of_height {x y x' y' width width' height : Rat} (hwidth : 0 < width)
    (hwidth' : 0 < width') (hheight : 0 ≤ height) :
    interior ⟨x, y, width, height⟩ ∩ interior ⟨x', y', width', height⟩ = ∅ ↔ height = 0 ∨
      (x + width ≤ x' ∨ x' + width' ≤ x) ∨ y + height ≤ y' ∨ y' + height ≤ y := by
  rcases hheight.eq_or_lt with rfl | hpos
  · refine iff_of_true ?_ (Or.inl rfl)
    rw [interior_eq_empty rfl, Set.empty_inter]
  · rw [interior_inter_iff ⟨hwidth, hpos⟩ ⟨hwidth', hpos⟩, or_iff_right hpos.ne']
    simp only [IsClearOf, SpacedX, SpacedY, right, bottom, add_zero]

end Box

/-! ## The size of a badge -/

/-- No text is less than nothing wide. -/
theorem textWidth_nonneg {fontSize : Rat} (h : 0 ≤ fontSize) (text : Text) :
    0 ≤ textWidth fontSize text := by
  rw [textWidth, Length.sum_eq]
  refine mul_nonneg (List.sum_nonneg fun width hwidth => ?_) h
  obtain ⟨c, -, rfl⟩ := List.mem_map.1 hwidth
  exact div_nonneg (Nat.cast_nonneg _) (by norm_num)

/-- A badge has room for the spaces on either side of its text. -/
theorem badgeSize_width_pos {s : LayoutSettings Rat} (hs : s.IsSensible) (label : Text) :
    0 < (badgeSize s label).width := by
  have htext := textWidth_nonneg hs.fontSize label
  have hpadding : Length.twice (badgeTextPadding : Rat) = 16 := by
    decide +kernel
  rw [badgeSize, Length.larger_eq, hpadding]
  exact lt_max_of_lt_left (by linarith)

/-! ## Badges in their rows and columns -/

/-- The middle of a row or column. -/
def Track.middle (t : Track Rat) : Rat := t.start + t.size / 2

/-- The badge is that of the lane in the row: it begins at the left side of the drawing and
stands in the middle of the row. -/
structure StandsInRow (s : LayoutSettings Rat) (row : Track Rat) (badge : Figure Rat) : Prop where
  band : row.band = badge.laneId
  box : badge.box = ⟨0, row.middle - s.grid.badgeHeight / 2, (badgeSize s badge.label).width,
    s.grid.badgeHeight⟩

/-- The badge is that of the section in the column: it begins at the upper side of the drawing
and stands in the middle of the column. -/
structure StandsInColumn (s : LayoutSettings Rat) (column : Track Rat) (badge : Figure Rat) :
    Prop where
  band : column.band = badge.sectionId
  box : badge.box = ⟨column.middle - (badgeSize s badge.label).width / 2, 0,
    (badgeSize s badge.label).width, s.grid.badgeHeight⟩

theorem StandsInRow.width_pos {s : LayoutSettings Rat} (hs : s.IsSensible) {row : Track Rat}
    {badge : Figure Rat} (h : StandsInRow s row badge) : 0 < badge.box.width := by
  rw [h.box]
  exact badgeSize_width_pos hs badge.label

/-- What is moved by half of the space that it leaves begins half its extent before the middle. -/
theorem start_add_half (t : Track Rat) (extent : Rat) :
    t.start + Length.half (t.size - extent) = t.middle - extent / 2 :=
  eq_sub_of_add_eq (middle_of_centred t.start t.size extent)

section Stands

variable {g : Graph} {c : Classification} {s : LayoutSettings Rat} {visits : List Visit}
  {badge : Figure Rat}

/-- A badge of a lane stands in a row. -/
theorem exists_row_of_laneBadge
    (h : badge ∈ figuresOf .laneBadge (Drawing.ofVisits g c s visits).figures) :
    ∃ row ∈ (makeGrid g c s (placements g c visits)).rows, StandsInRow s row badge := by
  have hmade := map_unnamed_figuresOf_ofVisits
    (show Ornament.laneBadge ≠ .boundary by decide) g c s visits
  rw [figuresOf_laneBadge_badges] at hmade
  obtain ⟨lane, -, row, hrow, hband, hsame⟩ :=
    exists_of_map_unnamed map_band_laneRows hmade h
  have hown : StandsInRow s row (laneBadge s lane row).unnamed :=
    ⟨hband, by rw [← start_add_half]; rfl⟩
  rw [hsame] at hown
  exact ⟨row, (List.mem_filter.1 hrow).1, hown.band, hown.box⟩

/-- A badge of a section stands in a column. -/
theorem exists_column_of_sectionBadge
    (h : badge ∈ figuresOf .sectionBadge (Drawing.ofVisits g c s visits).figures) :
    ∃ column ∈ (makeGrid g c s (placements g c visits)).columns,
      StandsInColumn s column badge := by
  have hmade := map_unnamed_figuresOf_ofVisits
    (show Ornament.sectionBadge ≠ .boundary by decide) g c s visits
  rw [figuresOf_sectionBadge_badges] at hmade
  obtain ⟨band, -, column, hcolumn, hband, hsame⟩ :=
    exists_of_map_unnamed map_band_sectionColumns hmade h
  have hown : StandsInColumn s column (sectionBadge s band column).unnamed :=
    ⟨hband, by rw [← start_add_half]; rfl⟩
  rw [hsame] at hown
  exact ⟨column, (List.mem_filter.1 hcolumn).1, hown.band, hown.box⟩

end Stands

/-! ## Two badges -/

section Pairs

variable {s : LayoutSettings Rat} (hs : s.IsSensible) {row column other : Track Rat}
  {a b : Figure Rat}

include hs

/-- Badges of two lanes have no point in common if and only if the middles of their rows are as
far apart as badges are high. -/
theorem StandsInRow.interior_inter_iff (ha : StandsInRow s row a) (hb : StandsInRow s other b)
    (horder : row.middle ≤ other.middle) :
    a.box.interior ∩ b.box.interior = ∅ ↔ s.grid.badgeHeight ≤ other.middle - row.middle := by
  have hheight := hs.grid.badgeHeight
  have hwidthA := badgeSize_width_pos hs a.label
  have hwidthB := badgeSize_width_pos hs b.label
  rw [ha.box, hb.box, Box.interior_inter_iff_of_height hwidthA hwidthB hheight]
  constructor
  · rintro (h | (h | h) | h | h) <;> linarith
  · exact fun h => Or.inr (Or.inr (Or.inl (by linarith)))

/-- Badges of two sections have no point in common if and only if they have no height or the
middles of their columns are as far apart as the halves of the badges are wide. -/
theorem StandsInColumn.interior_inter_iff (ha : StandsInColumn s column a)
    (hb : StandsInColumn s other b) (horder : column.middle ≤ other.middle) :
    a.box.interior ∩ b.box.interior = ∅ ↔ s.grid.badgeHeight = 0 ∨
      (a.box.width + b.box.width) / 2 ≤ other.middle - column.middle := by
  have hheight := hs.grid.badgeHeight
  have hwidthA := badgeSize_width_pos hs a.label
  have hwidthB := badgeSize_width_pos hs b.label
  rw [ha.box, hb.box, Box.interior_inter_iff_of_height hwidthA hwidthB hheight]
  constructor
  · rintro (h | (h | h) | h | h)
    · exact Or.inl h
    · exact Or.inr (by linarith)
    · exact Or.inr (by linarith)
    · exact Or.inl (by linarith)
    · exact Or.inl (by linarith)
  · exact Or.imp_right fun h => Or.inl (Or.inl (by linarith))

/-- The badges of a lane and of a section have no point in common if and only if that of the
section begins to the right of the other, or that of the lane below the other. -/
theorem StandsInRow.interior_inter_column_iff (ha : StandsInRow s row a)
    (hb : StandsInColumn s column b) (hrow : 0 ≤ row.middle) (hcolumn : 0 ≤ column.middle) :
    a.box.interior ∩ b.box.interior = ∅ ↔ a.box.width ≤ column.middle - b.box.width / 2 ∨
      s.grid.badgeHeight ≤ row.middle - s.grid.badgeHeight / 2 := by
  have hheight := hs.grid.badgeHeight
  have hwidthA := badgeSize_width_pos hs a.label
  have hwidthB := badgeSize_width_pos hs b.label
  rw [ha.box, hb.box, Box.interior_inter_iff_of_height hwidthA hwidthB hheight]
  constructor
  · rintro (h | (h | h) | h | h)
    · exact Or.inr (by linarith)
    · exact Or.inl (by linarith)
    · exact absurd h (by linarith)
    · exact Or.inr (by linarith)
    · exact Or.inr (by linarith)
  · rintro (h | h)
    · exact Or.inr (Or.inl (Or.inl (by linarith)))
    · exact Or.inr (Or.inr (Or.inr (by linarith)))

end Pairs

/-! ## Where the rows and columns of badges are -/

section Middles

variable {g : Graph} {c : Classification} {s : LayoutSettings Rat} {visits : List Visit}
  (hs : s.IsSensible) {row column other : Track Rat} {a b : Figure Rat}

include hs

/-- The row of a lane whose badge comes earlier is above the other, by the least height of a row
and a gap at least. -/
theorem le_middle_of_laneBadges
    (hab : [a, b].Sublist (figuresOf .laneBadge (Drawing.ofVisits g c s visits).figures))
    (hrow : row ∈ (makeGrid g c s (placements g c visits)).rows)
    (hother : other ∈ (makeGrid g c s (placements g c visits)).rows)
    (ha : row.band = a.laneId) (hb : other.band = b.laneId) :
    s.grid.minCellHeight + s.grid.rowGap ≤ other.middle - row.middle := by
  have hbands := hab.map Figure.laneId
  rw [areBadges_lanes.bands] at hbands
  have horder : row.finish + s.grid.rowGap ≤ other.start := by
    apply rows_inOrder hs hrow hother
    rw [ha, hb]
    exact hbands.trans (List.sublist_append_left _ _)
  have hsize := (originY_le_row hs hrow).2
  have hsize' := (originY_le_row hs hother).2
  unfold Track.finish at horder
  unfold Track.middle
  linarith

/-- The column of a section whose badge comes earlier is to the left of the other, by the least
width of a column and a gap at least. -/
theorem le_middle_of_sectionBadges
    (hab : [a, b].Sublist (figuresOf .sectionBadge (Drawing.ofVisits g c s visits).figures))
    (hcolumn : column ∈ (makeGrid g c s (placements g c visits)).columns)
    (hother : other ∈ (makeGrid g c s (placements g c visits)).columns)
    (ha : column.band = a.sectionId) (hb : other.band = b.sectionId) :
    s.grid.minCellWidth + s.grid.columnGap ≤ other.middle - column.middle := by
  have hbands := hab.map Figure.sectionId
  rw [areBadges_sections.bands] at hbands
  have horder : column.finish + s.grid.columnGap ≤ other.start := by
    apply columns_inOrder hs hcolumn hother
    rw [ha, hb]
    exact hbands.trans (List.sublist_append_right _ _)
  have hsize := (originX_le_column hs hcolumn).2
  have hsize' := (originX_le_column hs hother).2
  unfold Track.finish at horder
  unfold Track.middle
  linarith

/-- Every row lies below the badges of the sections. -/
theorem le_middle_of_row
    (hb : b ∈ figuresOf .sectionBadge (Drawing.ofVisits g c s visits).figures)
    (hrow : row ∈ (makeGrid g c s (placements g c visits)).rows) :
    s.grid.badgeHeight + s.grid.badgeGap + s.grid.minCellHeight / 2 ≤ row.middle := by
  obtain ⟨band, hband, -⟩ := areBadges_sections.made b hb
  have hspace : s.grid.badgeHeight + s.grid.badgeGap ≤ badgeSpace s Size.height c.sections :=
    le_badgeSpace s Size.height hband
  obtain ⟨horigin, hsize⟩ := originY_le_row hs hrow
  have hstart := hspace.trans horigin
  unfold Track.middle
  linarith

/-- Every column lies to the right of the badges of the lanes. -/
theorem le_middle_of_column
    (ha : a ∈ figuresOf .laneBadge (Drawing.ofVisits g c s visits).figures)
    (hcolumn : column ∈ (makeGrid g c s (placements g c visits)).columns) :
    a.box.width + s.grid.badgeGap + s.grid.minCellWidth / 2 ≤ column.middle := by
  obtain ⟨lane, hlane, track, -, -, hbox⟩ := areBadges_lanes.made a ha
  have hspace : a.box.width + s.grid.badgeGap ≤ badgeSpace s Size.width c.lanes := by
    rw [hbox]
    exact le_badgeSpace s Size.width hlane
  obtain ⟨horigin, hsize⟩ := originX_le_column hs hcolumn
  have hstart := hspace.trans horigin
  unfold Track.middle
  linarith

end Middles

/-! ## Drawings -/

/-- Which badges of a drawing collide, of which these are the rows and columns. -/
structure BadgesMeet (s : LayoutSettings Rat) (rows columns : List (Track Rat))
    (figures : List (Figure Rat)) : Prop where
  row : ∀ badge ∈ figuresOf .laneBadge figures, ∃ row ∈ rows, StandsInRow s row badge
  column : ∀ badge ∈ figuresOf .sectionBadge figures, ∃ column ∈ columns,
    StandsInColumn s column badge
  lanes : (figuresOf .laneBadge figures).Pairwise fun a b => ∀ row ∈ rows, ∀ other ∈ rows,
    StandsInRow s row a → StandsInRow s other b →
      (a.box.interior ∩ b.box.interior = ∅ ↔ s.grid.badgeHeight ≤ other.middle - row.middle)
  sections : (figuresOf .sectionBadge figures).Pairwise fun a b => ∀ column ∈ columns,
    ∀ other ∈ columns, StandsInColumn s column a → StandsInColumn s other b →
      (a.box.interior ∩ b.box.interior = ∅ ↔ s.grid.badgeHeight = 0 ∨
        (a.box.width + b.box.width) / 2 ≤ other.middle - column.middle)
  crossing : ∀ a ∈ figuresOf .laneBadge figures, ∀ b ∈ figuresOf .sectionBadge figures,
    ∀ row ∈ rows, ∀ column ∈ columns, StandsInRow s row a → StandsInColumn s column b →
      (a.box.interior ∩ b.box.interior = ∅ ↔ a.box.width ≤ column.middle - b.box.width / 2 ∨
        s.grid.badgeHeight ≤ row.middle - s.grid.badgeHeight / 2)
  /-- Low badges keep apart from those of other lanes. -/
  lanes_apart : s.grid.badgeHeight ≤ s.grid.minCellHeight + s.grid.rowGap →
    (figuresOf .laneBadge figures).Pairwise fun a b => a.box.interior ∩ b.box.interior = ∅
  /-- Narrow badges keep apart from those of other sections. -/
  sections_apart : (figuresOf .sectionBadge figures).Pairwise fun a b =>
    (a.box.width + b.box.width) / 2 ≤ s.grid.minCellWidth + s.grid.columnGap →
      a.box.interior ∩ b.box.interior = ∅
  crossing_apart : ∀ a ∈ figuresOf .laneBadge figures, ∀ b ∈ figuresOf .sectionBadge figures,
    (s.grid.badgeHeight ≤ s.grid.minCellHeight + s.grid.badgeGap * 2 ∨
      b.box.width ≤ s.grid.minCellWidth + s.grid.badgeGap * 2) →
      a.box.interior ∩ b.box.interior = ∅

section Drawings

variable {g : Graph} {c : Classification} {s : LayoutSettings Rat} {visits : List Visit}
  (hs : s.IsSensible)

include hs

/-- What the badges of a lane and of a section have in common depends on where they are. -/
theorem interior_inter_of_crossing {a b : Figure Rat} {row column : Track Rat}
    (hmemA : a ∈ figuresOf .laneBadge (Drawing.ofVisits g c s visits).figures)
    (hmemB : b ∈ figuresOf .sectionBadge (Drawing.ofVisits g c s visits).figures)
    (hrow : row ∈ (makeGrid g c s (placements g c visits)).rows)
    (hcolumn : column ∈ (makeGrid g c s (placements g c visits)).columns)
    (ha : StandsInRow s row a) (hb : StandsInColumn s column b) :
    a.box.interior ∩ b.box.interior = ∅ ↔ a.box.width ≤ column.middle - b.box.width / 2 ∨
      s.grid.badgeHeight ≤ row.middle - s.grid.badgeHeight / 2 := by
  have hbelow := le_middle_of_row hs hmemB hrow
  have hright := le_middle_of_column hs hmemA hcolumn
  have hwidth := ha.width_pos hs
  obtain ⟨-, -, -, hminWidth, hminHeight, -, -, hheight, hgap⟩ := hs.grid
  exact ha.interior_inter_column_iff hs hb (by linarith) (by linarith)

theorem badgesMeet_ofVisits : BadgesMeet s (makeGrid g c s (placements g c visits)).rows
    (makeGrid g c s (placements g c visits)).columns
    (Drawing.ofVisits g c s visits).figures where
  row badge hbadge := exists_row_of_laneBadge hbadge
  column badge hbadge := exists_column_of_sectionBadge hbadge
  lanes := by
    refine List.pairwise_iff_forall_sublist.2 fun hab row hrow other hother ha hb => ?_
    have hmiddle := le_middle_of_laneBadges hs hab hrow hother ha.band hb.band
    have hleast := hs.grid.minCellHeight
    have hgap := hs.grid.rowGap
    exact ha.interior_inter_iff hs hb (by linarith)
  sections := by
    refine List.pairwise_iff_forall_sublist.2 fun hab column hcolumn other hother ha hb => ?_
    have hmiddle := le_middle_of_sectionBadges hs hab hcolumn hother ha.band hb.band
    have hleast := hs.grid.minCellWidth
    have hgap := hs.grid.columnGap
    exact ha.interior_inter_iff hs hb (by linarith)
  crossing a hmemA b hmemB row hrow column hcolumn ha hb :=
    interior_inter_of_crossing hs hmemA hmemB hrow hcolumn ha hb
  lanes_apart hlow := by
    refine List.pairwise_iff_forall_sublist.2 fun hab => ?_
    obtain ⟨row, hrow, ha⟩ := exists_row_of_laneBadge (hab.subset List.mem_cons_self)
    obtain ⟨other, hother, hb⟩ :=
      exists_row_of_laneBadge (hab.subset (List.mem_cons_of_mem _ List.mem_cons_self))
    have hmiddle := le_middle_of_laneBadges hs hab hrow hother ha.band hb.band
    have hheight := hs.grid.badgeHeight
    exact (ha.interior_inter_iff hs hb (by linarith)).2 (by linarith)
  sections_apart := by
    refine List.pairwise_iff_forall_sublist.2 fun hab hnarrow => ?_
    obtain ⟨column, hcolumn, ha⟩ := exists_column_of_sectionBadge (hab.subset List.mem_cons_self)
    obtain ⟨other, hother, hb⟩ :=
      exists_column_of_sectionBadge (hab.subset (List.mem_cons_of_mem _ List.mem_cons_self))
    have hmiddle := le_middle_of_sectionBadges hs hab hcolumn hother ha.band hb.band
    have hleast := hs.grid.minCellWidth
    have hgap := hs.grid.columnGap
    exact (ha.interior_inter_iff hs hb (by linarith)).2 (Or.inr (by linarith))
  crossing_apart a hmemA b hmemB hsmall := by
    obtain ⟨row, hrow, ha⟩ := exists_row_of_laneBadge hmemA
    obtain ⟨column, hcolumn, hb⟩ := exists_column_of_sectionBadge hmemB
    have hbelow := le_middle_of_row hs hmemB hrow
    have hright := le_middle_of_column hs hmemA hcolumn
    refine (interior_inter_of_crossing hs hmemA hmemB hrow hcolumn ha hb).2 ?_
    rcases hsmall with hlow | hnarrow
    · exact Or.inr (by linarith)
    · exact Or.inl (by linarith)

end Drawings

/-- The flowchart of every text can be drawn with all settings that the program works with, and
where its badges collide is known by their rows and columns. -/
theorem badgesMeet_of_ofText {text : Text} {f : Flowchart} (hf : Flowchart.ofText text = .ok f)
    {s : LayoutSettings Rat} (hs : s.IsLoaded) :
    ∃ visits d, f.graph.visits? = some visits ∧
      Drawing.ofGraph? f.graph (Classification.ofGraph f.graph) s = some d ∧
      BadgesMeet s
        (makeGrid f.graph (Classification.ofGraph f.graph) s
          (placements f.graph (Classification.ofGraph f.graph) visits)).rows
        (makeGrid f.graph (Classification.ofGraph f.graph) s
          (placements f.graph (Classification.ofGraph f.graph) visits)).columns d.figures := by
  obtain ⟨visits, hvisits⟩ := (isConsistent_of_ofText hf).exists_visits
  exact ⟨visits, _, hvisits, Drawing.ofGraph?_of_visits hvisits _ s,
    badgesMeet_ofVisits hs.isSensible⟩

/-- With the default lengths the badges of lanes collide with none, and only wide ones of sections
do with each other. -/
theorem badgesMeet_of_crossingBands : ∃ f visits d, Flowchart.ofText crossingBands = .ok f ∧
    f.graph.visits? = some visits ∧
    Drawing.ofGraph? f.graph (Classification.ofGraph f.graph) .default = some d ∧
    BadgesMeet .default
      (makeGrid f.graph (Classification.ofGraph f.graph) .default
        (placements f.graph (Classification.ofGraph f.graph) visits)).rows
      (makeGrid f.graph (Classification.ofGraph f.graph) .default
        (placements f.graph (Classification.ofGraph f.graph) visits)).columns d.figures ∧
    ((figuresOf .laneBadge d.figures).Pairwise fun a b =>
      a.box.interior ∩ b.box.interior = ∅) ∧
    ∀ a ∈ figuresOf .laneBadge d.figures, ∀ b ∈ figuresOf .sectionBadge d.figures,
      a.box.interior ∩ b.box.interior = ∅ := by
  have hread : (Flowchart.ofText crossingBands).isOk = true := by
    decide +kernel
  cases hf : Flowchart.ofText crossingBands with
  | error e =>
    rw [hf] at hread
    cases hread
  | ok f =>
    obtain ⟨visits, d, hvisits, hd, hmeet⟩ := badgesMeet_of_ofText hf .default
    exact ⟨f, visits, d, rfl, hvisits, hd, hmeet, hmeet.lanes_apart (by decide +kernel),
      fun a ha b hb => hmeet.crossing_apart a ha b hb (Or.inl (by decide +kernel))⟩

/-! ## Sections with long labels -/

/-- Two sections with labels that are longer than what is in them. -/
def longSections : Text :=
  "graph LR\nsubgraph step_a[\"a very long label of a section\"]\na\nend\n".toList ++
    "subgraph step_b[\"a very long label of a section\"]\nb\nend".toList

/-- The graph of `longSections`. -/
def longSectionsGraph : Graph where
  direction := .leftRight
  nodes := [⟨['a'], ['a'], defaultComponentType, none, some "step_a".toList, 0⟩,
    ⟨['b'], ['b'], defaultComponentType, none, some "step_b".toList, 1⟩]
  edges := []
  groups := [
    ⟨"step_a".toList, "a very long label of a section".toList, none, [.node ['a']], 0, 0⟩,
    ⟨"step_b".toList, "a very long label of a section".toList, none, [.node ['b']], 1, 0⟩]

theorem lanes_longSectionsGraph : (Classification.ofGraph longSectionsGraph).lanes = [] := by
  rw [Classification.lanes, Classification.withRole_ofGraph (by decide)]
  decide +kernel

theorem sections_longSectionsGraph : (Classification.ofGraph longSectionsGraph).sections =
    [("step_a".toList, ⟨.sectionBand, 0, "a very long label of a section".toList, none⟩),
      ("step_b".toList, ⟨.sectionBand, 1, "a very long label of a section".toList, none⟩)] := by
  rw [Classification.sections, Classification.withRole_ofGraph (by decide)]
  decide +kernel

/-- The sides of the badges of the two sections, which are wider than their columns. -/
theorem exists_drawing_of_longSections : ∃ d : Drawing Rat,
    Drawing.ofGraph? longSectionsGraph (Classification.ofGraph longSectionsGraph) .default =
      some d ∧
    (figuresOf .sectionBadge d.figures).map
        (fun badge => (badge.box.x, badge.box.right, badge.box.y, badge.box.bottom)) =
      [(-21.632, 181.632, 0, 32), (162.368, 365.632, 0, 32)] := by
  have hmade : (longSectionsGraph.visits?.map fun visits =>
      let c := Classification.ofGraph longSectionsGraph
      let s : LayoutSettings Rat := .default
      decide ((List.zipWith (sectionBadge s) c.sections
          ((makeGrid longSectionsGraph c s (placements longSectionsGraph c visits)).columns.filter
            (·.band.isSome))).map
          (fun badge => (badge.box.x, badge.box.right, badge.box.y, badge.box.bottom)) =
        [(-21.632, 181.632, 0, 32), (162.368, 365.632, 0, 32)])) = some true := by
    -- with the lanes and sections in order there is no list of several things left to sort
    simp only [makeGrid, rowBands, columnBands, lanes_longSectionsGraph,
      sections_longSectionsGraph]
    decide +kernel
  obtain ⟨visits, hvisits, hsides⟩ := Option.map_eq_some_iff.1 hmade
  refine ⟨_, Drawing.ofGraph?_of_visits hvisits _ _, ?_⟩
  have hunnamed := map_unnamed_figuresOf_ofVisits
    (show Ornament.sectionBadge ≠ .boundary by decide) longSectionsGraph
    (Classification.ofGraph longSectionsGraph) (.default : LayoutSettings Rat) visits
  rw [figuresOf_sectionBadge_badges] at hunnamed
  have hboxes := congrArg (List.map fun badge : Figure Rat =>
    (badge.box.x, badge.box.right, badge.box.y, badge.box.bottom)) hunnamed
  rw [List.map_map, List.map_map] at hboxes
  exact hboxes.trans (of_decide_eq_true hsides)

/-- With the default lengths the badges of two sections have a point in common. -/
theorem exists_badges_in_common : ∃ f d a b, Flowchart.ofText longSections = .ok f ∧
    (LayoutSettings.default : LayoutSettings Rat).IsLoaded ∧
    Drawing.ofGraph? f.graph (Classification.ofGraph f.graph) .default = some d ∧
    [a, b].Sublist (figuresOf .sectionBadge d.figures) ∧
    ((170, 16) : Rat × Rat) ∈ a.box.interior ∩ b.box.interior := by
  have hread : ((Flowchart.ofText longSections).map (·.graph)).toOption =
      some longSectionsGraph := by
    decide +kernel
  obtain ⟨f, hf, hgraph⟩ := exists_of_toOption_map hread
  obtain ⟨d, hd, hsides⟩ := exists_drawing_of_longSections
  obtain ⟨a, rest, hfigures, ha, hrest⟩ := List.map_eq_cons_iff.1 hsides
  obtain ⟨b, others, rfl, hb, -⟩ := List.map_eq_cons_iff.1 hrest
  simp only [Prod.mk.injEq] at ha hb
  obtain ⟨hleft, hright, htop, hbottom⟩ := ha
  obtain ⟨hleft', hright', htop', hbottom'⟩ := hb
  refine ⟨f, d, a, b, hf, .default, hgraph ▸ hd, ?_, ?_, ?_⟩
  · rw [hfigures]
    exact List.sublist_append_left [a, b] others
  · show a.box.x < 170 ∧ 170 < a.box.right ∧ a.box.y < 16 ∧ 16 < a.box.bottom
    rw [hleft, hright, htop, hbottom]
    norm_num
  · show b.box.x < 170 ∧ 170 < b.box.right ∧ b.box.y < 16 ∧ 16 < b.box.bottom
    rw [hleft', hright', htop', hbottom']
    norm_num

end Swimlane
