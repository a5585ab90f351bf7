import Swimlane.Layout.Grid

/-!
# Badges

Every lane has a badge to the left of the grid, in the middle of its row, and every section
has one above the grid, in the middle of its column.
-/

namespace Swimlane

variable {α : Type} [Length α]

/-- The component type of badges. -/
def badgeType : Text := "badge".toList

/-- The badge of a lane. -/
def laneBadge (s : LayoutSettings α) (lane : Text × RoleInfo) (row : Track α) : Figure α :=
  let size := badgeSize s lane.2.badgeLabel
  { id := "lane_label_".toList ++ decimal lane.2.index
    box := ⟨Length.zero, row.start + Length.half (row.size - size.height), size.width, size.height⟩
    label := lane.2.badgeLabel
    componentType := badgeType
    ornament := some .laneBadge
    laneId := some lane.1
    sectionId := none
    badgeLabel := some lane.2.badgeLabel
    icon := none }

/-- The badge of a section. -/
def sectionBadge (s : LayoutSettings α) (band : Text × RoleInfo) (column : Track α) : Figure α :=
  let size := badgeSize s band.2.badgeLabel
  { id := "section_label_".toList ++ decimal band.2.index
    box := ⟨column.start + Length.half (column.size - size.width), Length.zero, size.width,
      size.height⟩
    label := band.2.badgeLabel
    componentType := badgeType
    ornament := some .sectionBadge
    laneId := none
    sectionId := some band.1
    badgeLabel := some band.2.badgeLabel
    icon := none }

/-- The badges of all lanes and of all sections. -/
def badges (c : Classification) (s : LayoutSettings α) (grid : Grid α) : List (Figure α) :=
  List.zipWith (laneBadge s) c.lanes (grid.rows.filter (·.band.isSome))
    ++ List.zipWith (sectionBadge s) c.sections (grid.columns.filter (·.band.isSome))

end Swimlane
