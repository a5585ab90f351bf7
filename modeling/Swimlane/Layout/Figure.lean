import Swimlane.Flowchart.Graph
import Swimlane.Layout.Box

/-!
# Figures

A drawing consists of figures: the members, which are the nodes of the flowchart, and the
ornaments, which the layout adds to them, badges for the lanes and sections and boxes for
the boundaries.  Besides its box a figure has what is written on it and where it belongs.
-/

namespace Swimlane

/-- What the layout adds to the nodes of a flowchart. -/
inductive Ornament
  | laneBadge
  | sectionBadge
  | boundary
deriving DecidableEq

/-- A figure of a drawing. -/
structure Figure (α : Type) where
  id : Text
  box : Box α
  label : Text
  componentType : Text
  /-- The kind of ornament, if the figure is one. -/
  ornament : Option Ornament
  /-- The lane that the figure belongs to. -/
  laneId : Option Text
  /-- The section that the figure belongs to. -/
  sectionId : Option Text
  badgeLabel : Option Text
  icon : Option Text

namespace Figure

variable {α : Type} [Length α]

/-- Is the figure an ornament? -/
def isOrnament (f : Figure α) : Bool := f.ornament.isSome

/-- Is the figure a badge? -/
def isBadge (f : Figure α) : Bool :=
  f.ornament = some .laneBadge || f.ornament = some .sectionBadge

/-- The size of a drawing of some figures: that of the grid, unless a figure reaches out
of it. -/
def extent (grid : Size α) (figures : List (Figure α)) : Size α :=
  ⟨Length.largest grid.width (figures.map (·.box.right)),
    Length.largest grid.height (figures.map (·.box.bottom))⟩

end Figure

/-! ## Warnings -/

/-- What the layout finds odd about a flowchart. -/
inductive LayoutWarning
  /-- A node names a group that does not exist. -/
  | unknownGroup (nodeId groupId : Text)
  /-- A lane lies in a lane, or a section in a section. -/
  | nestedRole (groupId outerId : Text)
  /-- There is no node in a boundary. -/
  | emptyBoundary (groupId : Text)
  /-- A group with nodes has no role. -/
  | unclassifiedGroup (groupId : Text)
deriving DecidableEq

/-- A name in a message. -/
def quoted (name : Text) : Text := "`".toList ++ name ++ "`".toList

/-- The text of a warning. -/
def LayoutWarning.message : LayoutWarning → Text
  | unknownGroup nodeId groupId =>
      "node ".toList ++ quoted nodeId ++ " refers to unknown group ".toList ++ quoted groupId
  | nestedRole groupId outerId =>
      "group ".toList ++ quoted groupId ++ " repeats the role of enclosing ".toList
        ++ quoted outerId
  | emptyBoundary groupId => "boundary ".toList ++ quoted groupId ++ " contains no nodes".toList
  | unclassifiedGroup groupId => "group ".toList ++ quoted groupId ++ " has no layout role".toList

end Swimlane
