import Swimlane.Length

/-!
# Settings

What the user can set: the lengths of the layout, how hard it tries to untangle edges, and
what happens to edges of boundaries that are removed.
-/

namespace Swimlane

/-- The lengths of the grid of lanes and sections. -/
structure GridSettings (α : Type) where
  /-- Space around the contents of a cell. -/
  cellPadding : α
  rowGap : α
  columnGap : α
  minCellWidth : α
  minCellHeight : α
  /-- Space between a boundary and what it holds. -/
  boundaryPadding : α
  badgeWidth : α
  badgeHeight : α
  /-- Space between the badges and the grid. -/
  badgeGap : α

/-- The settings of the layout. -/
structure LayoutSettings (α : Type) where
  /-- Space between nodes of one rank in a cell. -/
  nodeSpacing : α
  /-- Space between the ranks of a cell. -/
  rankSpacing : α
  nodePaddingX : α
  nodePaddingY : α
  fontSize : α
  /-- The height of a line in terms of the font size. -/
  labelLineHeight : α
  /-- The width of a line of a label in average characters. -/
  maxLabelWidthChars : Nat
  minNodeWidth : α
  maxNodeWidth : α
  minNodeHeight : α
  /-- How often the order of the nodes in a cell is improved. -/
  orderPasses : Nat
  grid : GridSettings α

/-- What happens to an edge of a boundary that is removed in favour of another: it is
dropped, or it is attached to the other. -/
inductive EdgePolicy
  | drop
  | remap
deriving DecidableEq

/-- All settings. -/
structure Settings (α : Type) where
  layout : LayoutSettings α
  edgePolicy : EdgePolicy

section Defaults

variable {α : Type} [Length α]

/-- The lengths of the grid unless they are set. -/
def GridSettings.default : GridSettings α where
  cellPadding := Length.ofInt 20
  rowGap := Length.ofInt 24
  columnGap := Length.ofInt 24
  minCellWidth := Length.ofInt 160
  minCellHeight := Length.ofInt 96
  boundaryPadding := Length.ofInt 16
  badgeWidth := Length.ofInt 48
  badgeHeight := Length.ofInt 32
  badgeGap := Length.ofInt 24

/-- The settings of the layout unless they are set. -/
def LayoutSettings.default : LayoutSettings α where
  nodeSpacing := Length.ofInt 30
  rankSpacing := Length.ofInt 50
  nodePaddingX := Length.ofInt 24
  nodePaddingY := Length.ofInt 14
  fontSize := Length.ofInt 14
  labelLineHeight := Length.thousandths 1500
  maxLabelWidthChars := 22
  minNodeWidth := Length.ofInt 120
  maxNodeWidth := Length.ofInt 260
  minNodeHeight := Length.ofInt 48
  orderPasses := 4
  grid := .default

/-- The settings unless they are set. -/
def Settings.default : Settings α := ⟨.default, .drop⟩

end Defaults

end Swimlane
