import Swimlane.Length

/-!
# Boxes

What is drawn takes up a box: a corner, a width and a height.  To enclose several boxes in
one they are given by their bounds, the coordinates of their four sides.  Coordinates grow
to the right and downwards.
-/

namespace Swimlane

/-- A width and a height. -/
structure Size (α : Type) where
  width : α
  height : α

/-- A box by its left upper corner and its size. -/
structure Box (α : Type) where
  x : α
  y : α
  width : α
  height : α

/-- A box by the coordinates of its sides. -/
structure Bounds (α : Type) where
  left : α
  top : α
  right : α
  bottom : α

variable {α : Type} [Length α]

/-- The right side of a box. -/
def Box.right (b : Box α) : α := b.x + b.width

/-- The lower side of a box. -/
def Box.bottom (b : Box α) : α := b.y + b.height

/-- The sides of a box. -/
def Box.bounds (b : Box α) : Bounds α := ⟨b.x, b.y, b.right, b.bottom⟩

namespace Bounds

/-- The box with these sides. -/
def box (b : Bounds α) : Box α := ⟨b.left, b.top, b.right - b.left, b.bottom - b.top⟩

/-- The bounds of two boxes together. -/
def join (a b : Bounds α) : Bounds α :=
  ⟨Length.smaller a.left b.left, Length.smaller a.top b.top,
    Length.larger a.right b.right, Length.larger a.bottom b.bottom⟩

/-- The bounds of all boxes of a list, if there is one. -/
def joinAll? : List (Bounds α) → Option (Bounds α)
  | [] => none
  | first :: rest => some (rest.foldl join first)

/-- The bounds with every side moved outwards. -/
def padded (pad : α) (b : Bounds α) : Bounds α :=
  ⟨b.left - pad, b.top - pad, b.right + pad, b.bottom + pad⟩

end Bounds

end Swimlane
