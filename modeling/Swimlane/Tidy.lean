import Swimlane.ComponentType
import Swimlane.Layout.Figure
import Swimlane.Settings.Basic
import Swimlane.Text.Fresh

/-!
# Tidying a drawing

A drawing is tidied so that it can be relied on: every figure has an identifier of its own,
there is one account boundary of each type, and every edge joins two different figures that
exist, no two edges the same two.  Of figures with one identifier the first stays; of
boundaries of one type the first stays, and grows to enclose the others.  The edges of a
boundary that went are dropped or attached to the one that stayed.  Whatever goes is
recorded with its cause.
-/

namespace Swimlane

variable {α : Type} [Length α]

/-- Why a figure or an edge goes. -/
inductive DropCause
  /-- Another figure has the same identifier. -/
  | duplicateNode
  /-- Another account boundary has the same type. -/
  | duplicateBoundary
  /-- The edge touches a boundary that went. -/
  | boundaryEdge
  /-- The edge ends at something that does not exist. -/
  | danglingEdge
  /-- The edge ends where it begins. -/
  | selfLoop
  /-- Another edge joins the same figures. -/
  | duplicateEdge
deriving DecidableEq

/-- A tidy drawing, and why the rest of it went. -/
structure Tidied (α : Type) where
  figures : List (Figure α)
  edges : List Edge
  drops : List DropCause

/-! ## Figures -/

/-- The figures that stay so far, the boundaries that went with those that stayed for them,
and why figures went. -/
structure FigurePass (α : Type) where
  kept : List (Figure α)
  replaced : List (Text × Text)
  drops : List DropCause

/-- The figure grown to enclose another. -/
def Figure.absorb (f other : Figure α) : Figure α :=
  { f with box := (f.box.bounds.join other.box.bounds).box }

/-- The account boundary of a type that stays. -/
def survivor? (kept : List (Figure α)) (type : Text) : Option (Figure α) :=
  if isAccountBoundary type then kept.find? (·.componentType = type) else none

/-- Takes one more figure. -/
def FigurePass.take (pass : FigurePass α) (f : Figure α) : FigurePass α :=
  if pass.kept.any (·.id = f.id) then { pass with drops := pass.drops ++ [.duplicateNode] }
  else
    let type := canonicalType f.componentType
    match survivor? pass.kept type with
    | some survivor =>
        { kept := pass.kept.map fun k => if k.componentType = type then k.absorb f else k
          replaced := (f.id, survivor.id) :: pass.replaced
          drops := pass.drops ++ [.duplicateBoundary] }
    | none => { pass with kept := pass.kept ++ [{ f with componentType := type }] }

/-- The figures that stay. -/
def passFigures (figures : List (Figure α)) : FigurePass α :=
  figures.foldl FigurePass.take ⟨[], [], []⟩

/-! ## Edges -/

/-- The edges that stay so far, and why edges went. -/
structure EdgePass where
  kept : List Edge
  drops : List DropCause

/-- The ends of an edge after boundaries went, or why it goes: `ids` are the figures that
stayed, and `joined` the ends of the edges that did. -/
def newEnds (policy : EdgePolicy) (ids : List Text) (replaced : List (Text × Text))
    (joined : List (Text × Text)) (e : Edge) : Except DropCause (Text × Text) :=
  let touches (id : Text) : Bool := (replaced.lookup id).isSome
  let stands (id : Text) : Text := (replaced.lookup id).getD id
  let source := stands e.source
  let target := stands e.target
  if policy = .drop && (touches e.source || touches e.target) then .error .boundaryEdge
  else if !ids.contains source || !ids.contains target then .error .danglingEdge
  else if source = target then .error .selfLoop
  else if joined.contains (source, target) then .error .duplicateEdge
  else .ok (source, target)

/-- Takes one more edge. -/
def EdgePass.take (policy : EdgePolicy) (ids : List Text) (replaced : List (Text × Text))
    (pass : EdgePass) (e : Edge) : EdgePass :=
  match newEnds policy ids replaced (pass.kept.map fun k => (k.source, k.target)) e with
  | .error cause => { pass with drops := pass.drops ++ [cause] }
  | .ok (source, target) =>
      let id := freshName (pass.kept.map (·.id)) e.id
      { pass with kept := pass.kept ++ [{ e with id, source, target }] }

/-! ## Drawings -/

/-- The figures and edges of a drawing, tidied. -/
def tidy (policy : EdgePolicy) (figures : List (Figure α)) (edges : List Edge) : Tidied α :=
  let pass := passFigures figures
  let ids := pass.kept.map (·.id)
  let edgePass := edges.foldl (EdgePass.take policy ids pass.replaced) ⟨[], []⟩
  ⟨pass.kept, edgePass.kept, pass.drops ++ edgePass.drops⟩

end Swimlane
