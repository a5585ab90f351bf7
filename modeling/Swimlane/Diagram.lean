import Swimlane.FlowStage
import Swimlane.Flowchart.Reading
import Swimlane.Icon
import Swimlane.Layout.Drawing
import Swimlane.Settings.Reading
import Swimlane.Tidy

/-!
# Diagrams

A diagram is what becomes of the text of a flowchart: its groups are classified, its nodes
are laid out on the grid, the drawing is tidied, and every figure gets an icon.  A
flowchart without any lane, section or boundary is handed back as it was read.
-/

namespace Swimlane

variable {α : Type} [Length α]

/-- A lane or section of a diagram. -/
structure Band where
  id : Text
  label : Text
  index : Nat
  badgeLabel : Text

/-- A diagram. -/
structure Diagram (α : Type) where
  direction : Direction
  figures : List (Figure α)
  edges : List Edge
  size : Size α
  lanes : List Band
  sections : List Band
  warnings : List LayoutWarning
  drops : List DropCause

/-- What becomes of a text. -/
inductive Outcome (α : Type)
  /-- No group has a role; the flowchart is not laid out. -/
  | plain (graph : Graph)
  | positioned (diagram : Diagram α)

/-- Why there is no outcome. -/
inductive DiagramError
  | syntaxError (error : SyntaxError)
  /-- The user gave up before the groups were classified. -/
  | cancelled
  /-- A group lies within itself. -/
  | endlessNesting

/-- The wording of an error. -/
def DiagramError.message : DiagramError → Text
  | syntaxError e => e.message
  | cancelled => "pipeline cancelled before classify".toList
  | endlessNesting => "a group lies within itself".toList

/-- The figure with its icon. -/
def Figure.withIcon (f : Figure α) : Figure α :=
  let stage? : Option α := flowStage? f.id f.label f.componentType
  { f with icon := some (findIcon (some f.componentType) (some f.label) stage?).icon }

/-- The band of a group with a role. -/
def Band.of (g : Graph) (entry : Text × RoleInfo) : Band :=
  ⟨entry.1, ((g.group? entry.1).map (·.label)).getD [], entry.2.index, entry.2.badgeLabel⟩

/-- The diagram of a graph whose drawing is given. -/
def Diagram.ofDrawing (g : Graph) (c : Classification) (policy : EdgePolicy) (d : Drawing α) :
    Diagram α :=
  let tidied := tidy policy d.figures d.edges
  let figures := tidied.figures.map Figure.withIcon
  { direction := d.direction
    figures
    edges := tidied.edges
    size := Figure.extent d.grid figures
    lanes := c.lanes.map (Band.of g)
    sections := c.sections.map (Band.of g)
    warnings := d.warnings
    drops := tidied.drops }

/-- The settings of the layout of a flowchart: its own initial settings count more than
those of the user. -/
def Flowchart.layoutSettings (f : Flowchart) (s : LayoutSettings α) : LayoutSettings α :=
  match f.settings with
  | some initial => s.withInitial initial
  | none => s

/-- What becomes of a flowchart. -/
def Outcome.ofFlowchart (f : Flowchart) (s : Settings α) : Except DiagramError (Outcome α) :=
  let c := Classification.ofGraph f.graph
  if c.hasRoles then
    match Drawing.ofGraph? f.graph c (f.layoutSettings s.layout) with
    | some d => .ok (.positioned (Diagram.ofDrawing f.graph c s.edgePolicy d))
    | none => .error .endlessNesting
  else .ok (.plain f.graph)

/-- What becomes of a text, unless the user gives up. -/
def Outcome.ofText (text : Text) (s : Settings α) ( cancelled : Bool) :
    Except DiagramError (Outcome α) :=
  match Flowchart.ofText text with
  | .error e => .error (.syntaxError e)
  | .ok f => if cancelled then .error .cancelled else Outcome.ofFlowchart f s

/-- The figure of a diagram with an identifier. -/
def Diagram.figure? (d : Diagram α) (id : Text) : Option (Figure α) := d.figures.find? (·.id = id)

/-- Was nothing odd and nothing dropped? -/
def Diagram.isClean (d : Diagram α) : Bool := d.warnings.isEmpty && d.drops.isEmpty

end Swimlane
