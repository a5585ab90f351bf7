import Swimlane.Diagram
import Swimlane.Json.Writer

/-!
# Documents

The outcome of a text is written as a JSON document: the direction and size, the lanes and
sections, the figures and edges, and what the user should know about it.  Figures of a
flowchart that was not laid out have no place.
-/

namespace Swimlane

/-! ## Values -/

namespace Json

/-- An object with these fields, in this order. -/
def ofPairs (pairs : List (String × Json)) : Json :=
  .object (pairs.map fun pair => (pair.1.toList, pair.2))

/-- A field for a text, if there is one. -/
def textIfSome (name : String) (value : Option Text) : List (String × Json) :=
  match value with
  | some s => [(name, .text s)]
  | none => []

/-- A length as a value. -/
def ofSingle (x : Float32) : Json := .number (.single x)

end Json

open Json (ofPairs textIfSome ofSingle)

/-- The name of a kind of ornament. -/
def Ornament.name : Ornament → Text
  | laneBadge => "lane_badge".toList
  | sectionBadge => "section_badge".toList
  | boundary => "boundary".toList

/-- The names by which a warning is known, and what it is about. -/
def LayoutWarning.json : LayoutWarning → Json
  | unknownGroup nodeId groupId =>
      ofPairs [("kind", .text "unknownGroup".toList), ("nodeId", .text nodeId),
        ("groupId", .text groupId)]
  | nestedRole groupId outerId =>
      ofPairs [("kind", .text "nestedRole".toList), ("groupId", .text groupId),
        ("outerId", .text outerId)]
  | emptyBoundary groupId =>
      ofPairs [("kind", .text "emptyBoundary".toList), ("groupId", .text groupId)]
  | unclassifiedGroup groupId =>
      ofPairs [("kind", .text "unclassifiedGroup".toList), ("groupId", .text groupId)]

/-- How many figures and edges went, by their causes. -/
def dropsJson (drops : List DropCause) : Json :=
  let count (cause : DropCause) : Json := .ofNat (drops.count cause)
  ofPairs [("duplicateNodes", count .duplicateNode),
    ("duplicateBoundaries", count .duplicateBoundary), ("boundaryEdges", count .boundaryEdge),
    ("danglingEdges", count .danglingEdge), ("selfLoops", count .selfLoop),
    ("duplicateEdges", count .duplicateEdge)]

/-- A lane or section. -/
def Band.json (b : Band) : Json :=
  ofPairs [("id", .text b.id), ("label", .text b.label), ("index", .ofNat b.index),
    ("badgeLabel", .text b.badgeLabel)]

/-- An edge. -/
def Edge.json (e : Edge) : Json :=
  ofPairs ([("id", .text e.id), ("source", .text e.source), ("target", .text e.target)]
    ++ textIfSome "label" e.label)

/-- The coordinates and the size of a box. -/
def Box.pairs (b : Box Float32) : List (String × Json) :=
  [("x", ofSingle b.x), ("y", ofSingle b.y), ("width", ofSingle b.width),
   ("height", ofSingle b.height)]

/-- What is written on a figure and where it belongs. -/
def Figure.dataJson (f : Figure Float32) : Json :=
  ofPairs ([("label", .text f.label), ("componentType", .text f.componentType)]
    ++ textIfSome "layoutType" (f.ornament.map Ornament.name) ++ textIfSome "lane" f.laneId
    ++ textIfSome "section" f.sectionId ++ textIfSome "badgeLabel" f.badgeLabel
    ++ textIfSome "icon" f.icon)

/-- A figure. -/
def Figure.json (f : Figure Float32) : Json :=
  ofPairs (("id", .text f.id) :: f.box.pairs ++ [("data", f.dataJson)])

/-- A node that has no place. -/
def Node.json (n : Node) : Json :=
  ofPairs [("id", .text n.id),
    ("data", ofPairs [("label", .text n.label), ("componentType", .text n.componentType)])]

/-! ## Documents -/

/-- The parts of a document. -/
structure Document where
  direction : Direction
  size : Size Float32
  hasRoles : Bool
  lanes : List Band
  sections : List Band
  nodes : List Json
  edges : List Edge
  warnings : List LayoutWarning
  drops : List DropCause

namespace Document

/-- The document of a diagram. -/
def ofDiagram (d : Diagram Float32) : Document :=
  ⟨d.direction, d.size, true, d.lanes, d.sections, d.figures.map Figure.json, d.edges, d.warnings,
    d.drops⟩

/-- The document of a flowchart that was not laid out. -/
def ofGraph (g : Graph) : Document :=
  ⟨g.direction, ⟨0, 0⟩, false, [], [], g.nodes.map Node.json, g.edges, [], []⟩

/-- The document of an outcome. -/
def ofOutcome : Outcome Float32 → Document
  | .plain g => ofGraph g
  | .positioned d => ofDiagram d

/-- The document as a value. -/
def json (d : Document) : Json :=
  ofPairs [("direction", .text d.direction.word), ("width", ofSingle d.size.width),
    ("height", ofSingle d.size.height), ("laneMetadata", .bool d.hasRoles),
    ("lanes", .list (d.lanes.map Band.json)), ("sections", .list (d.sections.map Band.json)),
    ("nodes", .list d.nodes), ("edges", .list (d.edges.map Edge.json)),
    ("diagnostics", ofPairs [("warnings", .list (d.warnings.map LayoutWarning.json)),
      ("drops", dropsJson d.drops)])]

/-- How documents are written: lengths from a millionth to a million millions have no
exponent, and only the characters that must be are escaped. -/
def format (spread : Bool) : Json.Format := ⟨spread, ⟨-6, 12⟩, fun _ => false⟩

/-- The text of a document. -/
def text (d : Document) (spread : Bool) : Text := Json.toText (format spread) d.json

end Document

/-- The document that is made of a text. -/
def documentText (text : Text) (s : Settings Float32) (spread : Bool) : Except DiagramError Text :=
  (Outcome.ofText text s false).map fun outcome => (Document.ofOutcome outcome).text spread

end Swimlane
