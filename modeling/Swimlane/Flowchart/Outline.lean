import Swimlane.Flowchart.Reading

/-!
# Outlines

An outline is a flowchart as one would write it down: entries, nested in groups, and links
between them after all entries.  It has a text, one entry or link a line, and it has a
graph, in which the nesting is spelled out by parents, children and depths.

Reading the text of an outline gives its graph, if the names are plain words and the
labels hold nothing that a label cannot show (`Outline.IsReadable`): what stands in double
quotes is never mistaken for an arrow, a bracket or the end of a statement.
-/

namespace Swimlane

/-! ## Entries -/

/-- A shape with the label that stands in it. -/
structure Body where
  shape : Shape
  label : Text
deriving DecidableEq

/-- Nodes and groups one after another. -/
inductive Entries
  | done
  | node (id : Text) (body : Option Body) (next : Entries)
  | group (id label : Text) (inner next : Entries)

/-- A link from one node or group to another. -/
structure PlainLink where
  source : Text
  target : Text
  label : Option Text
deriving DecidableEq

/-- A flowchart written down: its direction, its entries and then its links. -/
structure Outline where
  direction : Direction
  entries : Entries
  links : List PlainLink

/-! ## The text of an outline -/

/-- The delimiters in which a shape is written. -/
def Shape.delimiters : Shape → Text × Text
  | .rectangle => (['['], [']'])
  | .roundRect => (['('], [')'])
  | .stadium => (['(', '['], [']', ')'])
  | .subroutine => (['[', '['], [']', ']'])
  | .cylinder => (['[', '('], [')', ']'])
  | .circle => (['(', '('], [')', ')'])
  | .diamond => (['\x7b'], ['\x7d'])
  | .hexagon => (['\x7b', '\x7b'], ['\x7d', '\x7d'])
  | .parallelogram => (['[', '/'], ['/', ']'])
  | .parallelogramAlt => (['[', '\\'], ['\\', ']'])
  | .trapezoid => (['[', '/'], ['\\', ']'])
  | .trapezoidAlt => (['[', '\\'], ['/', ']'])
  | .asymmetric => (['>'], [']'])

/-- A label in double quotes. -/
def inQuotes (label : Text) : Text := '"' :: label ++ ['"']

/-- A node as a statement. -/
def nodeLine (id : Text) : Option Body → Text
  | none => id
  | some body => id ++ body.shape.delimiters.1 ++ inQuotes body.label ++ body.shape.delimiters.2

/-- The entries as lines; a group stands between its header and `end`. -/
def Entries.lines : Entries → List Text
  | .done => []
  | .node id body next => nodeLine id body :: next.lines
  | .group id label inner next =>
      ("subgraph ".toList ++ id ++ '[' :: inQuotes label ++ [']']) ::
        (inner.lines ++ "end".toList :: next.lines)

/-- A link as a statement. -/
def PlainLink.line (l : PlainLink) : Text :=
  match l.label with
  | none => l.source ++ " --> ".toList ++ l.target
  | some label => l.source ++ " -->|".toList ++ inQuotes label ++ "| ".toList ++ l.target

/-- The text of an outline. -/
def Outline.text (o : Outline) : Text :=
  joinWith ['\n']
    (("flowchart ".toList ++ o.direction.word) :: (o.entries.lines ++ o.links.map (·.line)))

/-! ## The graph of an outline -/

/-- What a group lists: the entries that stand in it directly. -/
def Entries.children : Entries → List Child
  | .done => []
  | .node id _ next => .node id :: next.children
  | .group id _ _ next => .group id :: next.children

/-- The nodes among the entries, all of them with the number zero. -/
def Entries.nodes (groupId : Option Text) : Entries → List Node
  | .done => []
  | .node id none next => ⟨id, id, defaultComponentType, none, groupId, 0⟩ :: next.nodes groupId
  | .node id (some body) next =>
      ⟨id, body.label, body.shape.componentType, some body.shape, groupId, 0⟩ :: next.nodes groupId
  | .group id _ inner next => inner.nodes (some id) ++ next.nodes groupId

/-- The groups among the entries at some depth, all of them with the number zero. -/
def Entries.groups (parentId : Option Text) (depth : Nat) : Entries → List Group
  | .done => []
  | .node _ _ next => next.groups parentId depth
  | .group id label inner next =>
      ⟨id, label, parentId, inner.children, 0, depth⟩ ::
        (inner.groups (some id) (depth + 1) ++ next.groups parentId depth)

/-- The graph of an outline; nodes, groups and edges are numbered as they are listed. -/
def Outline.graph (o : Outline) : Graph where
  direction := o.direction
  nodes := (o.entries.nodes none).mapIdx fun i n => { n with order := i }
  edges := o.links.mapIdx fun i l => ⟨'e' :: decimal i, l.source, l.target, l.label⟩
  groups := (o.entries.groups none 0).mapIdx fun i x => { x with order := i }

/-! ## Outlines that can be read -/

/-- A name that cannot be taken for the beginning of another statement. -/
structure IsPlainName (id : Text) : Prop where
  ne_nil : id ≠ []
  isWordChar : id.all isWordChar
  not_reserved : id ∉ ["end", "subgraph", "class", "classDef", "style", "linkStyle", "click",
    "title"].map (·.toList)
  not_title : ¬ startsWith "accTitle".toList id
  not_description : ¬ startsWith "accDescr".toList id

/-- A label that comes back as it was written. -/
structure IsPlainLabel (label : Text) : Prop where
  trim_eq : trim label = label
  no_mark : '"' ∉ label ∧ '\n' ∉ label ∧ '[' ∉ label
  no_class : ¬ occursIn ":::".toList label
  no_break : ¬ occursIn "<br>".toList label ∧ ¬ occursIn "<br/>".toList label ∧
    ¬ occursIn "\\n".toList label

/-- The names of all entries. -/
def Entries.names : Entries → List Text
  | .done => []
  | .node id _ next => id :: next.names
  | .group id _ inner next => id :: (inner.names ++ next.names)

/-- The labels of all entries. -/
def Entries.labels : Entries → List Text
  | .done => []
  | .node _ body next => (body.map (·.label)).toList ++ next.labels
  | .group _ label inner next => label :: (inner.labels ++ next.labels)

/-- Are the names plain and distinct, do the links lead from entry to entry, and is every
label one that comes back?  A link shows its label only if it is not empty. -/
structure Outline.IsReadable (o : Outline) : Prop where
  names_nodup : o.entries.names.Nodup
  names_plain : ∀ id ∈ o.entries.names, IsPlainName id
  labels_plain : ∀ label ∈ o.entries.labels, IsPlainLabel label
  ends_named : ∀ l ∈ o.links, l.source ∈ o.entries.names ∧ l.target ∈ o.entries.names
  link_labels_plain : ∀ l ∈ o.links, ∀ label ∈ l.label, IsPlainLabel label ∧ label ≠ []

end Swimlane
