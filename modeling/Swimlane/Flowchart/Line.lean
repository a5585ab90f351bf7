import Swimlane.Flowchart.Outline

/-!
# Written lines

Some lines as one would write them down by hand: a link from several nodes to several, a node
with a quoted label in the delimiters of its shape, and a link with a label, between bars or inside
its arrow.
-/

namespace Swimlane

/-! ## Links between several nodes -/

/-- Names with an ampersand between any two. -/
def joinNames (names : List Text) : Text := joinWith " & ".toList names

/-- A link from every node on the left to every node on the right. -/
structure FanOut where
  sources : List Text
  targets : List Text
deriving DecidableEq

/-- The link as it is written. -/
def FanOut.text (f : FanOut) : Text := joinNames f.sources ++ " --> ".toList ++ joinNames f.targets

/-! ## Nodes with quoted labels -/

/-- All the delimiters in which the label of a node may stand. -/
def nodeDelimiters : List Delimiters :=
  doubleDelimiters ++
    [⟨['['], [']'], .rectangle⟩,
     ⟨['('], [')'], .roundRect⟩,
     ⟨['\x7b'], ['\x7d'], .diamond⟩,
     ⟨['>'], [']'], .asymmetric⟩]

/-- A node with a quoted label as it is written. -/
def quotedNode (id : Text) (d : Delimiters) (label : Text) : Text :=
  id ++ d.opening ++ inQuotes label ++ d.closing

/-! ## Links with a label -/

/-- A link with a label between bars as it is written. -/
def barredLink (source label target : Text) : Text :=
  source ++ " -->|".toList ++ label ++ "| ".toList ++ target

/-- A link with a label inside its arrow as it is written. -/
def dashedLink (source label target : Text) : Text :=
  source ++ " -- ".toList ++ label ++ " --> ".toList ++ target

end Swimlane
