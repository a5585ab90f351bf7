import Swimlane.Settings.Block

/-!
# Reading settings

Settings come from a file, which may set everything, and from the text of a flowchart,
whose initial settings may set the lengths of nodes and ranks.  Both use the same block
for these.  A file with a misfit is an error; initial settings with one are passed over as
a whole.
-/

namespace Swimlane

variable {α : Type} [Length α]

/-! ## The blocks -/

/-- How often the order of nodes is improved at most. -/
def mostOrderPasses : Nat := 32

/-- The block for the lengths of nodes and ranks. -/
def flowchartBlock : Block (LayoutSettings α) where
  title := "struct FlowchartConfig".toList
  keys :=
    [lengthKey "nodeSpacing".toList fun v s => { s with nodeSpacing := v },
     lengthKey "rankSpacing".toList fun v s => { s with rankSpacing := v },
     countKey "orderPasses".toList fun n s => { s with orderPasses := min n mostOrderPasses },
     lengthKey "nodePaddingX".toList fun v s => { s with nodePaddingX := v },
     lengthKey "nodePaddingY".toList fun v s => { s with nodePaddingY := v },
     lengthKey "fontSize".toList fun v s => { s with fontSize := v },
     countKey "maxLabelWidthChars".toList fun n s => { s with maxLabelWidthChars := n }]

/-- The block for the lengths of the grid. -/
def gridBlock : Block (GridSettings α) where
  title := "struct GridConfigFile".toList
  keys :=
    [lengthKey "cellPadding".toList fun v s => { s with cellPadding := v },
     lengthKey "rowGap".toList fun v s => { s with rowGap := v },
     lengthKey "columnGap".toList fun v s => { s with columnGap := v },
     lengthKey "minCellWidth".toList fun v s => { s with minCellWidth := v },
     lengthKey "minCellHeight".toList fun v s => { s with minCellHeight := v },
     lengthKey "boundaryPadding".toList fun v s => { s with boundaryPadding := v },
     lengthKey "badgeWidth".toList fun v s => { s with badgeWidth := v },
     lengthKey "badgeHeight".toList fun v s => { s with badgeHeight := v },
     lengthKey "badgeGap".toList fun v s => { s with badgeGap := v }]

/-- The names of the edge policies. -/
def edgePolicyNames : List (Text × EdgePolicy) :=
  [("drop".toList, .drop), ("remap".toList, .remap)]

/-- The block for what happens to edges. -/
def tidyBlock : Block EdgePolicy where
  title := "struct NormalizeConfigFile".toList
  keys :=
    [choiceKey "boundaryEdgePolicy".toList edgePolicyNames
      (choiceTitle "drop".toList "remap".toList) fun policy _ => policy]

/-- The block that a settings file is. -/
def fileBlock : Block (Settings α) where
  title := "struct ConfigFile".toList
  keys :=
    [blockKey "flowchart".toList flowchartBlock fun change s =>
       { s with layout := change s.layout },
     blockKey "grid".toList gridBlock fun change s =>
       { s with layout := { s.layout with grid := change s.layout.grid } },
     blockKey "normalize".toList tidyBlock fun change s =>
       { s with edgePolicy := change s.edgePolicy }]

/-! ## Files and initial settings -/

/-- The change that the text of a settings file makes. -/
def readFile (text : Text) : Except Misfit (Settings α → Settings α) := do
  let (sketch, ending) := Json.sketch text
  let change ← fileBlock.read sketch
  match Json.skipGap (← ending.mapError .ofBreak) with
  | [] => return change
  | rest => throw (.ofBreak ⟨.trailingCharacters, .onto rest⟩)

/-- The settings of a file. -/
def Settings.ofText (text : Text) : Except SettingsError (Settings α) :=
  match readFile text with
  | .ok change => .ok (change .default)
  | .error misfit => .error (misfit.error text)

/-- The settings after the initial settings of a flowchart. -/
def LayoutSettings.withInitial (s : LayoutSettings α) (initial : Json) : LayoutSettings α :=
  match initial.field? "flowchart".toList with
  | none => s
  | some value =>
      match flowchartBlock.read value.toSketch with
      | .ok change => change s
      | .error _ => s

end Swimlane
