import Swimlane.Flowchart.Graph

/-!
# Untangling edges

The nodes of a rank stand side by side.  To have fewer edges cross, sweeps down and up the
ranks move each node towards the median of the positions of its neighbours: going down
those before it on an edge count, going up those after it.  A node without neighbours
keeps its position, and nodes with equal medians keep their order.  Medians are doubled,
so that the mean of two positions is a whole number too.
-/

namespace Swimlane

/-- The position of an identifier in its rank. -/
def position? (ranks : List (List Text)) (id : Text) : Option Nat :=
  ranks.findSome? (·.idxOf? id)

/-- Twice the median of a list of numbers. -/
def twiceMedian? (xs : List Nat) : Option Nat :=
  let sorted := xs.mergeSort (fun a b => decide (a ≤ b))
  let middle := sorted.length / 2
  if sorted.length % 2 = 1 then sorted[middle]?.map (2 * ·)
  else
    match sorted[middle - 1]?, sorted[middle]? with
    | some a, some b => some (a + b)
    | _, _ => none

/-- Where a node at a position ought to be: twice the median of the positions of its
neighbours, or else twice its own. -/
def pull (ranks : List (List Text)) (neighbours : List Text) (own : Nat) : Nat :=
  (twiceMedian? (neighbours.filterMap (position? ranks))).getD (2 * own)

/-- A rank rearranged by where its nodes ought to be. -/
def rearrange (ranks : List (List Text)) (neighbours : Text → List Text) (rank : List Text) :
    List Text :=
  let pulled := rank.mapIdx fun own id => (id, pull ranks (neighbours id) own)
  (pulled.mergeSort (fun a b => decide (a.2 ≤ b.2))).map (·.1)

/-- One rank after another rearranged. -/
def sweep (neighbours : Text → List Text) (ranks : List (List Text)) (order : List Nat) :
    List (List Text) :=
  order.foldl (fun ranks r => ranks.modify r (rearrange ranks neighbours)) ranks

/-- A sweep down the ranks and another one up. -/
def sweepBoth (edges : List Edge) (ranks : List (List Text)) : List (List Text) :=
  let down := sweep (sourcesOf edges) ranks (List.range' 1 (ranks.length - 1))
  sweep (targetsOf edges) down (List.range (ranks.length - 1)).reverse

/-- The ranks after so many sweeps, at least one, down and up. -/
def untangle (edges : List Edge) (passes : Nat) (ranks : List (List Text)) : List (List Text) :=
  (List.range (max 1 passes)).foldl (fun ranks _ => sweepBoth edges ranks) ranks

end Swimlane
