import Swimlane.Layout.Order

/-!
# Ranks

Within a cell the nodes stand in ranks, one behind the other along the flow.  The rank of
a node is the length of the longest path to it over edges that run forward in the order of
the flow: every edge from a node that was listed before pushes it one rank further.
-/

namespace Swimlane

/-- The rank of a node next in the order: one more than the greatest rank of the sources of
its edges, as far as these have a rank already. -/
def nextRank (edges : List Edge) (ranked : List (Text × Nat)) (id : Text) : Nat :=
  ((sourcesOf edges id).filterMap fun source => (ranked.lookup source).map (· + 1)).foldl max 0

/-- The ranks of further nodes in the order of the flow. -/
def rankAll (edges : List Edge) (ranked : List (Text × Nat)) : List Text → List (Text × Nat)
  | [] => ranked
  | id :: rest => rankAll edges (ranked ++ [(id, nextRank edges ranked id)]) rest

/-- The distinct identifiers with their ranks, along the flow of the edges between them. -/
def flowRanks (key : Text → Nat) (ids : List Text) (edges : List Edge) : List (Text × Nat) :=
  rankAll edges [] (flowOrder key ids edges)

/-- The identifiers of each rank, in the order in which they are given. -/
def rankRows (ranks : List (Text × Nat)) (ids : List Text) : List (List Text) :=
  let rankOf (id : Text) : Nat := (ranks.lookup id).getD 0
  (List.range ((ranks.map (·.2)).foldl max 0 + 1)).map fun r => ids.filter (rankOf · = r)

end Swimlane
