import Swimlane.Flowchart.Graph

/-!
# The order of a flow

Nodes are listed along the flow: the source of an edge comes before its target wherever
that is possible.  Among the nodes that nothing precedes any more the one with the least
key is next; when edges run in circles and there is no such node, the one with the least
key of all is.  `flowOrder` keeps for every node that waits the number of its edges from
other nodes that wait, so that taking a node only has to count down its targets.
-/

namespace Swimlane

/-- Does the edge join two of these identifiers? -/
def Edge.isWithin (e : Edge) (ids : List Text) : Bool :=
  ids.contains e.source && ids.contains e.target

/-- An identifier that is still to be listed. -/
structure Waiting where
  id : Text
  key : Nat
  /-- The number of edges to it from identifiers that are still to be listed. -/
  pending : Nat
deriving DecidableEq

namespace Waiting

/-- Does the first come before the second, by their keys and then by their names? -/
def precedes (a b : Waiting) : Bool := decide (a.key < b.key ∨ (a.key = b.key ∧ a.id < b.id))

/-- The first of a list by key and name. -/
def first? : List Waiting → Option Waiting
  | [] => none
  | w :: rest =>
      match first? rest with
      | some other => some (if other.precedes w then other else w)
      | none => some w

/-- The next to be listed: the first that nothing precedes, or else the first of all. -/
def next? (waiting : List Waiting) : Option Waiting :=
  (first? (waiting.filter (·.pending = 0))).or (first? waiting)

/-- What is left to wait for after an identifier was listed whose edges lead to `targets`. -/
def after (targets : List Text) (w : Waiting) : Waiting :=
  { w with pending := w.pending - targets.countP (· = w.id) }

/-- The first of a list is in it. -/
theorem mem_of_first? {waiting : List Waiting} {w : Waiting} (h : first? waiting = some w) :
    w ∈ waiting := by
  induction waiting generalizing w with
  | nil => cases h
  | cons v rest ih =>
    unfold first? at h
    split at h
    · next other hrest =>
      cases h
      split
      · exact List.mem_cons_of_mem _ (ih hrest)
      · exact List.mem_cons_self ..
    · cases h
      exact List.mem_cons_self ..

/-- The next to be listed is one of those that wait. -/
theorem mem_of_next? {waiting : List Waiting} {w : Waiting} (h : next? waiting = some w) :
    w ∈ waiting := by
  rcases Option.or_eq_some_iff.1 h with h | ⟨_, h⟩
  · exact (List.mem_filter.1 (mem_of_first? h)).1
  · exact mem_of_first? h

/-- The identifiers in the order in which they are listed. -/
def listed (edges : List Edge) (waiting : List Waiting) : List Text :=
  match _h : next? waiting with
  | none => []
  | some w => w.id :: listed edges ((waiting.erase w).map (after (targetsOf edges w.id)))
termination_by waiting.length
decreasing_by
  have mem := mem_of_next? ‹next? waiting = some w›
  have := List.length_erase_of_mem mem
  have := List.length_pos_of_mem mem
  simp only [List.length_map]
  omega

end Waiting

/-- The distinct identifiers, along the flow of the edges between them. -/
def flowOrder (key : Text → Nat) (ids : List Text) (edges : List Edge) : List Text :=
  let inner := edges.filter (·.isWithin ids)
  Waiting.listed inner
    (ids.eraseDups.map fun id => ⟨id, key id, inner.countP (·.target = id)⟩)

end Swimlane
