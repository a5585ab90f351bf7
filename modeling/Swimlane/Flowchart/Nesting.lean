import Swimlane.Flowchart.Graph

/-!
# The nesting of groups

Groups are nested in two ways that agree in a graph that was read from text.  Upwards a
group names its parent, and `enclosing` follows these names.  Downwards a group lists its
children, and a visit walks through these lists; it meets the groups and the nodes in the
order of the text.  A graph that was put together by hand may list a group within itself,
and then the visit has no end: `visits?` tells this from the depth, because a chain of
more groups than there are must repeat one.
-/

namespace Swimlane

/-! ## Upwards -/

/-- The chain of groups from `start` outwards, as long as they exist and do not repeat; it
has no more than `fuel` groups, none of them one of `seen`. -/
def Graph.chain (g : Graph) : Nat → List Text → Option Text → List Text
  | 0, _, _ => []
  | _ + 1, _, none => []
  | fuel + 1, seen, some id =>
      if seen.contains id then []
      else
        match g.group? id with
        | some x => id :: g.chain fuel (id :: seen) x.parentId
        | none => []

/-- A group and the groups around it, the innermost first.  Each of them is a different
group of the graph, so there are no more of them than groups. -/
def Graph.enclosing (g : Graph) (start : Option Text) : List Text :=
  g.chain g.groups.length [] start

/-! ## Downwards -/

/-- A step of a visit. -/
inductive Visit
  /-- A group is entered that lies in the groups `around`, the innermost first. -/
  | enter (group : Group) (around : List Text)
  /-- A node is met in the groups `around`, the innermost first. -/
  | meet (id : Text) (around : List Text)

/-- The visit of a group, if it is nested no deeper than `fuel`. -/
def Graph.visit? (g : Graph) : Nat → List Text → Text → Option (List Visit)
  | 0, _, _ => none
  | fuel + 1, around, id =>
      match g.group? id with
      | none => some []
      | some x =>
          let visitChild : Child → Option (List Visit)
            | .node child => some [.meet child (id :: around)]
            | .group child => g.visit? fuel (id :: around) child
          (x.children.mapM visitChild).map fun inner => .enter x around :: inner.flatten

/-- The visit of all groups from those without a parent, unless it has no end. -/
def Graph.visits? (g : Graph) : Option (List Visit) :=
  (g.topGroups.mapM fun x => g.visit? (g.groups.length + 1) [] x.id).map (·.flatten)

end Swimlane
