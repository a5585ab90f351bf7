import Mathlib.Data.List.Chain
import Mathlib.Data.List.Perm.Subperm
import Mathlib.Logic.Relation
import Swimlane.Layout.Drawing
import Swimlane.Proofs.Flowchart.Nesting

/-!
# The walk through the groups

`Graph.visit?` goes down the lists of children with a bound on the depth.  `Graph.Walk` is the
same walk as a relation, with no bound.  The bound makes no difference
(`visits?_eq_some_iff`), because a walk that has an end never comes to a group inside itself,
and so it is no deeper than there are groups.

Nothing stops the walk where a group does lie in itself.  In a graph that was read from text
there is no such group, but a graph that was put together by hand may have one, and then there
is no drawing of it: `exists_drawing_iff_no_circle` says for which graphs there is one.
-/

namespace Swimlane

namespace Graph

/-- Some children of a group, in the groups `around`, are gone through in these steps. -/
inductive Walk (g : Graph) : List Text → List Child → List Visit → Prop
  | done {around : List Text} : Walk g around [] []
  | node {around : List Text} {id : Text} {children : List Child} {steps : List Visit}
      (h : Walk g around children steps) :
      Walk g around (.node id :: children) (.meet id around :: steps)
  /-- A child that is no group of the graph is passed over. -/
  | unknown {around : List Text} {id : Text} {children : List Child} {steps : List Visit}
      (hid : g.group? id = none) (h : Walk g around children steps) :
      Walk g around (.group id :: children) steps
  /-- The children of a group are gone through before its siblings. -/
  | group {around : List Text} {id : Text} {x : Group} {children : List Child}
      {inner steps : List Visit} (hx : g.group? id = some x)
      (hinner : Walk g (id :: around) x.children inner) (h : Walk g around children steps) :
      Walk g around (.group id :: children) (.enter x around :: (inner ++ steps))

/-- The groups at the top, as the children that the walk begins with. -/
def topChildren (g : Graph) : List Child := g.topGroups.map fun x => .group x.id

variable {g : Graph}

/-! ## A visit is a walk -/

/-- The first child is gone through before the others. -/
theorem Walk.cons {around : List Text} {child : Child} {children : List Child}
    {first steps : List Visit} (hfirst : g.Walk around [child] first)
    (h : g.Walk around children steps) : g.Walk around (child :: children) (first ++ steps) := by
  cases hfirst with
  | node hrest => cases hrest; exact .node h
  | unknown hid hrest => cases hrest; exact .unknown hid h
  | group hx hinner hrest =>
    cases hrest
    rw [List.append_nil]
    exact .group hx hinner h

/-- Where every single visit is a walk, so are all of them one after another. -/
theorem walk_of_mapM {β : Type} {child : β → Child} {visit : β → Option (List Visit)}
    {around : List Text} {elements : List β}
    (hvisit : ∀ b steps, visit b = some steps → g.Walk around [child b] steps)
    {parts : List (List Visit)} (h : elements.mapM visit = some parts) :
    g.Walk around (elements.map child) parts.flatten := by
  induction elements generalizing parts with
  | nil =>
    cases h
    exact .done
  | cons b elements ih =>
    rw [List.mapM_cons] at h
    obtain ⟨first, hfirst, h⟩ := Option.bind_eq_some_iff.1 h
    obtain ⟨rest, hrest, h⟩ := Option.bind_eq_some_iff.1 h
    cases h
    exact Walk.cons (hvisit b first hfirst) (ih hrest)

/-- The visit of a group is a walk. -/
theorem walk_of_visit? {fuel : Nat} {around : List Text} {id : Text} {steps : List Visit}
    (h : g.visit? fuel around id = some steps) : g.Walk around [.group id] steps := by
  induction fuel generalizing around id steps with
  | zero => cases h
  | succ fuel ih =>
    rw [visit?] at h
    split at h
    · next hid =>
      cases h
      exact .unknown hid .done
    · next x hx =>
      obtain ⟨parts, hparts, rfl⟩ := Option.map_eq_some_iff.1 h
      have hinner : g.Walk (id :: around) (x.children.map fun child => child) parts.flatten := by
        refine walk_of_mapM (fun child steps hchild => ?_) hparts
        cases child with
        | node child =>
          cases hchild
          exact .node .done
        | group child => exact ih hchild
      rw [List.map_id'] at hinner
      have hgroup := Walk.group hx hinner .done
      rwa [List.append_nil] at hgroup

/-- There is only one walk through some children. -/
theorem Walk.unique {around : List Text} {children : List Child} {steps steps' : List Visit}
    (h : g.Walk around children steps) (h' : g.Walk around children steps') : steps = steps' := by
  induction h generalizing steps' with
  | done =>
    cases h'
    rfl
  | node _ ih =>
    cases h' with
    | node h' => rw [ih h']
  | unknown hid _ ih =>
    cases h' with
    | unknown _ h' => exact ih h'
    | group hx _ _ => rw [hid] at hx; cases hx
  | group hx _ _ ihinner ih =>
    cases h' with
    | unknown hid _ => rw [hid] at hx; cases hx
    | group hx' hinner' h' =>
      rw [hx] at hx'
      cases hx'
      rw [ihinner hinner', ih h']

/-! ## Circles -/

/-- The first is the name of a group that lists the second as a group in it. -/
def Lists (g : Graph) (outer inner : Text) : Prop :=
  ∃ x, g.group? outer = some x ∧ .group inner ∈ x.children

/-- By the lists of children there is, in the group or further in, a group that lies in
itself. -/
def LeadsToCircle (g : Graph) (id : Text) : Prop :=
  ∃ inner, Relation.ReflTransGen g.Lists id inner ∧ Relation.TransGen g.Lists inner inner

/-- From a group that leads to a circle, so does one of those that it lists. -/
theorem LeadsToCircle.exists_lists {id : Text} (h : g.LeadsToCircle id) :
    ∃ child, g.Lists id child ∧ g.LeadsToCircle child := by
  obtain ⟨inner, hreach, hcircle⟩ := h
  rcases Relation.ReflTransGen.cases_head hreach with rfl | ⟨child, hchild, hreach⟩
  · -- the group lies in itself: the circle goes on from its next member
    obtain ⟨child, hchild, hback⟩ := Relation.TransGen.head'_iff.1 hcircle
    exact ⟨child, hchild, id, hback, hcircle⟩
  · exact ⟨child, hchild, inner, hreach, hcircle⟩

/-- A walk that has an end comes to no circle. -/
theorem Walk.not_leadsToCircle {around : List Text} {children : List Child} {steps : List Visit}
    (h : g.Walk around children steps) :
    ∀ id, Child.group id ∈ children → ¬g.LeadsToCircle id := by
  induction h with
  | done => intro id hid; exact absurd hid List.not_mem_nil
  | node _ ih =>
    intro id hid
    rcases List.mem_cons.1 hid with heq | hid
    · cases heq
    · exact ih id hid
  | unknown hnone _ ih =>
    intro id hid hcircle
    rcases List.mem_cons.1 hid with heq | hid
    · cases heq
      obtain ⟨child, ⟨x, hx, -⟩, -⟩ := hcircle.exists_lists
      rw [hnone] at hx
      cases hx
    · exact ih id hid hcircle
  | group hx _ _ ihinner ih =>
    intro id hid hcircle
    rcases List.mem_cons.1 hid with heq | hid
    · cases heq
      obtain ⟨child, ⟨y, hy, hlisted⟩, hfurther⟩ := hcircle.exists_lists
      rw [hx] at hy
      cases hy
      exact ihinner child hlisted hfurther
    · exact ih id hid hcircle

/-! ## The bound on the depth -/

/-- A visit that is too deep has gone down a path of as many groups as the bound allows. -/
theorem exists_path_of_visit?_eq_none {fuel : Nat} {around : List Text} {id : Text}
    (h : g.visit? fuel around id = none) : ∃ path : List Text, path.length = fuel ∧
      path ⊆ g.groups.map (·.id) ∧ (∀ first ∈ path.head?, first = id) ∧ path.IsChain g.Lists := by
  induction fuel generalizing around id with
  | zero =>
    refine ⟨[], rfl, List.nil_subset _, ?_, List.isChain_nil⟩
    intro first hfirst
    cases hfirst
  | succ fuel ih =>
    rw [visit?] at h
    split at h
    · cases h
    · next x hx =>
      -- one of the children is too deep already
      have hdeep : ∃ child, .group child ∈ x.children ∧
          g.visit? fuel (id :: around) child = none := by
        by_contra hno
        rw [Option.map_eq_none_iff, ← Option.not_isSome_iff_eq_none] at h
        refine h (mapM_isSome fun child hchild => ?_)
        cases child with
        | node child => rfl
        | group child =>
          rw [Option.isSome_iff_ne_none]
          exact fun hnone => hno ⟨child, hchild, hnone⟩
      obtain ⟨child, hchild, hnone⟩ := hdeep
      obtain ⟨path, hlength, hgroups, hhead, hchain⟩ := ih hnone
      have hgroup : id ∈ g.groups.map (·.id) := List.mem_map.2 ⟨x, mem_of_group? hx⟩
      refine ⟨id :: path, by rw [List.length_cons, hlength],
        List.cons_subset.2 ⟨hgroup, hgroups⟩, ?_, List.isChain_cons.2 ⟨?_, hchain⟩⟩
      · intro first hfirst
        exact (Option.some.inj hfirst).symm
      · intro first hfirst
        rw [hhead first hfirst]
        exact ⟨x, hx, hchild⟩

/-- On a path that comes to no circle no group is twice. -/
theorem nodup_of_isChain_lists {id : Text} {rest : List Text}
    (hchain : (id :: rest).IsChain g.Lists) (hid : ¬g.LeadsToCircle id) : (id :: rest).Nodup := by
  have hpairs : (id :: rest).Pairwise (Relation.TransGen g.Lists) :=
    (hchain.imp fun _ _ h => Relation.TransGen.single h).pairwise
  have hreach : ∀ inner ∈ id :: rest, Relation.ReflTransGen g.Lists id inner := by
    intro inner hinner
    rcases List.mem_cons.1 hinner with rfl | hinner
    · exact .refl
    · exact ((List.pairwise_cons.1 hpairs).1 inner hinner).to_reflTransGen
  refine hpairs.imp_of_mem fun {outer inner} houter _ hlies heq => hid ?_
  exact ⟨outer, hreach outer houter, by rwa [← heq] at hlies⟩

/-- The visit of a group that leads to no circle is not too deep. -/
theorem visit?_isSome_of_not_leadsToCircle {around : List Text} {id : Text}
    (hid : ¬g.LeadsToCircle id) : (g.visit? (g.groups.length + 1) around id).isSome = true := by
  rw [Option.isSome_iff_ne_none]
  intro hnone
  obtain ⟨path, hlength, hgroups, hhead, hchain⟩ := exists_path_of_visit?_eq_none hnone
  cases path with
  | nil => cases hlength
  | cons first rest =>
    rw [hhead first rfl] at hchain hgroups hlength
    have hnodup := nodup_of_isChain_lists hchain hid
    have hle := (hnodup.subperm hgroups).length_le
    rw [List.length_map] at hle
    omega

theorem walk_of_visits? {visits : List Visit} (h : g.visits? = some visits) :
    g.Walk [] g.topChildren visits := by
  obtain ⟨parts, hparts, rfl⟩ := Option.map_eq_some_iff.1 h
  exact walk_of_mapM (fun x steps => walk_of_visit?) hparts

/-- A walk from the top comes to no circle. -/
theorem Walk.no_circle {visits : List Visit} (h : g.Walk [] g.topChildren visits) :
    ∀ x ∈ g.topGroups, ¬g.LeadsToCircle x.id :=
  fun x hx => h.not_leadsToCircle x.id (List.mem_map.2 ⟨x, hx, rfl⟩)

/-- The groups can be visited exactly if none at the top leads to a circle. -/
theorem exists_visits_iff :
    (∃ visits, g.visits? = some visits) ↔ ∀ x ∈ g.topGroups, ¬g.LeadsToCircle x.id := by
  constructor
  · rintro ⟨visits, hvisits⟩
    exact (walk_of_visits? hvisits).no_circle
  · intro h
    rw [← Option.isSome_iff_exists, visits?, Option.isSome_map]
    exact mapM_isSome fun x hx => visit?_isSome_of_not_leadsToCircle (h x hx)

/-- The visits are the walk from the top: the bound on the depth makes no difference. -/
theorem visits?_eq_some_iff {visits : List Visit} :
    g.visits? = some visits ↔ g.Walk [] g.topChildren visits := by
  constructor
  · exact walk_of_visits?
  · intro h
    obtain ⟨visits', hvisits'⟩ := exists_visits_iff.2 h.no_circle
    rw [hvisits', h.unique (walk_of_visits? hvisits')]

end Graph

/-! ## Drawings -/

variable {α : Type} [Length α]

/-- When the groups can be visited there is a drawing. -/
theorem Drawing.ofGraph?_of_visits {g : Graph} {visits : List Visit} (h : g.visits? = some visits)
    (c : Classification) (s : LayoutSettings α) :
    Drawing.ofGraph? g c s = some (Drawing.ofVisits g c s visits) := by
  rw [Drawing.ofGraph?, h]
  rfl

/-- There is a drawing of a graph, whatever the roles of its groups and the settings are, exactly
if no group at the top leads to one that lies in itself. -/
theorem exists_drawing_iff_no_circle (g : Graph) (c : Classification) (s : LayoutSettings α) :
    (∃ d, Drawing.ofGraph? g c s = some d) ↔ ∀ x ∈ g.topGroups, ¬g.LeadsToCircle x.id := by
  rw [← Graph.exists_visits_iff]
  constructor
  · rintro ⟨d, hd⟩
    obtain ⟨visits, hvisits, -⟩ := Option.map_eq_some_iff.1 hd
    exact ⟨visits, hvisits⟩
  · rintro ⟨visits, hvisits⟩
    exact ⟨Drawing.ofVisits g c s visits, Drawing.ofGraph?_of_visits hvisits c s⟩

/-- A node beside a group that lists itself. -/
def groupInItself : Graph where
  direction := .leftRight
  nodes := [⟨['a'], ['a'], defaultComponentType, none, none, 0⟩]
  edges := []
  groups := [⟨['g'], ['g'], none, [.group ['g']], 0, 0⟩]

/-- There is a graph without a drawing: no bound is enough for the visit of a group in it. -/
theorem exists_endless_visit : ∃ g : Graph, ∃ x ∈ g.topGroups,
    (∀ fuel, g.visit? fuel [] x.id = none) ∧
      ∀ (c : Classification) (s : LayoutSettings Rat), Drawing.ofGraph? g c s = none := by
  have hcircle : groupInItself.LeadsToCircle ['g'] := by
    have hself : groupInItself.Lists ['g'] ['g'] :=
      ⟨⟨['g'], ['g'], none, [.group ['g']], 0, 0⟩, by decide, List.mem_singleton_self _⟩
    exact ⟨['g'], .refl, .single hself⟩
  refine ⟨groupInItself, ⟨['g'], ['g'], none, [.group ['g']], 0, 0⟩, by decide, ?_, ?_⟩
  · intro fuel
    by_contra hvisit
    obtain ⟨steps, hsteps⟩ := Option.ne_none_iff_exists'.1 hvisit
    exact (Graph.walk_of_visit? hsteps).not_leadsToCircle ['g'] List.mem_cons_self hcircle
  · intro c s
    have hvisits : groupInItself.visits? = none := by
      by_contra hsome
      have hno := Graph.exists_visits_iff.1 (Option.ne_none_iff_exists'.1 hsome)
      exact hno _ List.mem_cons_self hcircle
    rw [Drawing.ofGraph?, hvisits]
    rfl

end Swimlane
