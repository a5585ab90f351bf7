import Swimlane.Proofs.Flowchart.Enclosing
import Swimlane.Proofs.Flowchart.Walk

/-!
# What is met on a visit

The nesting of groups is recorded twice: upwards by the names of parents, and downwards by the
lists of children.  On a visit the groups around a step are those that the names of parents give
(`Visit.AgreesWith`), as soon as everything that is listed also names its list.  This is so in a
consistent graph, and still when children are taken away from its lists (`Graph.IsTrimmed`).  In
a consistent graph the lists are complete besides: a visit enters every group once
(`entries_perm`) and meets every node that names a group.
-/

namespace Swimlane

namespace Graph

variable {g t : Graph}

/-! ## What is listed names its list -/

/-- What a group lists names the group. -/
structure ListsTruly (g : Graph) : Prop where
  group_ids : (g.groups.map (·.id)).Nodup
  group : ∀ x ∈ g.groups, ∀ y ∈ g.groups, .group y.id ∈ x.children → y.parentId = some x.id
  node : ∀ x ∈ g.groups, ∀ id, .node id ∈ x.children →
    ∃ n ∈ g.nodes, n.id = id ∧ n.groupId = some x.id
  /-- The chain of a group is the group and the chain of its parent. -/
  chain : ∀ x ∈ g.groups, g.enclosing (some x.id) = x.id :: g.enclosing x.parentId

theorem IsConsistent.listsTruly (h : g.IsConsistent) : g.ListsTruly where
  group_ids := h.group_ids
  group x hx y hy hlisted := (h.parentage_unique hy ((h.lists_group x hx y.id).1 hlisted)).symm
  node x hx id hlisted := by
    obtain ⟨n, hn, hpair⟩ := List.mem_map.1 ((h.lists_node x hx id).1 hlisted)
    exact ⟨n, hn, (Prod.mk.inj hpair).1, (Prod.mk.inj hpair).2⟩
  chain _ hx := h.enclosing_group hx

/-! ## Taking children away -/

/-- The first graph is the second with some children taken away from the lists of its groups. -/
structure IsTrimmed (t g : Graph) : Prop where
  direction : t.direction = g.direction
  nodes : t.nodes = g.nodes
  edges : t.edges = g.edges
  groups : List.Forall₂ (fun x y => x.frame = y.frame ∧ x.children.Sublist y.children)
    t.groups g.groups

theorem IsTrimmed.frames (h : t.IsTrimmed g) : t.frames = g.frames := by
  rw [Graph.frames, Graph.frames, ← List.forall₂_eq_eq_eq]
  exact List.rel_map (fun _ _ hpair => hpair.1) h.groups

/-- A group of the trimmed graph is one of the other, with some of its children. -/
theorem IsTrimmed.exists_group (h : t.IsTrimmed g) {x : Group} (hx : x ∈ t.groups) :
    ∃ y ∈ g.groups, y.id = x.id ∧ y.parentId = x.parentId ∧ x.children ⊆ y.children := by
  have hkept := List.sublistForall₂_iff.2 ⟨g.groups, h.groups, List.Sublist.refl _⟩
  obtain ⟨y, hy, hframe, hsub⟩ := exists_of_mem_of_sublistForall₂ hkept hx
  refine ⟨y, hy, ?_, ?_, hsub.subset⟩
  · show y.frame.id = x.frame.id
    rw [hframe]
  · show y.frame.parentId = x.frame.parentId
    rw [hframe]

/-- Apart from its children a group is found by its frame. -/
theorem map_frame_group? (g : Graph) (id : Text) :
    (g.group? id).map Group.frame = g.frames.reverse.find? (·.id = id) := by
  rw [group?, List.findRev?_eq_find?_reverse, Graph.frames, ← List.map_reverse, List.find?_map]
  rfl

/-- What does not depend on children is the same for a group of the trimmed graph. -/
theorem IsTrimmed.map_group? {β : Type} (h : t.IsTrimmed g) (part : Group → β)
    (hpart : ∀ x, part x.frame = part x) (id : Text) :
    (t.group? id).map part = (g.group? id).map part := by
  have hframes := congrArg (Option.map part) (t.map_frame_group? id)
  rw [h.frames, ← g.map_frame_group? id, Option.map_map, Option.map_map] at hframes
  have hsame : part ∘ Group.frame = part := funext hpart
  rwa [hsame] at hframes

/-- Taking children away leaves the chains of groups as they are. -/
theorem IsTrimmed.chain (h : t.IsTrimmed g) (fuel : Nat) (seen : List Text)
    (start : Option Text) : t.chain fuel seen start = g.chain fuel seen start := by
  induction fuel generalizing seen start with
  | zero => rfl
  | succ fuel ih =>
    cases start with
    | none => rfl
    | some id =>
      have hparent := h.map_group? (·.parentId) (fun _ => rfl) id
      rw [Graph.chain, Graph.chain]
      cases ht : t.group? id with
      | none =>
        rw [ht, Option.map_none, eq_comm, Option.map_eq_none_iff] at hparent
        rw [hparent]
      | some x =>
        rw [ht, Option.map_some, eq_comm, Option.map_eq_some_iff] at hparent
        obtain ⟨y, hy, hsame⟩ := hparent
        rw [hy]
        simp only [ih, hsame]

theorem IsTrimmed.enclosing (h : t.IsTrimmed g) (start : Option Text) :
    t.enclosing start = g.enclosing start := by
  have hlength := h.groups.length_eq
  rw [Graph.enclosing, Graph.enclosing, hlength, h.chain]

/-- With fewer children listed, what is listed still names its list. -/
theorem IsTrimmed.listsTruly (h : t.IsTrimmed g) (hg : g.ListsTruly) : t.ListsTruly where
  group_ids := by
    rw [← map_id_frames, h.frames, map_id_frames]
    exact hg.group_ids
  group x hx y hy hlisted := by
    obtain ⟨x', hx', hid, -, hsub⟩ := h.exists_group hx
    obtain ⟨y', hy', hid', hparent', -⟩ := h.exists_group hy
    rw [← hparent', ← hid]
    exact hg.group x' hx' y' hy' (hid'.symm ▸ hsub hlisted)
  node x hx id hlisted := by
    obtain ⟨x', hx', hid, -, hsub⟩ := h.exists_group hx
    obtain ⟨n, hn, hnode, hgroup⟩ := hg.node x' hx' id (hsub hlisted)
    exact ⟨n, h.nodes ▸ hn, hnode, hid ▸ hgroup⟩
  chain x hx := by
    obtain ⟨x', hx', hid, hparent, -⟩ := h.exists_group hx
    rw [h.enclosing, h.enclosing, ← hid, ← hparent]
    exact hg.chain x' hx'

/-- The groups of a consistent graph can still be visited when children are taken away. -/
theorem IsTrimmed.exists_visits (h : t.IsTrimmed g) (hg : g.IsConsistent) :
    ∃ visits, t.visits? = some visits := by
  have hlists : ∀ outer inner, t.Lists outer inner → g.Lists outer inner := by
    rintro outer inner ⟨x, hx, hlisted⟩
    obtain ⟨hmem, rfl⟩ := mem_of_group? hx
    obtain ⟨y, hy, hid, -, hsub⟩ := h.exists_group hmem
    exact ⟨y, hid ▸ group?_of_mem hg.group_ids hy, hsub hlisted⟩
  rw [exists_visits_iff]
  rintro x hx ⟨inner, hreach, hcircle⟩
  obtain ⟨hmem, htop⟩ := List.mem_filter.1 hx
  obtain ⟨y, hy, hid, hparent, -⟩ := h.exists_group hmem
  have hno := exists_visits_iff.1 hg.exists_visits y (List.mem_filter.2 ⟨hy, hparent ▸ htop⟩)
  refine hno ⟨inner, ?_, Relation.TransGen.mono hlists _ _ hcircle⟩
  rw [hid]
  exact Relation.ReflTransGen.mono hlists _ _ hreach

end Graph

/-! ## The groups around a step -/

/-- By the names of parents and groups, the child is in the groups `around`. -/
def Child.IsIn (g : Graph) (around : List Text) : Child → Prop
  | .node id => ∃ n ∈ g.nodes, n.id = id ∧ g.enclosing n.groupId = around
  | .group id => ∀ x ∈ g.groups, x.id = id → g.enclosing x.parentId = around

/-- The groups around a step are those that the names of parents and groups give. -/
def Visit.AgreesWith (g : Graph) : Visit → Prop
  | .enter x around => x ∈ g.groups ∧ g.enclosing x.parentId = around
  | .meet id around => ∃ n ∈ g.nodes, n.id = id ∧ g.enclosing n.groupId = around

namespace Graph

variable {g : Graph}

/-- What a group lists is in the group and those around it. -/
theorem ListsTruly.isIn_of_mem_children (hg : g.ListsTruly) {x : Group} (hx : x ∈ g.groups)
    {child : Child} (hchild : child ∈ x.children) :
    child.IsIn g (x.id :: g.enclosing x.parentId) := by
  rw [← hg.chain x hx]
  cases child with
  | node id =>
    obtain ⟨n, hn, hid, hgroup⟩ := hg.node x hx id hchild
    exact ⟨n, hn, hid, by rw [hgroup]⟩
  | group id =>
    rintro y hy rfl
    rw [hg.group x hx y hy hchild]

theorem ListsTruly.isIn_of_mem_topChildren (hg : g.ListsTruly) {child : Child}
    (hchild : child ∈ g.topChildren) : child.IsIn g [] := by
  obtain ⟨x, hx, rfl⟩ := List.mem_map.1 hchild
  obtain ⟨hmem, htop⟩ := List.mem_filter.1 hx
  intro y hy hid
  rw [List.inj_on_of_nodup_map hg.group_ids hy hmem hid, Option.isNone_iff_eq_none.1 htop]
  exact enclosing_none

/-- A walk through children that are in the groups around agrees with the names of parents. -/
theorem Walk.agreesWith (hg : g.ListsTruly) {around : List Text} {children : List Child}
    {steps : List Visit} (h : g.Walk around children steps)
    (hin : ∀ child ∈ children, child.IsIn g around) : ∀ v ∈ steps, v.AgreesWith g := by
  induction h with
  | done => intro v hv; exact absurd hv List.not_mem_nil
  | node _ ih =>
    obtain ⟨hfirst, hrest⟩ := List.forall_mem_cons.1 hin
    exact List.forall_mem_cons.2 ⟨hfirst, ih hrest⟩
  | unknown _ _ ih => exact ih (List.forall_mem_cons.1 hin).2
  | group hx _ _ ihinner ih =>
    obtain ⟨hfirst, hrest⟩ := List.forall_mem_cons.1 hin
    obtain ⟨hmem, rfl⟩ := mem_of_group? hx
    have haround := hfirst _ hmem rfl
    refine List.forall_mem_cons.2 ⟨⟨hmem, haround⟩, List.forall_mem_append.2 ⟨?_, ih hrest⟩⟩
    exact ihinner fun child hchild => haround ▸ hg.isIn_of_mem_children hmem hchild

theorem ListsTruly.agreesWith_of_visits (hg : g.ListsTruly) {visits : List Visit}
    (h : g.visits? = some visits) : ∀ v ∈ visits, v.AgreesWith g :=
  (walk_of_visits? h).agreesWith hg fun _ => hg.isIn_of_mem_topChildren

end Graph

/-! ## Everything is reached -/

/-- The child is come to in these steps, with the groups `around` around it. -/
def Child.IsReached (g : Graph) (around : List Text) (steps : List Visit) : Child → Prop
  | .node id => .meet id around ∈ steps
  | .group id => ∀ x, g.group? id = some x → .enter x around ∈ steps

theorem Child.IsReached.mono {g : Graph} {around : List Text} {steps more : List Visit}
    {child : Child} (h : child.IsReached g around steps) (hsub : steps ⊆ more) :
    child.IsReached g around more := by
  cases child with
  | node id => exact hsub h
  | group id => exact fun x hx => hsub (h x hx)

namespace Graph

variable {g : Graph}

/-- A walk comes to the children that it begins with, and to those of every group that it
enters. -/
theorem Walk.reaches {around : List Text} {children : List Child} {steps : List Visit}
    (h : g.Walk around children steps) :
    (∀ child ∈ children, child.IsReached g around steps) ∧
      ∀ x a, .enter x a ∈ steps → ∀ child ∈ x.children, child.IsReached g (x.id :: a) steps := by
  induction h with
  | done =>
    exact ⟨fun _ hchild => absurd hchild List.not_mem_nil, fun _ _ hx => absurd hx List.not_mem_nil⟩
  | @node around id children steps _ ih =>
    have hsub : steps ⊆ .meet id around :: steps := List.subset_cons_self _ _
    refine ⟨List.forall_mem_cons.2 ⟨List.mem_cons_self, fun child hchild => ?_⟩,
      fun x a hx child hchild => ?_⟩
    · exact (ih.1 child hchild).mono hsub
    · rcases List.mem_cons.1 hx with heq | hx
      · cases heq
      · exact (ih.2 x a hx child hchild).mono hsub
  | unknown hid _ ih =>
    refine ⟨List.forall_mem_cons.2 ⟨fun x hx => ?_, ih.1⟩, ih.2⟩
    rw [hid] at hx
    cases hx
  | @group around id x children inner steps hx _ _ ihinner ih =>
    have hinner : inner ⊆ .enter x around :: (inner ++ steps) :=
      List.Subset.trans (List.subset_append_left _ _) (List.subset_cons_self _ _)
    have hsteps : steps ⊆ .enter x around :: (inner ++ steps) :=
      List.Subset.trans (List.subset_append_right _ _) (List.subset_cons_self _ _)
    refine ⟨List.forall_mem_cons.2 ⟨fun y hy => ?_, fun child hchild => ?_⟩,
      fun y a hy child hchild => ?_⟩
    · rw [hx] at hy
      cases hy
      exact List.mem_cons_self
    · exact (ih.1 child hchild).mono hsteps
    · rcases List.mem_cons.1 hy with heq | hy
      · cases heq
        obtain ⟨-, rfl⟩ := mem_of_group? hx
        exact (ihinner.1 child hchild).mono hinner
      · rcases List.mem_append.1 hy with hy | hy
        · exact (ihinner.2 y a hy child hchild).mono hinner
        · exact (ih.2 y a hy child hchild).mono hsteps

/-- In a consistent graph a visit enters every group. -/
theorem IsConsistent.exists_enter (hg : g.IsConsistent) {visits : List Visit}
    (h : g.visits? = some visits) {x : Group} (hx : x ∈ g.groups) :
    ∃ around, .enter x around ∈ visits := by
  obtain ⟨htops, hinner⟩ := (walk_of_visits? h).reaches
  have hstart (start : Option Text) :
      ∀ y ∈ g.groups, start = some y.id → ∃ around, .enter y around ∈ visits := by
    refine hg.enclosing_induction
      (P := fun start => ∀ y ∈ g.groups, start = some y.id → ∃ around, .enter y around ∈ visits)
      (fun start hnone y hy heq => absurd heq (hnone y hy)) ?_ start
    intro z hz ih y hy heq
    have hsame := List.inj_on_of_nodup_map hg.group_ids hy hz (Option.some.inj heq).symm
    rw [hsame]
    cases hparent : z.parentId with
    | none =>
      have htop : Child.group z.id ∈ g.topChildren :=
        List.mem_map.2 ⟨z, List.mem_filter.2 ⟨hz, by rw [hparent]; rfl⟩, rfl⟩
      exact ⟨[], htops _ htop z (group?_of_mem hg.group_ids hz)⟩
    | some p =>
      obtain ⟨w, hw, rfl, -⟩ := hg.parent_of hz hparent
      obtain ⟨around, henter⟩ := ih w hw hparent
      have hlisted : .group z.id ∈ w.children :=
        (hg.lists_group w hw z.id).2 (List.mem_map.2 ⟨z, hz, by rw [hparent]⟩)
      exact ⟨_, hinner w around henter _ hlisted z (group?_of_mem hg.group_ids hz)⟩
  exact hstart (some x.id) x hx rfl

/-- In a consistent graph a visit meets every node that names a group. -/
theorem IsConsistent.exists_meet (hg : g.IsConsistent) {visits : List Visit}
    (h : g.visits? = some visits) {n : Node} (hn : n ∈ g.nodes) {p : Text}
    (hp : n.groupId = some p) : ∃ around, .meet n.id around ∈ visits := by
  have hmember : (n.id, some p) ∈ g.memberships := List.mem_map.2 ⟨n, hn, by rw [hp]⟩
  obtain ⟨x, hx, rfl⟩ := List.mem_map.1 (hg.group_known n.id p hmember)
  obtain ⟨around, henter⟩ := hg.exists_enter h hx
  exact ⟨_, (walk_of_visits? h).reaches.2 x around henter _ ((hg.lists_node x hx n.id).2 hmember)⟩

end Graph

/-! ## Every group is entered once -/

/-- The groups that are entered, each with those around it. -/
def entries (steps : List Visit) : List (Group × List Text) :=
  steps.filterMap fun
    | .enter x around => some (x, around)
    | .meet _ _ => none

theorem mem_entries {steps : List Visit} {x : Group} {around : List Text} :
    (x, around) ∈ entries steps ↔ .enter x around ∈ steps := by
  rw [entries, List.mem_filterMap]
  constructor
  · rintro ⟨v, hv, hx⟩
    cases v with
    | enter y a => cases hx; exact hv
    | meet id a => cases hx
  · intro hx
    exact ⟨_, hx, rfl⟩

theorem entries_append (steps more : List Visit) :
    entries (steps ++ more) = entries steps ++ entries more :=
  List.filterMap_append

namespace Graph

variable {g : Graph}

/-- A walk enters a group by way of one of the children that it begins with. -/
theorem Walk.exists_suffix {around : List Text} {children : List Child} {steps : List Visit}
    (h : g.Walk around children steps) {x : Group} {a : List Text} (hx : .enter x a ∈ steps) :
    ∃ id, .group id ∈ children ∧ id :: around <:+ x.id :: a := by
  induction h with
  | done => exact absurd hx List.not_mem_nil
  | node _ ih =>
    rcases List.mem_cons.1 hx with heq | hx
    · cases heq
    · obtain ⟨id, hid, hsuffix⟩ := ih hx
      exact ⟨id, List.mem_cons_of_mem _ hid, hsuffix⟩
  | unknown _ _ ih =>
    obtain ⟨id, hid, hsuffix⟩ := ih hx
    exact ⟨id, List.mem_cons_of_mem _ hid, hsuffix⟩
  | group hy _ _ ihinner ih =>
    rcases List.mem_cons.1 hx with heq | hx
    · cases heq
      obtain ⟨-, rfl⟩ := mem_of_group? hy
      exact ⟨_, List.mem_cons_self, List.suffix_refl _⟩
    · rcases List.mem_append.1 hx with hx | hx
      · obtain ⟨id, -, hsuffix⟩ := ihinner hx
        exact ⟨_, List.mem_cons_self, (List.suffix_cons _ _).trans hsuffix⟩
      · obtain ⟨id, hid, hsuffix⟩ := ih hx
        exact ⟨id, List.mem_cons_of_mem _ hid, hsuffix⟩

/-- Where no list repeats a child, no group is entered twice in the same groups: the ways to it
would part at one of the children, and so their ends would differ. -/
theorem Walk.nodup_entries (hlists : ∀ x ∈ g.groups, x.children.Nodup) {around : List Text}
    {children : List Child} {steps : List Visit} (h : g.Walk around children steps)
    (hchildren : children.Nodup) : (entries steps).Nodup := by
  induction h with
  | done => exact List.nodup_nil
  | node _ ih => exact ih (List.nodup_cons.1 hchildren).2
  | unknown _ _ ih => exact ih (List.nodup_cons.1 hchildren).2
  | @group around id x children inner steps hx hwalk hrest ihinner ih =>
    obtain ⟨hmem, rfl⟩ := mem_of_group? hx
    obtain ⟨hnew, hothers⟩ := List.nodup_cons.1 hchildren
    have hself : (x, around) ∉ entries inner := by
      intro hagain
      obtain ⟨child, -, hsuffix⟩ := hwalk.exists_suffix (mem_entries.1 hagain)
      have hlength := hsuffix.length_le
      simp only [List.length_cons] at hlength
      omega
    have hlater : ∀ e ∈ (x, around) :: entries inner, e ∉ entries steps := by
      rintro ⟨y, a⟩ hfirst hagain
      have hsuffix : x.id :: around <:+ y.id :: a := by
        rcases List.mem_cons.1 hfirst with heq | hfirst
        · cases heq
          exact List.suffix_refl _
        · obtain ⟨child, -, hsuffix⟩ := hwalk.exists_suffix (mem_entries.1 hfirst)
          exact (List.suffix_cons _ _).trans hsuffix
      obtain ⟨other, hother, hsuffix'⟩ := hrest.exists_suffix (mem_entries.1 hagain)
      have hsame : other :: around = x.id :: around :=
        (List.suffix_of_suffix_length_le hsuffix' hsuffix (by simp)).eq_of_length (by simp)
      rw [List.cons.injEq] at hsame
      exact hnew (hsame.1 ▸ hother)
    have hsplit : entries (.enter x around :: (inner ++ steps)) =
        (x, around) :: entries inner ++ entries steps := by
      rw [List.cons_append, ← entries_append]
      rfl
    rw [hsplit, List.nodup_append]
    refine ⟨List.nodup_cons.2 ⟨hself, ihinner (hlists x hmem)⟩, ih hothers, ?_⟩
    intro e hfirst e' hsecond heq
    exact hlater e hfirst (heq ▸ hsecond)

/-- In a consistent graph a visit enters every group once, with the groups around it that the
names of parents give. -/
theorem IsConsistent.entries_perm (hg : g.IsConsistent) {visits : List Visit}
    (h : g.visits? = some visits) :
    (entries visits).Perm (g.groups.map fun x => (x, g.enclosing x.parentId)) := by
  have htops : g.topChildren.Nodup := by
    have hids : (g.topGroups.map (·.id)).Nodup :=
      hg.group_ids.sublist (List.Sublist.map _ List.filter_sublist)
    have hchildren := hids.map fun a b (heq : Child.group a = .group b) => Child.group.inj heq
    rwa [List.map_map] at hchildren
  have hgroups : (g.groups.map fun x => (x, g.enclosing x.parentId)).Nodup :=
    (List.Nodup.of_map _ hg.group_ids).map fun _ _ heq => (Prod.mk.inj heq).1
  refine (List.perm_ext_iff_of_nodup
    ((walk_of_visits? h).nodup_entries hg.children_nodup htops) hgroups).2 ?_
  rintro ⟨x, around⟩
  rw [mem_entries, List.mem_map]
  constructor
  · intro hx
    obtain ⟨hmem, haround⟩ := hg.listsTruly.agreesWith_of_visits h _ hx
    exact ⟨x, hmem, by rw [haround]⟩
  · rintro ⟨y, hy, heq⟩
    obtain ⟨rfl, rfl⟩ := Prod.mk.inj heq
    obtain ⟨around, henter⟩ := hg.exists_enter h hy
    rwa [(hg.listsTruly.agreesWith_of_visits h _ henter).2]

end Graph

end Swimlane
