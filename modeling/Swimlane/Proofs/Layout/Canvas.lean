import Swimlane.Proofs.Layout.Apart
import Swimlane.Proofs.Layout.Boundary

/-!
# Room to the left of the grid and above it

A drawing is made as large as its figures need, but only to the right and downwards: to the
left and upwards there is what the badges take up and the padding of the cells.  Members
always keep within that.  A boundary does if the paddings of all boundaries around a node in
it fit into that together (`BoundaryFits`), because each boundary reaches one padding further
than what is in it; a badge does if it is not too large for the row or column in the middle
of which it is.
-/

namespace Swimlane

/-- The number of boundary groups among those around something, from the innermost up to the one
with a name. -/
def boundariesUpTo (c : Classification) (id : Text) (around : List Text) : Nat :=
  ((around.takeWhile (· ≠ id)).countP fun x => c.role? x = some .boundary) + 1

/-- The paddings of a boundary and of those within it fit into what there is to the left of the
members and above them. -/
def BoundaryFits (g : Graph) (c : Classification) (s : LayoutSettings Rat) (id : Text) : Prop :=
  ∀ n ∈ g.nodes, id ∈ g.enclosing n.groupId →
    s.grid.boundaryPadding * boundariesUpTo c id (g.enclosing n.groupId) ≤
        badgeSpace s Size.width c.lanes + s.grid.cellPadding ∧
      s.grid.boundaryPadding * boundariesUpTo c id (g.enclosing n.groupId) ≤
        badgeSpace s Size.height c.sections + s.grid.cellPadding

/-- The badges of lanes fit into rows of the least height, with what there is above them. -/
def LaneBadgesFit (c : Classification) (s : LayoutSettings Rat) : Prop :=
  s.grid.badgeHeight ≤ s.grid.minCellHeight + badgeSpace s Size.height c.sections * 2

/-- The badge of a section fits into a column of the least width, with what there is to the left
of it. -/
def SectionBadgeFits (c : Classification) (s : LayoutSettings Rat) (label : Text) : Prop :=
  (badgeSize s label).width ≤ s.grid.minCellWidth + badgeSpace s Size.width c.lanes * 2

instance (g : Graph) (c : Classification) (s : LayoutSettings Rat) (id : Text) :
    Decidable (BoundaryFits g c s id) :=
  inferInstanceAs (Decidable (∀ n ∈ g.nodes, _ → _))

instance (c : Classification) (s : LayoutSettings Rat) : Decidable (LaneBadgesFit c s) :=
  inferInstanceAs (Decidable (_ ≤ _))

instance (c : Classification) (s : LayoutSettings Rat) (label : Text) :
    Decidable (SectionBadgeFits c s label) :=
  inferInstanceAs (Decidable (_ ≤ _))

/-- The left upper corner of a box is on the canvas. -/
structure Box.BeginsWithin (b : Box Rat) : Prop where
  left : 0 ≤ b.x
  top : 0 ≤ b.y

variable {g : Graph} {c : Classification} {s : LayoutSettings Rat} {visits : List Visit}

/-! ## Members -/

theorem badgeSpace_nonneg (s : LayoutSettings Rat) (extent : Size Rat → Rat)
    (bands : List (Text × RoleInfo)) : 0 ≤ badgeSpace s extent bands :=
  Length.le_largest _ _

/-- A member is not nearer to the sides of the canvas than the padding of its cell and the
badges. -/
theorem le_corner_of_mem_members (hs : s.IsSensible) {ps : List Placement} {m : Figure Rat}
    (hm : m ∈ (makeGrid g c s ps).members g (nodeSizes g s)) :
    badgeSpace s Size.width c.lanes + s.grid.cellPadding ≤ m.box.x ∧
      badgeSpace s Size.height c.sections + s.grid.cellPadding ≤ m.box.y := by
  obtain ⟨cell, hcell, hm⟩ := List.mem_flatMap.1 hm
  obtain ⟨-, ⟨row, hrow, -, htop, -⟩, column, hcolumn, -, hleft, -⟩ :=
    exists_tracks_of_mem_cellMembers hs hcell hm
  have hx : badgeSpace s Size.width c.lanes ≤ column.start := (originX_le_column hs hcolumn).1
  have hy : badgeSpace s Size.height c.sections ≤ row.start := (originY_le_row hs hrow).1
  constructor <;> linarith

theorem beginsWithin_of_mem_members (hs : s.IsSensible) {ps : List Placement} {m : Figure Rat}
    (hm : m ∈ (makeGrid g c s ps).members g (nodeSizes g s)) : m.box.BeginsWithin := by
  obtain ⟨hx, hy⟩ := le_corner_of_mem_members hs hm
  have hwidth := badgeSpace_nonneg s Size.width c.lanes
  have hheight := badgeSpace_nonneg s Size.height c.sections
  have hpadding := hs.grid.cellPadding
  constructor <;> linarith

/-! ## Boundaries -/

/-- From something in a group, one more boundary is around it up to that of the group than around
a boundary that it is in. -/
theorem boundariesUpTo_around (hg : g.IsConsistent) {l : Located Rat} (hl : l.HasChain g)
    {inner id : Text} (hinner : inner ∈ l.around) (hrole : c.role? inner = some .boundary)
    (b : Bounds Rat) (hid : id ∈ (locateBoundary g inner b).around) :
    boundariesUpTo c id (locateBoundary g inner b).around + 1 ≤ boundariesUpTo c id l.around := by
  obtain ⟨front, hsplit⟩ := around_locateBoundary_suffix hg hl hinner b
  have hnodup : l.around.Nodup := by
    obtain ⟨start, hstart⟩ := hl
    rw [hstart]
    exact hg.nodup_enclosing start
  rw [← hsplit] at hnodup ⊢
  obtain ⟨-, hrest, hapart⟩ := List.nodup_append.1 hnodup
  have hfront : ∀ x ∈ front, decide (x ≠ id) = true := fun x hx =>
    decide_eq_true (hapart x hx id (List.mem_cons_of_mem _ hid))
  have hne : decide (inner ≠ id) = true :=
    decide_eq_true fun heq => (List.nodup_cons.1 hrest).1 (heq ▸ hid)
  rw [boundariesUpTo, boundariesUpTo, List.takeWhile_append_of_pos hfront,
    List.takeWhile_cons, if_pos hne, List.countP_append, List.countP_cons,
    if_pos (decide_eq_true hrole)]
  omega

/-- If something is in a group, there is a padding to the left of it, and above it, for every
boundary around it up to that of the group. -/
def Located.HasPaddings (c : Classification) (pad : Rat) (id : Text) (l : Located Rat) : Prop :=
  id ∈ l.around → pad * boundariesUpTo c id l.around ≤ l.bounds.left ∧
    pad * boundariesUpTo c id l.around ≤ l.bounds.top

/-- A boundary leaves of the room to the left and above what its padding does not take. -/
theorem le_corner_of_boundaryBounds {pad x : Rat} {drawn : List (Located Rat)} {id : Text}
    {b : Bounds Rat} (hb : boundaryBounds? pad drawn id = some b)
    (hdrawn : ∀ l ∈ drawn, id ∈ l.around → x + pad ≤ l.bounds.left ∧ x + pad ≤ l.bounds.top) :
    x ≤ b.left ∧ x ≤ b.top := by
  have hroom : (Bounds.mk x x b.right b.bottom).Encloses 0 b := by
    rw [encloses_boundaryBounds_iff hb, zero_add]
    intro l hl hid
    have hinside := encloses_of_boundaryBounds hb hl hid
    exact ⟨(hdrawn l hl hid).1, (hdrawn l hl hid).2, hinside.right, hinside.bottom⟩
  have hleft := hroom.left
  have htop := hroom.top
  rw [add_zero] at hleft htop
  exact ⟨hleft, htop⟩

section Paddings

variable {pad : Rat} {drawn : List (Located Rat)} {id : Text} (hg : g.IsConsistent)
  (hpad : 0 ≤ pad)

include hg hpad

/-- A boundary takes one of the paddings that there are for what is in it. -/
theorem hasPaddings_of_boundaryBounds
    (hdrawn : ∀ l ∈ drawn, l.HasChain g ∧ l.HasPaddings c pad id) {inner : Text}
    (hrole : c.role? inner = some .boundary) {b : Bounds Rat}
    (hb : boundaryBounds? pad drawn inner = some b) :
    (locateBoundary g inner b).HasPaddings c pad id := by
  intro hid
  refine le_corner_of_boundaryBounds hb fun l hl hinner => ?_
  obtain ⟨hchain, hpaddings⟩ := hdrawn l hl
  have hsuffix := around_locateBoundary_suffix hg hchain hinner b
  obtain ⟨hleft, htop⟩ := hpaddings (hsuffix.subset (List.mem_cons_of_mem _ hid))
  have hcount : (boundariesUpTo c id (locateBoundary g inner b).around : Rat) + 1 ≤
      boundariesUpTo c id l.around := by
    exact_mod_cast boundariesUpTo_around hg hchain hinner hrole b hid
  have hmore : pad * boundariesUpTo c id (locateBoundary g inner b).around + pad ≤
      pad * boundariesUpTo c id l.around := by
    calc pad * boundariesUpTo c id (locateBoundary g inner b).around + pad
        = pad * (boundariesUpTo c id (locateBoundary g inner b).around + 1) := by
          rw [mul_add, mul_one]
      _ ≤ pad * boundariesUpTo c id l.around := mul_le_mul_of_nonneg_left hcount hpad
  exact ⟨hmore.trans hleft, hmore.trans htop⟩

omit hg in
/-- In the end there is the padding of the boundary itself. -/
theorem corner_nonneg_of_boundaryBounds
    (hdrawn : ∀ l ∈ drawn, l.HasChain g ∧ l.HasPaddings c pad id) {b : Bounds Rat}
    (hb : boundaryBounds? pad drawn id = some b) : 0 ≤ b.left ∧ 0 ≤ b.top := by
  refine le_corner_of_boundaryBounds hb fun l hl hid => ?_
  obtain ⟨hleft, htop⟩ := (hdrawn l hl).2 hid
  have hone : pad ≤ pad * boundariesUpTo c id l.around := by
    refine le_mul_of_one_le_right hpad ?_
    rw [boundariesUpTo, Nat.cast_add, Nat.cast_one]
    exact le_add_of_nonneg_left (Nat.cast_nonneg _)
  rw [zero_add]
  exact ⟨hone.trans hleft, hone.trans htop⟩

end Paddings

/-- The members in a boundary that fits have their paddings. -/
theorem hasPaddings_of_boundaryFits (hg : g.IsConsistent) (hs : s.IsSensible) {id : Text}
    (hfits : BoundaryFits g c s id) {m : Figure Rat}
    (hm : m ∈ (makeGrid g c s (placements g c visits)).members g (nodeSizes g s)) :
    (locateMember g m).HasPaddings c s.grid.boundaryPadding id := by
  intro hid
  obtain ⟨hx, hy⟩ := le_corner_of_mem_members hs hm
  rw [← membersOf_ofVisits] at hm
  obtain ⟨n, hn, hnm⟩ := exists_node_of_member hg hm
  have haround : (locateMember g m).around = g.enclosing n.groupId := by
    rw [locateMember, ← hnm, Graph.node?_of_mem hg.node_ids hn]
    rfl
  rw [haround] at hid ⊢
  exact ⟨(hfits n hn hid).1.trans hx, (hfits n hn hid).2.trans hy⟩

/-- A boundary that fits begins on the canvas. -/
theorem IsBoundaryOf.beginsWithin (hg : g.IsConsistent) (hs : s.IsSensible) {f : Figure Rat}
    {id : Text} (hf : IsBoundaryOf g c s visits f id) (hfits : BoundaryFits g c s id) :
    f.box.BeginsWithin := by
  have hpad := hs.grid.boundaryPadding
  obtain ⟨drawn, hdrawn, hb⟩ := exists_drawn_of_mem_boundAll
    (P := fun l => l.HasChain g ∧ l.HasPaddings c s.grid.boundaryPadding id)
    (fun drawn inner hinner b hdrawn hb => ⟨hasChain_locateBoundary inner b,
      hasPaddings_of_boundaryBounds hg hpad hdrawn
        (role?_eq_some_iff.2 (mem_boundariesInsideOut.1 hinner)) hb⟩)
    (List.forall_mem_map.2 fun m hm =>
      ⟨hasChain_locateMember m, hasPaddings_of_boundaryFits hg hs hfits hm⟩) hf.exists_mem
  obtain ⟨hx, hy⟩ := corner_nonneg_of_boundaryBounds hpad hdrawn hb
  exact ⟨hx, hy⟩

/-! ## Badges -/

/-- A badge that fits begins on the canvas. -/
theorem beginsWithin_of_mem_badges (hs : s.IsSensible) {ps : List Placement} {f : Figure Rat}
    (hf : f ∈ badges c s (makeGrid g c s ps))
    (hlane : f.ornament = some .laneBadge → LaneBadgesFit c s)
    (hsection : f.ornament = some .sectionBadge → SectionBadgeFits c s f.label) :
    f.box.BeginsWithin := by
  rcases cases_of_mem_badges hf with ⟨lane, -, row, hrow, rfl⟩ | ⟨band, -, column, hcolumn, rfl⟩
  · obtain ⟨hstart, hsize⟩ := originY_le_row hs hrow
    have hheight : s.grid.badgeHeight ≤
        s.grid.minCellHeight + (makeGrid g c s ps).originY * 2 := hlane rfl
    refine ⟨le_refl 0, ?_⟩
    show 0 ≤ row.start + (row.size - s.grid.badgeHeight) / 2
    linarith
  · obtain ⟨hstart, hsize⟩ := originX_le_column hs hcolumn
    have hwidth : (badgeSize s band.2.badgeLabel).width ≤
        s.grid.minCellWidth + (makeGrid g c s ps).originX * 2 := hsection rfl
    refine ⟨?_, le_refl 0⟩
    show 0 ≤ column.start + (column.size - (badgeSize s band.2.badgeLabel).width) / 2
    linarith

/-! ## Drawings -/

/-- Whatever kind it is of, a figure of a drawing begins on the canvas if it fits. -/
theorem beginsWithin_of_mem_ofVisits (hg : g.IsConsistent) (hs : s.IsSensible) {f : Figure Rat}
    (hf : f ∈ (Drawing.ofVisits g c s visits).figures)
    (hlane : f.ornament = some .laneBadge → LaneBadgesFit c s)
    (hsection : f.ornament = some .sectionBadge → SectionBadgeFits c s f.label)
    (hboundary : ∀ id, IsBoundaryOf g c s visits f id → BoundaryFits g c s id) :
    f.box.BeginsWithin := by
  rcases List.mem_append.1 hf with hrest | hbadge
  · rcases List.mem_append.1 hrest with hown | hmember
    · obtain ⟨own, hown⟩ := exists_own_of_mem hown
      have hf' : IsBoundaryOf g c s visits f own.id := ⟨own, hown, rfl⟩
      exact hf'.beginsWithin hg hs (hboundary _ hf')
    · exact beginsWithin_of_mem_members hs hmember
  · obtain ⟨before, hbefore, others, rfl⟩ := exists_of_mem_withFreshIds hbadge
    exact beginsWithin_of_mem_badges (f := before) hs hbefore hlane hsection

end Swimlane
