import Mathlib.Tactic.Ring
import Swimlane.Layout.Cell
import Swimlane.Proofs.Layout.Grid
import Swimlane.Proofs.Length

/-!
# The geometry of a cell

Things that are put one after another stay apart by the gap between them and within their
span.  So the nodes of one rank stand one after another across the flow and the ranks along
it; measuring from the other end and exchanging the axes keeps them in the direction of the
flow, and every node lies within the extents of its cell (`layCell_within`,
`layCell_pairwise`).
-/

namespace Swimlane

/-! ## Lengths one after another -/

theorem span_singleton (gap x : Rat) : span gap [x] = x := by
  simp [span, Length.sum_eq]

theorem span_cons_cons (gap x y : Rat) (rest : List Rat) :
    span gap (x :: y :: rest) = x + gap + span gap (y :: rest) := by
  simp only [span, Length.sum_eq, Length.times_eq, List.sum_cons, List.length_cons,
    Nat.add_sub_cancel]
  push_cast
  ring

section InOrder

variable {β : Type} {size : β → Rat} {gap : Rat} (hgap : 0 ≤ gap)

include hgap

theorem span_nonneg {xs : List Rat} (h : ∀ x ∈ xs, 0 ≤ x) : 0 ≤ span gap xs := by
  rw [span, Length.sum_eq, Length.times_eq]
  have hsum := List.sum_nonneg h
  have htimes : 0 ≤ gap * ((xs.length - 1 : Nat) : Rat) := mul_nonneg hgap (Nat.cast_nonneg _)
  linarith

/-- Each of the things lies within the span of all. -/
theorem mem_zipWith_offsets {γ : Type} {place : β → Rat → γ} {things : List β}
    (hsize : ∀ b ∈ things, 0 ≤ size b) {origin : Rat} {placed : γ}
    (h : placed ∈ List.zipWith place things (offsets gap origin (things.map size))) :
    ∃ b ∈ things, ∃ start, placed = place b start ∧ origin ≤ start ∧
      start + size b ≤ origin + span gap (things.map size) := by
  induction things generalizing origin with
  | nil => exact absurd h List.not_mem_nil
  | cons first rest ih =>
    have hfirst := hsize first List.mem_cons_self
    have hrest : ∀ b ∈ rest, 0 ≤ size b := fun b hb => hsize b (List.mem_cons_of_mem first hb)
    have hspan : 0 ≤ span gap (rest.map size) := by
      refine span_nonneg hgap fun x hx => ?_
      obtain ⟨b, hb, rfl⟩ := List.mem_map.1 hx
      exact hrest b hb
    rw [List.map_cons, offsets, List.zipWith_cons_cons] at h
    rcases List.mem_cons.1 h with rfl | h
    · refine ⟨first, List.mem_cons_self, origin, rfl, le_refl origin, ?_⟩
      cases rest with
      | nil => rw [List.map_cons, List.map_nil, span_singleton]
      | cons second rest =>
        rw [List.map_cons, List.map_cons, span_cons_cons]
        rw [List.map_cons] at hspan
        linarith
    · obtain ⟨b, hb, start, hplaced, hstart, hend⟩ := ih hrest h
      refine ⟨b, List.mem_cons_of_mem first hb, start, hplaced, by linarith, ?_⟩
      cases rest with
      | nil => exact absurd hb List.not_mem_nil
      | cons second rest =>
        rw [List.map_cons, List.map_cons, span_cons_cons]
        rw [List.map_cons] at hend
        linarith

/-- Things that are related stay so in their places, if the relation of the places only asks
that one ends by a gap before the other begins. -/
theorem pairwise_zipWith_offsets {γ : Type} {place : β → Rat → γ} {Q : β → β → Prop}
    {R : γ → γ → Prop} {things : List β} (hsize : ∀ b ∈ things, 0 ≤ size b)
    (hthings : things.Pairwise Q) (origin : Rat)
    (hR : ∀ a b p q, Q a b → p + size a + gap ≤ q → R (place a p) (place b q)) :
    (List.zipWith place things (offsets gap origin (things.map size))).Pairwise R := by
  induction things generalizing origin with
  | nil => exact List.Pairwise.nil
  | cons first rest ih =>
    have hrest : ∀ b ∈ rest, 0 ≤ size b := fun b hb => hsize b (List.mem_cons_of_mem first hb)
    obtain ⟨hfirst, hothers⟩ := List.pairwise_cons.1 hthings
    rw [List.map_cons, offsets, List.zipWith_cons_cons]
    refine List.pairwise_cons.2 ⟨fun placed hplaced => ?_, ih hrest hothers _⟩
    obtain ⟨b, hb, start, rfl, hstart, -⟩ := mem_zipWith_offsets hgap hrest hplaced
    refine hR first b origin start (hfirst b hb) ?_
    linarith

end InOrder

/-! ## Boxes apart -/

/-- One box ends at least `gap` before the other begins, from left to right. -/
def Box.SpacedX (gap : Rat) (a b : Box Rat) : Prop := a.right + gap ≤ b.x ∨ b.right + gap ≤ a.x

/-- One box ends at least `gap` before the other begins, from top to bottom. -/
def Box.SpacedY (gap : Rat) (a b : Box Rat) : Prop := a.bottom + gap ≤ b.y ∨ b.bottom + gap ≤ a.y

/-- The boxes are at least `gap` apart along the flow. -/
def Direction.SpacedAlong (d : Direction) (gap : Rat) (a b : Box Rat) : Prop :=
  if d.isHorizontal then a.SpacedX gap b else a.SpacedY gap b

/-- The boxes are at least `gap` apart across the flow. -/
def Direction.SpacedAcross (d : Direction) (gap : Rat) (a b : Box Rat) : Prop :=
  if d.isHorizontal then a.SpacedY gap b else a.SpacedX gap b

/-- The second box begins at least `gap` after the end of the first, in the direction of the
flow. -/
def Direction.BeforeAlong (d : Direction) (gap : Rat) (a b : Box Rat) : Prop :=
  match d with
  | .leftRight => a.right + gap ≤ b.x
  | .rightLeft => b.right + gap ≤ a.x
  | .topDown => a.bottom + gap ≤ b.y
  | .bottomTop => b.bottom + gap ≤ a.y

/-- The second box begins at least `gap` after the end of the first, across the flow. -/
def Direction.BeforeAcross (d : Direction) (gap : Rat) (a b : Box Rat) : Prop :=
  if d.isHorizontal then a.bottom + gap ≤ b.y else a.right + gap ≤ b.x

theorem Direction.BeforeAlong.spacedAlong {d : Direction} {gap : Rat} {a b : Box Rat}
    (h : d.BeforeAlong gap a b) : d.SpacedAlong gap a b := by
  cases d with
  | leftRight => exact Or.inl h
  | rightLeft => exact Or.inr h
  | topDown => exact Or.inl h
  | bottomTop => exact Or.inr h

theorem Direction.BeforeAcross.spacedAcross {d : Direction} {gap : Rat} {a b : Box Rat}
    (h : d.BeforeAcross gap a b) : d.SpacedAcross gap a b := by
  unfold BeforeAcross at h
  unfold SpacedAcross
  split at h
  · next hd =>
    rw [if_pos hd]
    exact Or.inl h
  · next hd =>
    rw [if_neg hd]
    exact Or.inl h

theorem Direction.BeforeAcross.mono {d : Direction} {gap gap' : Rat} {a b : Box Rat}
    (h : d.BeforeAcross gap a b) (hgap : gap' ≤ gap) : d.BeforeAcross gap' a b := by
  unfold BeforeAcross at h ⊢
  split at h
  · next hd =>
    rw [if_pos hd]
    linarith
  · next hd =>
    rw [if_neg hd]
    linarith

/-- The box of a node at its place in a cell. -/
def Spot.box (sizeOf : Text → Size Rat) (spot : Spot Rat) : Box Rat :=
  ⟨spot.x, spot.y, (sizeOf spot.id).width, (sizeOf spot.id).height⟩

/-- The box lies between the left upper corner of a cell and its size. -/
structure Box.IsWithin (b : Box Rat) (size : Size Rat) : Prop where
  left : 0 ≤ b.x
  right : b.right ≤ size.width
  top : 0 ≤ b.y
  bottom : b.bottom ≤ size.height

section Axes

variable (d : Direction) (sizeOf : Text → Size Rat) {a b : Text} {main main' cross cross' : Rat}

/-- Measured from the other end, the nodes of a cell stand one after another in the direction of
the flow. -/
theorem beforeAlong_spot {gap total : Rat} :
    d.BeforeAlong gap
        ((d.spot a (d.along total main (d.extents (sizeOf a)).main) cross).box sizeOf)
        ((d.spot b (d.along total main' (d.extents (sizeOf b)).main) cross').box sizeOf) ↔
      main + (d.extents (sizeOf a)).main + gap ≤ main' := by
  cases d with
  | leftRight => exact Iff.rfl
  | topDown => exact Iff.rfl
  | rightLeft =>
    show total - main' - (sizeOf b).width + (sizeOf b).width + gap ≤
      total - main - (sizeOf a).width ↔ main + (sizeOf a).width + gap ≤ main'
    constructor <;> intro h <;> linarith
  | bottomTop =>
    show total - main' - (sizeOf b).height + (sizeOf b).height + gap ≤
      total - main - (sizeOf a).height ↔ main + (sizeOf a).height + gap ≤ main'
    constructor <;> intro h <;> linarith

theorem beforeAcross_spot {gap : Rat} :
    d.BeforeAcross gap ((d.spot a main cross).box sizeOf) ((d.spot b main' cross').box sizeOf) ↔
      cross + (d.extents (sizeOf a)).cross + gap ≤ cross' := by
  unfold Direction.BeforeAcross Direction.spot Direction.extents
  split <;> exact Iff.rfl

theorem isWithin_spot {total : Extents Rat} (hmain : 0 ≤ main)
    (hmainEnd : main + (d.extents (sizeOf a)).main ≤ total.main) (hcross : 0 ≤ cross)
    (hcrossEnd : cross + (d.extents (sizeOf a)).cross ≤ total.cross) :
    ((d.spot a main cross).box sizeOf).IsWithin (d.size total) := by
  unfold Direction.extents at hmainEnd hcrossEnd
  unfold Direction.spot Direction.size
  by_cases hd : d.isHorizontal = true
  · simp only [hd, if_true] at hmainEnd hcrossEnd ⊢
    exact ⟨hmain, hmainEnd, hcross, hcrossEnd⟩
  · simp only [hd, Bool.false_eq_true, if_false] at hmainEnd hcrossEnd ⊢
    exact ⟨hcross, hcrossEnd, hmain, hmainEnd⟩

/-- Measured from the other end, what was within the total still is. -/
theorem along_within {total extent : Rat} (hmain : 0 ≤ main) (hend : main + extent ≤ total) :
    0 ≤ d.along total main extent ∧ d.along total main extent + extent ≤ total := by
  unfold Direction.along
  split
  · constructor <;> linarith
  · exact ⟨hmain, hend⟩

end Axes

/-! ## Ranks -/

/-- A rank with the extents of its nodes. -/
def rankRow (d : Direction) (sizeOf : Text → Size Rat) (rank : List Text) : RankRow Rat :=
  rank.map fun id => (id, d.extents (sizeOf id))

section Ranks

variable {d : Direction} {sizeOf : Text → Size Rat}
  (hsize : ∀ id, 0 ≤ (sizeOf id).width ∧ 0 ≤ (sizeOf id).height)

include hsize

theorem extents_nonneg (d : Direction) (id : Text) :
    0 ≤ (d.extents (sizeOf id)).main ∧ 0 ≤ (d.extents (sizeOf id)).cross := by
  unfold Direction.extents
  split
  · exact hsize id
  · exact (hsize id).symm

/-- A node of a rank lies within the rank along the flow, and within its breadth across the
flow. -/
theorem mem_spots_rankRow {gap : Rat} (hgap : 0 ≤ gap) {total : Extents Rat} {start : Rat}
    {rank : List Text} {spot : Spot Rat}
    (h : spot ∈ (rankRow d sizeOf rank).spots d gap total start) :
    ∃ id ∈ rank, ∃ main cross,
      spot = d.spot id (d.along total.main main (d.extents (sizeOf id)).main) cross ∧
      (start ≤ main ∧ main + (d.extents (sizeOf id)).main ≤ start + (rankRow d sizeOf rank).depth) ∧
      (total.cross - (rankRow d sizeOf rank).breadth gap) / 2 ≤ cross ∧
      cross + (d.extents (sizeOf id)).cross ≤
        (total.cross + (rankRow d sizeOf rank).breadth gap) / 2 := by
  have hcross : ∀ node ∈ rankRow d sizeOf rank, 0 ≤ node.2.cross := by
    intro node hnode
    obtain ⟨id, -, rfl⟩ := List.mem_map.1 hnode
    exact (extents_nonneg hsize d id).2
  obtain ⟨node, hnode, cross, rfl, hstart, hend⟩ := mem_zipWith_offsets hgap hcross h
  have hdepth : node.2.main ≤ (rankRow d sizeOf rank).depth :=
    Length.le_largest_of_mem _ (List.mem_map.2 ⟨node, hnode, rfl⟩)
  obtain ⟨id, hid, rfl⟩ := List.mem_map.1 hnode
  rw [Length.half_eq] at hstart hend
  have hbreadth : span gap (List.map (fun node => node.2.cross) (rankRow d sizeOf rank)) =
      (rankRow d sizeOf rank).breadth gap := rfl
  rw [hbreadth] at hend
  refine ⟨id, hid, _, cross, rfl, ⟨?_, ?_⟩, hstart, ?_⟩
  · rw [Length.half_eq]
    linarith
  · rw [Length.half_eq]
    linarith
  · linarith

/-- The nodes of a rank stand one after another across the flow. -/
theorem pairwise_spots_rankRow {gap : Rat} (hgap : 0 ≤ gap) (total : Extents Rat) (start : Rat)
    (rank : List Text) : ((rankRow d sizeOf rank).spots d gap total start).Pairwise fun a b =>
      d.BeforeAcross gap (a.box sizeOf) (b.box sizeOf) := by
  have hnodes : (rankRow d sizeOf rank).Pairwise fun a b =>
      a.2 = d.extents (sizeOf a.1) ∧ b.2 = d.extents (sizeOf b.1) := by
    rw [rankRow, List.pairwise_map]
    exact List.pairwise_of_forall fun _ _ => ⟨rfl, rfl⟩
  have hcross : ∀ node ∈ rankRow d sizeOf rank, 0 ≤ node.2.cross := by
    intro node hnode
    obtain ⟨id, -, rfl⟩ := List.mem_map.1 hnode
    exact (extents_nonneg hsize d id).2
  refine pairwise_zipWith_offsets hgap hcross hnodes _ fun a b p q hab hpq => ?_
  rw [beforeAcross_spot, ← hab.1]
  exact hpq

/-! ## Cells -/

variable {s : LayoutSettings Rat}

/-- The extents of a cell with these ranks. -/
def cellExtents (d : Direction) (s : LayoutSettings Rat) (sizeOf : Text → Size Rat)
    (ranks : List (List Text)) : Extents Rat :=
  ⟨span s.rankSpacing (ranks.map fun rank => (rankRow d sizeOf rank).depth),
    Length.largest 0 (ranks.map fun rank => (rankRow d sizeOf rank).breadth s.nodeSpacing)⟩

omit hsize in
theorem size_layCell (edges : List Edge) (members : List Text) :
    (layCell d s edges sizeOf members).size =
      d.size (cellExtents d s sizeOf (cellRanks s.orderPasses edges members)) := by
  simp only [layCell, layRanks, cellExtents, List.map_map]
  rfl

omit hsize in
theorem spots_layCell (edges : List Edge) (members : List Text) :
    (layCell d s edges sizeOf members).spots =
      (List.zipWith (fun rank start => (rankRow d sizeOf rank).spots d s.nodeSpacing
          (cellExtents d s sizeOf (cellRanks s.orderPasses edges members)) start)
        (cellRanks s.orderPasses edges members)
        (offsets s.rankSpacing 0 ((cellRanks s.orderPasses edges members).map fun rank =>
          (rankRow d sizeOf rank).depth))).flatten := by
  rw [List.zipWith_comm]
  simp only [layCell, layRanks, cellExtents, List.map_map, List.zipWith_map_right]
  rfl

omit hsize in
theorem depth_nonneg (rank : List Text) : 0 ≤ (rankRow d sizeOf rank).depth :=
  Length.le_largest _ _

/-- Every member of a cell lies within the cell. -/
theorem layCell_within (hnode : 0 ≤ s.nodeSpacing) (hrank : 0 ≤ s.rankSpacing)
    (edges : List Edge) (members : List Text) :
    ∀ spot ∈ (layCell d s edges sizeOf members).spots,
      (spot.box sizeOf).IsWithin (layCell d s edges sizeOf members).size := by
  intro spot hspot
  rw [spots_layCell] at hspot
  rw [size_layCell]
  obtain ⟨spots, hspots, hspot⟩ := List.mem_flatten.1 hspot
  obtain ⟨rank, hmem, start, rfl, hstart, hend⟩ :=
    mem_zipWith_offsets hrank (fun rank _ => depth_nonneg rank) hspots
  obtain ⟨id, -, main, cross, rfl, hmain, hcross, hcrossEnd⟩ :=
    mem_spots_rankRow hsize hnode hspot
  have hbreadth : (rankRow d sizeOf rank).breadth s.nodeSpacing ≤
      (cellExtents d s sizeOf (cellRanks s.orderPasses edges members)).cross :=
    Length.le_largest_of_mem 0 (List.mem_map.2 ⟨rank, hmem, rfl⟩)
  have htotal : (cellExtents d s sizeOf (cellRanks s.orderPasses edges members)).main =
      span s.rankSpacing ((cellRanks s.orderPasses edges members).map fun rank =>
        (rankRow d sizeOf rank).depth) := rfl
  rw [← htotal] at hend
  have halong := along_within d (by linarith : 0 ≤ main)
    (by linarith : main + (d.extents (sizeOf id)).main ≤ _)
  exact isWithin_spot d sizeOf halong.1 halong.2 (by linarith) (by linarith)

/-- The members of a cell stand one after another: across the flow if they have one rank, and
else along the flow. -/
theorem layCell_pairwise (hnode : 0 ≤ s.nodeSpacing) (hrank : 0 ≤ s.rankSpacing)
    (edges : List Edge) (members : List Text) :
    (layCell d s edges sizeOf members).spots.Pairwise fun a b =>
      (rankIn edges members a.id = rankIn edges members b.id ∧
        d.BeforeAcross s.nodeSpacing (a.box sizeOf) (b.box sizeOf)) ∨
      (rankIn edges members a.id < rankIn edges members b.id ∧
        d.BeforeAlong s.rankSpacing (a.box sizeOf) (b.box sizeOf)) := by
  rw [spots_layCell, List.pairwise_flatten]
  refine ⟨fun spots hspots => ?_, ?_⟩
  · -- one rank
    obtain ⟨rank, hmem, start, rfl, -, -⟩ :=
      mem_zipWith_offsets hrank (fun rank _ => depth_nonneg rank) hspots
    refine (pairwise_spots_rankRow hsize hnode _ start rank).imp_of_mem ?_
    intro a b ha hb hacross
    obtain ⟨id, hid, _, _, rfl, -⟩ := mem_spots_rankRow hsize hnode ha
    obtain ⟨id', hid', _, _, rfl, -⟩ := mem_spots_rankRow hsize hnode hb
    refine Or.inl ⟨?_, hacross⟩
    rw [id_spot, id_spot]
    exact rankIn_eq_of_mem hmem hid hid'
  · -- two ranks
    refine pairwise_zipWith_offsets hrank (fun rank _ => depth_nonneg rank)
      (cellRanks_pairwise s.orderPasses edges members) 0 ?_
    intro upper lower p q hranks hpq a ha b hb
    obtain ⟨id, hid, main, _, rfl, ⟨-, hend⟩, -⟩ := mem_spots_rankRow hsize hnode ha
    obtain ⟨id', hid', main', _, rfl, ⟨hstart, -⟩, -⟩ := mem_spots_rankRow hsize hnode hb
    refine Or.inr ⟨?_, (beforeAlong_spot d sizeOf).2 (by linarith)⟩
    rw [id_spot, id_spot]
    exact hranks id hid id' hid'

end Ranks

end Swimlane
