import Mathlib.Data.List.Forall2
import Swimlane.Proofs.Classification
import Swimlane.Proofs.Layout.Apart
import Swimlane.Proofs.Layout.Slots

/-!
# The bands of the grid follow the flowchart

The rows of a grid stand one below the other in the order of their bands, the lanes by their
numbers and then what is in no lane; the columns stand side by side, what is in no section
first (`rows_inOrder`, `columns_inOrder`).  A member lies in the row of its lane and in the
column of its section, so the order of the bands is that of the members.  The badges stand
before the grid, one for every band, each in the middle of it.
-/

namespace Swimlane

/-! ## One before the other -/

section Order

variable {β : Type} {R : β → β → Prop} {l : List β} {a b : β}

/-- Of two things in a list that are related only one way round, one stands before the other. -/
theorem pair_sublist_of_pairwise (hl : l.Pairwise R) (ha : a ∈ l) (hb : b ∈ l) (hne : a ≠ b)
    (hba : ¬R b a) : [a, b].Sublist l := by
  obtain ⟨front, back, rfl⟩ := List.append_of_mem ha
  rw [List.mem_append, List.mem_cons] at hb
  rcases hb with hfront | rfl | hback
  · exact absurd ((List.pairwise_append.1 hl).2.2 b hfront a List.mem_cons_self) hba
  · exact absurd rfl hne
  · have hrest : [b].Sublist back := List.singleton_sublist.2 hback
    exact (hrest.cons_cons a).trans (List.sublist_append_right front (a :: back))

/-- What stands before another by a key that does not repeat is related to it. -/
theorem rel_of_pair_sublist {γ : Type} (key : β → γ) (hkeys : (l.map key).Nodup)
    (hl : l.Pairwise R) (ha : a ∈ l) (hb : b ∈ l) (h : [key a, key b].Sublist (l.map key)) :
    R a b := by
  obtain ⟨pair, hpair, heq⟩ := List.sublist_map_iff.1 h
  obtain ⟨a', rest, rfl, hkeyA, hrest⟩ := List.map_eq_cons_iff.1 heq.symm
  obtain ⟨b', rest', rfl, hkeyB, hnil⟩ := List.map_eq_cons_iff.1 hrest
  have hsameA : a' = a :=
    List.inj_on_of_nodup_map hkeys (hpair.subset List.mem_cons_self) ha hkeyA
  have hmemB : b' ∈ l := hpair.subset (List.mem_cons_of_mem _ List.mem_cons_self)
  have hsameB : b' = b := List.inj_on_of_nodup_map hkeys hmemB hb hkeyB
  rw [← hsameA, ← hsameB]
  exact (List.pairwise_cons.1 (hl.sublist hpair)).1 b' List.mem_cons_self

/-- Things with the same keys in the same order have the same key in pairs. -/
theorem key_eq_of_mem_zip {γ δ : Type} (key : β → γ) {other : δ → γ} {l' : List δ}
    (h : l.map key = l'.map other) {pair : β × δ} (hpair : pair ∈ l.zip l') :
    key pair.1 = other pair.2 := by
  have hsame : List.Forall₂ (· = ·) (l.map key) (l'.map other) := by
    rw [h]
    exact List.forall₂_same.2 fun _ _ => rfl
  have hpairs := List.forall₂_map_right_iff.1 (List.forall₂_map_left_iff.1 hsame)
  exact (List.forall₂_iff_zip.1 hpairs).2 hpair

end Order

/-! ## The order of the bands -/

variable {c : Classification}

/-- A group with a smaller number stands before one of the same role with a larger one. -/
theorem pair_sublist_withRole {role : Role} {entry other : Text × RoleInfo}
    (hentry : entry ∈ c.withRole role) (hother : other ∈ c.withRole role)
    (hlt : entry.2.index < other.2.index) : [entry, other].Sublist (c.withRole role) := by
  apply pair_sublist_of_pairwise (c.withRole_pairwise role) hentry hother
  · intro heq
    rw [heq] at hlt
    exact absurd hlt (Nat.lt_irrefl _)
  · exact Nat.not_le.2 hlt

section Keys

variable {ps : List Placement} {entry other : Text × RoleInfo}

/-- The row of a lane stands before that of a lane with a larger number. -/
theorem pair_sublist_rowBands (hentry : entry ∈ c.lanes) (hother : other ∈ c.lanes)
    (hlt : entry.2.index < other.2.index) :
    [some entry.1, some other.1].Sublist (rowBands c ps) := by
  have hlanes := (pair_sublist_withRole hentry hother hlt).map fun lane => some lane.1
  exact hlanes.trans (List.sublist_append_left _ _)

/-- The column of a section stands before that of a section with a larger number. -/
theorem pair_sublist_columnBands (hentry : entry ∈ c.sections) (hother : other ∈ c.sections)
    (hlt : entry.2.index < other.2.index) :
    [some entry.1, some other.1].Sublist (columnBands c ps) := by
  have hsections := (pair_sublist_withRole hentry hother hlt).map fun band => some band.1
  exact hsections.trans (List.sublist_append_right _ _)

/-- The row outside of the lanes stands behind that of every lane. -/
theorem lane_none_sublist_rowBands {id : Text} (hid : some id ∈ rowBands c ps)
    (hnone : none ∈ rowBands c ps) : [some id, none].Sublist (rowBands c ps) := by
  rw [rowBands, List.mem_append] at hid hnone
  have hlane : some id ∈ c.lanes.map (some ·.1) := by
    refine hid.resolve_right fun hmem => ?_
    split at hmem
    · cases List.mem_singleton.1 hmem
    · cases hmem
  have hrest := hnone.resolve_left fun hmem => by
    obtain ⟨lane, -, heq⟩ := List.mem_map.1 hmem
    cases heq
  rw [rowBands]
  exact (List.singleton_sublist.2 hlane).append (List.singleton_sublist.2 hrest)

/-- The column outside of the sections stands before that of every section. -/
theorem none_section_sublist_columnBands {id : Text} (hid : some id ∈ columnBands c ps)
    (hnone : none ∈ columnBands c ps) : [none, some id].Sublist (columnBands c ps) := by
  rw [columnBands, List.mem_append] at hid hnone
  have hsection : some id ∈ c.sections.map (some ·.1) := by
    refine hid.resolve_left fun hmem => ?_
    split at hmem
    · cases List.mem_singleton.1 hmem
    · cases hmem
  have hfirst := hnone.resolve_right fun hmem => by
    obtain ⟨band, -, heq⟩ := List.mem_map.1 hmem
    cases heq
  rw [columnBands]
  exact (List.singleton_sublist.2 hfirst).append (List.singleton_sublist.2 hsection)

end Keys

/-! ## The order of the rows and columns -/

/-- The tracks stand one after another, with a gap between them. -/
theorem pairwise_makeTracks {gap least padding : Rat} (hgap : 0 ≤ gap) (hleast : 0 ≤ least)
    (origin : Rat) (contents : Option Text → List Rat) (keys : List (Option Text)) :
    (makeTracks gap origin (fittingBands least padding contents keys)).Pairwise fun a b =>
      a.finish + gap ≤ b.start := by
  apply pairwise_zipWith_offsets hgap (fittingBands_nonneg hleast) (Q := fun _ _ => True)
  · exact List.pairwise_of_forall fun _ _ => trivial
  · intro a b p q _ hpq
    exact hpq

section Tracks

variable {g : Graph} {s : LayoutSettings Rat} {ps : List Placement} (hs : s.IsSensible)

include hs

/-- A row lies above another if its band stands before that of the other. -/
theorem rows_inOrder {a b : Track Rat} (ha : a ∈ (makeGrid g c s ps).rows)
    (hb : b ∈ (makeGrid g c s ps).rows) (h : [a.band, b.band].Sublist (rowBands c ps)) :
    a.finish + s.grid.rowGap ≤ b.start := by
  have hbands := map_band_rows g c s ps
  have hpairs : (makeGrid g c s ps).rows.Pairwise fun a b =>
      a.finish + s.grid.rowGap ≤ b.start := by
    rw [rows_makeGrid]
    exact pairwise_makeTracks hs.grid.rowGap hs.grid.minCellHeight _ _ _
  apply rel_of_pair_sublist Track.band _ hpairs ha hb
  · rw [hbands]
    exact h
  · rw [hbands]
    exact rowBands_nodup c ps

/-- A column lies to the left of another if its band stands before that of the other. -/
theorem columns_inOrder {a b : Track Rat} (ha : a ∈ (makeGrid g c s ps).columns)
    (hb : b ∈ (makeGrid g c s ps).columns) (h : [a.band, b.band].Sublist (columnBands c ps)) :
    a.finish + s.grid.columnGap ≤ b.start := by
  have hbands := map_band_columns g c s ps
  have hpairs : (makeGrid g c s ps).columns.Pairwise fun a b =>
      a.finish + s.grid.columnGap ≤ b.start := by
    rw [columns_makeGrid]
    exact pairwise_makeTracks hs.grid.columnGap hs.grid.minCellWidth _ _ _
  apply rel_of_pair_sublist Track.band _ hpairs ha hb
  · rw [hbands]
    exact h
  · rw [hbands]
    exact columnBands_nodup c ps

/-! ## Members in their bands -/

/-- A member lies in the row of its lane. -/
theorem exists_row_of_mem_members {m : Figure Rat}
    (hm : m ∈ (makeGrid g c s ps).members g (nodeSizes g s)) :
    ∃ row ∈ (makeGrid g c s ps).rows, row.band = m.laneId ∧ row.start ≤ m.box.y ∧
      m.box.bottom ≤ row.finish := by
  obtain ⟨cell, hcell, hm⟩ := List.mem_flatMap.1 hm
  obtain ⟨hslot, ⟨row, hrow, hband, htop, hbottom⟩, -⟩ :=
    exists_tracks_of_mem_cellMembers hs hcell hm
  have hpadding := hs.grid.cellPadding
  refine ⟨row, hrow, ?_, by linarith, by linarith⟩
  rw [hband, ← hslot]
  rfl

/-- A member lies in the column of its section. -/
theorem exists_column_of_mem_members {m : Figure Rat}
    (hm : m ∈ (makeGrid g c s ps).members g (nodeSizes g s)) :
    ∃ column ∈ (makeGrid g c s ps).columns, column.band = m.sectionId ∧
      column.start ≤ m.box.x ∧ m.box.right ≤ column.finish := by
  obtain ⟨cell, hcell, hm⟩ := List.mem_flatMap.1 hm
  obtain ⟨hslot, -, column, hcolumn, hband, hleft, hright⟩ :=
    exists_tracks_of_mem_cellMembers hs hcell hm
  have hpadding := hs.grid.cellPadding
  refine ⟨column, hcolumn, ?_, by linarith, by linarith⟩
  rw [hband, ← hslot]
  rfl

/-- A member lies above another if its lane stands before that of the other. -/
theorem above_of_pair_sublist {a b : Figure Rat}
    (ha : a ∈ (makeGrid g c s ps).members g (nodeSizes g s))
    (hb : b ∈ (makeGrid g c s ps).members g (nodeSizes g s))
    (h : [a.laneId, b.laneId].Sublist (rowBands c ps)) :
    a.box.bottom + s.grid.rowGap ≤ b.box.y := by
  obtain ⟨row, hrow, hband, -, hbottom⟩ := exists_row_of_mem_members hs ha
  obtain ⟨row', hrow', hband', htop', -⟩ := exists_row_of_mem_members hs hb
  rw [← hband, ← hband'] at h
  have hrows := rows_inOrder hs hrow hrow' h
  linarith

/-- A member lies to the left of another if its section stands before that of the other. -/
theorem leftOf_of_pair_sublist {a b : Figure Rat}
    (ha : a ∈ (makeGrid g c s ps).members g (nodeSizes g s))
    (hb : b ∈ (makeGrid g c s ps).members g (nodeSizes g s))
    (h : [a.sectionId, b.sectionId].Sublist (columnBands c ps)) :
    a.box.right + s.grid.columnGap ≤ b.box.x := by
  obtain ⟨column, hcolumn, hband, -, hright⟩ := exists_column_of_mem_members hs ha
  obtain ⟨column', hcolumn', hband', hleft', -⟩ := exists_column_of_mem_members hs hb
  rw [← hband, ← hband'] at h
  have hcolumns := columns_inOrder hs hcolumn hcolumn' h
  linarith

end Tracks

/-! ## The tracks of the badges -/

/-- The tracks that have a band are those of the bands. -/
theorem map_band_filter_isSome {tracks : List (Track Rat)} {keys : List (Option Text)}
    (h : tracks.map (·.band) = keys) :
    (tracks.filter (·.band.isSome)).map (·.band) = keys.filter Option.isSome := by
  rw [← h, List.filter_map]
  rfl

/-- Every group with a role has a band. -/
theorem filter_isSome_entries (entries : List (Text × RoleInfo)) :
    (entries.map fun entry => some entry.1).filter Option.isSome =
      entries.map fun entry => some entry.1 := by
  refine List.filter_eq_self.2 fun band hband => ?_
  obtain ⟨entry, -, rfl⟩ := List.mem_map.1 hband
  rfl

section Grid

variable {g : Graph} {s : LayoutSettings Rat} {ps : List Placement}

/-- The rows with a lane are those of the lanes. -/
theorem map_band_laneRows : ((makeGrid g c s ps).rows.filter (·.band.isSome)).map (·.band) =
    c.lanes.map (some ·.1) := by
  rw [map_band_filter_isSome (map_band_rows g c s ps), rowBands, List.filter_append,
    filter_isSome_entries]
  split
  · exact List.append_nil _
  · exact List.append_nil _

/-- The columns with a section are those of the sections. -/
theorem map_band_sectionColumns :
    ((makeGrid g c s ps).columns.filter (·.band.isSome)).map (·.band) =
      c.sections.map (some ·.1) := by
  rw [map_band_filter_isSome (map_band_columns g c s ps), columnBands, List.filter_append,
    filter_isSome_entries]
  split
  · exact List.nil_append _
  · exact List.nil_append _

end Grid

/-! ## Badges among the figures -/

section Kinds

variable {α : Type} {kind : Ornament} {figures : List (Figure α)}

/-- A figure without its name. -/
def Figure.unnamed (f : Figure α) : Figure α := { f with id := [] }

theorem map_unnamed_figuresOf (kind : Ornament) (figures : List (Figure α)) :
    (figuresOf kind figures).map Figure.unnamed = figuresOf kind (figures.map Figure.unnamed) := by
  rw [figuresOf, figuresOf, List.filter_map]
  rfl

/-- Fresh names change nothing but the names. -/
theorem map_unnamed_withFreshIds (taken : List Text) (figures : List (Figure α)) :
    (withFreshIds taken figures).map Figure.unnamed = figures.map Figure.unnamed := by
  induction figures generalizing taken with
  | nil => rfl
  | cons first rest ih =>
    rw [withFreshIds, List.map_cons, List.map_cons, ih]
    rfl

theorem ornament_of_mem_zipWith {β γ : Type} {make : β → γ → Figure α}
    (hmake : ∀ b c, (make b c).ornament = some kind) {bs : List β} {cs : List γ} {f : Figure α}
    (hf : f ∈ List.zipWith make bs cs) : f.ornament = some kind := by
  rw [← List.map_uncurry_zip_eq_zipWith] at hf
  obtain ⟨pair, -, rfl⟩ := List.mem_map.1 hf
  exact hmake pair.1 pair.2

variable [Length α]

/-- The badges of the lanes come first. -/
theorem figuresOf_laneBadge_badges (c : Classification) (s : LayoutSettings α) (grid : Grid α) :
    figuresOf .laneBadge (badges c s grid) =
      List.zipWith (laneBadge s) c.lanes (grid.rows.filter (·.band.isSome)) := by
  rw [badges, figuresOf_append, figuresOf_eq_self, figuresOf_eq_nil, List.append_nil]
  · intro f hf heq
    have hornament : f.ornament = some .sectionBadge :=
      ornament_of_mem_zipWith (fun _ _ => rfl) hf
    cases heq.symm.trans hornament
  · intro f hf
    exact ornament_of_mem_zipWith (fun _ _ => rfl) hf

/-- The badges of the sections follow. -/
theorem figuresOf_sectionBadge_badges (c : Classification) (s : LayoutSettings α)
    (grid : Grid α) : figuresOf .sectionBadge (badges c s grid) =
      List.zipWith (sectionBadge s) c.sections (grid.columns.filter (·.band.isSome)) := by
  rw [badges, figuresOf_append, figuresOf_eq_nil, figuresOf_eq_self, List.nil_append]
  · intro f hf
    exact ornament_of_mem_zipWith (fun _ _ => rfl) hf
  · intro f hf heq
    have hornament : f.ornament = some .laneBadge := ornament_of_mem_zipWith (fun _ _ => rfl) hf
    cases heq.symm.trans hornament

/-- The badges of a drawing are those of its grid, under other names. -/
theorem map_unnamed_figuresOf_ofVisits (hkind : kind ≠ .boundary) (g : Graph)
    (c : Classification) (s : LayoutSettings α) (visits : List Visit) :
    (figuresOf kind (Drawing.ofVisits g c s visits).figures).map Figure.unnamed =
      (figuresOf kind (badges c s (makeGrid g c s (placements g c visits)))).map
        Figure.unnamed := by
  have hboundaries (bounds : List (Text × Bounds α)) :
      figuresOf kind (withFreshIds (g.nodes.map (·.id)) (boundaryFigures g c bounds)) = [] := by
    refine figuresOf_eq_nil fun f hf heq => hkind ?_
    obtain ⟨before, hbefore, others, rfl⟩ := exists_of_mem_withFreshIds hf
    obtain ⟨entry, -, hentry⟩ := List.mem_filterMap.1 hbefore
    obtain ⟨b, -, rfl⟩ := Option.map_eq_some_iff.1 hentry
    exact (Option.some.inj heq).symm
  have hmembers : figuresOf kind
      ((makeGrid g c s (placements g c visits)).members g (nodeSizes g s)) = [] := by
    refine figuresOf_eq_nil fun f hf heq => ?_
    rw [ornament_of_mem_members hf] at heq
    cases heq
  rw [Drawing.ofVisits, figuresOf_append, figuresOf_append, hboundaries, hmembers,
    List.nil_append, List.nil_append, map_unnamed_figuresOf, map_unnamed_figuresOf,
    map_unnamed_withFreshIds]

end Kinds

/-! ## Badges for their bands -/

/-- The figures are badges of these groups in order, each made for the track of its band. -/
structure AreBadges (make : Text × RoleInfo → Track Rat → Figure Rat)
    (bandOf : Figure Rat → Option Text) (entries : List (Text × RoleInfo))
    (tracks : List (Track Rat)) (figures : List (Figure Rat)) : Prop where
  bands : figures.map bandOf = entries.map (some ·.1)
  made : ∀ f ∈ figures, ∃ entry ∈ entries, ∃ track ∈ tracks, track.band = bandOf f ∧
    f.box = (make entry track).box

/-- What was made for groups and their tracks and then got another name was made for one of the
groups and the track of its band. -/
theorem exists_of_map_unnamed {make : Text × RoleInfo → Track Rat → Figure Rat}
    {entries : List (Text × RoleInfo)} {tracks : List (Track Rat)} {figures : List (Figure Rat)}
    (htracks : tracks.map (·.band) = entries.map (some ·.1))
    (h : figures.map Figure.unnamed = (List.zipWith make entries tracks).map Figure.unnamed)
    {f : Figure Rat} (hf : f ∈ figures) : ∃ entry ∈ entries, ∃ track ∈ tracks,
      track.band = some entry.1 ∧ (make entry track).unnamed = f.unnamed := by
  have hmade := List.mem_map_of_mem (f := Figure.unnamed) hf
  rw [h, ← List.map_uncurry_zip_eq_zipWith] at hmade
  obtain ⟨own, hown, heq⟩ := List.mem_map.1 hmade
  obtain ⟨⟨entry, track⟩, hpair, rfl⟩ := List.mem_map.1 hown
  obtain ⟨hentry, htrack⟩ := List.of_mem_zip hpair
  have hband : some entry.1 = track.band :=
    key_eq_of_mem_zip (fun entry : Text × RoleInfo => some entry.1) htracks.symm hpair
  exact ⟨entry, hentry, track, htrack, hband.symm, heq⟩

/-- What was made for groups and their tracks and then got other names are badges. -/
theorem areBadges_of_map_unnamed {make : Text × RoleInfo → Track Rat → Figure Rat}
    {bandOf : Figure Rat → Option Text} {entries : List (Text × RoleInfo)}
    {tracks : List (Track Rat)} {figures : List (Figure Rat)}
    (hunnamed : ∀ f, bandOf f.unnamed = bandOf f)
    (hmake : ∀ entry track, bandOf (make entry track) = some entry.1)
    (htracks : tracks.map (·.band) = entries.map (some ·.1))
    (h : figures.map Figure.unnamed = (List.zipWith make entries tracks).map Figure.unnamed) :
    AreBadges make bandOf entries tracks figures where
  bands := by
    have hbandOf : bandOf ∘ Figure.unnamed = bandOf := funext hunnamed
    have hlength : entries.length = tracks.length := by
      rw [← List.length_map (f := Track.band), htracks, List.length_map]
    have hbands := congrArg (List.map bandOf) h
    rw [List.map_map, List.map_map, hbandOf] at hbands
    exact hbands.trans (map_zipWith_left bandOf (fun entry => some entry.1) hmake hlength)
  made f hf := by
    obtain ⟨entry, hentry, track, htrack, hband, hsame⟩ := exists_of_map_unnamed htracks h hf
    have hbandOf : bandOf (make entry track) = bandOf f := by
      rw [← hunnamed f, ← hsame, hunnamed]
    have hbox := congrArg Figure.box hsame
    refine ⟨entry, hentry, track, htrack, ?_, hbox.symm⟩
    rw [hband, ← hbandOf, hmake]

section Badges

variable {g : Graph} {s : LayoutSettings Rat} {visits : List Visit}

/-- The badges of the lanes were made for their rows. -/
theorem areBadges_lanes : AreBadges (laneBadge s) Figure.laneId c.lanes
    ((makeGrid g c s (placements g c visits)).rows.filter (·.band.isSome))
    (figuresOf .laneBadge (Drawing.ofVisits g c s visits).figures) := by
  apply areBadges_of_map_unnamed (fun _ => rfl) (fun _ _ => rfl) map_band_laneRows
  rw [map_unnamed_figuresOf_ofVisits (by decide), figuresOf_laneBadge_badges]

/-- The badges of the sections were made for their columns. -/
theorem areBadges_sections : AreBadges (sectionBadge s) Figure.sectionId c.sections
    ((makeGrid g c s (placements g c visits)).columns.filter (·.band.isSome))
    (figuresOf .sectionBadge (Drawing.ofVisits g c s visits).figures) := by
  apply areBadges_of_map_unnamed (fun _ => rfl) (fun _ _ => rfl) map_band_sectionColumns
  rw [map_unnamed_figuresOf_ofVisits (by decide), figuresOf_sectionBadge_badges]

/-- What is moved by half of the space that it leaves stands in the middle. -/
theorem middle_of_centred (start size extent : Rat) :
    start + Length.half (size - extent) + extent / 2 = start + size / 2 := by
  rw [Length.half_eq]
  ring

/-- A badge takes up no more than the space that is left for badges. -/
theorem le_badgeSpace (s : LayoutSettings Rat) (extent : Size Rat → Rat)
    {entries : List (Text × RoleInfo)} {entry : Text × RoleInfo} (h : entry ∈ entries) :
    extent (badgeSize s entry.2.badgeLabel) + s.grid.badgeGap ≤ badgeSpace s extent entries :=
  Length.le_largest_of_mem _ (List.mem_map.2 ⟨entry, h, rfl⟩)

end Badges

/-! ## Drawings -/

/-- How the members and the badges of a drawing stand to the lanes, which have these rows. -/
structure FollowsLanes (c : Classification) (s : LayoutSettings Rat) (rows : List (Track Rat))
    (figures : List (Figure Rat)) : Prop where
  rows_nodup : (rows.map (·.band)).Nodup
  /-- A member lies in the row of its lane; those without a lane have a row of their own. -/
  row : ∀ m ∈ membersOf figures, ∃ row ∈ rows, row.band = m.laneId ∧
    row.start ≤ m.box.y ∧ m.box.bottom ≤ row.finish
  lane : ∀ m ∈ membersOf figures, ∀ id, m.laneId = some id → id ∈ c.lanes.map (·.1)
  /-- Members of a lane lie above those of a lane with a larger number. -/
  inOrder : ∀ a ∈ membersOf figures, ∀ b ∈ membersOf figures, ∀ lane ∈ c.lanes,
    ∀ other ∈ c.lanes, a.laneId = some lane.1 → b.laneId = some other.1 →
      lane.2.index < other.2.index → a.box.bottom + s.grid.rowGap ≤ b.box.y
  /-- Members without a lane lie below all others. -/
  outside : ∀ a ∈ membersOf figures, ∀ b ∈ membersOf figures, a.laneId ≠ none →
    b.laneId = none → a.box.bottom + s.grid.rowGap ≤ b.box.y
  badges : (figuresOf .laneBadge figures).map (·.laneId) = c.lanes.map (some ·.1)
  badge_left : ∀ badge ∈ figuresOf .laneBadge figures, ∀ m ∈ membersOf figures,
    badge.box.right ≤ m.box.x
  /-- A badge stands in the middle of the row of its lane. -/
  badge_centred : ∀ badge ∈ figuresOf .laneBadge figures, ∃ row ∈ rows,
    row.band = badge.laneId ∧ badge.box.y + badge.box.height / 2 = row.start + row.size / 2

/-- How the members and the badges of a drawing stand to the sections, which have these
columns. -/
structure FollowsSections (c : Classification) (s : LayoutSettings Rat)
    (columns : List (Track Rat)) (figures : List (Figure Rat)) : Prop where
  columns_nodup : (columns.map (·.band)).Nodup
  /-- A member lies in the column of its section; those without a section have a column of their
  own. -/
  column : ∀ m ∈ membersOf figures, ∃ column ∈ columns, column.band = m.sectionId ∧
    column.start ≤ m.box.x ∧ m.box.right ≤ column.finish
  band : ∀ m ∈ membersOf figures, ∀ id, m.sectionId = some id → id ∈ c.sections.map (·.1)
  /-- Members of a section lie to the left of those of a section with a larger number. -/
  inOrder : ∀ a ∈ membersOf figures, ∀ b ∈ membersOf figures, ∀ band ∈ c.sections,
    ∀ other ∈ c.sections, a.sectionId = some band.1 → b.sectionId = some other.1 →
      band.2.index < other.2.index → a.box.right + s.grid.columnGap ≤ b.box.x
  /-- Members without a section lie to the left of all others. -/
  outside : ∀ a ∈ membersOf figures, ∀ b ∈ membersOf figures, a.sectionId = none →
    b.sectionId ≠ none → a.box.right + s.grid.columnGap ≤ b.box.x
  badges : (figuresOf .sectionBadge figures).map (·.sectionId) = c.sections.map (some ·.1)
  badge_above : ∀ badge ∈ figuresOf .sectionBadge figures, ∀ m ∈ membersOf figures,
    badge.box.bottom ≤ m.box.y
  /-- A badge stands in the middle of the column of its section. -/
  badge_centred : ∀ badge ∈ figuresOf .sectionBadge figures, ∃ column ∈ columns,
    column.band = badge.sectionId ∧
      badge.box.x + badge.box.width / 2 = column.start + column.size / 2

section Drawings

variable {g : Graph} {s : LayoutSettings Rat} {visits : List Visit} (hs : s.IsSensible)

/-- The lane of a member is one of the lanes. -/
theorem mem_lanes_of_mem_members {m : Figure Rat}
    (hm : m ∈ membersOf (Drawing.ofVisits g c s visits).figures) {id : Text}
    (hid : m.laneId = some id) : id ∈ c.lanes.map (·.1) := by
  rw [membersOf_ofVisits] at hm
  obtain ⟨around, hslot⟩ := slot_of_mem_placements (placement_of_mem_members hm)
  have hnearest := (Slot.mk.inj hslot).1
  rw [hid] at hnearest
  exact mem_withRole_of_nearest? hnearest.symm

/-- The section of a member is one of the sections. -/
theorem mem_sections_of_mem_members {m : Figure Rat}
    (hm : m ∈ membersOf (Drawing.ofVisits g c s visits).figures) {id : Text}
    (hid : m.sectionId = some id) : id ∈ c.sections.map (·.1) := by
  rw [membersOf_ofVisits] at hm
  obtain ⟨around, hslot⟩ := slot_of_mem_placements (placement_of_mem_members hm)
  have hnearest := (Slot.mk.inj hslot).2
  rw [hid] at hnearest
  exact mem_withRole_of_nearest? hnearest.symm

include hs

/-- A member in a lane lies above one in none. -/
theorem above_of_no_lane {a b : Figure Rat}
    (ha : a ∈ (makeGrid g c s (placements g c visits)).members g (nodeSizes g s))
    (hb : b ∈ (makeGrid g c s (placements g c visits)).members g (nodeSizes g s))
    (hlaneA : a.laneId ≠ none) (hlaneB : b.laneId = none) :
    a.box.bottom + s.grid.rowGap ≤ b.box.y := by
  have hrowA := laneId_mem_rowBands (placement_of_mem_members ha)
  have hrowB := laneId_mem_rowBands (placement_of_mem_members hb)
  obtain ⟨id, hid⟩ := Option.ne_none_iff_exists'.1 hlaneA
  apply above_of_pair_sublist hs ha hb
  rw [hid] at hrowA ⊢
  rw [hlaneB] at hrowB ⊢
  exact lane_none_sublist_rowBands hrowA hrowB

/-- A member in no section lies to the left of one in a section. -/
theorem leftOf_of_no_section {a b : Figure Rat}
    (ha : a ∈ (makeGrid g c s (placements g c visits)).members g (nodeSizes g s))
    (hb : b ∈ (makeGrid g c s (placements g c visits)).members g (nodeSizes g s))
    (hbandA : a.sectionId = none) (hbandB : b.sectionId ≠ none) :
    a.box.right + s.grid.columnGap ≤ b.box.x := by
  have hcolumnA := sectionId_mem_columnBands (placement_of_mem_members ha)
  have hcolumnB := sectionId_mem_columnBands (placement_of_mem_members hb)
  obtain ⟨id, hid⟩ := Option.ne_none_iff_exists'.1 hbandB
  apply leftOf_of_pair_sublist hs ha hb
  rw [hid] at hcolumnB ⊢
  rw [hbandA] at hcolumnA ⊢
  exact none_section_sublist_columnBands hcolumnB hcolumnA

/-- The badges of lanes stand to the left of all members. -/
theorem right_le_of_laneBadge {badge m : Figure Rat}
    (hbadge : badge ∈ figuresOf .laneBadge (Drawing.ofVisits g c s visits).figures)
    (hm : m ∈ (makeGrid g c s (placements g c visits)).members g (nodeSizes g s)) :
    badge.box.right ≤ m.box.x := by
  obtain ⟨lane, hlane, row, -, -, hbox⟩ := areBadges_lanes.made badge hbadge
  obtain ⟨column, hcolumn, -, hleft, -⟩ := exists_column_of_mem_members hs hm
  have hspace := le_badgeSpace s Size.width hlane
  have horigin : badgeSpace s Size.width c.lanes ≤ column.start :=
    (originX_le_column hs hcolumn).1
  have hright : badge.box.right = (badgeSize s lane.2.badgeLabel).width := by
    rw [hbox]
    exact zero_add _
  have hgap := hs.grid.badgeGap
  linarith

/-- The badges of sections stand above all members. -/
theorem bottom_le_of_sectionBadge {badge m : Figure Rat}
    (hbadge : badge ∈ figuresOf .sectionBadge (Drawing.ofVisits g c s visits).figures)
    (hm : m ∈ (makeGrid g c s (placements g c visits)).members g (nodeSizes g s)) :
    badge.box.bottom ≤ m.box.y := by
  obtain ⟨band, hband, column, -, -, hbox⟩ := areBadges_sections.made badge hbadge
  obtain ⟨row, hrow, -, htop, -⟩ := exists_row_of_mem_members hs hm
  have hspace := le_badgeSpace s Size.height hband
  have horigin : badgeSpace s Size.height c.sections ≤ row.start := (originY_le_row hs hrow).1
  have hbottom : badge.box.bottom = (badgeSize s band.2.badgeLabel).height := by
    rw [hbox]
    exact zero_add _
  have hgap := hs.grid.badgeGap
  linarith

theorem followsLanes_ofVisits : FollowsLanes c s (makeGrid g c s (placements g c visits)).rows
    (Drawing.ofVisits g c s visits).figures where
  rows_nodup := by
    rw [map_band_rows]
    exact rowBands_nodup c _
  row m hm := by
    rw [membersOf_ofVisits] at hm
    exact exists_row_of_mem_members hs hm
  lane m hm id hid := mem_lanes_of_mem_members hm hid
  inOrder a ha b hb lane hlane other hother hlaneA hlaneB hlt := by
    rw [membersOf_ofVisits] at ha hb
    apply above_of_pair_sublist hs ha hb
    rw [hlaneA, hlaneB]
    exact pair_sublist_rowBands hlane hother hlt
  outside a ha b hb hlaneA hlaneB := by
    rw [membersOf_ofVisits] at ha hb
    exact above_of_no_lane hs ha hb hlaneA hlaneB
  badges := areBadges_lanes.bands
  badge_left badge hbadge m hm := by
    rw [membersOf_ofVisits] at hm
    exact right_le_of_laneBadge hs hbadge hm
  badge_centred badge hbadge := by
    obtain ⟨lane, -, row, hrow, hband, hbox⟩ := areBadges_lanes.made badge hbadge
    refine ⟨row, (List.mem_filter.1 hrow).1, hband, ?_⟩
    rw [hbox]
    exact middle_of_centred row.start row.size _

theorem followsSections_ofVisits :
    FollowsSections c s (makeGrid g c s (placements g c visits)).columns
      (Drawing.ofVisits g c s visits).figures where
  columns_nodup := by
    rw [map_band_columns]
    exact columnBands_nodup c _
  column m hm := by
    rw [membersOf_ofVisits] at hm
    exact exists_column_of_mem_members hs hm
  band m hm id hid := mem_sections_of_mem_members hm hid
  inOrder a ha b hb band hband other hother hbandA hbandB hlt := by
    rw [membersOf_ofVisits] at ha hb
    apply leftOf_of_pair_sublist hs ha hb
    rw [hbandA, hbandB]
    exact pair_sublist_columnBands hband hother hlt
  outside a ha b hb hbandA hbandB := by
    rw [membersOf_ofVisits] at ha hb
    exact leftOf_of_no_section hs ha hb hbandA hbandB
  badges := areBadges_sections.bands
  badge_above badge hbadge m hm := by
    rw [membersOf_ofVisits] at hm
    exact bottom_le_of_sectionBadge hs hbadge hm
  badge_centred badge hbadge := by
    obtain ⟨band, -, column, hcolumn, hband, hbox⟩ := areBadges_sections.made badge hbadge
    refine ⟨column, (List.mem_filter.1 hcolumn).1, hband, ?_⟩
    rw [hbox]
    exact middle_of_centred column.start column.size _

end Drawings

/-- The flowchart of every text can be drawn without negative lengths; the groups with a role are
numbered in the order of the text, and the drawing follows the lanes and the sections. -/
theorem followsBands_of_ofText {text : Text} {f : Flowchart} (hf : Flowchart.ofText text = .ok f)
    {s : LayoutSettings Rat} (hs : s.IsSensible) :
    (∀ role, ((Classification.ofGraph f.graph).withRole role).map
        (fun entry => (entry.1, entry.2.index)) =
      ((f.graph.groupsOf role f.graph.groups).map (·.id)).zipIdx) ∧
    ∃ visits d, f.graph.visits? = some visits ∧
      Drawing.ofGraph? f.graph (Classification.ofGraph f.graph) s = some d ∧
      FollowsLanes (Classification.ofGraph f.graph) s (makeGrid f.graph
        (Classification.ofGraph f.graph) s
        (placements f.graph (Classification.ofGraph f.graph) visits)).rows d.figures ∧
      FollowsSections (Classification.ofGraph f.graph) s (makeGrid f.graph
        (Classification.ofGraph f.graph) s
        (placements f.graph (Classification.ofGraph f.graph) visits)).columns d.figures := by
  have hg := isConsistent_of_ofText hf
  obtain ⟨visits, hvisits⟩ := hg.exists_visits
  refine ⟨fun role => ?_, visits,
    Drawing.ofVisits f.graph (Classification.ofGraph f.graph) s visits, hvisits, ?_, ?_, ?_⟩
  · rw [Classification.withRole_ofGraph hg.group_ids]
    exact f.graph.map_number_entriesOf role f.graph.groups
  · exact Drawing.ofGraph?_of_visits hvisits _ s
  · exact followsLanes_ofVisits hs
  · exact followsSections_ofVisits hs

/-- Two lanes and two sections, and a node in neither. -/
def crossingBands : Text :=
  "graph LR\nsubgraph lane_1\nsubgraph stage1\na\nend\nend\n".toList ++
    "subgraph lane_2\nb\nsubgraph stage2\nc\nend\nend\nd-->a".toList

theorem followsBands_of_crossingBands : ∃ f visits d, Flowchart.ofText crossingBands = .ok f ∧
    (Classification.ofGraph f.graph).lanes.map (fun entry => (entry.1, entry.2.index)) =
      [("lane_1".toList, 0), ("lane_2".toList, 1)] ∧
    f.graph.visits? = some visits ∧
    Drawing.ofGraph? f.graph (Classification.ofGraph f.graph) .default = some d ∧
    FollowsLanes (Classification.ofGraph f.graph) .default (makeGrid f.graph
      (Classification.ofGraph f.graph) .default
      (placements f.graph (Classification.ofGraph f.graph) visits)).rows d.figures ∧
    FollowsSections (Classification.ofGraph f.graph) .default (makeGrid f.graph
      (Classification.ofGraph f.graph) .default
      (placements f.graph (Classification.ofGraph f.graph) visits)).columns d.figures := by
  have hread : ((Flowchart.ofText crossingBands).map fun f => decide (
      (f.graph.groupsOf .laneBand f.graph.groups).map (·.id) =
        ["lane_1".toList, "lane_2".toList])).toOption = some true := by
    decide +kernel
  obtain ⟨f, hf, hlanes⟩ := exists_of_toOption_map hread
  obtain ⟨hnumbers, visits, d, hvisits, hd, hrows, hcolumns⟩ :=
    followsBands_of_ofText hf LayoutSettings.isSensible_default
  refine ⟨f, visits, d, hf, ?_, hvisits, hd, hrows, hcolumns⟩
  rw [Classification.lanes, hnumbers, of_decide_eq_true hlanes]
  rfl

end Swimlane
