import Swimlane.Proofs.Tidy.Union

/-!
# Which figure of a name stays

Of figures with one identifier the pass keeps the first that does not give way to a boundary of
its type (`Figure.StemsFrom`), and it keeps that one only.  What gives way leaves its identifier
free, so it is the first figure with the identifier at all exactly if no boundary of that name is
replaced (`stemsFromFirst_iff`); otherwise a later figure takes the name.
-/

namespace Swimlane

variable {α : Type} [Length α]

/-! ## Giving way -/

/-- A figure gives way after others if it is an account boundary and one of its type is kept of
them. -/
def Figure.GivesWayAfter (f : Figure α) (front : List (Figure α)) : Prop :=
  isAccountBoundary (canonicalType f.componentType) = true ∧
    canonicalType f.componentType ∈ (passFigures front).kept.map (·.componentType)

/-- Every figure with the identifier gives way after those in front of it. -/
def AllGiveWay (figures : List (Figure α)) (id : Text) : Prop :=
  ∀ front g, front ++ [g] <+: figures → g.id = id → g.GivesWayAfter front

/-- What is kept stems from the figure that comes after `front`, which is the first with its
identifier that does not give way. -/
structure Figure.StemsFrom (k : Figure α) (figures front : List (Figure α)) (f : Figure α) :
    Prop where
  comes : front ++ [f] <+: figures
  remains : k.Remains f
  /-- Only boundaries grow. -/
  box : isAccountBoundary k.componentType = false → k.box = f.box
  stays : ¬f.GivesWayAfter front
  others : AllGiveWay front f.id

theorem not_concat_prefix_nil {β : Type} {front : List β} {g : β} : ¬front ++ [g] <+: [] :=
  fun h => List.append_ne_nil_of_right_ne_nil _ (List.cons_ne_nil g []) (List.prefix_nil.1 h)

/-- The last figure of a part in front is the last of all, or it is in front of that. -/
theorem concat_prefix_concat_iff {β : Type} {front figures : List β} {g f : β} :
    front ++ [g] <+: figures ++ [f] ↔ front = figures ∧ g = f ∨ front ++ [g] <+: figures := by
  rw [List.prefix_concat_iff]
  refine or_congr_left ⟨fun h => ?_, fun h => by rw [h.1, h.2]⟩
  obtain ⟨hfront, hlast⟩ := List.append_inj' h rfl
  exact ⟨hfront, List.singleton_inj.1 hlast⟩

/-- What comes in front of an element is a part in front. -/
theorem exists_prefix_of_mem {β : Type} {figures : List β} {g : β} (hg : g ∈ figures) :
    ∃ front, front ++ [g] <+: figures := by
  obtain ⟨front, rest, rfl⟩ := List.append_of_mem hg
  exact ⟨front, rest, by rw [List.append_assoc, List.singleton_append]⟩

section Passes

variable {figures front : List (Figure α)} {f k : Figure α} {id : Text}

theorem passFigures_concat (figures : List (Figure α)) (f : Figure α) :
    passFigures (figures ++ [f]) = (passFigures figures).take f := by
  rw [passFigures, List.foldl_append]
  rfl

theorem allGiveWay_nil (id : Text) : AllGiveWay ([] : List (Figure α)) id :=
  fun _ _ hin => absurd hin not_concat_prefix_nil

theorem allGiveWay_concat_iff : AllGiveWay (figures ++ [f]) id ↔
    AllGiveWay figures id ∧ (f.id = id → f.GivesWayAfter figures) := by
  constructor
  · intro h
    exact ⟨fun front g hin => h front g (concat_prefix_concat_iff.2 (Or.inr hin)),
      h figures f (List.prefix_refl _)⟩
  · rintro ⟨hbefore, hlast⟩ front g hin
    rcases concat_prefix_concat_iff.1 hin with ⟨rfl, rfl⟩ | hin
    · exact hlast
    · exact hbefore front g hin

theorem AllGiveWay.mono (h : AllGiveWay figures id) (hfront : front <+: figures) :
    AllGiveWay front id :=
  fun before g hin => h before g (hin.trans hfront)

/-- What the pass does with one more figure: it goes for its name, it gives way, or it stays. -/
theorem passFigures_concat_cases (figures : List (Figure α)) (f : Figure α) :
    (f.id ∈ (passFigures figures).kept.map (·.id) ∧
      (passFigures (figures ++ [f])).kept = (passFigures figures).kept ∧
      (passFigures (figures ++ [f])).replaced = (passFigures figures).replaced) ∨
    (f.id ∉ (passFigures figures).kept.map (·.id) ∧ f.GivesWayAfter figures ∧
      (passFigures (figures ++ [f])).kept =
        grown (passFigures figures).kept (canonicalType f.componentType) f ∧
      ∃ new, (passFigures (figures ++ [f])).replaced =
        (f.id, new) :: (passFigures figures).replaced) ∨
    (f.id ∉ (passFigures figures).kept.map (·.id) ∧ ¬f.GivesWayAfter figures ∧
      (passFigures (figures ++ [f])).kept = (passFigures figures).kept ++ [f.canonical] ∧
      (passFigures (figures ++ [f])).replaced = (passFigures figures).replaced) := by
  rw [passFigures_concat]
  rcases (passFigures figures).take_cases f with ⟨hid, htake⟩ |
    ⟨hid, hboundary, survivor, hsurvivor, htype, htake⟩ | ⟨hid, hnew, htake⟩
  · exact Or.inl ⟨hid, by rw [htake], by rw [htake]⟩
  · refine Or.inr (Or.inl ⟨hid, ⟨hboundary, ?_⟩, by rw [htake], survivor.id, by rw [htake]⟩)
    exact List.mem_map.2 ⟨survivor, hsurvivor, htype⟩
  · refine Or.inr (Or.inr ⟨hid, fun hgives => hnew hgives.1 hgives.2, ?_, by rw [htake]⟩)
    rw [htake]
    rfl

/-- An identifier is kept unless all figures with it give way. -/
theorem mem_ids_passFigures_iff :
    id ∈ (passFigures figures).kept.map (·.id) ↔ ¬AllGiveWay figures id := by
  induction figures using List.reverseRecOn with
  | nil => exact iff_of_false List.not_mem_nil (not_not_intro (allGiveWay_nil id))
  | append_singleton figures f ih =>
    rw [allGiveWay_concat_iff, not_and_or, ← ih]
    rcases passFigures_concat_cases figures f with ⟨hid, hkept, -⟩ | ⟨-, hgives, hkept, -⟩ |
      ⟨-, hstays, hkept, -⟩
    · rw [hkept]
      exact (or_iff_left_of_imp fun h => by
        rwa [← (Classical.not_imp.1 h).1]).symm
    · rw [hkept, map_grown (·.id) fun _ _ => rfl]
      exact (or_iff_left fun h => h fun _ => hgives).symm
    · rw [hkept, List.map_append, List.mem_append, List.map_singleton, List.mem_singleton]
      refine or_congr_right ⟨fun h himp => hstays (himp h.symm), fun h => ?_⟩
      exact (Classical.not_imp.1 h).1.symm

/-- An identifier is replaced if a figure with it gives way while no figure with it is kept. -/
theorem mem_replaced_passFigures_iff : id ∈ (passFigures figures).replaced.map Prod.fst ↔
    ∃ front g, front ++ [g] <+: figures ∧ g.id = id ∧ g.GivesWayAfter front ∧
      AllGiveWay front id := by
  induction figures using List.reverseRecOn with
  | nil =>
    refine iff_of_false List.not_mem_nil ?_
    rintro ⟨front, g, hin, -⟩
    exact not_concat_prefix_nil hin
  | append_singleton figures f ih =>
    have hsplit : (∃ front g, front ++ [g] <+: figures ++ [f] ∧ g.id = id ∧
        g.GivesWayAfter front ∧ AllGiveWay front id) ↔
        f.id = id ∧ f.GivesWayAfter figures ∧ AllGiveWay figures id ∨
          id ∈ (passFigures figures).replaced.map Prod.fst := by
      rw [ih]
      constructor
      · rintro ⟨front, g, hin, hgiven⟩
        rcases concat_prefix_concat_iff.1 hin with ⟨rfl, rfl⟩ | hin
        · exact Or.inl hgiven
        · exact Or.inr ⟨front, g, hin, hgiven⟩
      · rintro (hgiven | ⟨front, g, hin, hgiven⟩)
        · exact ⟨figures, f, List.prefix_refl _, hgiven⟩
        · exact ⟨front, g, concat_prefix_concat_iff.2 (Or.inr hin), hgiven⟩
    rw [hsplit]
    rcases passFigures_concat_cases figures f with ⟨hid, -, hreplaced⟩ |
      ⟨hid, hgives, -, new, hreplaced⟩ | ⟨-, hstays, -, hreplaced⟩
    · rw [hreplaced]
      refine (or_iff_right ?_).symm
      rintro ⟨rfl, -, hothers⟩
      exact mem_ids_passFigures_iff.1 hid hothers
    · rw [hreplaced, List.map_cons, List.mem_cons]
      refine or_congr_left ⟨fun h => ?_, fun h => h.1.symm⟩
      exact ⟨h.symm, hgives, not_not.1 (mt mem_ids_passFigures_iff.2 (h ▸ hid))⟩
    · rw [hreplaced]
      exact (or_iff_right fun h => hstays h.2.1).symm

omit [Length α] in
theorem Figure.canonical_remains (f : Figure α) : f.canonical.Remains f := ⟨f.box, rfl⟩

/-- What stems from a figure still does when more figures come. -/
theorem Figure.StemsFrom.concat (h : k.StemsFrom figures front f) (g : Figure α) :
    k.StemsFrom (figures ++ [g]) front f :=
  { h with comes := h.comes.trans (List.prefix_append _ _) }

/-- What stems from a figure still does when figures of its type grow. -/
theorem Figure.StemsFrom.grow (h : k.StemsFrom figures front f) {g : Figure α}
    (hgives : g.GivesWayAfter figures) :
    (if k.componentType = canonicalType g.componentType then k.absorb g else k).StemsFrom
      (figures ++ [g]) front f := by
  split
  · next htype =>
    have hboundary : isAccountBoundary k.componentType = true := htype ▸ hgives.1
    exact { h.concat g with
      remains := h.remains.absorb g
      box := fun hplain => Bool.noConfusion (hboundary.symm.trans hplain) }
  · exact h.concat g

/-- Everything that is kept stems from a figure. -/
theorem exists_stemsFrom_of_mem (hk : k ∈ (passFigures figures).kept) :
    ∃ front f, k.StemsFrom figures front f := by
  induction figures using List.reverseRecOn generalizing k with
  | nil => exact absurd hk List.not_mem_nil
  | append_singleton figures g ih =>
    rcases passFigures_concat_cases figures g with ⟨-, hkept, -⟩ | ⟨-, hgives, hkept, -⟩ |
      ⟨hid, hstays, hkept, -⟩
    · rw [hkept] at hk
      obtain ⟨front, f, hf⟩ := ih hk
      exact ⟨front, f, hf.concat g⟩
    · rw [hkept] at hk
      obtain ⟨before, hbefore, rfl⟩ := List.mem_map.1 hk
      obtain ⟨front, f, hf⟩ := ih hbefore
      exact ⟨front, f, hf.grow hgives⟩
    · rw [hkept] at hk
      rcases List.mem_append.1 hk with hk | hk
      · obtain ⟨front, f, hf⟩ := ih hk
        exact ⟨front, f, hf.concat g⟩
      · rw [List.mem_singleton.1 hk]
        exact ⟨figures, g, List.prefix_refl _, g.canonical_remains, fun _ => rfl, hstays,
          not_not.1 (mt mem_ids_passFigures_iff.2 hid)⟩

/-- The first figure with an identifier that does not give way is kept. -/
theorem exists_stemsFrom_of_stays (hcomes : front ++ [f] <+: figures)
    (hstays : ¬f.GivesWayAfter front) (hothers : AllGiveWay front f.id) :
    ∃ k ∈ (passFigures figures).kept, k.StemsFrom figures front f := by
  induction figures using List.reverseRecOn with
  | nil => exact absurd hcomes not_concat_prefix_nil
  | append_singleton figures g ih =>
    rcases concat_prefix_concat_iff.1 hcomes with ⟨rfl, rfl⟩ | hcomes
    · rcases passFigures_concat_cases front f with ⟨hid, -⟩ | ⟨-, hgives, -⟩ | ⟨-, -, hkept, -⟩
      · exact absurd hothers (mem_ids_passFigures_iff.1 hid)
      · exact absurd hgives hstays
      · refine ⟨f.canonical, ?_, List.prefix_refl _, f.canonical_remains, fun _ => rfl, hstays,
          hothers⟩
        rw [hkept]
        exact List.mem_append_right _ List.mem_cons_self
    · obtain ⟨k, hk, hf⟩ := ih hcomes
      rcases passFigures_concat_cases figures g with ⟨-, hkept, -⟩ | ⟨-, hgives, hkept, -⟩ |
        ⟨-, -, hkept, -⟩
      · exact ⟨k, hkept ▸ hk, hf.concat g⟩
      · refine ⟨_, ?_, hf.grow hgives⟩
        rw [hkept]
        exact List.mem_map.2 ⟨k, hk, rfl⟩
      · exact ⟨k, hkept ▸ List.mem_append_left _ hk, hf.concat g⟩

/-- What is kept stems from the first figure with its identifier exactly if the identifier is not
replaced. -/
theorem Figure.StemsFrom.not_mem_iff (h : k.StemsFrom figures front f) :
    f.id ∉ front.map (·.id) ↔ f.id ∉ (passFigures figures).replaced.map Prod.fst := by
  refine not_congr ⟨fun hmem => ?_, fun hmem => ?_⟩
  · obtain ⟨g, hg, hid⟩ := List.mem_map.1 hmem
    obtain ⟨before, hbefore⟩ := exists_prefix_of_mem hg
    refine mem_replaced_passFigures_iff.2 ⟨before, g, ?_, hid, h.others before g hbefore hid,
      h.others.mono ((List.prefix_append _ _).trans hbefore)⟩
    exact hbefore.trans ((List.prefix_append _ _).trans h.comes)
  · obtain ⟨before, g, hin, hid, hgives, hothers⟩ := mem_replaced_passFigures_iff.1 hmem
    -- of two parts in front of the figures one is in front of the other
    rcases List.prefix_or_prefix_of_prefix hin h.comes with hfirst | hlast
    · rcases concat_prefix_concat_iff.1 hfirst with ⟨rfl, rfl⟩ | hfirst
      · exact absurd hgives h.stays
      · exact List.mem_map.2 ⟨g, hfirst.subset (List.mem_append_right _ List.mem_cons_self), hid⟩
    · rcases concat_prefix_concat_iff.1 hlast with ⟨rfl, rfl⟩ | hlast
      · exact absurd hgives h.stays
      · exact absurd (hothers front f hlast rfl) h.stays

end Passes

/-! ## Drawings -/

/-- Of the figures of a drawing the first of each identifier that does not give way is kept, and
nothing else; and it is the first figure with the identifier at all exactly if no boundary with
that identifier is replaced. -/
theorem stemsFromFirst_iff (policy : EdgePolicy) (figures : List (Figure α)) (edges : List Edge) :
    ((tidy policy figures edges).figures.map (·.id)).Nodup ∧
    (∀ k ∈ (tidy policy figures edges).figures, ∃ front f, k.StemsFrom figures front f ∧
      (k.id ∉ front.map (·.id) ↔ k.id ∉ (passFigures figures).replaced.map Prod.fst)) ∧
    ∀ front f, front ++ [f] <+: figures → ¬f.GivesWayAfter front → AllGiveWay front f.id →
      ∃ k ∈ (tidy policy figures edges).figures, k.StemsFrom figures front f := by
  refine ⟨(isTidy_tidy policy figures edges).figure_ids, fun k hk => ?_, fun front f => ?_⟩
  · obtain ⟨front, f, hf⟩ := exists_stemsFrom_of_mem hk
    have hid : k.id = f.id := by
      obtain ⟨box, rfl⟩ := hf.remains
      rfl
    exact ⟨front, f, hf, hid ▸ hf.not_mem_iff⟩
  · exact exists_stemsFrom_of_stays

/-- Two accounts of one provider, and a node with the name of the second, twice. -/
def nameTakenAgain : List (Figure Rat) :=
  [plainFigure "p" "AWS account", plainFigure "q" "AWS account", plainFigure "q" "svc",
    plainFigure "q" "db"]

theorem stemsFromFirst_of_nameTakenAgain :
    ∃ k ∈ (tidy .drop nameTakenAgain []).figures, ∃ front f, k.StemsFrom nameTakenAgain front f ∧
      k.id = ['p'] ∧ k.id ∉ front.map (·.id) := by
  have hid : ['p'] ∈ (tidy .drop nameTakenAgain []).figures.map (·.id) := by
    decide +kernel
  have hreplaced : ['p'] ∉ (passFigures nameTakenAgain).replaced.map Prod.fst := by
    decide +kernel
  obtain ⟨k, hk, hkid⟩ := List.mem_map.1 hid
  obtain ⟨front, f, hf, hfirst⟩ := (stemsFromFirst_iff .drop nameTakenAgain []).2.1 k hk
  exact ⟨k, hk, front, f, hf, hkid, hfirst.2 (hkid ▸ hreplaced)⟩

/-- A name that a boundary leaves when it goes is taken by a figure that comes later. -/
theorem exists_later_of_name : ∃ k ∈ (tidy .drop nameTakenAgain []).figures,
    ∃ first, nameTakenAgain.find? (·.id = k.id) = some first ∧ ¬k.Remains first := by
  have hkept : (['q'], "service".toList) ∈
      (tidy .drop nameTakenAgain []).figures.map fun k => (k.id, k.componentType) := by
    decide +kernel
  obtain ⟨k, hk, heq⟩ := List.mem_map.1 hkept
  obtain ⟨hid, htype⟩ := Prod.mk.inj heq
  refine ⟨k, hk, plainFigure "q" "AWS account", ?_, ?_⟩
  · rw [hid]
    rfl
  · rintro ⟨box, hremains⟩
    have hsame : "service".toList = canonicalType "AWS account".toList :=
      htype.symm.trans (congrArg Figure.componentType hremains)
    exact absurd hsame (by decide +kernel)

end Swimlane
