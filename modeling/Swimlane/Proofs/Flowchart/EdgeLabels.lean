import Swimlane.Proofs.Flowchart.Chain
import Swimlane.Proofs.Flowchart.Edges

/-!
# Where the labels of edges come from

A label is cut out of its statement, and so are the links of a chain, but for the blanks around
their arrows.  So an edge that a statement adds has a label of characters of the statement
(`exists_joins_of_readStatement`), and what the statements of a line do not have in them no edge
of the line has in its label.
-/

namespace Swimlane

/-- Does a text have the characters of another and blanks alone? -/
def IsDrawnFrom (s t : Text) : Prop := ∀ c ∈ t, c ∈ s ∨ c = ' '

/-! ## Cells of a statement -/

/-- The text of some cells of a statement is part of the statement. -/
theorem mem_of_mem_cellText {s : Text} {cells : List Cell} (hcells : cells ⊆ mask s) {c : Char}
    (hc : c ∈ cellText cells) : c ∈ s := by
  obtain ⟨cell, hcell, hsource⟩ := List.mem_filterMap.1 (mem_of_mem_trim hc)
  rw [← sourceText_mask s]
  exact List.mem_filterMap.2 ⟨cell, hcells hcell, hsource⟩

theorem mem_of_mem_unquote {s : Text} {c : Char} (hc : c ∈ unquote s) : c ∈ s := by
  refine mem_of_mem_trim ?_
  unfold unquote at hc
  split at hc
  · next rest htrim =>
    rw [htrim]
    split at hc
    · exact List.mem_cons_of_mem _ (List.mem_of_mem_dropLast hc)
    · exact hc
  · exact hc

/-! ## Labels of links -/

/-- A label between bars stands between two bars, after an arrow and before a right side. -/
theorem exists_of_barRest? {cells label right : List Cell}
    (h : barRest? cells = some (label, right)) : ∃ arrow first second rest,
      cells = arrow ++ first :: (label ++ second :: rest) ∧ first.shown = '|' ∧
      second.shown = '|' ∧ arrow? cells = some arrow ∧ rightSide? rest = some right := by
  rw [barRest?] at h
  split at h
  · cases h
  · next arrow harrow =>
    split at h
    · cases h
    · next first rest hdrop =>
      split at h
      · cases h
      · next hfirst =>
        split at h
        · cases h
        · next found second after hspan =>
          obtain ⟨right', hright, hpair⟩ := Option.map_eq_some_iff.1 h
          obtain ⟨rfl, rfl⟩ := Prod.mk.inj hpair
          obtain ⟨hrest, hsecond⟩ := eq_of_span hspan
          obtain ⟨back, hback⟩ := isPrefix_of_arrow? harrow
          have hcells : cells = arrow ++ first :: rest := by
            rw [← hback] at hdrop ⊢
            rw [List.drop_left] at hdrop
            rw [hdrop]
          exact ⟨arrow, first, second, after, by rw [hcells, hrest], not_not.1 hfirst,
            by simpa using hsecond, harrow, hright⟩

/-- A label inside an arrow is found among the cells that are looked through. -/
theorem subset_of_innerLabel? {before cells label right : List Cell}
    (h : innerLabel? before cells = some (label, right)) : label ⊆ before ++ cells := by
  induction cells generalizing before with
  | nil => cases h
  | cons c rest ih =>
    simp only [innerLabel?] at h
    split at h
    · cases h
      intro cell hcell
      exact List.mem_append_left _ (List.mem_reverse.1 hcell)
    · split at h
      · intro cell hcell
        simpa [or_left_comm] using ih h hcell
      · cases h

theorem subset_of_innerRest? {cells label right : List Cell}
    (h : innerRest? cells = some (label, right)) : label ⊆ cells := by
  rw [innerRest?] at h
  split at h
  · cases h
  · next shaft _ =>
    rw [List.span_eq_takeWhile_dropWhile] at h
    have hdrop : cells.drop shaft.length ⊆ cells := List.drop_subset _ _
    simp only at h
    split at h
    · cases h
    · split at h
      · next found hfound =>
        cases h
        exact fun cell hcell =>
          hdrop ((List.dropWhile_suffix _).subset (subset_of_innerLabel? hfound hcell))
      · split at h
        · obtain ⟨right', -, hpair⟩ := Option.map_eq_some_iff.1 h
          obtain ⟨rfl, -⟩ := Prod.mk.inj hpair
          exact fun cell hcell => hdrop ((List.takeWhile_prefix _).subset
            (List.mem_of_mem_drop (List.mem_of_mem_take hcell)))
        · cases h

theorem subset_of_barRest? {cells label right : List Cell}
    (h : barRest? cells = some (label, right)) : label ⊆ cells := by
  obtain ⟨arrow, first, second, rest, rfl, -, -⟩ := exists_of_barRest? h
  exact fun cell hcell =>
    List.mem_append_right _ (List.mem_cons_of_mem _ (List.mem_append_left _ hcell))

/-- What is found behind a left side of a statement is part of the statement. -/
theorem mem_of_shortestLeft {s : Text} {right? : List Cell → Option (List Cell × List Cell)}
    (hright : ∀ {cells label right}, right? cells = some (label, right) → label ⊆ cells)
    {left label right : List Cell}
    (h : shortestLeft right? [] (mask s) = some (left, label, right)) {c : Char}
    (hc : c ∈ unquote (cellText label)) : c ∈ s := by
  obtain ⟨passed, rest, -, -, hcells, hrest⟩ := exists_of_shortestLeft h
  refine mem_of_mem_cellText (fun cell hcell => ?_) (mem_of_mem_unquote hc)
  rw [hcells]
  exact List.mem_append_right passed ((List.dropWhile_suffix _).subset (hright hrest hcell))

/-- The label of a link is part of the statement. -/
theorem mem_of_link? {s : Text} {link : Link} (h : link? s = some link) :
    ∀ label ∈ link.label, ∀ c ∈ label, c ∈ s := by
  rw [link?, Option.or_eq_some_iff, Option.or_eq_some_iff] at h
  rcases h with hbar | ⟨-, hinner | ⟨-, hplain⟩⟩
  · obtain ⟨left, label, right, hfound, rfl⟩ := exists_of_barLink? hbar
    dsimp only
    split
    · exact fun _ hnone => by cases hnone
    · rintro _ ⟨⟩ c hc
      exact mem_of_shortestLeft subset_of_barRest? hfound hc
  · obtain ⟨left, label, right, hfound, rfl⟩ := exists_of_innerLabelLink? hinner
    rintro _ ⟨⟩ c hc
    exact mem_of_shortestLeft subset_of_innerRest? (shortestLeft_of_innerLink? hfound) hc
  · obtain ⟨left, right, -, rfl⟩ := exists_of_plainLink? hplain
    exact fun _ hnone => by cases hnone

/-! ## Links of chains -/

/-- What is cut at its arrows is among the cells. -/
theorem subset_of_cutArrows {cells last : List Cell} {parts : List (List Cell × List Cell)}
    (h : cutArrows 0 [] cells = (parts, last)) :
    (∀ part ∈ parts, part.1 ⊆ cells ∧ part.2 ⊆ cells) ∧ last ⊆ cells := by
  induction parts generalizing cells with
  | nil =>
    rw [eq_of_cutArrows_nil h]
    exact ⟨fun _ hpart => absurd hpart List.not_mem_nil, fun _ hcell => hcell⟩
  | cons part parts ih =>
    obtain ⟨between, arrow⟩ := part
    obtain ⟨passed, rest, hbetween, rfl, -, -, hcut⟩ := exists_of_cutArrows h
    obtain rfl : between = passed := hbetween
    obtain ⟨hparts, hlast⟩ := ih hcut
    have hrest : rest ⊆ between ++ (arrow ++ rest) := fun cell hcell =>
      List.mem_append_right _ (List.mem_append_right _ hcell)
    refine ⟨fun part hpart => ?_, fun cell hcell => hrest (hlast hcell)⟩
    rcases List.mem_cons.1 hpart with rfl | hpart
    · exact ⟨List.subset_append_left _ _, fun cell hcell =>
        List.mem_append_right _ (List.mem_append_left _ hcell)⟩
    · exact ⟨fun cell hcell => hrest ((hparts part hpart).1 hcell),
        fun cell hcell => hrest ((hparts part hpart).2 hcell)⟩

/-- Is the segment drawn from the text? -/
def Segment.IsDrawnFrom (s : Text) (x : Segment) : Prop :=
  Swimlane.IsDrawnFrom s x.arrow ∧ Swimlane.IsDrawnFrom s x.after

theorem isDrawnFrom_segmentsOf {s : Text} {parts : List (List Cell × List Cell)}
    {last : List Cell} (hparts : ∀ part ∈ parts, part.1 ⊆ mask s ∧ part.2 ⊆ mask s)
    (hlast : last ⊆ mask s) : ∀ x ∈ segmentsOf parts last, x.IsDrawnFrom s := by
  have hdrawn {cells : List Cell} (hcells : cells ⊆ mask s) : IsDrawnFrom s (cellText cells) :=
    fun c hc => Or.inl (mem_of_mem_cellText hcells hc)
  induction parts with
  | nil => exact fun x hx => absurd hx List.not_mem_nil
  | cons part parts ih =>
    have hpart := hparts part List.mem_cons_self
    have hmore := ih fun other hother => hparts other (List.mem_cons_of_mem part hother)
    cases parts with
    | nil =>
      intro x hx
      rw [List.mem_singleton.1 hx]
      exact ⟨hdrawn hpart.2, hdrawn hlast⟩
    | cons next parts =>
      intro x hx
      rcases List.mem_cons.1 hx with rfl | hx
      · exact ⟨hdrawn hpart.2, hdrawn (hparts next (by simp)).1⟩
      · exact hmore x hx

/-- Giving a label back to its arrow takes no character from elsewhere. -/
theorem Segment.IsDrawnFrom.takeLabel {s : Text} {x : Segment} (h : x.IsDrawnFrom s) :
    x.takeLabel.IsDrawnFrom s := by
  obtain ⟨arrow, text⟩ := x
  obtain ⟨harrow, htext⟩ := h
  simp only [Segment.takeLabel]
  split
  · next label after hbars =>
    unfold leadingBars? at hbars
    split at hbars
    · next rest =>
      split at hbars
      · cases hbars
      · next found second more hspan =>
        cases hbars
        obtain ⟨rfl, -⟩ := eq_of_span hspan
        refine ⟨fun c hc => ?_, fun c hc => htext c (List.mem_cons_of_mem _
          (List.mem_append_right _ (List.mem_cons_of_mem _
            ((List.dropWhile_suffix isBlank).subset hc))))⟩
        simp only [List.cons_append, List.mem_append, List.mem_cons, List.not_mem_nil,
          or_false] at hc
        rcases hc with hc | rfl | hc | rfl
        · exact harrow c hc
        · exact htext _ List.mem_cons_self
        · exact htext c (List.mem_cons_of_mem _ (List.mem_append_left _ hc))
        · exact htext _ List.mem_cons_self
    · cases hbars
  · exact ⟨harrow, htext⟩

/-- The links of a chain are made of its first reference, its segments and blanks. -/
theorem isDrawnFrom_chainLinks {s first : Text} {segments : List Segment}
    (hfirst : IsDrawnFrom s first) (hsegments : ∀ x ∈ segments, x.IsDrawnFrom s) :
    ∀ part ∈ chainLinks first segments, IsDrawnFrom s part := by
  induction segments generalizing first with
  | nil => exact fun part hpart => absurd hpart List.not_mem_nil
  | cons x segments ih =>
    obtain ⟨harrow, hafter⟩ := hsegments x List.mem_cons_self
    intro part hpart
    rcases List.mem_cons.1 hpart with rfl | hpart
    · intro c hc
      simp only [List.append_assoc, List.cons_append, List.mem_append, List.mem_cons] at hc
      rcases hc with hc | rfl | hc | rfl | hc
      · exact hfirst c hc
      · exact Or.inr rfl
      · exact harrow c hc
      · exact Or.inr rfl
      · exact hafter c hc
    · exact ih hafter (fun y hy => hsegments y (List.mem_cons_of_mem x hy)) part hpart

theorem isDrawnFrom_of_chain? {s : Text} {parts : List Text} (h : chain? s = some parts) :
    ∀ part ∈ parts, IsDrawnFrom s part := by
  simp only [chain?] at h
  split at h
  · cases h
  · split at h
    · next first arrow second more last hcut =>
      obtain ⟨hcells, hlast⟩ := subset_of_cutArrows hcut
      split at h
      · cases h
      · cases h
        refine isDrawnFrom_chainLinks (fun c hc => Or.inl (mem_of_mem_cellText
          (hcells _ List.mem_cons_self).1 hc)) fun x hx => ?_
        obtain ⟨y, hy, rfl⟩ := List.mem_map.1 hx
        exact (isDrawnFrom_segmentsOf hcells hlast y hy).takeLabel
    · cases h

/-! ## Edges of statements -/

/-- Are the labels of the edges drawn from the text? -/
def AreLabelledFrom (s : Text) (joins : List (Text × Option Text × Text)) : Prop :=
  ∀ j ∈ joins, ∀ label ∈ j.2.1, IsDrawnFrom s label

namespace Draft

theorem exists_joins_of_addLink {d d' : Draft} {link : Link} (h : d.addLink link = .ok d')
    {s : Text} (hlabel : ∀ label ∈ link.label, IsDrawnFrom s label) :
    ∃ added, d'.joins = d.joins ++ added ∧ AreLabelledFrom s added := by
  obtain ⟨-, sources, targets, -, -, hjoins⟩ := of_addLink h
  refine ⟨_, hjoins, fun j hj => ?_⟩
  obtain ⟨source, -, hj⟩ := List.mem_flatMap.1 hj
  obtain ⟨target, -, rfl⟩ := List.mem_map.1 hj
  exact hlabel

theorem exists_joins_of_addChain {d d' : Draft} {statement s : Text} {parts : List Text}
    (h : d.addChain statement parts = .ok d') (hparts : ∀ part ∈ parts, IsDrawnFrom s part) :
    ∃ added, d'.joins = d.joins ++ added ∧ AreLabelledFrom s added := by
  induction parts generalizing d with
  | nil =>
    cases h
    exact ⟨[], (List.append_nil _).symm, fun _ hj => absurd hj List.not_mem_nil⟩
  | cons part rest ih =>
    rw [addChain] at h
    split at h
    · cases h
    · next link hlink =>
      obtain ⟨d₁, hadd, hrest⟩ := ok_of_bind h
      have hpart := hparts part List.mem_cons_self
      obtain ⟨first, hfirst, hfrom⟩ := exists_joins_of_addLink hadd fun label hlabel c hc =>
        hpart c (mem_of_link? hlink label hlabel c hc)
      obtain ⟨more, hmore, hfrom'⟩ := ih hrest fun p hp => hparts p (List.mem_cons_of_mem part hp)
      refine ⟨first ++ more, by rw [hmore, hfirst, List.append_assoc], fun j hj => ?_⟩
      exact (List.mem_append.1 hj).elim (hfrom j) (hfrom' j)

theorem exists_joins_of_addEdges {d d' : Draft} {s : Text} (h : d.addEdges s = .ok (some d')) :
    ∃ added, d'.joins = d.joins ++ added ∧ AreLabelledFrom s added := by
  cases addsEdges_of_addEdges h with
  | invisible _ => exact ⟨[], (List.append_nil _).symm, fun _ hj => absurd hj List.not_mem_nil⟩
  | chain _ hchain hadd => exact exists_joins_of_addChain hadd (isDrawnFrom_of_chain? hchain)
  | link _ _ hlink hadd =>
    exact exists_joins_of_addLink hadd fun label hlabel c hc =>
      Or.inl (mem_of_link? hlink label hlabel c hc)

/-- The edges that a statement adds have labels of its own characters. -/
theorem exists_joins_of_readStatement {d d' : Draft} {line : Nat} {s : Text}
    (h : d.readStatement line s = .ok d') :
    ∃ added, d'.joins = d.joins ++ added ∧ AreLabelledFrom s added := by
  have hkept := Steps.edges_prefix (steps_of_readStatement h)
  by_cases hmore : d.graph.edges.length < d'.graph.edges.length
  · exact exists_joins_of_addEdges (of_more_edges h hmore).2
  · have hsame := hkept.eq_of_length_le (Nat.le_of_not_lt hmore)
    refine ⟨[], ?_, fun _ hj => absurd hj List.not_mem_nil⟩
    rw [joins, joins, ← hsame, List.append_nil]

/-- What no statement of a line has in it no edge of the line has in its label. -/
theorem exists_joins_of_foldlM_read {ss : List Statement} {d d' : Draft}
    (h : ss.foldlM Draft.read d = .ok d') {c : Char} (hblank : c ≠ ' ')
    (hss : ∀ s ∈ ss, c ∉ s.text) : ∃ added, d'.joins = d.joins ++ added ∧
      ∀ j ∈ added, ∀ label ∈ j.2.1, c ∉ label := by
  induction ss generalizing d with
  | nil =>
    cases h
    exact ⟨[], (List.append_nil _).symm, fun _ hj => absurd hj List.not_mem_nil⟩
  | cons s ss ih =>
    rw [List.foldlM_cons] at h
    obtain ⟨d₁, hread, hrest⟩ := ok_of_bind h
    obtain ⟨first, hfirst, hfrom⟩ := exists_joins_of_readStatement (ok_of_mapError hread)
    obtain ⟨more, hmore, hnone⟩ := ih hrest fun t ht => hss t (List.mem_cons_of_mem s ht)
    refine ⟨first ++ more, by rw [hmore, hfirst, List.append_assoc], fun j hj => ?_⟩
    rcases List.mem_append.1 hj with hj | hj
    · exact fun label hlabel hc => (hfrom j hj label hlabel c hc).elim
        (hss s List.mem_cons_self) hblank
    · exact hnone j hj

end Draft

end Swimlane
