import Swimlane.Proofs.Flowchart.Segment

/-!
# Chains cut into their segments

Between two arrows of a chain, and around labels between bars, no arrow begins.  So a chain is cut
at its own arrows, each label comes back to its arrow, and what is left are its segments with one
blank on either side of each arrow (`chain?_text`).
-/

namespace Swimlane

/-! ## Cutting at arrows -/

theorem cutArrows_skip (before s rest : List Cell) :
    cutArrows s.length before (s ++ rest) = cutArrows 0 before rest := by
  induction s with
  | nil => rfl
  | cons c s ih => exact ih

/-- Where an arrow is found, the text is cut. -/
theorem cutArrows_arrow {arrow rest : List Cell} (hne : arrow ≠ [])
    (h : arrow? (arrow ++ rest) = some arrow) (before : List Cell) :
    cutArrows 0 before (arrow ++ rest) =
      ((before.reverse, arrow) :: (cutArrows 0 [] rest).1, (cutArrows 0 [] rest).2) := by
  obtain ⟨c, more, rfl⟩ := List.exists_cons_of_ne_nil hne
  rw [List.cons_append] at h ⊢
  simp only [cutArrows, h, List.length_cons, Nat.add_sub_cancel, cutArrows_skip]

/-- Without an arrow nothing is cut off. -/
theorem eq_of_cutArrows_nil {before cells last : List Cell}
    (h : cutArrows 0 before cells = ([], last)) : last = before.reverse ++ cells := by
  induction cells generalizing before with
  | nil =>
    cases h
    rw [List.append_nil]
  | cons c rest ih =>
    rw [cutArrows] at h
    split at h
    · cases h
    · rw [ih h, List.reverse_cons, List.append_assoc, List.singleton_append]

/-- What is cut off first is all that stands before the first arrow. -/
theorem exists_of_cutArrows {before cells between arrow last : List Cell}
    {more : List (List Cell × List Cell)}
    (h : cutArrows 0 before cells = ((between, arrow) :: more, last)) :
    ∃ passed rest, between = before.reverse ++ passed ∧ cells = passed ++ (arrow ++ rest) ∧
      arrow? (arrow ++ rest) = some arrow ∧ FindsNothing arrow? passed (arrow ++ rest) ∧
      cutArrows 0 [] rest = (more, last) := by
  induction cells generalizing before with
  | nil => cases h
  | cons c rest ih =>
    rw [cutArrows] at h
    split at h
    · next found hfound =>
      obtain ⟨after, hafter⟩ := isPrefix_of_arrow? hfound
      obtain ⟨a, tail, rfl⟩ :=
        List.exists_cons_of_ne_nil (isArrowSign_of_mem_arrow hfound).1
      rw [List.cons_append] at hafter
      obtain ⟨rfl, rfl⟩ := List.cons_eq_cons.1 hafter
      rw [List.length_cons, Nat.add_sub_cancel, cutArrows_skip] at h
      cases h
      exact ⟨[], after, by simp, rfl, hfound, fun s hne hs =>
        absurd (List.suffix_nil.1 hs) hne, rfl⟩
    · next hnone =>
      obtain ⟨passed, after, hbetween, rfl, hfound, hnothing, hcut⟩ := ih h
      refine ⟨c :: passed, after, by simp [hbetween], rfl, hfound, fun s hne hs => ?_, hcut⟩
      rcases List.suffix_cons_iff.1 hs with rfl | hs
      · exact hnone
      · exact hnothing s hne hs

section

variable {l : ChainLink} (h : l.IsWritten)

include h

/-- After an arrow no other one begins before what is to the right of its right side. -/
theorem ChainLink.IsWritten.findsNothing_after {rest : List Cell}
    (hright : FindsNothing arrow? (mask l.right) rest) :
    FindsNothing arrow? l.cellsAfter rest := by
  have hbar (rest : List Cell) : FindsNothing arrow? [openCell '|'] rest :=
    findsArrows_arrow?.findsNothing (.singleton _) (by simp [openCell, isArrowSign]) rest
  refine .append ?_ ((findsArrows_arrow?.findsNothing_blanks h.gap _).append hright)
  cases hlabel : l.label with
  | none =>
    intro s hne hs
    exact absurd (List.suffix_nil.1 hs) hne
  | some label =>
    have hquiet (rest : List Cell) :
        FindsNothing arrow? (mask label) ([openCell '|'] ++ rest) := by
      intro s _ hs
      have hends : EndsArrow ([openCell '|'] ++ rest) := endsArrow_cons rfl rest
      rw [arrow?_append hends]
      exact arrow?_eq_none_of_hasArrow (h.label label hlabel).quiet hs
    exact (hbar _).append ((hquiet _).append (hbar _))

theorem ChainLink.IsWritten.cutArrows_written (before more : List Cell) :
    cutArrows 0 before
        (l.before.map openCell ++ (l.arrow.text.map openCell ++ (l.cellsAfter ++ more))) =
      ((before.reverse ++ l.before.map openCell, l.arrow.text.map openCell) ::
        (cutArrows 0 [] (l.cellsAfter ++ more)).1, (cutArrows 0 [] (l.cellsAfter ++ more)).2) := by
  have hne : l.arrow.text.map openCell ≠ [] := by simpa using l.arrow.text_ne_nil
  rw [cutArrows_append _ (findsArrows_arrow?.findsNothing_blanks h.before _),
    cutArrows_arrow hne (h.arrow?_written more)]
  simp

end

/-! ## Labels given back to their arrows -/

theorem cellText_arrow (a : Arrow) : cellText (a.text.map openCell) = a.text := by
  rw [cellText_map_openCell]
  exact trim_eq_self_of_all fun c hc => isBlank_of_mem_text hc

/-- A reference begins with no bar. -/
theorem ChainLink.IsWritten.leadingBars?_right {l : ChainLink} (h : l.IsWritten) :
    leadingBars? l.right = none := by
  obtain ⟨c, rest, -, hcons, hc, -⟩ := h.right.exists_cons
  rw [hcons]
  unfold leadingBars?
  split
  · next heq => exact absurd (List.cons_eq_cons.1 heq).1 (ne_of_isRefChar hc rfl)
  · rfl

/-- A label between bars is found with its bars, and the reference after it. -/
theorem ChainLink.IsWritten.leadingBars?_inBars {l : ChainLink} (h : l.IsWritten) {label : Text}
    (hlabel : l.label = some label) : leadingBars? (inBars (some label) ++ (l.gap ++ l.right)) =
      some (inBars (some label), l.right) := by
  have hbar : ∀ d ∈ label, decide (d ≠ '|') = true := by
    intro d hd
    refine decide_eq_true ?_
    rintro rfl
    exact (h.label label hlabel).no_bar hd
  have hcells : inBars (some label) ++ (l.gap ++ l.right) =
      '|' :: (label ++ '|' :: (l.gap ++ l.right)) := by
    simp [inBars]
  have hspan := span_append_cons hbar (y := '|') (by decide) (l.gap ++ l.right)
  have hright : trimStart (l.gap ++ l.right) = l.right :=
    trimStart_append h.gap (by simpa using h.right.head_append [])
  rw [hcells]
  simp only [leadingBars?, hspan, hright, inBars]

/-- What stands between two arrows is the segment of the first, once its label is given back. -/
theorem ChainLink.IsWritten.takeLabel_written {l : ChainLink} (h : l.IsWritten) {blanks : Text}
    (hblanks : ∀ c ∈ blanks, isBlank c = true) :
    Segment.takeLabel ⟨cellText (l.arrow.text.map openCell),
      cellText (l.cellsAfter ++ blanks.map openCell)⟩ = l.segment := by
  have hsource : sourceText (l.cellsAfter ++ blanks.map openCell) =
      inBars l.label ++ (l.gap ++ (l.right ++ blanks)) := by
    cases hlabel : l.label <;> simp [ChainLink.cellsAfter, hlabel, barCells, inBars]
  rw [cellText_arrow, cellText, hsource]
  cases hlabel : l.label with
  | none =>
    have htext : trim (l.gap ++ (l.right ++ blanks)) = l.right := by
      rw [trim, trimStart_append h.gap (h.right.head_append blanks),
        trimEnd_append hblanks h.right.last]
    rw [inBars, List.nil_append, htext, Segment.takeLabel, h.leadingBars?_right,
      ChainLink.segment, hlabel, inBars, List.append_nil]
  | some label =>
    have htext : trim (inBars (some label) ++ (l.gap ++ (l.right ++ blanks))) =
        inBars (some label) ++ (l.gap ++ l.right) := by
      have hbar : ∀ d ∈ (inBars (some label) ++ (l.gap ++ (l.right ++ blanks))).head?,
          isBlank d = false := by
        intro d hd
        rw [← Option.some.inj hd]
        rfl
      rw [trim, trimStart_eq_self hbar]
      simp only [← List.append_assoc]
      exact trimEnd_append hblanks (h.right.last_append _)
    rw [htext, Segment.takeLabel, h.leadingBars?_inBars hlabel, ChainLink.segment, hlabel]

/-! ## Chains as they are cut -/

/-- The cells of links that follow each other. -/
def chainCells : List ChainLink → List Cell
  | [] => []
  | l :: rest =>
      l.before.map openCell ++ (l.arrow.text.map openCell ++ (l.cellsAfter ++ chainCells rest))

theorem mask_flatMap_text {start : Text} {links : List ChainLink} (h : AreWritten start links) :
    mask (links.flatMap ChainLink.text) = chainCells links := by
  induction links generalizing start with
  | nil => rfl
  | cons l rest ih => rw [List.flatMap_cons, h.head.mask_text_append, ih h.tail, chainCells]

/-- Links that follow each other are cut at their arrows, and each gets back its label. -/
theorem cutArrows_chainCells {start : Text} {l : ChainLink} {rest : List ChainLink}
    (h : AreWritten start (l :: rest)) (before : List Cell) : ∃ more last,
      cutArrows 0 before (chainCells (l :: rest)) =
        ((before.reverse ++ l.before.map openCell, l.arrow.text.map openCell) :: more, last) ∧
      more.length = rest.length ∧
      ∀ between, (segmentsOf ((between, l.arrow.text.map openCell) :: more) last).map
        Segment.takeLabel = (l :: rest).map ChainLink.segment := by
  have hl := h.head
  induction rest generalizing start l before with
  | nil =>
    have hlast : cutArrows 0 [] l.cellsAfter = ([], l.cellsAfter) := by
      have hfinds : FindsNothing arrow? l.cellsAfter [] := by
        refine hl.findsNothing_after fun s _ hs => ?_
        rw [List.append_nil]
        exact (hl.right.quiet.suffix hs).arrow?_eq_none
      have hcut := cutArrows_append [] hfinds []
      rwa [List.append_nil, List.append_nil, cutArrows, List.reverse_reverse] at hcut
    have hlabel := hl.takeLabel_written fun c (hc : c ∈ []) => absurd hc List.not_mem_nil
    refine ⟨[], l.cellsAfter, ?_, rfl, fun between => ?_⟩
    · rw [chainCells, chainCells, hl.cutArrows_written, List.append_nil, hlast]
    · rw [List.map_nil, List.append_nil] at hlabel
      rw [segmentsOf, List.map_singleton, List.map_singleton, hlabel]
  | cons next rest ih =>
    have hfinds : FindsNothing arrow? l.cellsAfter (chainCells (next :: rest)) := by
      refine hl.findsNothing_after ?_
      rw [h.right_eq (List.cons_ne_nil next rest)]
      exact findsArrows_arrow?.findsNothing_start h.tail.isStart _
    -- up to the next arrow the cells after this one are passed over and kept
    obtain ⟨more, last, hcut, hlength, hsegments⟩ := ih h.tail l.cellsAfter.reverse h.tail.head
    rw [List.reverse_reverse] at hcut
    refine ⟨(l.cellsAfter ++ next.before.map openCell, next.arrow.text.map openCell) :: more, last,
      ?_, congrArg (· + 1) hlength, fun between => ?_⟩
    · rw [chainCells, hl.cutArrows_written, cutArrows_append _ hfinds, List.append_nil, hcut]
    · rw [segmentsOf, List.map_cons, hsegments, hl.takeLabel_written h.tail.head.before]
      rfl

/-- The same from the reference on with which a chain begins. -/
theorem cutArrows_mask {start : Text} {l : ChainLink} {rest : List ChainLink}
    (h : AreWritten start (l :: rest)) : ∃ more last,
      cutArrows 0 [] (mask (start ++ (l :: rest).flatMap ChainLink.text)) =
        ((mask start ++ l.before.map openCell, l.arrow.text.map openCell) :: more, last) ∧
      more.length = rest.length ∧
      (segmentsOf ((mask start ++ l.before.map openCell, l.arrow.text.map openCell) :: more)
        last).map Segment.takeLabel = (l :: rest).map ChainLink.segment := by
  obtain ⟨more, last, hcut, hlength, hsegments⟩ := cutArrows_chainCells h (mask start).reverse
  refine ⟨more, last, ?_, hlength, hsegments _⟩
  rw [mask_append h.isStart.closes, mask_flatMap_text h,
    cutArrows_append _ (findsArrows_arrow?.findsNothing_start h.isStart _), List.append_nil, hcut,
    List.reverse_reverse]

/-- A segment is no chain. -/
theorem ChainLink.IsWritten.chain?_eq_none {l : ChainLink} (h : l.IsWritten) {start : Text}
    (hstart : IsStart start) : chain? (start ++ l.text) = none := by
  have hlinks : AreWritten start [l] := ⟨hstart, h, fun hne => absurd rfl hne, trivial⟩
  obtain ⟨more, last, hcut, hlength, -⟩ := cutArrows_mask hlinks
  obtain rfl : more = [] := List.length_eq_zero_iff.1 hlength
  rw [List.flatMap_singleton] at hcut
  rw [chain?]
  simp only [hcut, ite_self]

/-- A chain whose arrows have no label inside is its segments, with one blank on either side of
each arrow. -/
theorem Chain.IsWritten.chain?_text {c : Chain} (h : c.IsWritten) (hlinks : 2 ≤ c.links.length)
    (hinner : innerLink? (mask c.text) = none) :
    chain? c.text = some (chainLinks c.first (c.links.map ChainLink.segment)) := by
  obtain ⟨l, next, rest, hcase⟩ : ∃ l next rest, c.links = l :: next :: rest := by
    match c.links, hlinks with
    | l :: next :: rest, _ => exact ⟨l, next, rest, rfl⟩
  have hwritten : AreWritten c.first (l :: next :: rest) := hcase ▸ h
  have hstart := hwritten.isStart
  obtain ⟨more, last, hcut, hlength, hsegments⟩ := cutArrows_mask hwritten
  obtain ⟨second, more, rfl⟩ := List.exists_cons_of_length_eq_add_one hlength
  rw [← hcase, ← Chain.text] at hcut
  rw [← hcase] at hsegments
  have hfirst : cellText (mask c.first ++ l.before.map openCell) = c.first := by
    rw [cellText, sourceText_append, sourceText_mask, sourceText_map_openCell, trim,
      trimStart_eq_self (hstart.head_append l.before),
      trimEnd_append hwritten.head.before hstart.last]
  have hafter : (c.links.map ChainLink.segment).any (·.after = []) = false := by
    rw [Bool.eq_false_iff]
    intro hany
    obtain ⟨s, hs, hempty⟩ := List.any_eq_true.1 hany
    obtain ⟨m, hm, rfl⟩ := List.mem_map.1 hs
    exact (AreWritten.isWritten h hm).right.ne_nil (of_decide_eq_true hempty)
  rw [chain?]
  simp only [hinner, hcut, hsegments, hfirst, hafter]
  simp [hstart.ne_nil]

end Swimlane
