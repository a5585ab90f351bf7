import Swimlane.Proofs.Flowchart.Written

/-!
# Segments read back as they are written

What stands between the arrows of a chain shows no arrow, also not together with what stands
next to it.  So a segment is found to be the link that it is written as (`link?_written`), whatever
blanks stand around its arrow.
-/

namespace Swimlane

/-! ## Cells that show no arrow with what follows -/

/-- Is nothing found from any of the cells on, with `rest` after them? -/
def FindsNothing {β : Type} (find : List Cell → Option β) (cells rest : List Cell) : Prop :=
  ∀ s, s ≠ [] → s <:+ cells → find (s ++ rest) = none

/-- A suffix of two texts begins in the first or in the second. -/
theorem suffix_append_cases {α : Type} {s front rest : List α} (h : s <:+ front ++ rest) :
    (∃ t, t ≠ [] ∧ t <:+ front ∧ s = t ++ rest) ∨ s <:+ rest := by
  induction front with
  | nil => exact Or.inr h
  | cons c front ih =>
    rw [List.cons_append, List.suffix_cons_iff] at h
    rcases h with rfl | h
    · exact Or.inl ⟨c :: front, List.cons_ne_nil c front, List.suffix_refl _, rfl⟩
    · rcases ih h with ⟨t, hne, ht, rfl⟩ | hrest
      · exact Or.inl ⟨t, hne, ht.trans (List.suffix_cons c front), rfl⟩
      · exact Or.inr hrest

section Finds

variable {β : Type} {find : List Cell → Option β} {cells front rest : List Cell}

theorem FindsNothing.append (hfront : FindsNothing find front (cells ++ rest))
    (hcells : FindsNothing find cells rest) : FindsNothing find (front ++ cells) rest := by
  intro s hne hs
  rcases suffix_append_cases hs with ⟨t, htne, ht, rfl⟩ | hs
  · rw [List.append_assoc]
    exact hfront t htne ht
  · exact hcells s hne hs

end Finds

/-- What finds arrows, or halves of them, looks no further than to the first cell that shows no
sign of arrows, and finds nothing where no part of an arrow is shown. -/
structure FindsArrows {β : Type} (find : List Cell → Option β) : Prop where
  append : ∀ s rest, EndsArrow rest → find (s ++ rest) = find s
  eq_none : ∀ s, ShowsNoArrow s → find s = none

theorem findsArrows_arrow? : FindsArrows arrow? where
  append s _ h := arrow?_append h s
  eq_none _ h := h.arrow?_eq_none

theorem findsArrows_earlyShaft? : FindsArrows earlyShaft? where
  append s _ h := earlyShaft?_append h s
  eq_none _ h := h.earlyShaft?_eq_none

/-- Cells that show no arrow and end with no sign of arrows show none with anything after them. -/
theorem FindsArrows.findsNothing {β : Type} {find : List Cell → Option β} (hfind : FindsArrows find)
    {cells : List Cell} (h : ShowsNoArrow cells)
    (hlast : ∀ cell ∈ cells.getLast?, isArrowSign cell.shown = false) (rest : List Cell) :
    FindsNothing find cells rest := by
  intro s hne hs
  obtain ⟨front, cell, rfl⟩ : ∃ front cell, s = front ++ [cell] :=
    ⟨s.dropLast, s.getLast hne, (List.dropLast_concat_getLast hne).symm⟩
  have hcell : isArrowSign cell.shown = false := by
    obtain ⟨before, rfl⟩ := hs
    exact hlast cell (by simp)
  have hfront : ShowsNoArrow front := List.IsChain.prefix (h.suffix hs) (List.prefix_append _ _)
  have hends : EndsArrow ([cell] ++ rest) := by
    intro d hd
    rw [← Option.some.inj hd]
    exact hcell
  rw [List.append_assoc, hfind.append front _ hends]
  exact hfind.eq_none front hfront

/-- From a reference on from which an arrow leads nothing is found before the arrow. -/
theorem FindsArrows.findsNothing_start {β : Type} {find : List Cell → Option β}
    (hfind : FindsArrows find) {start : Text} (hstart : IsStart start) (rest : List Cell) :
    FindsNothing find (mask start) rest :=
  hfind.findsNothing hstart.quiet
    (fun cell hcell => isArrowSign_of_isRefChar (hstart.last_mask cell hcell)) rest

theorem FindsArrows.findsNothing_blanks {β : Type} {find : List Cell → Option β}
    (hfind : FindsArrows find) {blanks : Text} (hblank : ∀ c ∈ blanks, isBlank c = true)
    (rest : List Cell) : FindsNothing find (blanks.map openCell) rest := by
  have hquiet : ShowsNoArrow (blanks.map openCell ++ []) := .blanks_append hblank List.IsChain.nil
  rw [List.append_nil] at hquiet
  refine hfind.findsNothing hquiet (fun cell hcell => ?_) rest
  obtain ⟨c, hc, rfl⟩ := List.mem_map.1 (List.mem_of_getLast? hcell)
  exact isArrowSign_of_isBlank (hblank c hc)

/-! ## What is found in a segment -/

theorem arrow?_eq_none_of_hasArrow {cells : List Cell} (h : hasArrow cells = false) {s : List Cell}
    (hs : s <:+ cells) : arrow? s = none := by
  have hcut : (cutArrows 0 [] cells).1 = [] := by simpa [hasArrow] using h
  clear h
  generalize ([] : List Cell) = before at hcut
  induction cells generalizing before with
  | nil =>
    rw [List.suffix_nil.1 hs]
    rfl
  | cons c cells ih =>
    simp only [cutArrows] at hcut
    split at hcut
    · cases hcut
    · next hnone =>
      rcases List.suffix_cons_iff.1 hs with rfl | hs
      · exact hnone
      · exact ih hs _ hcut

theorem dropBlank_append {s : List Cell} (h : ∃ cell ∈ s, isBlank cell.shown = false)
    (rest : List Cell) : ∃ t, t ≠ [] ∧ t <:+ s ∧ dropBlank (s ++ rest) = t ++ rest := by
  obtain ⟨cell, hcell, hblank⟩ := h
  have hne : dropBlank s ≠ [] := by
    intro hnil
    have hall := List.dropWhile_eq_nil_iff.1 hnil cell hcell
    exact Bool.false_ne_true (hblank.symm.trans hall)
  refine ⟨dropBlank s, hne, List.dropWhile_suffix _, ?_⟩
  rw [dropBlank, List.dropWhile_append, if_neg (by simpa [dropBlank] using hne)]
  rfl

theorem dropBlank_blanks {blanks : Text} (hblank : ∀ c ∈ blanks, isBlank c = true)
    {cells : List Cell} (h : ∀ cell ∈ cells.head?, isBlank cell.shown = false) :
    dropBlank (blanks.map openCell ++ cells) = cells := by
  have hall : ∀ cell ∈ blanks.map openCell, isBlank cell.shown = true := by
    intro cell hcell
    obtain ⟨c, hc, rfl⟩ := List.mem_map.1 hcell
    exact hblank c hc
  rw [dropBlank, List.dropWhile_append_of_pos hall]
  cases cells with
  | nil => rfl
  | cons cell cells => exact List.dropWhile_cons_of_neg (by simp [h cell rfl])

/-- The shortest left side ends where something is found after blanks, if nothing is found before
that. -/
theorem shortestLeft_append {β : Type} {right? : List Cell → Option β} {front : List Cell}
    {blanks : Text} (hblank : ∀ c ∈ blanks, isBlank c = true) {rest : List Cell} {found : β}
    (hne : front ≠ []) (hlast : ∀ cell ∈ front.getLast?, isBlank cell.shown = false)
    (hhead : ∀ cell ∈ rest.head?, isBlank cell.shown = false)
    (hnone : FindsNothing right? front (blanks.map openCell ++ rest))
    (hfound : right? rest = some found) (before : List Cell) :
    shortestLeft right? before (front ++ (blanks.map openCell ++ rest)) =
      some (before.reverse ++ front, found) := by
  induction front generalizing before with
  | nil => exact absurd rfl hne
  | cons c front ih =>
    rw [List.cons_append, shortestLeft]
    cases front with
    | nil =>
      rw [List.nil_append, dropBlank_blanks hblank hhead, hfound]
      simp
    | cons d front =>
      -- the last cell of `front` is no blank, so dropping blanks never passes beyond it
      obtain ⟨last, hlast?⟩ := Option.isSome_iff_exists.1
        (List.getLast?_isSome.2 (List.cons_ne_nil d front))
      obtain ⟨t, htne, ht, hdrop⟩ := dropBlank_append
        ⟨last, List.mem_of_getLast? hlast?, hlast last (by simpa using hlast?)⟩
        (blanks.map openCell ++ rest)
      rw [hdrop, hnone t htne (ht.trans (List.suffix_cons c _)),
        ih (List.cons_ne_nil d front) (fun cell hcell => hlast cell (by simpa using hcell))
          (fun s hne hs => hnone s hne (hs.trans (List.suffix_cons c _)))]
      simp

theorem rightSide?_blanks {blanks : Text} (hblank : ∀ c ∈ blanks, isBlank c = true) {right : Text}
    (hright : IsStop right) :
    rightSide? (blanks.map openCell ++ mask right) = some (mask right) := by
  obtain ⟨c, -, cells, -, -, hcells⟩ := hright.exists_cons
  rw [rightSide?, dropBlank_blanks hblank hright.head_mask, hcells]

/-! ## Segments without a label -/

namespace ChainLink.IsWritten

variable {l : ChainLink} (h : l.IsWritten)

include h

theorem arrow?_written (more : List Cell) :
    arrow? (l.arrow.text.map openCell ++ (l.cellsAfter ++ more)) =
      some (l.arrow.text.map openCell) := by
  rw [arrow?_append (h.endsArrow_after more), Swimlane.arrow?_written]

theorem endsArrow_cellsAfter : EndsArrow l.cellsAfter := by
  have hends := h.endsArrow_after []
  rwa [List.append_nil] at hends

theorem arrow?_cellsAfter :
    arrow? (l.arrow.text.map openCell ++ l.cellsAfter) = some (l.arrow.text.map openCell) := by
  have harrow := h.arrow?_written []
  rwa [List.append_nil] at harrow

theorem barRest?_written {label : Text} (hlabel : l.label = some label) :
    barRest? (l.arrow.text.map openCell ++ l.cellsAfter) = some (mask label, mask l.right) := by
  have hcells : l.cellsAfter =
      openCell '|' :: (mask label ++ openCell '|' :: (l.gap.map openCell ++ mask l.right)) := by
    simp [cellsAfter, hlabel, barCells]
  have hbar : ∀ cell ∈ mask label, decide (cell.shown ≠ '|') = true := fun cell hcell =>
    decide_eq_true (shown_ne_of_not_mem (h.label label hlabel).no_bar (by decide) (by decide)
      cell hcell)
  have hspan := span_append_cons hbar (y := openCell '|') (by decide)
    (l.gap.map openCell ++ mask l.right)
  rw [barRest?, h.arrow?_cellsAfter]
  simp only [List.drop_left, hcells]
  rw [if_neg (by simp [openCell]), hspan]
  simp only
  rw [rightSide?_blanks h.gap h.right]
  rfl

variable (hlabel : l.label = none)

include hlabel

omit h in
theorem cellsAfter_eq : l.cellsAfter = l.gap.map openCell ++ mask l.right := by
  rw [cellsAfter, hlabel]
  rfl

theorem plainRest?_written :
    plainRest? (l.arrow.text.map openCell ++ l.cellsAfter) = some (mask l.right) := by
  rw [plainRest?, sideAfter?, h.arrow?_cellsAfter]
  simp only [List.drop_left]
  rw [cellsAfter_eq hlabel, rightSide?_blanks h.gap h.right]

/-- From a cell of a segment without a label on no arrow is found, unless it is a cell of its
arrow. -/
theorem find_segment {start : Text} (hstart : IsStart start) {s : List Cell}
    (hs : s <:+ mask (start ++ l.text)) :
    (∀ {β : Type} {find : List Cell → Option β}, FindsArrows find → find s = none) ∨
      ∃ t, t <:+ l.arrow.text.map openCell ∧ s = t ++ l.cellsAfter := by
  have hquiet : ShowsNoArrow l.cellsAfter := by
    rw [cellsAfter_eq hlabel]
    exact .blanks_append h.gap h.right.quiet
  rw [h.mask_segment hstart, ← List.append_assoc] at hs
  rcases suffix_append_cases hs with ⟨t, hne, ht, rfl⟩ | hs
  · exact Or.inl fun hfind => ((hfind.findsNothing_start hstart _).append
      (hfind.findsNothing_blanks h.before _)) t hne ht
  · rcases suffix_append_cases hs with ⟨t, -, ht, rfl⟩ | hs
    · exact Or.inr ⟨t, ht, rfl⟩
    · exact Or.inl fun hfind => hfind.eq_none s (hquiet.suffix hs)

/-- Without a label no bar follows an arrow. -/
theorem barRest?_eq_none {start : Text} (hstart : IsStart start) {s : List Cell}
    (hs : s <:+ mask (start ++ l.text)) : barRest? s = none := by
  have hbar : ∀ cell ∈ l.cellsAfter.head?, cell.shown ≠ '|' := by
    obtain ⟨c, -, cells, -, hc, hcells⟩ := h.right.exists_cons
    intro cell hcell
    rw [cellsAfter_eq hlabel, hcells] at hcell
    cases hgap : l.gap with
    | nil =>
      rw [hgap] at hcell
      rw [← Option.some.inj hcell]
      exact ne_of_isRefChar hc rfl
    | cons b blanks =>
      rw [hgap] at hcell
      rw [← Option.some.inj hcell]
      rintro rfl
      exact absurd (h.gap '|' (hgap ▸ List.mem_cons_self)) (by decide)
  rcases h.find_segment hlabel hstart hs with hnone | ⟨t, ht, rfl⟩
  · rw [barRest?, hnone findsArrows_arrow?]
  · rw [barRest?, arrow?_append h.endsArrow_cellsAfter]
    cases harrow : arrow? t with
    | none => rfl
    | some arrow =>
      simp only [List.drop_append_of_le_length (isPrefix_of_arrow? harrow).length_le]
      -- what follows is the rest of the arrow, if any is left, or what stands after it
      cases hrest : t.drop arrow.length with
      | nil =>
        rw [List.nil_append]
        cases hafter : l.cellsAfter with
        | nil => rfl
        | cons cell rest => exact if_pos (hbar cell (by rw [hafter]; rfl))
      | cons cell rest =>
        have hmem : cell ∈ t := List.mem_of_mem_drop (hrest ▸ List.mem_cons_self)
        obtain ⟨c, hc, rfl⟩ := List.mem_map.1 (ht.subset hmem)
        refine if_pos ?_
        rintro rfl
        exact absurd (isArrowSign_of_mem_text hc) (by decide)

/-- Without a label between bars there is also none inside the arrow. -/
theorem innerRest?_eq_none {start : Text} (hstart : IsStart start) {s : List Cell}
    (hs : s <:+ mask (start ++ l.text)) : innerRest? s = none := by
  rcases h.find_segment hlabel hstart hs with hnone | ⟨t, ht, rfl⟩
  · rw [innerRest?, hnone findsArrows_earlyShaft?]
  · rw [innerRest?, earlyShaft?_append h.endsArrow_cellsAfter]
    cases hshaft : earlyShaft? t with
    | none => rfl
    | some shaft =>
      simp only [List.drop_append_of_le_length (isPrefix_of_earlyShaft? hshaft).length_le,
        List.span_eq_takeWhile_dropWhile]
      cases hrest : t.drop shaft.length with
      | nil =>
        have hdrop : (l.cellsAfter.dropWhile (isBlank ·.shown)) = mask l.right := by
          rw [cellsAfter_eq hlabel]
          exact dropBlank_blanks h.gap h.right.head_mask
        simp only [List.nil_append, hdrop, h.right.quiet.innerLabel?_eq_none,
          h.right.quiet.lateRest?_eq_none, Option.map_none, ite_self]
      | cons cell rest =>
        have hmem : cell ∈ t := List.mem_of_mem_drop (hrest ▸ List.mem_cons_self)
        obtain ⟨c, hc, rfl⟩ := List.mem_map.1 (ht.subset hmem)
        rw [List.cons_append, List.takeWhile_cons_of_neg
          (by simp [openCell, isBlank_of_mem_text hc]), if_pos rfl]

end ChainLink.IsWritten

/-! ## Segments as links -/

/-- The link of a segment. -/
def linkOf? (start : Text) (label : Option Text) (right : Text) : Option Link :=
  match label with
  | some label =>
      let label := unquote (trim label)
      some ⟨start, if label = [] then none else some label, right⟩
  | none =>
      let right := dropDecoration right
      if sidesOk start right then some ⟨start, none, right⟩ else none

/-- Only a sign of arrows at its head keeps a right side from being one. -/
theorem sidesOk_of_isStart {start : Text} (hstart : IsStart start) {c : Char}
    (hc : isArrowSign c = false) (rest : Text) : sidesOk start (c :: rest) = true := by
  obtain ⟨front, d, -, hconcat, hd, -⟩ := hstart.exists_concat
  have hlast (e : Char) (he : isRefChar e = false) : d ≠ e := ne_of_isRefChar hd he
  simp only [isArrowSign, Bool.or_eq_false_iff, decide_eq_false_iff_not] at hc
  simp [sidesOk, endsInArrow, hconcat, hc, hlast '-' rfl, hlast '=' rfl, hlast '.' rfl,
    hlast '<' rfl]

theorem sidesOk_of_isStop {start right : Text} (hstart : IsStart start) (hright : IsStop right) :
    sidesOk start right = true := by
  obtain ⟨c, rest, -, rfl, hc, -⟩ := hright.exists_cons
  exact sidesOk_of_isStart hstart (isArrowSign_of_isRefChar hc) rest

theorem IsStop.cellText_mask {s : Text} (h : IsStop s) : cellText (mask s) = s := by
  rw [cellText, sourceText_mask, h.trim_eq]

namespace ChainLink.IsWritten

variable {l : ChainLink} (h : l.IsWritten) {start : Text} (hstart : IsStart start)

include h hstart

/-- What begins with an arrow is found after the reference before the arrow. -/
theorem shortestLeft_written {β : Type} {right? : List Cell → Option β} {found : β}
    (hnone : ∀ s, arrow? s = none → right? s = none)
    (hfound : right? (l.arrow.text.map openCell ++ l.cellsAfter) = some found) :
    shortestLeft right? [] (mask (start ++ l.text)) = some (mask start, found) := by
  obtain ⟨-, d, cells, -, -, hcells⟩ := hstart.exists_concat
  have hlast : ∀ cell ∈ (mask start).getLast?, isBlank cell.shown = false := fun cell hcell =>
    isBlank_of_isRefChar (hstart.last_mask cell hcell)
  have hhead : ∀ cell ∈ (l.arrow.text.map openCell ++ l.cellsAfter).head?,
      isBlank cell.shown = false := by
    obtain ⟨c, rest, htext⟩ := List.exists_cons_of_ne_nil l.arrow.text_ne_nil
    intro cell hcell
    rw [htext] at hcell
    rw [← Option.some.inj hcell]
    exact isBlank_of_mem_text (htext ▸ List.mem_cons_self)
  have hfinds := findsArrows_arrow?.findsNothing_start hstart
    (l.before.map openCell ++ (l.arrow.text.map openCell ++ l.cellsAfter))
  rw [h.mask_segment hstart]
  exact shortestLeft_append h.before (by simp [hcells]) hlast hhead
    (fun s hne hs => hnone _ (hfinds s hne hs)) hfound []

/-- A segment is the link that it is written as. -/
theorem link?_written : link? (start ++ l.text) = linkOf? start l.label l.right := by
  cases hlabel : l.label with
  | none =>
    have hbar := shortestLeft_eq_none barRest? (fun rest hrest =>
      h.barRest?_eq_none hlabel hstart hrest) []
    have hinner := shortestLeft_eq_none innerRest? (fun rest hrest =>
      h.innerRest?_eq_none hlabel hstart hrest) []
    have hplain := h.shortestLeft_written hstart (fun s hs => by simp [plainRest?, sideAfter?, hs])
      (h.plainRest?_written hlabel)
    simp only [link?, barLink?, hbar, innerLabelLink?, innerLink?, hinner, plainLink?, hplain,
      Option.none_or, hstart.cellText_mask, h.right.cellText_mask, linkOf?]
  | some label =>
    have hbar := h.shortestLeft_written hstart (fun s hs => by simp [barRest?, hs])
      (h.barRest?_written hlabel)
    have htext : cellText (mask label) = trim label := by rw [cellText, sourceText_mask]
    simp only [link?, barLink?, hbar, hstart.cellText_mask, h.right.cellText_mask, htext,
      if_pos (sidesOk_of_isStop hstart h.right), Option.some_or, linkOf?]

end ChainLink.IsWritten

end Swimlane
