import Swimlane.Proofs.Flowchart.BarredLink

/-!
# Quoted labels inside an arrow

Of a quoted label the mask shows the opening quote and nothing else.  So a label that is looked for
inside an arrow and is to be as short as possible ends behind this quote, and the quote alone is
the label (`innerLink?_dashedCells`).  Between bars the whole label is found: the two ways to write
a link with a quoted label never agree (`addsLink_of_quotedLabel`).
-/

namespace Swimlane

/-! ## Cells -/

/-- The cells behind a label inside an arrow. -/
def fromArrow (target : Text) : List Cell :=
  openCell ' ' :: (arrowCells ++ openCell ' ' :: target.map openCell)

/-- The cells from a quoted label inside an arrow on. -/
def fromLabel (label target : Text) : List Cell := labelCells label ++ fromArrow target

/-- The cells of a link with a quoted label inside its arrow. -/
def dashedCells (source label target : Text) : List Cell :=
  source.map openCell ++ openCell ' ' :: openCell '-' :: openCell '-' :: openCell ' ' ::
    fromLabel label target

section Cells

variable {u s v : Text} (hu : IsWord u) (hv : IsWord v) (hquote : '"' ∉ s)

include hu hv hquote

/-- Of the line the mask shows all but the label, and of the label the opening quote. -/
theorem mask_dashedLink : mask (dashedLink u (inQuotes s) v) = dashedCells u s v := by
  have hearly : ∀ c ∈ " -- ".toList, c ≠ '"' ∧ isOpening c = false :=
    forall_mem_of_all (by decide)
  have hlate : ∀ c ∈ " --> ".toList, c ≠ '"' ∧ isOpening c = false :=
    forall_mem_of_all (by decide)
  have hfront : ∀ c ∈ u ++ " -- ".toList, c ≠ '"' ∧ isOpening c = false :=
    fun c hc => (List.mem_append.1 hc).elim (hu.isOpen c) (hearly c)
  have hback : ∀ c ∈ " --> ".toList ++ v, c ≠ '"' ∧ isOpening c = false :=
    fun c hc => (List.mem_append.1 hc).elim (hlate c) (hv.isOpen c)
  rw [dashedLink, List.append_assoc, List.append_assoc, mask, maskFrom_append hfront,
    maskFrom_inQuotes hquote, ← mask, mask_eq_map hback]
  simp [dashedCells, fromLabel, fromArrow, labelCells, arrowCells]

/-- What of the line stands in the open. -/
theorem openChars_dashedLink : openChars false (dashedLink u (inQuotes s) v) =
    u ++ " -- ".toList ++ (" --> ".toList ++ v) := by
  have hfront : '"' ∉ u ++ " -- ".toList := by
    rw [List.mem_append, not_or]
    exact ⟨hu.not_mem (by decide), by decide⟩
  have hback : '"' ∉ " --> ".toList ++ v := by
    rw [List.mem_append, not_or]
    exact ⟨by decide, hv.not_mem (by decide)⟩
  rw [dashedLink, List.append_assoc, List.append_assoc, openChars_append hfront,
    openChars_inQuotes hquote, openChars_eq_self hback]

/-- What is neither of words nor of arrows does not stand in the open. -/
theorem not_mem_openChars_dashedLink {c : Char} (hc : isWordChar c = false)
    (hmark : c ∉ [' ', '-', '>']) : c ∉ openChars false (dashedLink u (inQuotes s) v) := by
  simp only [List.mem_cons, List.not_mem_nil, or_false, not_or] at hmark
  rw [openChars_dashedLink hu hv hquote]
  simp [hu.not_mem hc, hv.not_mem hc, hmark]

/-- The line is a statement. -/
theorem isStatementLine_dashedLink (hfeed : '\n' ∉ s) :
    IsStatementLine (dashedLink u (inQuotes s) v) where
  head := by
    rw [dashedLink, List.append_assoc, List.append_assoc, List.append_assoc]
    exact hu.head_append _
  last := hv.not_blank_of_getLast?_append _
  no_feed := by
    have hends : '\n' ∉ u ∧ '\n' ∉ v := ⟨hu.not_mem (by decide), hv.not_mem (by decide)⟩
    simp [dashedLink, inQuotes, hends, hfeed]
  no_comment := not_mem_openChars_dashedLink hu hv hquote (by decide) (by decide)
  no_semicolon := not_mem_openChars_dashedLink hu hv hquote (by decide) (by decide)

end Cells

/-! ## The label inside the arrow -/

/-- What is hidden is blank. -/
theorem dropBlank_hidden (s : Text) (rest : List Cell) :
    dropBlank (s.flatMap hiddenCells ++ rest) = dropBlank rest := by
  refine List.dropWhile_append_of_pos fun cell hcell => ?_
  obtain ⟨c, -, hcell⟩ := List.mem_flatMap.1 hcell
  rw [shown_hiddenCells c cell hcell]
  decide

/-- The second half of an arrow may be the whole of one. -/
theorem lateShaft?_arrowCells (tail : List Cell) :
    lateShaft? (arrowCells ++ tail) = some arrowCells := by
  simp [lateShaft?, optional, runOf, arrowCells, openCell]

section Inner

variable {u v : Text} (hv : IsWord v)

include hv

/-- The second half of the arrow is found after blanks, with the word that follows it. -/
theorem lateRest?_arrowCells :
    lateRest? (arrowCells ++ openCell ' ' :: v.map openCell) = some (v.map openCell) := by
  rw [lateRest?, sideAfter?, lateShaft?_arrowCells]
  simp only [List.drop_left, rightSide?_word hv]

/-- The label ends behind the opening quote, where the mask is blank as far as the second half of
the arrow. -/
theorem innerLabel?_fromLabel (s : Text) :
    innerLabel? [] (fromLabel s v) = some ([openCell '"'], v.map openCell) := by
  -- something is hidden behind the opening quote, the closing one at least
  obtain ⟨c, rest, hs⟩ : ∃ c rest, s ++ ['"'] = c :: rest :=
    List.exists_cons_of_ne_nil (by simp)
  obtain ⟨hidden, hhidden⟩ : ∃ hidden, (s ++ ['"']).flatMap hiddenCells =
      ⟨' ', some c⟩ :: hidden := ⟨_, by rw [hs]; rfl⟩
  have hcells : fromLabel s v = openCell '"' :: ⟨' ', some c⟩ :: (hidden ++ fromArrow v) := by
    rw [fromLabel, labelCells, hhidden]
    rfl
  have hdrop : dropBlank (hidden ++ fromArrow v) =
      arrowCells ++ openCell ' ' :: v.map openCell := by
    have hblanks := dropBlank_hidden (s ++ ['"']) (fromArrow v)
    rw [hhidden] at hblanks
    exact hblanks
  have hquote : innerLabel? [] (openCell '"' :: ⟨' ', some c⟩ :: (hidden ++ fromArrow v)) =
      innerLabel? [openCell '"'] (⟨' ', some c⟩ :: (hidden ++ fromArrow v)) := rfl
  have hends : [openCell '"'] ≠ [] ∧ isBlank (Cell.mk ' ' (some c)).shown = true :=
    ⟨List.cons_ne_nil _ _, rfl⟩
  rw [hcells, hquote, innerLabel?]
  simp only [if_pos hends, hdrop, lateRest?_arrowCells hv]
  rfl

/-- After the first half of the arrow one blank is passed over, and the label begins. -/
theorem innerRest?_fromLabel (s : Text) :
    innerRest? (openCell '-' :: openCell '-' :: openCell ' ' :: fromLabel s v) =
      some ([openCell '"'], v.map openCell) := by
  have hspan : (openCell ' ' :: fromLabel s v).span (isBlank ·.shown) =
      ([openCell ' '], fromLabel s v) := by
    have hblank : ∀ cell ∈ [openCell ' '], isBlank cell.shown = true :=
      List.forall_mem_singleton.2 (by decide)
    exact span_append_cons hblank (show isBlank (openCell '"').shown = false by decide) _
  have hshaft : earlyShaft? (openCell '-' :: openCell '-' :: openCell ' ' :: fromLabel s v) =
      some [openCell '-', openCell '-'] := by
    simp [earlyShaft?, optional, shownText, openCell]
  rw [innerRest?, hshaft]
  simp only [List.length_cons, List.length_nil, List.drop_succ_cons, List.drop_zero, hspan,
    innerLabel?_fromLabel hv]
  rfl

/-- A quoted label inside an arrow is its opening quote. -/
theorem innerLink?_dashedCells (hu : IsWord u) (s : Text) :
    innerLink? (dashedCells u s v) = some (u.map openCell, [openCell '"'], v.map openCell) := by
  have hfound : innerRest? (dropBlank (openCell ' ' :: openCell '-' :: openCell '-' ::
      openCell ' ' :: fromLabel s v)) = some ([openCell '"'], v.map openCell) :=
    innerRest?_fromLabel hv s
  have hends : endsInArrow (trimEnd (shownText (u.map openCell))) = false := by
    have hshown : shownText (u.map openCell) = u := by
      simp [shownText, Function.comp_def, openCell]
    rw [hshown, trimEnd_eq_self fun c hc => hu.not_blank c (List.mem_of_getLast? hc)]
    exact endsInArrow_word hu
  have hnone (cells : List Cell) (h : ∀ cell ∈ cells.head?, ¬ beginsArrow cell.shown) :
      innerRest? cells = none := by
    rw [innerRest?, earlyShaft?_eq_none h]
  rw [innerLink?, dashedCells, shortestLeft_word hnone hu.ne_nil hu.word hfound]
  simp only [List.reverse_nil, List.nil_append, hends, Bool.false_eq_true, if_false]

end Inner

/-! ## The line as a statement -/

section Line

variable {u s v : Text} (hu : IsPlainName u) (hv : IsWord v) (hquote : '"' ∉ s)

include hu hv hquote

/-- Nothing stands between bars. -/
theorem barLink?_dashedLink : barLink? (mask (dashedLink u (inQuotes s) v)) = none := by
  have hbar : ∀ cell ∈ mask (dashedLink u (inQuotes s) v), cell.shown ≠ '|' :=
    shown_ne_of_not_mem_openChars
      (not_mem_openChars_dashedLink hu.isWord hv hquote (by decide) (by decide)) (by decide)
      (by decide)
  have hnone (rest : List Cell) (hrest : rest <:+ mask (dashedLink u (inQuotes s) v)) :
      barRest? rest = none := by
    rw [Option.eq_none_iff_forall_ne_some]
    rintro ⟨label, right⟩ hfound
    obtain ⟨arrow, first, second, after, rfl, hfirst, -⟩ := exists_of_barRest? hfound
    exact hbar first (hrest.subset (List.mem_append_right _ List.mem_cons_self)) hfirst
  rw [barLink?, shortestLeft_eq_none barRest? hnone]

/-- The line is a link with a quote as its label. -/
theorem link?_dashedLink : link? (dashedLink u (inQuotes s) v) = some ⟨u, some ['"'], v⟩ := by
  have hlabel : unquote (cellText [openCell '"']) = ['"'] := by decide
  have hinner : innerLabelLink? (mask (dashedLink u (inQuotes s) v)) =
      some ⟨u, some ['"'], v⟩ := by
    rw [innerLabelLink?, mask_dashedLink hu.isWord hv hquote, innerLink?_dashedCells hv hu.isWord]
    simp only [cellText_word hu.isWord, cellText_word hv, hlabel, sidesOk_words hu.isWord hv]
    rfl
  simp only [link?, barLink?_dashedLink hu hv hquote, hinner, Option.none_or, Option.some_or]

/-- What has a label inside its arrow is no chain. -/
theorem chain?_dashedLink : chain? (dashedLink u (inQuotes s) v) = none := by
  simp only [chain?, mask_dashedLink hu.isWord hv hquote, innerLink?_dashedCells hv hu.isWord,
    Option.isSome_some, if_true]

/-- The line is read for its edges. -/
theorem isForEdges_dashedLink : Draft.IsForEdges (dashedLink u (inQuotes s) v) := by
  have htildes := hasTildes_eq_false
    (not_mem_openChars_dashedLink hu.isWord hv hquote (c := '~') (by decide) (by decide))
  have hhyphen : '-' ∈ dashedLink u (inQuotes s) v := by simp [dashedLink]
  have hdirection := Draft.directionLine?_eq_none hhyphen (Or.inl rfl)
  obtain ⟨t, hline⟩ : ∃ t, dashedLink u (inQuotes s) v = u ++ ' ' :: t :=
    ⟨_, by simp [dashedLink]; rfl⟩
  rw [hline] at hdirection htildes ⊢
  have hplain := Draft.beginsPlainly_name hu (' ' :: t) (by simp [isWordChar])
  exact (hplain.isPlainStatement hdirection).isForEdges htildes

/-- The line adds an edge with a quote as its label. -/
theorem readStatement_dashedLink (d : Draft) (line : Nat) :
    d.readStatement line (dashedLink u (inQuotes s) v) = .ok (d.link ⟨u, v, some ['"']⟩) := by
  rw [(isForEdges_dashedLink hu hv hquote).readStatement_of_link d line
    (chain?_dashedLink hu hv hquote) (link?_dashedLink hu hv hquote)]
  exact Draft.addLink_word (l := ⟨u, v, some ['"']⟩) hu.isWord hv d

end Line

/-! ## The two ways to write a quoted label -/

section Ways

variable {u s v : Text} (hu : IsPlainName u) (hv : IsWord v) (hquote : '"' ∉ s)
  (hfeed : '\n' ∉ s) {t : Text} {d : Draft} (h : draftOf (statements t) = .ok d)

include hu hv hquote hfeed h

/-- After a text that can be read so far, a quoted label between bars is that of the edge. -/
theorem draftOf_append_quotedBars (hne : s ≠ []) :
    draftOf (statements (t ++ '\n' :: barredLink u (inQuotes s) v)) =
      .ok (d.link ⟨u, v, some s⟩) := by
  have hlabel : ∀ label ∈ (PlainLink.mk u v (some s)).label, '"' ∉ label ∧ '\n' ∉ label := by
    rintro _ ⟨⟩
    exact ⟨hquote, hfeed⟩
  have hread := Draft.readStatement_line (l := ⟨u, v, some s⟩) hu hv
    (fun label hl => ⟨(hlabel label hl).1, by cases hl; exact hne⟩) d (nextLine t)
  have hline : barredLink u (inQuotes s) v = (PlainLink.mk u v (some s)).line := rfl
  rw [hline, draftOf_append_statement h (isStatementLine_line hu.isWord hv hlabel), Draft.read,
    hread]
  rfl

/-- After a text that can be read so far, a quoted label inside the arrow is a quote. -/
theorem draftOf_append_quotedDashes :
    draftOf (statements (t ++ '\n' :: dashedLink u (inQuotes s) v)) =
      .ok (d.link ⟨u, v, some ['"']⟩) := by
  rw [draftOf_append_statement h (isStatementLine_dashedLink hu.isWord hv hquote hfeed),
    Draft.read, readStatement_dashedLink hu hv hquote]
  rfl

/-- After a text that can be read so far, the line of a link with a quoted label is accepted and
adds its one edge, wherever the label stands.  Between bars the edge has the label; inside the
arrow it has a quote for a label, whatever the label is.  So the two lines never agree. -/
theorem addsLink_of_quotedLabel (hne : s ≠ []) :
    (draftOf (statements (t ++ '\n' :: barredLink u (inQuotes s) v)) =
        .ok (d.link ⟨u, v, some s⟩) ∧
      d.AddsLink ⟨u, v, some s⟩ (d.link ⟨u, v, some s⟩)) ∧
    (draftOf (statements (t ++ '\n' :: dashedLink u (inQuotes s) v)) =
        .ok (d.link ⟨u, v, some ['"']⟩) ∧
      d.AddsLink ⟨u, v, some ['"']⟩ (d.link ⟨u, v, some ['"']⟩)) ∧
    d.link ⟨u, v, some s⟩ ≠ d.link ⟨u, v, some ['"']⟩ := by
  refine ⟨⟨draftOf_append_quotedBars hu hv hquote hfeed h hne, d.addsLink_link _⟩,
    ⟨draftOf_append_quotedDashes hu hv hquote hfeed h, d.addsLink_link _⟩, fun hsame => hquote ?_⟩
  have hedges := (d.addsLink_link ⟨u, v, some s⟩).edges
  rw [hsame, (d.addsLink_link ⟨u, v, some ['"']⟩).edges] at hedges
  have hlabel := congrArg Edge.label (List.cons_eq_cons.1 (List.append_cancel_left hedges)).1
  rw [← Option.some.inj hlabel]
  exact List.mem_cons_self

end Ways

/-- A label with a bar, a semicolon and an arrow in its quotes. -/
theorem addsLink_of_quotedMarks :
    (draftOf (statements ("graph LR".toList ++ '\n' ::
        barredLink ['u'] (inQuotes "a|b; --> c".toList) "end".toList)) =
        .ok ((Draft.start .leftRight).link ⟨['u'], "end".toList, some "a|b; --> c".toList⟩) ∧
      (Draft.start .leftRight).AddsLink ⟨['u'], "end".toList, some "a|b; --> c".toList⟩
        ((Draft.start .leftRight).link ⟨['u'], "end".toList, some "a|b; --> c".toList⟩)) ∧
    (draftOf (statements ("graph LR".toList ++ '\n' ::
        dashedLink ['u'] (inQuotes "a|b; --> c".toList) "end".toList)) =
        .ok ((Draft.start .leftRight).link ⟨['u'], "end".toList, some ['"']⟩) ∧
      (Draft.start .leftRight).AddsLink ⟨['u'], "end".toList, some ['"']⟩
        ((Draft.start .leftRight).link ⟨['u'], "end".toList, some ['"']⟩)) ∧
    (Draft.start .leftRight).link ⟨['u'], "end".toList, some "a|b; --> c".toList⟩ ≠
      (Draft.start .leftRight).link ⟨['u'], "end".toList, some ['"']⟩ :=
  addsLink_of_quotedLabel (by decide) (by decide) (by decide) (by decide) (by decide +kernel)
    (by decide)

/-- One link written in both ways, with its label in quotes. -/
theorem exists_quoted_labels_unlike :
    ((Flowchart.ofText ("graph LR".toList ++ '\n' ::
        barredLink ['u'] (inQuotes ['x']) ['v'])).map (·.graph.edges)).toOption =
      some [⟨"e0".toList, ['u'], ['v'], some ['x']⟩] ∧
    ((Flowchart.ofText ("graph LR".toList ++ '\n' ::
        dashedLink ['u'] (inQuotes ['x']) ['v'])).map (·.graph.edges)).toOption =
      some [⟨"e0".toList, ['u'], ['v'], some ['"']⟩] := by
  decide +kernel

end Swimlane
