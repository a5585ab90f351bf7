import Swimlane.Proofs.Flowchart.Appending
import Swimlane.Proofs.Flowchart.SingleBar

/-!
# The line of a link with a label between bars

The line is cut at its semicolons and at nothing else.  As a statement it is the link with its label
between its bars (`link?_barredLink`), unless the mark of an invisible link is found in it, or it is
a chain.
-/

namespace Swimlane

/-- May the text be a label between bars?  It has no bar, no quote, no bracket and no end of a
line, and no comment begins in it. -/
structure FitsBars (s : Text) : Prop where
  plain : ∀ c ∈ s, isPlain c = true
  no_bar : '|' ∉ s
  no_feed : '\n' ∉ s
  no_comment : ¬ ['%', '%'] <:+: s

instance (s : Text) : Decidable (FitsBars s) :=
  decidable_of_iff (s.all isPlain = true ∧ '|' ∉ s ∧ '\n' ∉ s ∧ occursIn ['%', '%'] s = false)
    ⟨fun ⟨hplain, hbar, hfeed, hcomment⟩ => ⟨List.all_eq_true.1 hplain, hbar, hfeed,
      by rw [← occursIn_iff, hcomment]; exact Bool.false_ne_true⟩,
    fun h => ⟨List.all_eq_true.2 h.plain, h.no_bar, h.no_feed,
      by rw [Bool.eq_false_iff, Ne, occursIn_iff]; exact h.no_comment⟩⟩

/-- What follows the arrow of a link with a label between bars. -/
def afterArrow (s v : Text) : Text := '|' :: (s ++ '|' :: ' ' :: v)

theorem barredLink_eq (u s v : Text) : barredLink u s v = u ++ " -->".toList ++ afterArrow s v := by
  simp [barredLink, afterArrow]

/-! ## The line -/

section Line

variable {u s v : Text} (hu : IsWord u) (hs : FitsBars s) (hv : IsWord v)

include hs hv in
theorem isPlain_afterArrow : ∀ c ∈ afterArrow s v, isPlain c = true := by
  intro c hc
  rw [afterArrow, List.mem_cons, List.mem_append, List.mem_cons, List.mem_cons] at hc
  rcases hc with rfl | hc | rfl | rfl | hc
  · decide
  · exact hs.plain c hc
  · decide
  · decide
  · exact isPlain_of_isWordChar (hv.word c hc)

include hu hv in
/-- What occurs in the line and has no bar, but a character that is neither of words nor of the
arrow, occurs in the label. -/
theorem infix_barredLink {part : Text} {c : Char} (hc : c ∈ part) (hword : isWordChar c = false)
    (harrow : c ∉ " -->".toList) (hbar : '|' ∉ part) (h : part <:+: barredLink u s v) :
    part <:+: s := by
  rw [barredLink_eq, afterArrow] at h
  rcases infix_or_of_append_cons hbar h with hbefore | h
  · exact absurd (hbefore.subset hc)
      (by rw [List.mem_append, not_or]; exact ⟨hu.not_mem hword, harrow⟩)
  · refine (infix_or_of_append_cons hbar h).resolve_right fun hafter => ?_
    rcases List.mem_cons.1 (hafter.subset hc) with rfl | hmem
    · exact harrow (by decide)
    · exact hv.not_mem hword hmem

include hu hs hv

theorem isPlain_barredLink : ∀ c ∈ barredLink u s v, isPlain c = true := by
  rw [barredLink_eq]
  exact isPlain_arrow hu (isPlain_afterArrow hs hv)

theorem mask_barredLink :
    mask (barredLink u s v) = linkCells u ((afterArrow s v).map openCell) := by
  rw [barredLink_eq]
  exact mask_arrow hu (isPlain_afterArrow hs hv)

omit hs in
/-- There is no blank at either end of the line. -/
theorem ends_barredLink : (∃ c rest, barredLink u s v = c :: rest ∧ isBlank c = false ∧ c ≠ '%') ∧
    ∀ c ∈ (barredLink u s v).getLast?, isBlank c = false := by
  refine ⟨?_, hv.not_blank_of_getLast?_append _⟩
  rw [barredLink_eq, List.append_assoc]
  exact hu.head_append _

/-- The line is code, and all of it. -/
theorem lineContent_barredLink : lineContent (barredLink u s v) = .code (barredLink u s v) := by
  have hquote : '"' ∉ barredLink u s v := fun hmem =>
    absurd (isPlain_barredLink hu hs hv _ hmem) (by decide)
  have hcomment : ¬ ['%', '%'] <:+: barredLink u s v := fun hcomment =>
    hs.no_comment (infix_barredLink hu hv List.mem_cons_self (by decide) (by decide) (by decide)
      hcomment)
  obtain ⟨hhead, hlast⟩ := ends_barredLink hu hv (s := s)
  exact lineContent_eq_code hhead hlast (beforeComment_eq_self_of_no_comment hquote hcomment)

/-- The line is cut into statements at its semicolons. -/
theorem lineStatements_barredLink : lineStatements (barredLink u s v) =
    ((pieces (· = ';') (barredLink u s v)).map trim).filter (· ≠ []) := by
  have hopen : ∀ c ∈ barredLink u s v, c ≠ '"' ∧ isOpening c = false := fun c hc =>
    isOpen_of_isPlain (isPlain_barredLink hu hs hv c hc)
  rw [lineStatements, semicolonPieces_eq_pieces hopen List.not_mem_nil]
  rfl

theorem not_mem_feed_barredLink : '\n' ∉ barredLink u s v := by
  rw [barredLink_eq, afterArrow]
  simp [hu.not_mem (c := '\n') (by decide), hs.no_feed, hv.not_mem (c := '\n') (by decide)]

/-- After a text the statements of the line are read one after another. -/
theorem draftOf_append_barredLink {t : Text} {d : Draft} (h : draftOf (statements t) = .ok d) :
    draftOf (statements (t ++ '\n' :: barredLink u s v)) =
      ((lineStatements (barredLink u s v)).map (⟨nextLine t, ·⟩)).foldlM Draft.read d := by
  rw [draftOf_append_line h (not_mem_feed_barredLink hu hs hv), statementsFrom,
    lineContent_barredLink hu hs hv]
  simp only [statementsFrom, List.append_nil]

/-- Without a semicolon the line is a statement. -/
theorem draftOf_append_barredLink_statement (hsemicolon : ';' ∉ s) {t : Text} {d : Draft}
    (h : draftOf (statements t) = .ok d) :
    draftOf (statements (t ++ '\n' :: barredLink u s v)) =
      d.read ⟨nextLine t, barredLink u s v⟩ := by
  have hopen : ∀ c ∈ barredLink u s v, decide (c = ';') = false := by
    intro c hc
    refine decide_eq_false ?_
    rintro rfl
    rw [barredLink_eq, afterArrow] at hc
    simp [hu.not_mem (c := ';') (by decide), hsemicolon, hv.not_mem (c := ';') (by decide)] at hc
  have hne : barredLink u s v ≠ [] := by simp [barredLink]
  obtain ⟨hhead, hlast⟩ := ends_barredLink hu hv (s := s)
  rw [draftOf_append_barredLink hu hs hv h, lineStatements_barredLink hu hs hv,
    pieces_eq_singleton hopen, List.map_singleton, trim_eq_of_ends hhead hlast,
    List.filter_cons_of_pos (by simp [hne]), List.filter_nil, List.map_singleton,
    List.foldlM_cons]
  exact bind_pure _

end Line

/-! ## The line as a statement -/

/-- The label of an edge that is written between bars. -/
def barLabel (s : Text) : Option Text := if trim s = [] then none else some (trim s)

section Statement

variable {u s v : Text} (hu : IsPlainName u) (hs : FitsBars s) (hv : IsWord v)

/-- A label without quotes is only trimmed. -/
theorem unquote_trim (hquote : '"' ∉ s) : unquote (trim s) = trim s := by
  rw [unquote, trim_trim]
  split
  · next rest htrim =>
    have hmem : '"' ∈ trim s := htrim ▸ List.mem_cons_self
    exact absurd (mem_of_mem_trim hmem) hquote
  · rfl

include hu hs hv

/-- The label is found between its bars. -/
theorem link?_barredLink : link? (barredLink u s v) = some ⟨u, barLabel s, v⟩ := by
  have hnone (cells : List Cell) (h : arrow? cells = none) : barRest? cells = none := by
    rw [barRest?, h]
  have hbar : ∀ cell ∈ s.map openCell, decide (cell.shown ≠ '|') = true := by
    intro cell hcell
    obtain ⟨c, hc, rfl⟩ := List.mem_map.1 hcell
    refine decide_eq_true ?_
    rintro rfl
    exact hs.no_bar hc
  have hspan := span_append_cons hbar (y := openCell '|') (by decide)
    (openCell ' ' :: v.map openCell)
  have hcells : (afterArrow s v).map openCell =
      openCell '|' :: (s.map openCell ++ openCell '|' :: openCell ' ' :: v.map openCell) := by
    simp [afterArrow]
  have hfound : barRest? (arrowCells ++ (afterArrow s v).map openCell) =
      some (s.map openCell, v.map openCell) := by
    rw [barRest?, arrow?_arrowCells]
    simp only [List.drop_left, hcells, hspan, rightSide?_word hv]
    rfl
  have hlabel : unquote (cellText (s.map openCell)) = trim s := by
    rw [cellText_map_openCell]
    exact unquote_trim fun hmem => absurd (hs.plain _ hmem) (by decide)
  have hlink : barLink? (mask (barredLink u s v)) = some ⟨u, barLabel s, v⟩ := by
    rw [barLink?, mask_barredLink hu.isWord hs hv,
      shortestLeft_linkCells hnone hu.ne_nil hu.isWord.word hfound]
    simp only [List.reverse_nil, List.nil_append, cellText_word hu.isWord, cellText_word hv,
      hlabel, sidesOk_words hu.isWord hv, if_true, barLabel]
  rw [link?, hlink]
  rfl

/-- The mark of an invisible link is found in the line if it is in the label. -/
theorem hasTildes_barredLink :
    hasTildes (mask (barredLink u s v)) = true ↔ ['~', '~', '~'] <:+: s := by
  have hshown : shownText (mask (barredLink u s v)) = barredLink u s v := by
    rw [mask_of_isPlain (isPlain_barredLink hu.isWord hs hv), shownText, List.map_map]
    exact List.map_id _
  rw [hasTildes, hshown, occursIn_iff]
  refine ⟨infix_barredLink hu.isWord hv List.mem_cons_self (by decide) (by decide) (by decide),
    fun htildes => ?_⟩
  exact htildes.trans ⟨u ++ " -->|".toList, "| ".toList ++ v, by simp [barredLink]⟩

omit hs hv in
theorem isPlainStatement_barredLink : Draft.IsPlainStatement (barredLink u s v) := by
  have hhyphen : '-' ∈ barredLink u s v := by simp [barredLink]
  have hdirection := Draft.directionLine?_eq_none hhyphen (Or.inl rfl)
  have hline : barredLink u s v = u ++ ' ' :: ("-->".toList ++ afterArrow s v) := by
    rw [barredLink_eq]
    simp
  rw [hline] at hdirection ⊢
  have hplain := Draft.beginsPlainly_name hu (' ' :: ("-->".toList ++ afterArrow s v))
    (by simp [isWordChar])
  exact hplain.isPlainStatement hdirection

end Statement

end Swimlane
