import Swimlane.Proofs.Flowchart.EdgeLabels

/-!
# A single bar after an arrow

A label between bars has two of them.  If only one follows the arrow, it counts to the right side of
the link, or, with a label inside a second arrow, the first arrow counts to the left side; and
neither is then a reference that can be read (`not_canLink_of_bar`).
-/

namespace Swimlane

/-! ## A word and an arrow -/

section Arrow

variable {u tail : Text} (hu : IsWord u) (htail : ∀ c ∈ tail, isPlain c = true)

include hu htail

theorem isPlain_arrow : ∀ c ∈ u ++ " -->".toList ++ tail, isPlain c = true := by
  have harrow : ∀ c ∈ " -->".toList, isPlain c = true := forall_mem_of_all (by decide)
  intro c hc
  rw [List.mem_append, List.mem_append] at hc
  rcases hc with (hc | hc) | hc
  · exact isPlain_of_isWordChar (hu.word c hc)
  · exact harrow c hc
  · exact htail c hc

theorem mask_arrow :
    mask (u ++ " -->".toList ++ tail) = linkCells u (tail.map openCell) := by
  rw [mask_of_isPlain (isPlain_arrow hu htail)]
  simp [linkCells, arrowCells]

end Arrow

/-- An arrow does not end in a blank, so blanks behind an arrow and more stand in what is more. -/
theorem exists_append_of_blanks {u : Text} {after left blanks : List Cell}
    (hblanks : ∀ cell ∈ blanks, isBlank cell.shown = true)
    (h : (u ++ " -->".toList).map openCell ++ after = left ++ blanks) :
    ∃ more, left = (u ++ " -->".toList).map openCell ++ more ∧ more <+: after := by
  rcases List.append_eq_append_iff.1 h with ⟨more, hleft, hafter⟩ | ⟨cut, harrow, hcut⟩
  · exact ⟨more, hleft, hafter ▸ List.prefix_append more blanks⟩
  · have hangle : ∀ cell ∈ ((u ++ " -->".toList).map openCell).getLast?,
        isBlank cell.shown = false := by
      intro cell hcell
      rw [List.map_append, List.getLast?_append_of_ne_nil _ (by simp)] at hcell
      rw [← Option.some.inj hcell]
      rfl
    have hnil : cut = [] := eq_nil_of_blanks harrow
      (fun cell hcell => hblanks cell (hcut ▸ List.mem_append_left _ hcell)) hangle
    rw [hnil, List.append_nil] at harrow
    exact ⟨[], by rw [harrow, List.append_nil], List.nil_prefix⟩

/-! ## Sides that cannot be read -/

/-- A text in the open with a bar or an angle before any colon refers to no node. -/
theorem not_isReadable {front rest : Text} {c : Char}
    (hplain : ∀ d ∈ front ++ c :: rest, isPlain d = true) (hcolon : ':' ∉ front)
    (hc : c = '|' ∨ c = '>') : ¬ Draft.IsReadable (front ++ c :: rest) := by
  have hmark : isWordChar c = false ∧ c ≠ '-' ∧ c ≠ ':' ∧ isBlank c = false := by
    rcases hc with rfl | rfl <;> decide
  obtain ⟨hword, hhyphen, hcolon', hblank⟩ := hmark
  have hcut : beforeFirst [':', ':', ':'] (front ++ c :: rest) =
      (front ++ [c]) ++ beforeFirst [':', ':', ':'] rest := by
    have hfront : ':' ∉ front ++ [c] := by
      simp [hcolon, Ne.symm hcolon']
    rw [← beforeFirst_append hfront, List.append_assoc, List.singleton_append]
  have hmem : c ∈ withoutClass (front ++ c :: rest) := by
    rw [withoutClass, hcut]
    exact mem_trim (by simp) hblank
  have hopen (d : Char) (hd : d ∈ withoutClass (front ++ c :: rest)) : isPlain d = true :=
    hplain d (mem_of_mem_beforeFirst (mem_of_mem_trim hd))
  have hname := ofText_eq_name (s := withoutClass (front ++ c :: rest))
    (fun d hd => (isOpen_of_isPlain (hopen d hd)).2)
    fun hbracket => absurd (hopen ']' hbracket) (by decide)
  rintro ⟨r, href, hid⟩
  rw [Draft.readRef] at href
  split at href
  · cases href
  · split at href
    · cases href
      rw [hname] at hid
      have hnode := hid _ rfl
      rw [isNodeId_eq_false hmem hword hhyphen] at hnode
      cases hnode
    · cases href

/-- A side of a link in the open with a bar or an angle before any colon and ampersand cannot be
read. -/
theorem exists_not_isReadable {front rest : Text} {c : Char}
    (hplain : ∀ d ∈ front ++ c :: rest, isPlain d = true)
    (hhead : ∀ d ∈ front.head?, isBlank d = false) (hcolon : ':' ∉ front) (hamp : '&' ∉ front)
    (hc : c = '|' ∨ c = '>') :
    ∃ piece ∈ splitOpen '&' (front ++ c :: rest), ¬ Draft.IsReadable piece := by
  have hblank : isBlank c = false := by rcases hc with rfl | rfl <;> decide
  have hopen : ∀ d ∈ front ++ c :: rest, d ≠ '"' ∧ isOpening d = false := fun d hd =>
    isOpen_of_isPlain (hplain d hd)
  have hfront : ∀ d ∈ front ++ [c], decide (d = '&') = false := by
    intro d hd
    refine decide_eq_false ?_
    rintro rfl
    rcases List.mem_append.1 hd with hd | hd
    · exact hamp hd
    · rcases hc with rfl | rfl <;> exact absurd (List.mem_singleton.1 hd) (by decide)
  obtain ⟨more, ws, hpieces⟩ := exists_pieces_append hfront rest
  rw [List.append_assoc, List.singleton_append, List.append_assoc, List.singleton_append]
    at hpieces
  have htrim := trim_append_cons hblank hhead more
  refine ⟨front ++ c :: trimEnd more, ?_, not_isReadable (fun d hd => ?_) hcolon hc⟩
  · rw [splitOpen_eq_pieces hopen, hpieces, List.map_cons, htrim,
      List.filter_cons_of_pos (by simp)]
    exact List.mem_cons_self
  · have hmore : front ++ c :: more ∈ pieces (· = '&') (front ++ c :: rest) :=
      hpieces ▸ List.mem_cons_self
    rw [← htrim] at hd
    exact hplain d (of_mem_pieces hmore (mem_of_mem_trim hd)).1

/-! ## A single bar after an arrow -/

section Bar

variable {u t : Text} (hu : IsWord u) (ht : ∀ c ∈ t, isPlain c = true)

include ht in
theorem isPlain_bar : ∀ c ∈ ' ' :: '|' :: t, isPlain c = true := by
  intro c hc
  rw [List.mem_cons, List.mem_cons] at hc
  rcases hc with rfl | rfl | hc
  · decide
  · decide
  · exact ht c hc

include hu ht

/-- One bar alone has no label after it. -/
theorem barLink?_bar (hbar : '|' ∉ t) :
    barLink? (mask (u ++ " -->".toList ++ ' ' :: '|' :: t)) = none := by
  rw [barLink?]
  split
  · rfl
  · next left label right hleft =>
    obtain ⟨passed, rest, -, -, hcells, hrest⟩ := exists_of_shortestLeft hleft
    obtain ⟨arrow, first, second, more, hdrop, hfirst, hsecond, -⟩ := exists_of_barRest? hrest
    have hsub : List.Sublist (dropBlank rest) (mask (u ++ " -->".toList ++ ' ' :: '|' :: t)) := by
      rw [hcells]
      exact (List.dropWhile_suffix _).sublist.trans (List.sublist_append_right _ _)
    have htwo : 2 ≤ (dropBlank rest).countP (·.shown = '|') := by
      rw [hdrop]
      simp [List.countP_append, hfirst, hsecond]
      omega
    have hone : (mask (u ++ " -->".toList ++ ' ' :: '|' :: t)).countP (·.shown = '|') = 1 := by
      have hnone {w : Text} (hw : '|' ∉ w) : w.countP (· = '|') = 0 :=
        List.countP_eq_zero.2 fun c hc hcbar => hw (of_decide_eq_true hcbar ▸ hc)
      rw [mask_of_isPlain (isPlain_arrow hu (isPlain_bar ht)), List.countP_map]
      show (u ++ " -->".toList ++ ' ' :: '|' :: t).countP (· = '|') = 1
      rw [List.countP_append, List.countP_append, hnone (hu.not_mem (by decide)),
        hnone (w := " -->".toList) (by decide), List.countP_cons_of_neg (by decide),
        List.countP_cons_of_pos (by decide), hnone hbar]
    have hle := hsub.countP_le (p := fun cell : Cell => decide (cell.shown = '|'))
    omega

/-- Before a label inside an arrow the first arrow stands, for there is none in it. -/
theorem exists_of_innerLink?_bar {left label right : List Cell}
    (h : innerLink? (mask (u ++ " -->".toList ++ ' ' :: '|' :: t)) = some (left, label, right)) :
    ∃ more, left = (u ++ " -->".toList).map openCell ++ more ∧
      more ⊆ (' ' :: '|' :: t).map openCell := by
  rw [mask_arrow hu (isPlain_bar ht)] at h
  obtain ⟨passed, rest, -, hpassed, hcells, hrest⟩ :=
    exists_of_shortestLeft (shortestLeft_of_innerLink? h)
  obtain rfl : left = passed := hpassed
  have hdrop : dropBlank rest <:+ rest := List.dropWhile_suffix _
  obtain ⟨after, hafter⟩ := suffix_of_innerRest?_linkCells hu.word
    (hdrop.trans (hcells ▸ List.suffix_append left rest)) hrest
  have hsame : (u ++ " -->".toList).map openCell ++ after ++ dropBlank rest =
      left ++ rest.takeWhile (isBlank ·.shown) ++ dropBlank rest := by
    rw [List.append_assoc, hafter, List.append_assoc, dropBlank,
      List.takeWhile_append_dropWhile, ← hcells]
    simp [linkCells, arrowCells]
  have hblanks : ∀ cell ∈ rest.takeWhile (isBlank ·.shown), isBlank cell.shown = true :=
    fun cell hcell => List.mem_takeWhile_imp (p := fun cell : Cell => isBlank cell.shown) hcell
  obtain ⟨more, hleft, hmore⟩ := exists_append_of_blanks hblanks (List.append_cancel_right hsame)
  exact ⟨more, hleft, fun cell hcell => hafter ▸ List.mem_append_left _ (hmore.subset hcell)⟩

/-- A label inside a second arrow leaves the first one in the left side. -/
theorem not_canLink_of_innerLabelLink?_bar {link : Link}
    (h : innerLabelLink? (mask (u ++ " -->".toList ++ ' ' :: '|' :: t)) = some link) :
    ¬ Draft.CanLink link := by
  have hplain := isPlain_arrow hu (isPlain_bar ht)
  obtain ⟨left, label, right, hinner, rfl⟩ := exists_of_innerLabelLink? h
  obtain ⟨more, rfl, hmore⟩ := exists_of_innerLink?_bar hu ht hinner
  have hhead := hu.not_blank_of_head?_append " --".toList
  have htext : cellText ((u ++ " -->".toList).map openCell ++ more) =
      (u ++ " --".toList) ++ '>' :: trimEnd (sourceText more) := by
    have hsplit : u ++ " -->".toList ++ sourceText more =
        (u ++ " --".toList) ++ '>' :: sourceText more := by simp
    rw [cellText, sourceText_append, sourceText_map_openCell, hsplit]
    exact trim_append_cons (by decide) hhead _
  have hcells : (u ++ " -->".toList).map openCell ++ more ⊆
      mask (u ++ " -->".toList ++ ' ' :: '|' :: t) := by
    have hmap : (u ++ " -->".toList ++ ' ' :: '|' :: t).map openCell =
        (u ++ " -->".toList).map openCell ++ (' ' :: '|' :: t).map openCell :=
      List.map_append
    rw [mask_of_isPlain hplain, hmap]
    exact List.append_subset.2 ⟨List.subset_append_left _ _,
      fun cell hcell => List.mem_append_right _ (hmore hcell)⟩
  have hleft : ∀ c ∈ (u ++ " --".toList) ++ '>' :: trimEnd (sourceText more),
      isPlain c = true := fun c hc =>
    hplain c (mem_of_mem_cellText hcells (htext ▸ hc))
  have hmark (c : Char) (hc : isWordChar c = false) (harrow : c ∉ " --".toList) :
      c ∉ u ++ " --".toList := by
    rw [List.mem_append, not_or]
    exact ⟨hu.not_mem hc, harrow⟩
  obtain ⟨piece, hpiece, hnot⟩ := exists_not_isReadable hleft hhead
    (hmark ':' (by decide) (by decide)) (hmark '&' (by decide) (by decide)) (Or.inr rfl)
  intro hcan
  rw [← htext] at hpiece
  exact hnot (hcan piece (List.mem_append_left _ hpiece))

/-- The right side begins with the bar. -/
theorem plainLink?_bar {link : Link}
    (h : plainLink? (mask (u ++ " -->".toList ++ ' ' :: '|' :: t)) = some link) :
    link.right = '|' :: trimEnd t := by
  have hnone (cells : List Cell) (h : arrow? cells = none) : plainRest? cells = none := by
    rw [plainRest?, sideAfter?, h]
  have hright : rightSide? ((' ' :: '|' :: t).map openCell) =
      some (('|' :: t).map openCell) := by
    have hdrop : dropBlank ((' ' :: '|' :: t).map openCell) = ('|' :: t).map openCell := by
      rw [dropBlank, List.map_cons, List.dropWhile_cons_of_pos (by decide), List.map_cons,
        List.dropWhile_cons_of_neg (by decide)]
    rw [rightSide?, hdrop]
    rfl
  have hfound : plainRest? (arrowCells ++ (' ' :: '|' :: t).map openCell) =
      some (('|' :: t).map openCell) := by
    rw [plainRest?, sideAfter?, arrow?_arrowCells]
    simp only [List.drop_left, hright]
  have htext : cellText (('|' :: t).map openCell) = '|' :: trimEnd t := by
    rw [cellText_map_openCell]
    exact trim_append_cons (s := []) (by decide) (by simp) t
  have hkept : dropDecoration ('|' :: trimEnd t) = '|' :: trimEnd t := by
    cases trimEnd t with
    | nil => rfl
    | cons c rest => simp [dropDecoration]
  obtain ⟨left, right, hleft, rfl⟩ := exists_of_plainLink? h
  rw [mask_arrow hu (isPlain_bar ht),
    shortestLeft_linkCells hnone hu.ne_nil hu.word hfound] at hleft
  cases hleft
  show dropDecoration (cellText _) = _
  rw [htext, hkept]

/-- Without a label inside an arrow the bar is left in the right side. -/
theorem not_canLink_of_plainLink?_bar {link : Link}
    (h : plainLink? (mask (u ++ " -->".toList ++ ' ' :: '|' :: t)) = some link) :
    ¬ Draft.CanLink link := by
  have hright := plainLink?_bar hu ht h
  have hrest : ∀ c ∈ [] ++ '|' :: trimEnd t, isPlain c = true := by
    intro c hc
    rw [← trim_append_cons (s := []) (c := '|') (by decide) (by simp) t] at hc
    exact isPlain_bar ht c (List.mem_cons_of_mem _ (mem_of_mem_trim hc))
  obtain ⟨piece, hpiece, hnot⟩ := exists_not_isReadable hrest (by simp) List.not_mem_nil
    List.not_mem_nil (Or.inl rfl)
  exact fun hcan => hnot (hcan piece (List.mem_append_right _ (hright ▸ hpiece)))

/-- What is read as a link where a single bar follows the arrow has a side that cannot be read. -/
theorem not_canLink_of_bar (hbar : '|' ∉ t) {link : Link}
    (h : link? (u ++ " -->".toList ++ ' ' :: '|' :: t) = some link) : ¬ Draft.CanLink link := by
  simp only [link?, barLink?_bar hu ht hbar, Option.none_or] at h
  rcases Option.or_eq_some_iff.1 h with hinner | ⟨-, hplain⟩
  · exact not_canLink_of_innerLabelLink?_bar hu ht hinner
  · exact not_canLink_of_plainLink?_bar hu ht hplain

end Bar

/-- A single bar is not given back to the arrow. -/
theorem takeLabel_bar {t : Text} (h : '|' ∉ t) (arrow : Text) :
    Segment.takeLabel ⟨arrow, '|' :: t⟩ = ⟨arrow, '|' :: t⟩ := by
  have hopen : ∀ c ∈ t, decide (c ≠ '|') = true := by
    intro c hc
    refine decide_eq_true ?_
    rintro rfl
    exact h hc
  have hspan : t.span (· ≠ '|') = (t, []) := by
    rw [List.span_eq_takeWhile_dropWhile, List.takeWhile_eq_self_iff.2 hopen,
      List.dropWhile_eq_nil_iff.2 hopen]
  simp only [Segment.takeLabel, leadingBars?, hspan]

end Swimlane
