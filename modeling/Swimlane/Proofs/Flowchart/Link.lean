import Swimlane.Flowchart.Link
import Swimlane.Proofs.Flowchart.Label

/-!
# Links read back as they are written

An arrow can only be found where a mask shows a hyphen or an equals sign.  A text without
either in the open is no link and no chain, whatever its labels hold; and the text of a
link shows its one arrow, so that the link is found with its two sides and its label.
-/

namespace Swimlane

/-! ## Where no arrow begins -/

/-- May an arrow begin with the character? -/
def beginsArrow (c : Char) : Prop := c = '<' ∨ c = '-' ∨ c = '='

theorem runOf_eq_nil {c : Char} {cells : List Cell} (h : ∀ cell ∈ cells.head?, cell.shown ≠ c) :
    runOf c cells = [] := by
  cases cells with
  | nil => rfl
  | cons cell rest => exact List.takeWhile_cons_of_neg (by simpa using h cell rfl)

theorem optional_eq_nil {c : Char} {cells : List Cell}
    (h : ∀ cell ∈ cells.head?, cell.shown ≠ c) : optional c cells = [] := by
  cases cells with
  | nil => rfl
  | cons cell rest => exact if_neg (by simpa using h cell rfl)

/-- A shaft begins with a hyphen or an equals sign. -/
theorem shaft?_eq_none {cells : List Cell}
    (h : ∀ cell ∈ cells.head?, cell.shown ≠ '-' ∧ cell.shown ≠ '=') : shaft? cells = none := by
  simp [shaft?, runOf_eq_nil fun cell hcell => (h cell hcell).1,
    runOf_eq_nil fun cell hcell => (h cell hcell).2]

theorem arrow?_eq_none {cells : List Cell}
    (h : ∀ cell ∈ cells.head?, ¬ beginsArrow cell.shown) : arrow? cells = none := by
  simp only [beginsArrow, not_or] at h
  have hstart : optional '<' cells = [] := optional_eq_nil fun cell hcell => (h cell hcell).1
  have hshaft : shaft? cells = none := shaft?_eq_none fun cell hcell => (h cell hcell).2
  simp [arrow?, hstart, hshaft]

/-- The first half of an arrow begins as an arrow does. -/
theorem earlyShaft?_eq_none {cells : List Cell}
    (h : ∀ cell ∈ cells.head?, ¬ beginsArrow cell.shown) : earlyShaft? cells = none := by
  simp only [beginsArrow, not_or] at h
  have hstart : optional '<' cells = [] := optional_eq_nil fun cell hcell => (h cell hcell).1
  cases cells with
  | nil => rfl
  | cons cell rest =>
    have hcell := (h cell rfl).2
    simp [earlyShaft?, hstart, shownText, hcell.1, hcell.2]

/-- Is no part of a shaft shown? -/
def NoShaft (cells : List Cell) : Prop := ∀ cell ∈ cells, cell.shown ≠ '-' ∧ cell.shown ≠ '='

theorem NoShaft.suffix {cells rest : List Cell} (h : NoShaft cells) (hrest : rest <:+ cells) :
    NoShaft rest :=
  fun cell hcell => h cell (hrest.subset hcell)

/-- Without hyphens and equals signs there is no arrow, even after an angle. -/
theorem NoShaft.arrow?_eq_none {cells : List Cell} (h : NoShaft cells) : arrow? cells = none := by
  have hshaft : shaft? (cells.drop (optional '<' cells).length) = none :=
    shaft?_eq_none fun cell hcell =>
      h cell (List.mem_of_mem_drop (List.mem_of_mem_head? hcell))
  simp [arrow?, hshaft]

theorem NoShaft.earlyShaft?_eq_none {cells : List Cell} (h : NoShaft cells) :
    earlyShaft? cells = none := by
  have htwo (c d : Char) (hc : c = '-' ∨ c = '=') :
      shownText ((cells.drop (optional '<' cells).length).take 2) ≠ [c, d] := by
    intro heq
    have hmem : c ∈ shownText ((cells.drop (optional '<' cells).length).take 2) := by
      rw [heq]
      exact List.mem_cons_self
    obtain ⟨cell, hcell, rfl⟩ := List.mem_map.1 hmem
    have hne := h cell (List.mem_of_mem_drop (List.mem_of_mem_take hcell))
    exact hc.elim hne.1 hne.2
  simp [earlyShaft?, htwo]

/-! ## Walks that find nothing -/

/-- If nothing is found at any suffix, there is no left side. -/
theorem shortestLeft_eq_none {β : Type} (right? : List Cell → Option β) {cells : List Cell}
    (h : ∀ rest, rest <:+ cells → right? rest = none) (before : List Cell) :
    shortestLeft right? before cells = none := by
  induction cells generalizing before with
  | nil => rfl
  | cons c rest ih =>
    have hdrop : dropBlank rest <:+ c :: rest :=
      (List.dropWhile_suffix _).trans (List.suffix_cons c rest)
    rw [shortestLeft, h _ hdrop]
    exact ih (fun s hs => h s (hs.trans (List.suffix_cons c rest))) _

/-- A left side ends where something is found, perhaps after blanks. -/
theorem exists_of_shortestLeft {β : Type} {right? : List Cell → Option β} {before cells : List Cell}
    {left : List Cell} {found : β} (h : shortestLeft right? before cells = some (left, found)) :
    ∃ passed rest, passed ≠ [] ∧ left = before.reverse ++ passed ∧ cells = passed ++ rest ∧
      right? (dropBlank rest) = some found := by
  induction cells generalizing before with
  | nil => cases h
  | cons c rest ih =>
    rw [shortestLeft] at h
    split at h
    · next hright =>
      cases h
      exact ⟨[c], rest, List.cons_ne_nil c [], by simp, rfl, hright⟩
    · obtain ⟨passed, after, -, hleft, hcells, hright⟩ := ih h
      exact ⟨c :: passed, after, List.cons_ne_nil c passed, by simp [hleft], by simp [hcells],
        hright⟩

/-- No blanks stand at the end of cells that do not end in a blank. -/
theorem eq_nil_of_blanks {cells front blanks : List Cell} (h : cells = front ++ blanks)
    (hblanks : ∀ cell ∈ blanks, isBlank cell.shown = true)
    (hlast : ∀ cell ∈ cells.getLast?, isBlank cell.shown = false) : blanks = [] := by
  rw [← List.getLast?_eq_none_iff, Option.eq_none_iff_forall_ne_some]
  intro cell hcell
  have hsame : cells.getLast? = some cell := by
    rw [h, List.getLast?_append, hcell, Option.some_or]
  have hblank := hblanks cell (List.mem_of_getLast? hcell)
  rw [hlast cell hsame] at hblank
  cases hblank

/-- A right side is what follows blanks, or the last of them. -/
theorem of_rightSide? {cells right : List Cell} (h : rightSide? cells = some right) :
    right ≠ [] ∧ (dropBlank cells = right ∨
      dropBlank cells = [] ∧ ∃ c, cells.getLast? = some c ∧ right = [c]) := by
  rw [rightSide?] at h
  split at h
  · next hblank =>
    obtain ⟨c, hc, rfl⟩ := Option.map_eq_some_iff.1 h
    exact ⟨List.cons_ne_nil c [], Or.inr ⟨hblank, c, hc, rfl⟩⟩
  · next hne =>
    cases h
    exact ⟨hne, Or.inl rfl⟩

theorem eq_nil_of_rightSide? {cells : List Cell} (h : rightSide? cells = none) : cells = [] := by
  rw [rightSide?] at h
  split at h
  · exact List.getLast?_eq_none_iff.1 (Option.map_eq_none_iff.1 h)
  · cases h

/-- A right side after a shaft follows it, or is its last cell if nothing does. -/
theorem of_sideAfter? {shaft? : List Cell → Option (List Cell)} {cells right : List Cell}
    (h : sideAfter? shaft? cells = some right) : ∃ shaft, shaft? cells = some shaft ∧
      (rightSide? (cells.drop shaft.length) = some right ∨ cells.drop shaft.length = [] ∧
        (shaft? shaft.dropLast).isSome = true ∧ right = shaft.drop (shaft.length - 1)) := by
  rw [sideAfter?] at h
  split at h
  · cases h
  · next shaft hshaft =>
    refine ⟨shaft, hshaft, ?_⟩
    split at h
    · next hright =>
      cases h
      exact Or.inl hright
    · next hnone =>
      split at h
      · next hless =>
        cases h
        exact Or.inr ⟨eq_nil_of_rightSide? hnone, hless, rfl⟩
      · cases h

/-- Where no arrow begins, cutting at arrows goes on. -/
theorem cutArrows_append {front : List Cell} (rest : List Cell)
    (h : ∀ s, s ≠ [] → s <:+ front → arrow? (s ++ rest) = none) (before : List Cell) :
    cutArrows 0 before (front ++ rest) = cutArrows 0 (front.reverse ++ before) rest := by
  induction front generalizing before with
  | nil => rfl
  | cons c front ih =>
    have hhere := h (c :: front) (List.cons_ne_nil c front) (List.suffix_refl _)
    rw [List.cons_append] at hhere ⊢
    simp only [cutArrows, hhere]
    rw [ih (fun s hne hs => h s hne (hs.trans (List.suffix_cons c front))) (c :: before),
      List.reverse_cons, List.append_assoc, List.singleton_append]

theorem NoShaft.cutArrows_eq {cells : List Cell} (h : NoShaft cells) (before : List Cell) :
    cutArrows 0 before cells = ([], before.reverse ++ cells) := by
  have hcut := cutArrows_append []
    (fun s _ hs => by rw [List.append_nil]; exact (h.suffix hs).arrow?_eq_none) before
  rw [List.append_nil] at hcut
  rw [hcut, cutArrows, List.reverse_append, List.reverse_reverse]

/-! ## Links taken apart -/

/-- The sides of a link with a label inside its arrow are the shortest ones that do not leave
another arrow in front. -/
theorem shortestLeft_of_innerLink? {cells left label right : List Cell}
    (h : innerLink? cells = some (left, label, right)) :
    shortestLeft innerRest? [] cells = some (left, label, right) := by
  rw [innerLink?] at h
  split at h
  · cases h
  · next hfound =>
    split at h
    · cases h
    · cases h
      exact hfound

theorem exists_of_barLink? {cells : List Cell} {link : Link} (h : barLink? cells = some link) :
    ∃ left label right, shortestLeft barRest? [] cells = some (left, label, right) ∧
      link = ⟨cellText left, if unquote (cellText label) = [] then none
        else some (unquote (cellText label)), cellText right⟩ := by
  rw [barLink?] at h
  split at h
  · cases h
  · next left label right hfound =>
    simp only at h
    split at h
    · cases h
      exact ⟨left, label, right, hfound, rfl⟩
    · cases h

theorem exists_of_innerLabelLink? {cells : List Cell} {link : Link}
    (h : innerLabelLink? cells = some link) :
    ∃ left label right, innerLink? cells = some (left, label, right) ∧
      link = ⟨cellText left, some (unquote (cellText label)), cellText right⟩ := by
  rw [innerLabelLink?] at h
  split at h
  · cases h
  · next left label right hfound =>
    simp only at h
    split at h
    · cases h
      exact ⟨left, label, right, hfound, rfl⟩
    · cases h

theorem exists_of_plainLink? {cells : List Cell} {link : Link} (h : plainLink? cells = some link) :
    ∃ left right, shortestLeft plainRest? [] cells = some (left, right) ∧
      link = ⟨cellText left, none, dropDecoration (cellText right)⟩ := by
  rw [plainLink?] at h
  split at h
  · cases h
  · next left right hfound =>
    split at h
    · cases h
      exact ⟨left, right, hfound, rfl⟩
    · cases h

/-! ## Statements without an arrow -/

section NoArrow

variable {s : Text} (h : NoShaft (mask s))

include h

theorem NoShaft.innerLink?_eq_none : innerLink? (mask s) = none := by
  have hnone := shortestLeft_eq_none innerRest? (fun rest hrest => by
    rw [innerRest?, (h.suffix hrest).earlyShaft?_eq_none]) []
  rw [innerLink?, hnone]

theorem NoShaft.hasArrow_eq_false : hasArrow (mask s) = false := by
  rw [hasArrow, h.cutArrows_eq]
  rfl

/-- A statement that shows no shaft is no chain. -/
theorem NoShaft.chain?_eq_none : chain? s = none := by
  simp [chain?, h.innerLink?_eq_none, h.cutArrows_eq]

/-- A statement that shows no shaft is no link. -/
theorem NoShaft.link?_eq_none : link? s = none := by
  have hbar := shortestLeft_eq_none barRest? (fun rest hrest => by
    rw [barRest?, (h.suffix hrest).arrow?_eq_none]) []
  have hplain := shortestLeft_eq_none plainRest? (fun rest hrest => by
    rw [plainRest?, sideAfter?, (h.suffix hrest).arrow?_eq_none]) []
  simp [link?, barLink?, hbar, innerLabelLink?, h.innerLink?_eq_none, plainLink?, hplain]

end NoArrow

/-! ## The one arrow of a link -/

/-- The cells of the arrow between two names. -/
def arrowCells : List Cell := ['-', '-', '>'].map openCell

/-- The cells of a link: a name, a blank, the arrow and what follows. -/
def linkCells (source : Text) (tail : List Cell) : List Cell :=
  source.map openCell ++ openCell ' ' :: (arrowCells ++ tail)

variable {source : Text} {tail : List Cell}

theorem arrow?_arrowCells (tail : List Cell) : arrow? (arrowCells ++ tail) = some arrowCells := by
  simp [arrow?, shaft?, optional, runOf, arrowCells, openCell]

/-- A word is no part of an arrow. -/
theorem not_beginsArrow_of_isWordChar {c : Char} (hc : isWordChar c = true) : ¬ beginsArrow c := by
  rintro (rfl | rfl | rfl) <;> exact Bool.noConfusion hc

/-- At a suffix of a link's cells no arrow can begin, or the arrow or the rest of it stands
there, or the arrow has gone by. -/
theorem suffix_linkCells (hsource : ∀ c ∈ source, isWordChar c = true) {rest : List Cell}
    (h : rest <:+ linkCells source tail) :
    (∀ cell ∈ rest.head?, ¬ beginsArrow cell.shown) ∨ rest = arrowCells ++ tail ∨
      rest = openCell '-' :: openCell '>' :: tail ∨ rest <:+ tail := by
  induction source with
  | nil =>
    simp only [linkCells, arrowCells, List.map_nil, List.map_cons, List.nil_append,
      List.cons_append, List.suffix_cons_iff] at h
    rcases h with rfl | rfl | rfl | rfl | h
    · refine Or.inl fun cell hcell => ?_
      rw [← Option.some.inj hcell]
      simp [openCell, beginsArrow]
    · exact Or.inr (Or.inl rfl)
    · exact Or.inr (Or.inr (Or.inl rfl))
    · refine Or.inl fun cell hcell => ?_
      rw [← Option.some.inj hcell]
      simp [openCell, beginsArrow]
    · exact Or.inr (Or.inr (Or.inr h))
  | cons c source ih =>
    have hcons : linkCells (c :: source) tail = openCell c :: linkCells source tail := rfl
    rw [hcons, List.suffix_cons_iff] at h
    rcases h with rfl | h
    · refine Or.inl fun cell hcell => ?_
      rw [← Option.some.inj hcell]
      exact not_beginsArrow_of_isWordChar (hsource c List.mem_cons_self)
    · exact ih (fun d hd => hsource d (List.mem_cons_of_mem c hd)) h

theorem arrow?_halfArrow (tail : List Cell) :
    arrow? (openCell '-' :: openCell '>' :: tail) = none := by
  simp [arrow?, shaft?, optional, runOf, openCell]

theorem earlyShaft?_halfArrow (tail : List Cell) :
    earlyShaft? (openCell '-' :: openCell '>' :: tail) = none := by
  simp [earlyShaft?, optional, shownText, openCell]

/-- No label stands inside the arrow: no blank follows its hyphens. -/
theorem innerRest?_arrowCells (tail : List Cell) : innerRest? (arrowCells ++ tail) = none := by
  simp [innerRest?, earlyShaft?, optional, shownText, arrowCells, openCell, List.span,
    List.span.loop, isBlank, inRanges, blankRanges]

/-- The arrow is the only one in the cells of a link. -/
theorem arrow?_suffix_linkCells (hsource : ∀ c ∈ source, isWordChar c = true)
    (htail : NoShaft tail) {rest : List Cell} (h : rest <:+ linkCells source tail) :
    arrow? rest = none ∨ rest = arrowCells ++ tail := by
  rcases suffix_linkCells hsource h with hhead | rfl | rfl | hrest
  · exact Or.inl (arrow?_eq_none hhead)
  · exact Or.inr rfl
  · exact Or.inl (arrow?_halfArrow tail)
  · exact Or.inl (htail.suffix hrest).arrow?_eq_none

/-- A label inside an arrow stands after the arrow of the link. -/
theorem suffix_of_innerRest?_linkCells (hsource : ∀ c ∈ source, isWordChar c = true)
    {rest : List Cell} {found : List Cell × List Cell} (hrest : rest <:+ linkCells source tail)
    (h : innerRest? rest = some found) : rest <:+ tail := by
  rcases suffix_linkCells hsource hrest with hhead | rfl | rfl | hsuffix
  · rw [innerRest?, earlyShaft?_eq_none hhead] at h
    cases h
  · rw [innerRest?_arrowCells] at h
    cases h
  · rw [innerRest?, earlyShaft?_halfArrow] at h
    cases h
  · exact hsuffix

theorem innerLink?_linkCells (hsource : ∀ c ∈ source, isWordChar c = true)
    (htail : NoShaft tail) : innerLink? (linkCells source tail) = none := by
  have hnone := shortestLeft_eq_none innerRest?
    (fun rest (hrest : rest <:+ linkCells source tail) => by
      refine Option.eq_none_iff_forall_ne_some.2 fun found hfound => ?_
      have hsuffix := suffix_of_innerRest?_linkCells hsource hrest hfound
      rw [innerRest?, (htail.suffix hsuffix).earlyShaft?_eq_none] at hfound
      cases hfound) []
  rw [innerLink?, hnone]

/-- A link is cut at its arrow, and what follows is cut at the arrows in it. -/
theorem cutArrows_linkCells (hsource : ∀ c ∈ source, isWordChar c = true) (tail : List Cell) :
    cutArrows 0 [] (linkCells source tail) =
      ((source.map openCell ++ [openCell ' '], arrowCells) :: (cutArrows 0 [] tail).1,
        (cutArrows 0 [] tail).2) := by
  have hfront : ∀ s, s ≠ [] → s <:+ source.map openCell ++ [openCell ' '] →
      arrow? (s ++ (arrowCells ++ tail)) = none := by
    intro s hne hs
    refine arrow?_eq_none fun cell hcell => ?_
    rw [List.head?_append_of_ne_nil s hne] at hcell
    have hmem : cell ∈ source.map openCell ++ [openCell ' '] :=
      hs.subset (List.mem_of_mem_head? hcell)
    rcases List.mem_append.1 hmem with hmem | hmem
    · obtain ⟨c, hc, rfl⟩ := List.mem_map.1 hmem
      exact not_beginsArrow_of_isWordChar (hsource c hc)
    · rw [List.mem_singleton.1 hmem]
      simp [openCell, beginsArrow]
  have hcells : linkCells source tail =
      (source.map openCell ++ [openCell ' ']) ++ (arrowCells ++ tail) := by
    simp [linkCells]
  have harrow := arrow?_arrowCells tail
  rw [hcells, cutArrows_append _ hfront]
  simp only [arrowCells, List.map_cons, List.map_nil, List.cons_append, List.nil_append] at harrow ⊢
  simp [cutArrows, harrow]

/-- The shortest left side is a word, if something is found after it and the blanks there, and
nothing where no arrow begins. -/
theorem shortestLeft_word {β : Type} {right? : List Cell → Option β}
    (hnone : ∀ cells : List Cell, (∀ cell ∈ cells.head?, ¬ beginsArrow cell.shown) →
      right? cells = none)
    (hne : source ≠ []) (hsource : ∀ c ∈ source, isWordChar c = true) {rest : List Cell}
    {found : β} (hfound : right? (dropBlank rest) = some found) (before : List Cell) :
    shortestLeft right? before (source.map openCell ++ rest) =
      some (before.reverse ++ source.map openCell, found) := by
  induction source generalizing before with
  | nil => exact absurd rfl hne
  | cons c source ih =>
    rw [List.map_cons, List.cons_append, shortestLeft]
    cases source with
    | nil =>
      rw [List.map_nil, List.nil_append, hfound]
      simp
    | cons d source =>
      have hd : isWordChar d = true := hsource d (List.mem_cons_of_mem c List.mem_cons_self)
      have hdrop : dropBlank ((d :: source).map openCell ++ rest) =
          (d :: source).map openCell ++ rest :=
        List.dropWhile_cons_of_neg (by simp [openCell, isBlank_of_isWordChar hd])
      have hword : right? ((d :: source).map openCell ++ rest) = none := by
        refine hnone _ fun cell hcell => ?_
        rw [← Option.some.inj hcell]
        exact not_beginsArrow_of_isWordChar hd
      rw [hdrop, hword, ih (List.cons_ne_nil d source)
        (fun e he => hsource e (List.mem_cons_of_mem c he)) (openCell c :: before)]
      simp

/-- The shortest left side of a link is the name before the arrow. -/
theorem shortestLeft_linkCells {β : Type} {right? : List Cell → Option β}
    (hnone : ∀ cells, arrow? cells = none → right? cells = none)
    (hne : source ≠ []) (hsource : ∀ c ∈ source, isWordChar c = true) {found : β}
    (hfound : right? (arrowCells ++ tail) = some found) (before : List Cell) :
    shortestLeft right? before (linkCells source tail) =
      some (before.reverse ++ source.map openCell, found) := by
  have hdrop : dropBlank (openCell ' ' :: (arrowCells ++ tail)) = arrowCells ++ tail := by
    simp [arrowCells, dropBlank, openCell, isBlank, inRanges, blankRanges]
  exact shortestLeft_word (fun cells hcells => hnone cells (arrow?_eq_none hcells)) hne hsource
    (hdrop.symm ▸ hfound) before

/-! ## The two sides of a link -/

theorem cellText_word {id : Text} (hid : IsWord id) : cellText (id.map openCell) = id := by
  rw [cellText_map_openCell, hid.trim_eq]

/-- A word after a blank is a right side. -/
theorem rightSide?_word {id : Text} (hid : IsWord id) :
    rightSide? (openCell ' ' :: id.map openCell) = some (id.map openCell) := by
  obtain ⟨c, rest, rfl, hc⟩ := hid.exists_cons
  have hdrop : dropBlank (openCell ' ' :: (c :: rest).map openCell) = (c :: rest).map openCell := by
    rw [dropBlank, List.dropWhile_cons_of_pos (by decide), List.map_cons,
      List.dropWhile_cons_of_neg (by simp [openCell, isBlank_of_isWordChar hc])]
  rw [rightSide?, hdrop]
  rfl

/-- A word ends in no part of an arrow. -/
theorem endsInArrow_word {w : Text} (hw : IsWord w) : endsInArrow w = false := by
  rw [endsInArrow]
  cases hcase : w.getLast? with
  | none => rfl
  | some c =>
    have hne (d : Char) (hd : isWordChar d = false) : c ≠ d :=
      hw.ne_of_mem (List.mem_of_getLast? hcase) hd
    simp [hne '-' (by decide), hne '=' (by decide), hne '.' (by decide)]

/-- Words meet the arrow with no part of an arrow. -/
theorem sidesOk_words {left right : Text} (hleft : IsWord left) (hright : IsWord right) :
    sidesOk left right = true := by
  have hlast : ∀ c, isWordChar c = false → left.getLast? ≠ some c :=
    fun c hc hlast => hleft.not_mem hc (List.mem_of_getLast? hlast)
  have hhead : ∀ c, isWordChar c = false → right.head? ≠ some c :=
    fun c hc hhead => hright.not_mem hc (List.mem_of_mem_head? hhead)
  simp [sidesOk, hleft.ne_nil, hright.ne_nil, endsInArrow_word hleft, hlast '<' (by decide),
    hhead '-' (by decide), hhead '=' (by decide), hhead '.' (by decide), hhead '>' (by decide)]

/-- A word has no decoration: no blank follows its first character. -/
theorem dropDecoration_word {id : Text} (hid : IsWord id) : dropDecoration id = id := by
  match id with
  | [] => rfl
  | [c] => rfl
  | c :: d :: rest =>
    have hd : isBlank d = false :=
      hid.not_blank d (List.mem_cons_of_mem c List.mem_cons_self)
    simp [dropDecoration, hd]

/-! ## The lines of links -/

/-- What follows the arrow in the line of a link. -/
def PlainLink.afterArrow (l : PlainLink) : Text :=
  match l.label with
  | none => ' ' :: l.target
  | some label => '|' :: (inQuotes label ++ '|' :: ' ' :: l.target)

theorem PlainLink.line_eq (l : PlainLink) : l.line = l.source ++ " -->".toList ++ l.afterArrow := by
  unfold line afterArrow
  cases l.label <;> simp

variable {l : PlainLink}

/-- What of a link's line stands in the open. -/
theorem openChars_tail (htarget : IsWord l.target) (hlabel : ∀ label ∈ l.label, '"' ∉ label) :
    openChars false l.afterArrow = (l.label.elim [' '] fun _ => ['|', '|', ' ']) ++ l.target := by
  have hname : '"' ∉ ' ' :: l.target := by simpa using htarget.not_mem (by decide)
  unfold PlainLink.afterArrow
  cases hcase : l.label with
  | none => exact openChars_eq_self hname
  | some label =>
    have hbar : '"' ∉ ['|'] := by decide
    have hafter : '"' ∉ '|' :: ' ' :: l.target := by simpa using htarget.not_mem (by decide)
    show openChars false (['|'] ++ (inQuotes label ++ '|' :: ' ' :: l.target)) = _
    rw [openChars_append hbar, openChars_inQuotes (hlabel label hcase), openChars_eq_self hafter]
    rfl

theorem openChars_line (hsource : IsWord l.source) (htarget : IsWord l.target)
    (hlabel : ∀ label ∈ l.label, '"' ∉ label) : openChars false l.line =
      l.source ++ " -->".toList ++ ((l.label.elim [' '] fun _ => ['|', '|', ' ']) ++ l.target) := by
  have hname : '"' ∉ l.source ++ " -->".toList := by
    rw [List.mem_append, not_or]
    exact ⟨hsource.not_mem (by decide), by decide⟩
  rw [l.line_eq, openChars_append hname, openChars_tail htarget hlabel]

/-- What is neither of words nor of arrows and bars does not stand in the open. -/
theorem not_mem_openChars_line (hsource : IsWord l.source) (htarget : IsWord l.target)
    (hlabel : ∀ label ∈ l.label, '"' ∉ label) {c : Char} (hc : isWordChar c = false)
    (hmark : c ∉ [' ', '-', '>', '|']) : c ∉ openChars false l.line := by
  simp only [List.mem_cons, List.not_mem_nil, or_false, not_or] at hmark
  rw [openChars_line hsource htarget hlabel]
  cases l.label <;> simp [hsource.not_mem hc, htarget.not_mem hc, hmark]

/-- The line of a link is a statement. -/
theorem isStatementLine_line (hsource : IsWord l.source) (htarget : IsWord l.target)
    (hlabel : ∀ label ∈ l.label, '"' ∉ label ∧ '\n' ∉ label) : IsStatementLine l.line where
  head := by
    rw [l.line_eq, List.append_assoc]
    exact hsource.head_append _
  last := by
    unfold PlainLink.line
    cases l.label with
    | none => exact htarget.not_blank_of_getLast?_append _
    | some label => exact htarget.not_blank_of_getLast?_append _
  no_feed := by
    have hends : '\n' ∉ l.source ∧ '\n' ∉ l.target :=
      ⟨hsource.not_mem (by decide), htarget.not_mem (by decide)⟩
    unfold PlainLink.line
    cases hcase : l.label with
    | none => simp [hends]
    | some label => simp [hends, inQuotes, (hlabel label hcase).2]
  no_comment := not_mem_openChars_line hsource htarget (fun l hl => (hlabel l hl).1)
    (by decide) (by decide)
  no_semicolon := not_mem_openChars_line hsource htarget (fun l hl => (hlabel l hl).1)
    (by decide) (by decide)

/-- Of a link's line the mask shows the source and the arrow. -/
theorem mask_line (hsource : IsWord l.source) :
    mask l.line = linkCells l.source (maskFrom 0 false l.afterArrow) := by
  have harrow : ∀ c ∈ " -->".toList, c ≠ '"' ∧ isOpening c = false :=
    forall_mem_of_all (by decide)
  have hshown : ∀ c ∈ l.source ++ " -->".toList, c ≠ '"' ∧ isOpening c = false := by
    intro c hc
    rcases List.mem_append.1 hc with hc | hc
    · exact hsource.isOpen c hc
    · exact harrow c hc
  rw [l.line_eq, mask, maskFrom_append hshown]
  simp [linkCells, arrowCells]

theorem maskFrom_word {id : Text} (hid : IsWord id) :
    maskFrom 0 false (' ' :: id) = openCell ' ' :: id.map openCell := by
  refine mask_eq_map fun c hc => ?_
  rcases List.mem_cons.1 hc with rfl | hc
  · decide
  · exact hid.isOpen c hc

theorem noShaft_tail (htarget : IsWord l.target) (hlabel : ∀ label ∈ l.label, '"' ∉ label) :
    NoShaft (maskFrom 0 false l.afterArrow) := by
  have hopen (c : Char) (hc : isWordChar c = false) (hmark : c ≠ ' ' ∧ c ≠ '|') :
      c ∉ openChars false l.afterArrow := by
    rw [openChars_tail htarget hlabel]
    cases l.label <;> simp [htarget.not_mem hc, hmark]
  intro cell hcell
  exact ⟨shown_ne_of_not_mem_openChars (hopen '-' (by decide) (by decide)) (by decide) (by decide)
      cell hcell,
    shown_ne_of_not_mem_openChars (hopen '=' (by decide) (by decide)) (by decide) (by decide)
      cell hcell⟩

/-- The line of a link is no chain. -/
theorem chain?_line (hsource : IsWord l.source) (htarget : IsWord l.target)
    (hlabel : ∀ label ∈ l.label, '"' ∉ label) : chain? l.line = none := by
  have htail := noShaft_tail htarget hlabel
  simp [chain?, mask_line hsource, innerLink?_linkCells hsource.word htail,
    cutArrows_linkCells hsource.word, htail.cutArrows_eq]

theorem hasTildes_eq_false {s : Text} (h : '~' ∉ openChars false s) :
    hasTildes (mask s) = false := by
  have hshown : '~' ∉ shownText (mask s) := by
    intro hmem
    obtain ⟨cell, hcell, hshown⟩ := List.mem_map.1 hmem
    exact shown_ne_of_not_mem_openChars h (by decide) (by decide) cell hcell hshown
  rw [hasTildes, Bool.eq_false_iff, Ne, occursIn_iff]
  exact not_infix_of_not_mem List.mem_cons_self hshown

/-- Hidden text stands for itself. -/
theorem sourceText_hidden (s : Text) : sourceText (s.flatMap hiddenCells) = s := by
  induction s with
  | nil => rfl
  | cons c s ih =>
    rw [List.flatMap_cons, sourceText, List.filterMap_append, ← sourceText, ← sourceText,
      sourceText_hiddenCells, ih, List.singleton_append]

/-- Without a label nothing stands between bars. -/
theorem barLink?_line (hsource : IsWord l.source) (htarget : IsWord l.target)
    (hlabel : l.label = none) : barLink? (mask l.line) = none := by
  have htail : NoShaft (maskFrom 0 false l.afterArrow) := noShaft_tail htarget (by simp [hlabel])
  have hafter : maskFrom 0 false l.afterArrow = openCell ' ' :: l.target.map openCell := by
    rw [PlainLink.afterArrow, hlabel]
    exact maskFrom_word htarget
  have hnone := shortestLeft_eq_none barRest? (fun rest (hrest : rest <:+ mask l.line) => by
    rw [mask_line hsource] at hrest
    rcases arrow?_suffix_linkCells hsource.word htail hrest with hnone | rfl
    · rw [barRest?, hnone]
    · rw [barRest?, arrow?_arrowCells, hafter]
      simp [openCell]) []
  rw [barLink?, hnone]

/-- The cells of a quoted label. -/
def labelCells (label : Text) : List Cell :=
  openCell '"' :: (label ++ ['"']).flatMap hiddenCells

theorem sourceText_labelCells (label : Text) : sourceText (labelCells label) = inQuotes label := by
  have hcons : sourceText (labelCells label) =
      '"' :: sourceText ((label ++ ['"']).flatMap hiddenCells) := rfl
  rw [hcons, sourceText_hidden]
  rfl

/-- A quoted label shows no bar. -/
theorem labelCells_no_bar (label : Text) :
    ∀ cell ∈ labelCells label, decide (cell.shown ≠ '|') = true := by
  intro cell hcell
  rcases List.mem_cons.1 hcell with rfl | hcell
  · decide
  · obtain ⟨c, -, hc⟩ := List.mem_flatMap.1 hcell
    rw [shown_hiddenCells c cell hc]
    decide

/-- After the arrow of a link with a label, the mask shows the label between bars. -/
theorem maskFrom_afterArrow (htarget : IsWord l.target) {label : Text}
    (hlabel : l.label = some label) (hquote : '"' ∉ label) :
    maskFrom 0 false l.afterArrow = openCell '|' ::
      (labelCells label ++ openCell '|' :: openCell ' ' :: l.target.map openCell) := by
  have hbar (s : Text) : maskFrom 0 false ('|' :: s) = openCell '|' :: maskFrom 0 false s :=
    maskFrom_append (s := ['|']) (forall_mem_of_all (by decide)) s
  rw [PlainLink.afterArrow, hlabel]
  simp only
  rw [hbar, maskFrom_inQuotes hquote, hbar, maskFrom_word htarget]
  rfl

/-- A label between bars is found with both sides. -/
theorem barLink?_line_of_label (hsource : IsWord l.source) (htarget : IsWord l.target)
    {label : Text} (hlabel : l.label = some label) (hquote : '"' ∉ label) (hne : label ≠ []) :
    barLink? (mask l.line) = some ⟨l.source, some label, l.target⟩ := by
  have hnone (cells : List Cell) (h : arrow? cells = none) : barRest? cells = none := by
    rw [barRest?, h]
  have hspan : (labelCells label ++ openCell '|' :: openCell ' ' :: l.target.map openCell).span
      (·.shown ≠ '|') = (labelCells label, openCell '|' :: openCell ' ' :: l.target.map openCell) :=
    span_append_cons (labelCells_no_bar label) (by decide) _
  have hfound : barRest? (arrowCells ++ openCell '|' ::
      (labelCells label ++ openCell '|' :: openCell ' ' :: l.target.map openCell)) =
      some (labelCells label, l.target.map openCell) := by
    rw [barRest?, arrow?_arrowCells]
    simp only [List.drop_left, hspan, rightSide?_word htarget]
    rfl
  have htext : unquote (cellText (labelCells label)) = label := by
    rw [cellText, sourceText_labelCells, trim_inQuotes, unquote_inQuotes]
  rw [barLink?, mask_line hsource, maskFrom_afterArrow htarget hlabel hquote,
    shortestLeft_linkCells hnone hsource.ne_nil hsource.word hfound]
  simp only [List.reverse_nil, List.nil_append, cellText_word hsource,
    cellText_word htarget, htext, if_neg hne, sidesOk_words hsource htarget,
    if_true]

/-- Without a label the sides are found with nothing between them. -/
theorem plainLink?_line (hsource : IsWord l.source) (htarget : IsWord l.target)
    (hlabel : l.label = none) : plainLink? (mask l.line) = some ⟨l.source, none, l.target⟩ := by
  have hafter : maskFrom 0 false l.afterArrow = openCell ' ' :: l.target.map openCell := by
    rw [PlainLink.afterArrow, hlabel]
    exact maskFrom_word htarget
  have hnone (cells : List Cell) (h : arrow? cells = none) : plainRest? cells = none := by
    rw [plainRest?, sideAfter?, h]
  have hfound : plainRest? (arrowCells ++ (openCell ' ' :: l.target.map openCell)) =
      some (l.target.map openCell) := by
    rw [plainRest?, sideAfter?, arrow?_arrowCells]
    simp only [List.drop_left, rightSide?_word htarget]
  rw [plainLink?, mask_line hsource, hafter,
    shortestLeft_linkCells hnone hsource.ne_nil hsource.word hfound]
  simp only [List.reverse_nil, List.nil_append, cellText_word hsource,
    cellText_word htarget, dropDecoration_word htarget,
    sidesOk_words hsource htarget, if_true]

/-- The line of a link is the link. -/
theorem link?_line (hsource : IsWord l.source) (htarget : IsWord l.target)
    (hlabel : ∀ label ∈ l.label, '"' ∉ label ∧ label ≠ []) :
    link? l.line = some ⟨l.source, l.label, l.target⟩ := by
  cases hcase : l.label with
  | none =>
    have htail := noShaft_tail htarget (by simp [hcase])
    have hinner : innerLink? (mask l.line) = none := by
      rw [mask_line hsource]
      exact innerLink?_linkCells hsource.word htail
    simp only [link?, barLink?_line hsource htarget hcase, innerLabelLink?, hinner,
      plainLink?_line hsource htarget hcase, Option.none_or]
  | some label =>
    obtain ⟨hquote, hne⟩ := hlabel label hcase
    simp only [link?, barLink?_line_of_label hsource htarget hcase hquote hne, Option.some_or]

end Swimlane
