import Mathlib.Algebra.GroupWithZero.Nat
import Swimlane.Proofs.Flowchart.Chain
import Swimlane.Proofs.Flowchart.Edges

/-!
# The ends of arrows

A statement with an arrow that is read for its edges is read as its links, or it is refused
(`readStatement_of_hasArrow`).  An accepted one adds for each link as many edges as there are
pairs of references on its sides.  The sides are never empty, but a side of nothing but ampersands
refers to no node, and a link with such a side adds no edge.
-/

namespace Swimlane

/-! ## Sides without references -/

/-- Is nothing in the text but ampersands and blanks? -/
def IsAmpersands (s : Text) : Prop := ∀ c ∈ s, c = '&' ∨ isBlank c = true

instance (s : Text) : Decidable (IsAmpersands s) := List.decidableBAll _ s

/-- A text is cut into nothing if it has nothing but ampersands and blanks. -/
theorem splitOpen_eq_nil_iff {s : Text} : splitOpen '&' s = [] ↔ IsAmpersands s := by
  constructor
  · intro hnil c hc
    by_contra hneither
    rw [not_or, Bool.not_eq_true] at hneither
    have hmem : c ∈ sourceText (mask s) := (sourceText_mask s).symm ▸ hc
    obtain ⟨cell, hcell, hsource⟩ := List.mem_filterMap.1 hmem
    have hshown : cell.shown ≠ '&' := by
      intro hshown
      rcases eq_openCell_of_mem_maskFrom cell hcell with hblank | hopen
      · rw [hshown] at hblank
        cases hblank
      · rw [hopen, hshown] at hsource
        exact hneither.1 (Option.some.inj hsource).symm
    have hpieces : ∃ piece ∈ splitOpen.go '&' [] (mask s), piece ≠ [] :=
      exists_mem_splitOpen_go (Or.inr ⟨cell, hcell, hshown, c, hsource, hneither.2⟩)
    obtain ⟨piece, hpiece, hne⟩ := hpieces
    have hfilter : piece ∈ splitOpen '&' s := List.mem_filter.2 ⟨hpiece, decide_eq_true hne⟩
    rw [hnil] at hfilter
    exact absurd hfilter List.not_mem_nil
  · intro h
    have hopen : ∀ c ∈ s, c ≠ '"' ∧ isOpening c = false := by
      intro c hc
      rcases h c hc with rfl | hblank
      · decide
      · exact isOpen_of_isPlain (isPlain_of_isBlank hblank)
    rw [splitOpen_eq_pieces hopen, List.filter_eq_nil_iff]
    intro piece hpiece
    obtain ⟨w, hw, rfl⟩ := List.mem_map.1 hpiece
    have hblank : ∀ c ∈ w, isBlank c = true := fun c hc =>
      (h c (of_mem_pieces hw hc).1).resolve_left (by simpa using (of_mem_pieces hw hc).2)
    simp [trim_eq_nil hblank]

/-! ## Links and their edges -/

/-- The number of edges that a link adds. -/
def Link.edgeCount (l : Link) : Nat :=
  (splitOpen '&' l.left).length * (splitOpen '&' l.right).length

/-- Does the link refer to nodes on both sides? -/
def Link.HasEnds (l : Link) : Prop := ¬ IsAmpersands l.left ∧ ¬ IsAmpersands l.right

theorem Link.edgeCount_pos {l : Link} : 0 < l.edgeCount ↔ l.HasEnds := by
  rw [edgeCount, Nat.pos_iff_ne_zero, Nat.mul_ne_zero_iff, Ne, Ne, List.length_eq_zero_iff,
    List.length_eq_zero_iff, splitOpen_eq_nil_iff, splitOpen_eq_nil_iff, HasEnds]

/-- The links of a statement, if it is one or a chain of some. -/
def linksOf? (s : Text) : Option (List Link) :=
  match chain? s with
  | some parts => parts.mapM link?
  | none => (link? s).map ([·])

theorem exists_cons_of_chain? {s : Text} {parts : List Text} (h : chain? s = some parts) :
    ∃ part rest, parts = part :: rest := by
  simp only [chain?] at h
  split at h
  · cases h
  · split at h
    · split at h
      · cases h
      · cases h
        exact ⟨_, _, rfl⟩
    · cases h

namespace Draft

theorem length_edges_of_addLink {d d' : Draft} {link : Link} (h : d.addLink link = .ok d') :
    d'.graph.edges.length = d.graph.edges.length + link.edgeCount := by
  obtain ⟨-, sources, targets, hsources, htargets, hjoins⟩ := of_addLink h
  have hlength := congrArg List.length hjoins
  rw [List.length_append, joins, joins, List.length_map, List.length_map, Bundle.length_joins,
    ← hsources.length_eq, ← htargets.length_eq] at hlength
  exact hlength

/-- A chain that is read adds the edges of its links. -/
theorem exists_links_of_addChain {d d' : Draft} {statement : Text} {parts : List Text}
    (h : d.addChain statement parts = .ok d') : ∃ links, parts.mapM link? = some links ∧
      d'.graph.edges.length = d.graph.edges.length + (links.map Link.edgeCount).sum := by
  induction parts generalizing d with
  | nil =>
    cases h
    exact ⟨[], rfl, rfl⟩
  | cons part rest ih =>
    rw [addChain] at h
    split at h
    · cases h
    · next link hlink =>
      obtain ⟨d₁, hadd, hrest⟩ := ok_of_bind h
      obtain ⟨links, hlinks, hlength⟩ := ih hrest
      refine ⟨link :: links, ?_, ?_⟩
      · rw [List.mapM_cons, hlink, hlinks]
        rfl
      · rw [hlength, length_edges_of_addLink hadd, List.map_cons, List.sum_cons, Nat.add_assoc]

/-- A statement with an arrow that is no chain and no link lacks an endpoint. -/
theorem IsForEdges.readStatement_of_none {s : Text} (hfor : IsForEdges s)
    (harrow : hasArrow (mask s) = true) (hchain : chain? s = none) (hlink : link? s = none)
    (d : Draft) (line : Nat) : d.readStatement line s = .error (.missingEndpoint s) := by
  refine hfor.readStatement_eq d line (.error (.missingEndpoint s)) ?_
  simp only [addEdges, hfor.no_tildes, hchain, hlink, harrow]
  rfl

/-- A statement with an arrow that is read for its edges is read as its links. -/
theorem exists_links_of_readStatement {s : Text} (hfor : IsForEdges s)
    (harrow : hasArrow (mask s) = true) {d d' : Draft} {line : Nat}
    (h : d.readStatement line s = .ok d') : ∃ links, linksOf? s = some links ∧ links ≠ [] ∧
      d'.graph.edges.length = d.graph.edges.length + (links.map Link.edgeCount).sum := by
  cases hchain : chain? s with
  | some parts =>
    rw [hfor.readStatement_of_chain d line hchain] at h
    obtain ⟨links, hlinks, hlength⟩ := exists_links_of_addChain h
    refine ⟨links, by rw [linksOf?, hchain]; exact hlinks, ?_, hlength⟩
    rintro rfl
    obtain ⟨part, rest, rfl⟩ := exists_cons_of_chain? hchain
    rw [List.mapM_cons] at hlinks
    obtain ⟨link, -, hrest⟩ := Option.bind_eq_some_iff.1 hlinks
    obtain ⟨links, -, hnil⟩ := Option.bind_eq_some_iff.1 hrest
    cases hnil
  | none =>
    cases hlink : link? s with
    | some link =>
      rw [hfor.readStatement_of_link d line hchain hlink] at h
      refine ⟨[link], by rw [linksOf?, hchain, hlink]; rfl, List.cons_ne_nil link [], ?_⟩
      rw [length_edges_of_addLink h, List.map_singleton, List.sum_singleton]
    | none =>
      rw [hfor.readStatement_of_none harrow hchain hlink] at h
      cases h

end Draft

/-! ## Missing ends -/

/-- What shows something in a part of a mask is not blank. -/
theorem cellText_ne_nil {s : Text} {cells : List Cell} (hcells : ∀ cell ∈ cells, cell ∈ mask s)
    {cell : Cell} (hcell : cell ∈ cells) (hshown : isBlank cell.shown = false) :
    cellText cells ≠ [] := by
  have hopen := eq_openCell_of_mem_mask (hcells cell hcell) hshown
  have hmem : cell.shown ∈ sourceText cells :=
    List.mem_filterMap.2 ⟨cell, hcell, congrArg Cell.source hopen⟩
  exact List.ne_nil_of_mem (mem_trim hmem hshown)

theorem cellText_eq_nil_of_subset {cells part : List Cell} (h : cellText cells = [])
    (hpart : part ⊆ cells) : cellText part = [] := by
  refine trim_eq_nil fun c hc => isBlank_of_trim_eq_nil h ?_
  obtain ⟨cell, hcell, hsource⟩ := List.mem_filterMap.1 hc
  exact List.mem_filterMap.2 ⟨cell, hpart hcell, hsource⟩

/-- A side that meets the arrow with a sign of arrows is none. -/
theorem sidesOk_eq_false_of_left {left : Text} {c : Char} (hlast : left.getLast? = some c)
    (hc : isArrowSign c = true) (hangle : c ≠ '>') (right : Text) : sidesOk left right = false := by
  simp only [isArrowSign, Bool.or_eq_true, decide_eq_true_eq] at hc
  rcases hc with (((rfl | rfl) | rfl) | rfl) | rfl
  · simp [sidesOk, hlast]
  · simp [sidesOk, endsInArrow, hlast]
  · simp [sidesOk, endsInArrow, hlast]
  · simp [sidesOk, endsInArrow, hlast]
  · exact absurd rfl hangle

theorem sidesOk_eq_false_of_right {c : Char} (hc : isArrowSign c = true) (hangle : c ≠ '<')
    (left rest : Text) : sidesOk left (c :: rest) = false := by
  simp only [isArrowSign, Bool.or_eq_true, decide_eq_true_eq] at hc
  rcases hc with (((rfl | rfl) | rfl) | rfl) | rfl
  · exact absurd rfl hangle
  all_goals simp [sidesOk]

/-- Has the statement one arrow, without a label inside, and nothing on one side of it? -/
structure LacksEnd (s : Text) (before arrow last : List Cell) : Prop where
  cut : cutArrows 0 [] (mask s) = ([(before, arrow)], last)
  no_label : innerLink? (mask s) = none
  lacks : cellText before = [] ∨ cellText last = []

namespace LacksEnd

variable {s : Text} {before arrow last : List Cell} (h : LacksEnd s before arrow last)

include h

theorem mask_eq : mask s = before ++ (arrow ++ last) ∧ arrow? (arrow ++ last) = some arrow ∧
    FindsNothing arrow? before (arrow ++ last) ∧ ∀ t, t <:+ last → arrow? t = none := by
  obtain ⟨passed, rest, hbefore, hcells, hfound, hnothing, hcut⟩ := exists_of_cutArrows h.cut
  obtain rfl := eq_of_cutArrows_nil hcut
  obtain rfl : before = passed := hbefore
  have hno : hasArrow last = false := by simp [hasArrow, hcut]
  exact ⟨hcells, hfound, hnothing, fun t ht => arrow?_eq_none_of_hasArrow hno ht⟩

/-- An arrow is found only where it begins, or inside it. -/
theorem exists_of_arrow?_suffix {r a : List Cell} (hr : r <:+ mask s) (ha : arrow? r = some a) :
    ∃ front back, arrow = front ++ back ∧ back ≠ [] ∧ r = back ++ last := by
  obtain ⟨hcells, -, hnothing, hlast⟩ := h.mask_eq
  rw [hcells] at hr
  rcases suffix_append_cases hr with ⟨t, hne, ht, rfl⟩ | hr
  · rw [hnothing t hne ht] at ha
    cases ha
  · rcases suffix_append_cases hr with ⟨t, hne, ⟨front, hfront⟩, rfl⟩ | hr
    · exact ⟨front, t, hfront.symm, hne, rfl⟩
    · rw [hlast r hr] at ha
      cases ha

/-- The cells of the arrow stand in the open and are not blank. -/
theorem of_mem_arrow {cell : Cell} (hcell : cell ∈ arrow) :
    isBlank cell.shown = false ∧ cell = openCell cell.shown := by
  obtain ⟨hcells, hfound, -, -⟩ := h.mask_eq
  have hblank := isBlank_of_isArrowSign ((isArrowSign_of_mem_arrow hfound).2 cell hcell)
  have hmem : cell ∈ mask s := by
    rw [hcells]
    exact List.mem_append_right _ (List.mem_append_left _ hcell)
  exact ⟨hblank, eq_openCell_of_mem_mask hmem hblank⟩

/-- A part of the arrow is the text that it shows. -/
theorem exists_text {part : List Cell} (hpart : part ⊆ arrow) : ∃ text : Text,
    part = text.map openCell ∧ ∀ c ∈ text, isBlank c = false ∧ isArrowSign c = true := by
  obtain ⟨-, hfound, -, -⟩ := h.mask_eq
  refine ⟨part.map (·.shown), ?_, fun c hc => ?_⟩
  · rw [List.map_map]
    exact (List.map_id _).symm.trans
      (List.map_congr_left fun cell hcell => (h.of_mem_arrow (hpart hcell)).2)
  · obtain ⟨cell, hcell, rfl⟩ := List.mem_map.1 hc
    exact ⟨(h.of_mem_arrow (hpart hcell)).1,
      (isArrowSign_of_mem_arrow hfound).2 cell (hpart hcell)⟩

/-- A left side, with the blanks after it, goes up to the arrow or ends inside it. -/
theorem exists_of_left {β : Type} {right? : List Cell → Option β}
    (hnone : ∀ r, arrow? r = none → right? r = none) {left : List Cell} {found : β}
    (hleft : shortestLeft right? [] (mask s) = some (left, found)) : ∃ front back blanks,
      arrow = front ++ back ∧ back ≠ [] ∧ before ++ front = left ++ blanks ∧
      ∀ cell ∈ blanks, isBlank cell.shown = true := by
  obtain ⟨hcells, hfound, -, -⟩ := h.mask_eq
  obtain ⟨passed, rest, -, hpassed, hmask, hright⟩ := exists_of_shortestLeft hleft
  rw [List.reverse_nil, List.nil_append] at hpassed
  subst hpassed
  have hdrop : dropBlank rest <:+ mask s :=
    (List.dropWhile_suffix _).trans (hmask ▸ List.suffix_append left rest)
  obtain ⟨a, ha⟩ : ∃ a, arrow? (dropBlank rest) = some a := by
    cases harrow : arrow? (dropBlank rest) with
    | none =>
      rw [hnone _ harrow] at hright
      cases hright
    | some a => exact ⟨a, rfl⟩
  obtain ⟨front, back, hsplit, hback, hafter⟩ := h.exists_of_arrow?_suffix hdrop ha
  refine ⟨front, back, rest.takeWhile (isBlank ·.shown), hsplit, hback, ?_, fun cell hcell => ?_⟩
  · have hrest : rest = rest.takeWhile (isBlank ·.shown) ++ (back ++ last) := by
      rw [← hafter]
      exact List.takeWhile_append_dropWhile.symm
    rw [hcells, hrest, hsplit, List.append_assoc front, ← List.append_assoc before,
      ← List.append_assoc left] at hmask
    exact List.append_cancel_right hmask
  · exact List.mem_takeWhile_imp (p := fun cell : Cell => isBlank cell.shown) hcell

omit h in
/-- If nothing stands before the arrow, a left side that ends inside the arrow is the part of it
before its end. -/
theorem cellText_left_of_before (hbefore : cellText before = []) {text : Text}
    {left blanks : List Cell} (htext : ∀ c ∈ text, isBlank c = false) (hne : text ≠ [])
    (hcells : before ++ text.map openCell = left ++ blanks)
    (hblanks : ∀ cell ∈ blanks, isBlank cell.shown = true) : cellText left = text := by
  have hsource : ∀ c ∈ sourceText before, isBlank c = true := fun _ hc =>
    isBlank_of_trim_eq_nil hbefore hc
  have hopen : ∀ cell ∈ (before ++ text.map openCell).getLast?, isBlank cell.shown = false := by
    intro cell hcell
    rw [List.getLast?_append_of_ne_nil _ (by simpa using hne), List.getLast?_map] at hcell
    obtain ⟨c, hc, rfl⟩ := Option.map_eq_some_iff.1 hcell
    exact htext c (List.mem_of_getLast? hc)
  have hnil : blanks = [] := eq_nil_of_blanks hcells hblanks hopen
  rw [hnil, List.append_nil] at hcells
  rw [cellText, ← hcells, sourceText_append, sourceText_map_openCell, trim,
    trimStart_append hsource fun c hc => htext c (List.mem_of_mem_head? hc)]
  exact trimEnd_eq_self fun c hc => htext c (List.mem_of_getLast? hc)

/-- If nothing stands before the arrow, what is found is no left side. -/
theorem sidesOk_of_before (hbefore : cellText before = []) {β : Type}
    {right? : List Cell → Option β} (hnone : ∀ r, arrow? r = none → right? r = none)
    {left : List Cell} {found : β} (hleft : shortestLeft right? [] (mask s) = some (left, found))
    (right : Text) : sidesOk (cellText left) right = false := by
  obtain ⟨-, hfound, -, -⟩ := h.mask_eq
  obtain ⟨front, back, blanks, hsplit, hback, hcells, hblanks⟩ := h.exists_of_left hnone hleft
  have hfront : front ⊆ arrow := fun cell hcell => hsplit ▸ List.mem_append_left back hcell
  obtain ⟨text, rfl, hchars⟩ := h.exists_text hfront
  cases hlast : text.getLast? with
  | none =>
    have hnil : text = [] := List.getLast?_eq_none_iff.1 hlast
    rw [hnil, List.map_nil, List.append_nil] at hcells
    have hblank : cellText left = [] := by
      refine trim_eq_nil fun c hc => isBlank_of_trim_eq_nil hbefore ?_
      rw [hcells, sourceText_append]
      exact List.mem_append_left _ hc
    simp [sidesOk, hblank]
  | some c =>
    have hc : c ∈ text := List.mem_of_getLast? hlast
    have hangle : c ≠ '>' := shown_ne_of_arrow?_take (hsplit ▸ hfound) hback (openCell c)
      (List.mem_map_of_mem hc)
    rw [cellText_left_of_before hbefore (fun d hd => (hchars d hd).1) (List.ne_nil_of_mem hc)
      hcells hblanks]
    exact sidesOk_eq_false_of_left hlast (hchars c hc).2 hangle right

/-- If nothing stands after the arrow, all its cells are blank and it ends there. -/
theorem isBlank_last (hlast : cellText last = []) : ∀ cell ∈ last, isBlank cell.shown = true := by
  obtain ⟨hcells, -, -, -⟩ := h.mask_eq
  intro cell hcell
  by_contra hblank
  rw [Bool.not_eq_true] at hblank
  refine cellText_ne_nil (s := s) (fun cell hcell => ?_) hcell hblank hlast
  rw [hcells]
  exact List.mem_append_right _ (List.mem_append_right _ hcell)

/-- If nothing stands after the arrow, what is found after a part of it is more of the arrow, with
no angle that opens. -/
theorem exists_of_arrow?_last (hlast : cellText last = []) {r a : List Cell} (hr : r <:+ mask s)
    (ha : arrow? r = some a) : ∃ text : Text, r.drop a.length = text.map openCell ++ last ∧
      ∀ c ∈ text, isBlank c = false ∧ isArrowSign c = true ∧ c ≠ '<' := by
  obtain ⟨-, hfound, -, -⟩ := h.mask_eq
  obtain ⟨front, back, hsplit, -, rfl⟩ := h.exists_of_arrow?_suffix hr ha
  have hends : EndsArrow last := fun cell hcell =>
    isArrowSign_of_isBlank (h.isBlank_last hlast cell (List.mem_of_mem_head? hcell))
  rw [arrow?_append hends] at ha
  obtain ⟨more, rfl⟩ := isPrefix_of_arrow? ha
  have hmore : more ⊆ arrow := fun cell hcell =>
    hsplit ▸ List.mem_append_right front (List.mem_append_right a hcell)
  obtain ⟨text, rfl, hchars⟩ := h.exists_text hmore
  rw [← List.append_assoc] at hsplit
  have hne : front ++ a ≠ [] := by simp [(isArrowSign_of_mem_arrow ha).1]
  refine ⟨text, by rw [List.append_assoc, List.drop_left], fun c hc => ⟨(hchars c hc).1,
    (hchars c hc).2, ?_⟩⟩
  exact shown_ne_of_arrow?_drop (hsplit ▸ hfound) hne (openCell c) (List.mem_map_of_mem hc)

/-- If nothing stands after the arrow, there is no label between bars. -/
theorem barRest?_eq_none (hlast : cellText last = []) {r : List Cell} (hr : r <:+ mask s) :
    barRest? r = none := by
  rw [barRest?]
  cases ha : arrow? r with
  | none => rfl
  | some a =>
    obtain ⟨text, hdrop, hchars⟩ := h.exists_of_arrow?_last hlast hr ha
    simp only [hdrop]
    cases text with
    | nil =>
      cases hcase : last with
      | nil => rfl
      | cons cell rest =>
        refine if_pos ?_
        intro hbar
        have hblank := h.isBlank_last hlast cell (hcase ▸ List.mem_cons_self)
        rw [hbar] at hblank
        revert hblank
        decide
    | cons c text =>
      refine if_pos ?_
      rintro rfl
      exact absurd (hchars '|' List.mem_cons_self).2.1 (by decide)

omit h in
/-- A right side that begins with a sign of arrows, one that opens apart, is none. -/
theorem sidesOk_eq_false_of_cells {c : Char} (hblank : isBlank c = false)
    (hsign : isArrowSign c = true) (hangle : c ≠ '<') (left : Text) (rest : List Cell) :
    sidesOk left (dropDecoration (cellText (openCell c :: rest))) = false := by
  have htext : cellText (openCell c :: rest) = c :: trimEnd (sourceText rest) := by
    rw [cellText, sourceText_cons_openCell]
    exact trim_append_cons hblank (s := []) (by simp) _
  have hkept : dropDecoration (c :: trimEnd (sourceText rest)) =
      c :: trimEnd (sourceText rest) := by
    have hletter : ¬ (c = 'o' ∨ c = 'x') := by
      rintro (rfl | rfl) <;> exact absurd hsign (by decide)
    cases trimEnd (sourceText rest) with
    | nil => rfl
    | cons d rest => simp [dropDecoration, hletter]
  rw [htext, hkept]
  exact sidesOk_eq_false_of_right hsign hangle left _

/-- If nothing stands after the arrow, what follows a part of it is no right side. -/
theorem sidesOk_of_rightSide? (hlast : cellText last = []) {r a right : List Cell}
    (hr : r <:+ mask s) (ha : arrow? r = some a)
    (hright : rightSide? (r.drop a.length) = some right) (left : Text) :
    sidesOk left (dropDecoration (cellText right)) = false := by
  obtain ⟨text, hdrop, hchars⟩ := h.exists_of_arrow?_last hlast hr ha
  rw [hdrop] at hright
  obtain ⟨hne, hside⟩ := of_rightSide? hright
  cases text with
  | nil =>
    have hnil : dropBlank ([].map openCell ++ last) = [] :=
      List.dropWhile_eq_nil_iff.2 (h.isBlank_last hlast)
    rcases hside with hside | ⟨-, c, hc, rfl⟩
    · exact absurd (hside.symm.trans hnil) hne
    · have hempty : cellText [c] = [] := cellText_eq_nil_of_subset hlast fun d hd =>
        List.mem_singleton.1 hd ▸ List.mem_of_getLast? hc
      rw [hempty]
      simp [sidesOk, dropDecoration]
  | cons c text =>
    obtain ⟨hblank, hsign, hangle⟩ := hchars c List.mem_cons_self
    have hsome : dropBlank ((c :: text).map openCell ++ last) =
        openCell c :: (text.map openCell ++ last) :=
      List.dropWhile_cons_of_neg (by simp [openCell, hblank])
    rcases hside with hside | ⟨hnil, -⟩
    · rw [← hside, hsome]
      exact sidesOk_eq_false_of_cells hblank hsign hangle left _
    · rw [hsome] at hnil
      cases hnil

omit h in
/-- The end of a shortened arrow is no right side. -/
theorem sidesOk_of_dropLast {r a : List Cell} (hr : r <:+ mask s) (ha : arrow? r = some a)
    (hne : a.dropLast ≠ []) (left : Text) :
    sidesOk left (dropDecoration (cellText (a.drop (a.length - 1)))) = false := by
  obtain ⟨hsome, hsigns⟩ := isArrowSign_of_mem_arrow ha
  obtain ⟨front, cell, rfl⟩ := (List.eq_nil_or_concat' a).resolve_left hsome
  rw [List.dropLast_concat] at hne
  have hcell : cell ∈ front ++ [cell] := List.mem_append_right front (List.mem_singleton_self _)
  have hblank := isBlank_of_isArrowSign (hsigns cell hcell)
  have hopen : cell = openCell cell.shown :=
    eq_openCell_of_mem_mask (hr.subset ((isPrefix_of_arrow? ha).subset hcell)) hblank
  have hright :
      (front ++ [cell]).drop ((front ++ [cell]).length - 1) = [openCell cell.shown] := by
    rw [List.length_append, List.length_singleton, Nat.add_sub_cancel, List.drop_left, ← hopen]
  rw [hright]
  exact sidesOk_eq_false_of_cells hblank (hsigns cell hcell)
    (shown_ne_of_arrow?_drop ha hne cell (List.mem_singleton_self cell)) left []

/-- If nothing stands after the arrow, what is found is no right side. -/
theorem sidesOk_of_last (hlast : cellText last = []) {r right : List Cell} (hr : r <:+ mask s)
    (hright : plainRest? r = some right) (left : Text) :
    sidesOk left (dropDecoration (cellText right)) = false := by
  obtain ⟨a, ha, hright⟩ := of_sideAfter? hright
  rcases hright with hright | ⟨-, hless, rfl⟩
  · exact h.sidesOk_of_rightSide? hlast hr ha hright left
  · refine sidesOk_of_dropLast hr ha ?_ left
    intro hnil
    rw [hnil] at hless
    exact Bool.false_ne_true hless

omit h in
theorem chain?_eq_none (h : LacksEnd s before arrow last) : chain? s = none := by
  simp only [chain?, h.no_label, h.cut]
  rfl

/-- A statement that lacks an end is no link. -/
theorem link?_eq_none : link? s = none := by
  have hbar : barLink? (mask s) = none := by
    rw [barLink?]
    cases hleft : shortestLeft barRest? [] (mask s) with
    | none => rfl
    | some found =>
      obtain ⟨left, label, right⟩ := found
      refine if_neg (Bool.not_eq_true _ ▸ ?_)
      rcases h.lacks with hbefore | hlast
      · exact h.sidesOk_of_before hbefore (fun r hr => by rw [barRest?, hr]) hleft _
      · rw [shortestLeft_eq_none barRest? (fun r hr => h.barRest?_eq_none hlast hr)] at hleft
        cases hleft
  have hplain : plainLink? (mask s) = none := by
    rw [plainLink?]
    cases hleft : shortestLeft plainRest? [] (mask s) with
    | none => rfl
    | some found =>
      obtain ⟨left, right⟩ := found
      refine if_neg (Bool.not_eq_true _ ▸ ?_)
      rcases h.lacks with hbefore | hlast
      · exact h.sidesOk_of_before hbefore (fun r hr => by rw [plainRest?, sideAfter?, hr]) hleft _
      · obtain ⟨passed, rest, -, -, hmask, hright⟩ := exists_of_shortestLeft hleft
        refine h.sidesOk_of_last hlast ?_ hright _
        rw [hmask]
        exact (List.dropWhile_suffix _).trans (List.suffix_append passed rest)
  simp only [link?, hbar, hplain, innerLabelLink?, h.no_label]
  rfl

end LacksEnd

/-! ## Statements with an arrow -/

/-- A statement with an arrow that is read for its edges adds as many as its links have pairs of
references, if it is accepted: none at all only if each of the links has a side of nothing but
ampersands.  If nothing stands on one side of its one arrow, it is refused for the endpoint. -/
theorem readStatement_of_hasArrow {s : Text} (hfor : Draft.IsForEdges s)
    (harrow : hasArrow (mask s) = true) (d : Draft) (line : Nat) :
    (∀ d', d.readStatement line s = .ok d' → ∃ links, linksOf? s = some links ∧ links ≠ [] ∧
      d'.graph.edges.length = d.graph.edges.length + (links.map Link.edgeCount).sum ∧
      (d.graph.edges.length < d'.graph.edges.length ↔ ∃ link ∈ links, link.HasEnds)) ∧
    ∀ before arrow last, LacksEnd s before arrow last →
      d.readStatement line s = .error (.missingEndpoint s) := by
  refine ⟨fun d' hread => ?_, fun before arrow last hlacks =>
    hfor.readStatement_of_none harrow hlacks.chain?_eq_none hlacks.link?_eq_none d line⟩
  obtain ⟨links, hlinks, hne, hlength⟩ := Draft.exists_links_of_readStatement hfor harrow hread
  refine ⟨links, hlinks, hne, hlength, ?_⟩
  have hmore : d.graph.edges.length < d'.graph.edges.length ↔
      0 < (links.map Link.edgeCount).sum := by omega
  rw [hmore, List.sum_pos_iff_exists_pos_nat]
  simp only [List.mem_map, exists_exists_and_eq_and, Link.edgeCount_pos]

/-- An ampersand in front of an arrow is no reference, but next to one it does no harm; an arrow
that leads nowhere is refused. -/
theorem readStatement_ampersandAndDangling :
    (Draft.IsForEdges "a & --> b".toList ∧ hasArrow (mask "a & --> b".toList) = true ∧
      ∃ d', (Draft.start .leftRight).readStatement 2 "a & --> b".toList = .ok d' ∧
        (Draft.start .leftRight).graph.edges.length < d'.graph.edges.length) ∧
    Draft.IsForEdges "A -->".toList ∧ hasArrow (mask "A -->".toList) = true ∧
      (Draft.start .leftRight).readStatement 2 "A -->".toList =
        .error (.missingEndpoint "A -->".toList) := by
  have hfor : Draft.IsForEdges "a & --> b".toList := by
    constructor <;> decide +kernel
  have harrow : hasArrow (mask "a & --> b".toList) = true := by decide +kernel
  have hdangling : Draft.IsForEdges "A -->".toList := by
    constructor <;> decide +kernel
  have harrow' : hasArrow (mask "A -->".toList) = true := by decide +kernel
  have hlacks : LacksEnd "A -->".toList ("A ".toList.map openCell) arrowCells [] := by
    constructor <;> decide +kernel
  refine ⟨⟨hfor, harrow, ?_⟩, hdangling, harrow',
    (readStatement_of_hasArrow hdangling harrow' _ 2).2 _ _ _ hlacks⟩
  have hok : ((Draft.start .leftRight).readStatement 2 "a & --> b".toList).isOk = true := by
    decide +kernel
  cases hread : (Draft.start .leftRight).readStatement 2 "a & --> b".toList with
  | error e =>
    rw [hread] at hok
    cases hok
  | ok d' =>
    obtain ⟨links, hlinks, -, -, hends⟩ :=
      (readStatement_of_hasArrow hfor harrow (.start .leftRight) 2).1 d' hread
    have hlink : linksOf? "a & --> b".toList = some [⟨"a &".toList, none, ['b']⟩] := by
      decide +kernel
    obtain rfl := Option.some.inj (hlink.symm.trans hlinks)
    exact ⟨d', rfl, hends.2 ⟨_, List.mem_singleton_self _, by decide, by decide⟩⟩

/-- An arrow that leads from an ampersand is accepted, and no edge is added. -/
theorem exists_swallowed_arrow : ∃ (s : Text) (d' : Draft), s = "& --> B".toList ∧
    Draft.IsForEdges s ∧ hasArrow (mask s) = true ∧
    (Draft.start .leftRight).readStatement 2 s = .ok d' ∧
    d'.graph.nodes.map (·.id) = [['B']] ∧
    ¬ (Draft.start .leftRight).graph.edges.length < d'.graph.edges.length := by
  have hfor : Draft.IsForEdges "& --> B".toList := by
    constructor <;> decide +kernel
  have hadded : (((Draft.start .leftRight).readStatement 2 "& --> B".toList).map
      fun d => (d.graph.nodes.map (·.id), d.graph.edges)).toOption = some ([['B']], []) := by
    decide +kernel
  obtain ⟨d', hread, hgraph⟩ := exists_of_toOption_map hadded
  obtain ⟨hnodes, hedges⟩ := Prod.mk.inj hgraph
  refine ⟨_, d', rfl, hfor, by decide +kernel, hread, hnodes, ?_⟩
  rw [hedges]
  exact Nat.not_lt_zero _

end Swimlane
