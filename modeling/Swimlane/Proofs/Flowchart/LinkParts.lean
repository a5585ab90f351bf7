import Swimlane.Flowchart.Sliced
import Swimlane.Proofs.Flowchart.Cells

/-!
# The parts of a link

What is found of a link in a masked statement, its sides and its label, is cut out between
characters.  A left side ends before blanks, and so does a label inside an arrow.  Neither goes on
over a blank if it can do without it, so each ends with a cell in the open.  What follows an arrow
or a bar begins with a cell in the open, since nothing is open there.
-/

namespace Swimlane

/-! ## Cells between blanks -/

theorem dropBlank_suffix (cells : List Cell) : ∃ blanks, cells = blanks ++ dropBlank cells ∧
    ∀ cell ∈ blanks, isBlank cell.shown = true :=
  ⟨cells.takeWhile (isBlank ·.shown), List.takeWhile_append_dropWhile.symm, fun _ hcell =>
    List.mem_takeWhile_imp (p := fun cell : Cell => isBlank cell.shown) hcell⟩

theorem dropBlank_cons {cell : Cell} (h : isBlank cell.shown = true) (cells : List Cell) :
    dropBlank (cell :: cells) = dropBlank cells := List.dropWhile_cons_of_pos h

theorem isBlank_head_dropBlank {cells rest : List Cell} {cell : Cell}
    (h : dropBlank cells = cell :: rest) : isBlank cell.shown = false := by
  have hhead := List.head?_dropWhile_not (fun cell : Cell => isBlank cell.shown) cells
  rw [dropBlank] at h
  rw [h] at hhead
  simpa using hhead

/-- A left side does not end with a blank, unless it is one. -/
theorem exists_last_of_shortestLeft {β : Type} {right? : List Cell → Option β}
    {before cells left : List Cell} {found : β}
    (h : shortestLeft right? before cells = some (left, found)) :
    ∃ passed c rest, left = before.reverse ++ (passed ++ [c]) ∧ cells = passed ++ c :: rest ∧
      right? (dropBlank rest) = some found ∧ (passed = [] ∨ isBlank c.shown = false) := by
  induction cells generalizing before with
  | nil => cases h
  | cons c rest ih =>
    rw [shortestLeft] at h
    split at h
    · next hright =>
      cases h
      exact ⟨[], c, rest, List.reverse_cons, rfl, hright, Or.inl rfl⟩
    · next hnone =>
      obtain ⟨passed, last, after, rfl, rfl, hright, hlast⟩ := ih h
      refine ⟨c :: passed, last, after, by simp, rfl, hright, Or.inr ?_⟩
      refine hlast.elim (fun hnil => ?_) id
      rw [Bool.eq_false_iff]
      intro hblank
      rw [hnil, List.nil_append, dropBlank_cons hblank, hright] at hnone
      cases hnone

/-- A label inside an arrow does not end with a blank, unless it is one. -/
theorem exists_last_of_innerLabel? {before cells label right : List Cell}
    (h : innerLabel? before cells = some (label, right)) :
    ∃ passed c rest, label = before.reverse ++ passed ∧ cells = passed ++ c :: rest ∧
      label ≠ [] ∧ isBlank c.shown = true ∧ lateRest? (dropBlank rest) = some right ∧
      ∀ front last, passed = front ++ [last] →
        isBlank last.shown = false ∨ front = [] ∧ before = [] := by
  induction cells generalizing before with
  | nil => cases h
  | cons c rest ih =>
    simp only [innerLabel?] at h
    split at h
    · next hhere =>
      cases h
      split at hhere
      · next hblank =>
        refine ⟨[], c, rest, (List.append_nil _).symm, rfl, ?_, hblank.2, hhere, ?_⟩
        · exact fun hnil => hblank.1 (List.reverse_eq_nil_iff.1 hnil)
        · intro front last hnil
          exact absurd hnil.symm (by simp)
      · cases hhere
    · next hnone =>
      split at h
      · obtain ⟨passed, d, after, rfl, rfl, hne, hd, hright, hlast⟩ := ih h
        refine ⟨c :: passed, d, after, by simp, rfl, hne, hd, hright, fun front last hpassed => ?_⟩
        rcases List.eq_nil_or_concat' passed with rfl | ⟨passed, e, rfl⟩
        · have hsplit : [] ++ [c] = front ++ [last] := hpassed
          obtain ⟨rfl, rfl⟩ := List.append_singleton_inj.1 hsplit
          refine (Bool.eq_false_or_eq_true (isBlank c.shown)).symm.imp id fun hblank => ?_
          refine ⟨rfl, ?_⟩
          by_contra hbefore
          rw [List.nil_append, if_pos ⟨hbefore, hblank⟩, dropBlank_cons hd, hright] at hnone
          cases hnone
        · have hsplit : (c :: passed) ++ [e] = front ++ [last] := hpassed
          obtain ⟨-, rfl⟩ := List.append_singleton_inj.1 hsplit
          exact Or.inl ((hlast passed e rfl).resolve_right fun hnil => by cases hnil.2)
      · cases h

/-! ## Signs of shafts -/

theorem isPlain_of_isArrowSign {c : Char} (hc : isArrowSign c = true) : isPlain c = true :=
  isPlain_of_class hc (forall_mem_of_all (by decide))

/-- Does the search find signs of arrows at the head of the cells? -/
def FindsSigns (shaft? : List Cell → Option (List Cell)) : Prop :=
  ∀ cells shaft, shaft? cells = some shaft →
    shaft <+: cells ∧ shaft ≠ [] ∧ ∀ cell ∈ shaft, isArrowSign cell.shown = true

theorem findsSigns_arrow? : FindsSigns arrow? := fun _ _ h =>
  ⟨isPrefix_of_arrow? h, isArrowSign_of_mem_arrow h⟩

theorem findsSigns_earlyShaft? : FindsSigns earlyShaft? := by
  intro cells shaft h
  refine ⟨isPrefix_of_earlyShaft? h, ?_⟩
  simp only [earlyShaft?] at h
  split at h
  · next hshown =>
    cases h
    have hsigns : ∀ c ∈ shownText ((cells.drop (optional '<' cells).length).take 2),
        isArrowSign c = true := by
      rcases hshown with h | h | h <;> rw [h] <;> exact forall_mem_of_all (by decide)
    refine ⟨fun hnil => ?_, fun cell hcell => ?_⟩
    · rw [(List.append_eq_nil_iff.1 hnil).2] at hshown
      simp [shownText] at hshown
    · rcases List.mem_append.1 hcell with hcell | hcell
      · rw [shown_of_mem_optional.2 cell hcell]
        rfl
      · exact hsigns _ (List.mem_map_of_mem hcell)
  · cases h

theorem findsSigns_lateShaft? : FindsSigns lateShaft? := by
  intro cells shaft h
  obtain ⟨signs, hsigns, rfl⟩ := Option.map_eq_some_iff.1 h
  have hshown {c : Char} (hc : isArrowSign c = true) :
      ∀ cell ∈ runOf c cells, isArrowSign cell.shown = true := fun cell hcell => by
    rw [shown_of_mem_runOf hcell, hc]
  have hrun {c : Char} (hc : isArrowSign c = true) (htwo : 2 ≤ (runOf c cells).length) :
      runOf c cells <+: cells ∧ runOf c cells ≠ [] ∧
        ∀ cell ∈ runOf c cells, isArrowSign cell.shown = true :=
    ⟨List.takeWhile_prefix _, List.ne_nil_of_length_pos (Nat.lt_of_succ_lt htwo), hshown hc⟩
  obtain ⟨⟨rest, rfl⟩, hne, hall⟩ : signs <+: cells ∧ signs ≠ [] ∧
      ∀ cell ∈ signs, isArrowSign cell.shown = true := by
    split at hsigns
    · next htwo =>
      cases hsigns
      exact hrun rfl htwo
    · split at hsigns
      · next htwo =>
        cases hsigns
        exact hrun rfl htwo
      · split at hsigns
        · next hdots =>
          cases hsigns
          obtain ⟨b, htake, hb⟩ := exists_take_runOf hdots.2
          refine ⟨List.take_prefix _ _, ?_, ?_⟩
          · rw [htake]
            simp
          · rw [htake]
            intro cell hcell
            rcases List.mem_append.1 hcell with hcell | hcell
            · exact hshown rfl cell hcell
            · rw [List.mem_singleton.1 hcell, hb]
              rfl
        · cases hsigns
  rw [List.drop_left]
  refine ⟨(List.prefix_append_right_inj signs).2 (isPrefix_optional '>' rest), ?_, ?_⟩
  · simp [hne]
  · intro cell hcell
    rcases List.mem_append.1 hcell with hcell | hcell
    · exact hall cell hcell
    · rw [shown_of_mem_optional.2 cell hcell]
      rfl

/-! ## Right sides -/

section Right

variable {s : Text} {before cells right : List Cell}

/-- What follows a plain sign as a right side goes on to the end from where a character begins. -/
theorem isPart_of_rightSide? {cell : Cell} (h : mask s = before ++ cell :: cells)
    (hplain : isPlain cell.shown = true) (hblank : isBlank cell.shown = false)
    (hright : rightSide? cells = some right) : ∃ gap, IsPart s gap right [] := by
  have hpart (blanks : List Cell) (hcells : cells = blanks ++ right)
      (hbegins : BeginsCharacter right) : IsPart s (before ++ cell :: blanks) right [] := by
    refine ⟨?_, ?_, beginsCharacter_nil⟩
    · rw [h, hcells, List.append_nil, List.append_assoc, List.cons_append]
    · rwa [List.append_nil]
  obtain ⟨hne, hside | ⟨hnil, c, hc, rfl⟩⟩ := of_rightSide? hright
  · obtain ⟨blanks, hcells, -⟩ := dropBlank_suffix cells
    rw [hside] at hcells
    refine ⟨_, hpart blanks hcells ?_⟩
    obtain ⟨d, rest, rfl⟩ := List.exists_cons_of_ne_nil hne
    have hmask : mask s = (before ++ cell :: blanks) ++ d :: rest := by
      rw [h, hcells]
      simp
    exact beginsCharacter_of_shown hmask (isBlank_head_dropBlank hside)
  · rw [eq_openCell_of_shown h hblank] at h
    obtain ⟨rest, rfl⟩ := exists_mask_after h hplain hblank
    have hall : (mask rest).takeWhile (isBlank ·.shown) = mask rest :=
      List.takeWhile_eq_self_iff.2 (List.dropWhile_eq_nil_iff.1 hnil)
    obtain ⟨front, hfront⟩ := List.getLast?_eq_some_iff.1 hc
    refine ⟨_, hpart front hfront ?_⟩
    refine beginsCharacter_cons (eq_openCell_of_mem_blanks (s := rest) ?_) []
    rw [hall]
    exact List.mem_of_getLast? hc

theorem isPart_of_sideAfter? {shaft? : List Cell → Option (List Cell)}
    (hsigns : FindsSigns shaft?) (h : mask s = before ++ cells)
    (hright : sideAfter? shaft? cells = some right) : ∃ gap, IsPart s gap right [] := by
  obtain ⟨shaft, hshaft, hright⟩ := of_sideAfter? hright
  obtain ⟨⟨rest, rfl⟩, hne, hsign⟩ := hsigns cells shaft hshaft
  obtain ⟨front, cell, rfl⟩ := (List.eq_nil_or_concat' shaft).resolve_left hne
  have hcell := hsign cell (List.mem_append_right front (List.mem_singleton_self cell))
  have hmask : mask s = (before ++ front) ++ cell :: rest := by
    rw [h]
    simp
  rw [List.drop_left] at hright
  rcases hright with hright | ⟨rfl, -, rfl⟩
  · exact isPart_of_rightSide? hmask (isPlain_of_isArrowSign hcell)
      (isBlank_of_isArrowSign hcell) hright
  · have hlast : (front ++ [cell]).drop ((front ++ [cell]).length - 1) = [cell] := by simp
    rw [hlast]
    exact ⟨before ++ front, hmask,
      beginsCharacter_of_shown hmask (isBlank_of_isArrowSign hcell), beginsCharacter_nil⟩

end Right

/-! ## Left sides and labels -/

section Label

variable {s : Text} {before cells label right : List Cell}

theorem isPart_of_shortestLeft {β : Type} {right? : List Cell → Option β} {left : List Cell}
    {found : β} (h : shortestLeft right? [] (mask s) = some (left, found)) :
    ∃ rest, IsPart s [] left rest ∧ right? (dropBlank rest) = some found := by
  obtain ⟨passed, c, rest, rfl, hmask, hright, hlast⟩ := exists_last_of_shortestLeft h
  have hopen : c = openCell c.shown := by
    rcases hlast with rfl | hblank
    · exact eq_openCell_of_mask_cons hmask
    · exact eq_openCell_of_shown hmask hblank
  refine ⟨rest, ⟨?_, ?_, beginsCharacter_after hmask hopen⟩, hright⟩
  · simpa using hmask
  · have hwhole := (isWhole_mask s).beginsCharacter
    rw [hmask] at hwhole
    simpa using hwhole

/-- A label between bars is cut out between them. -/
theorem isPart_of_barRest? (h : mask s = before ++ cells)
    (hfound : barRest? cells = some (label, right)) :
    (∃ front after, IsPart s front label after ∧ Sliced.fromBars cells = label ++ after) ∧
      ∃ gap, IsPart s gap right [] := by
  obtain ⟨arrow, first, second, rest, rfl, hfirst, hsecond, harrow, hright⟩ :=
    exists_of_barRest? hfound
  have hbar {cell : Cell} (hcell : cell.shown = '|') : isBlank cell.shown = false := by
    rw [hcell]
    decide
  have hmask : mask s = (before ++ arrow) ++ first :: (label ++ second :: rest) := by
    rw [h, List.append_assoc]
  have hmask' : mask s = (before ++ arrow ++ first :: label) ++ second :: rest := by
    rw [hmask]
    simp
  have hopen : first = openCell first.shown := eq_openCell_of_shown hmask (hbar hfirst)
  refine ⟨⟨before ++ arrow ++ [first], second :: rest, ⟨?_, beginsCharacter_after hmask hopen, ?_⟩,
    ?_⟩, isPart_of_rightSide? hmask' ?_ (hbar hsecond) hright⟩
  · rw [hmask]
    simp
  · exact beginsCharacter_of_shown hmask' (hbar hsecond)
  · rw [Sliced.fromBars, harrow, Option.getD_some, ← List.drop_drop, List.drop_left]
    rfl
  · rw [hsecond]
    decide

/-- A label inside an arrow begins after the blanks that follow the first half, or is the last but
one of them. -/
theorem of_innerRest? (h : innerRest? cells = some (label, right)) : ∃ shaft blanks rest,
    earlyShaft? cells = some shaft ∧
      (cells.drop shaft.length).span (isBlank ·.shown) = (blanks, rest) ∧
      (innerLabel? [] rest = some (label, right) ∨ innerLabel? [] rest = none ∧
        3 ≤ blanks.length ∧ lateRest? rest = some right ∧
        label = (blanks.drop (blanks.length - 2)).take 1) := by
  rw [innerRest?] at h
  split at h
  · cases h
  · next shaft hshaft =>
    obtain ⟨blanks, rest, hspan⟩ : ∃ blanks rest,
        (cells.drop shaft.length).span (isBlank ·.shown) = (blanks, rest) := ⟨_, _, rfl⟩
    refine ⟨shaft, blanks, rest, hshaft, hspan, ?_⟩
    rw [hspan] at h
    simp only at h
    split at h
    · cases h
    · split at h
      · next hlabel =>
        cases h
        exact Or.inl hlabel
      · next hlabel =>
        split at h
        · next hthree =>
          obtain ⟨side, hside, hpair⟩ := Option.map_eq_some_iff.1 h
          obtain ⟨rfl, rfl⟩ := Prod.mk.inj hpair
          exact Or.inr ⟨hlabel, hthree, hside, rfl⟩
        · cases h

/-- A label that begins with no blank is cut out before the blanks in front of the second half. -/
theorem isPart_of_innerLabel? (h : mask s = before ++ cells)
    (hhead : ∀ cell ∈ cells.head?, isBlank cell.shown = false)
    (hfound : innerLabel? [] cells = some (label, right)) :
    (∃ after, cells = label ++ after ∧ IsPart s before label after) ∧
      ∃ gap, IsPart s gap right [] := by
  obtain ⟨passed, c, rest, hlabel, rfl, hne, -, hright, hlast⟩ := exists_last_of_innerLabel? hfound
  obtain rfl : label = passed := hlabel
  have hafter : mask s = before ++ (label ++ c :: rest) := h
  constructor
  · refine ⟨c :: rest, rfl, hafter, ?_, ?_⟩
    · obtain ⟨d, more, rfl⟩ := List.exists_cons_of_ne_nil hne
      exact beginsCharacter_of_shown h (hhead d rfl)
    · obtain ⟨front, last, rfl⟩ := (List.eq_nil_or_concat' label).resolve_left hne
      have hblank : isBlank last.shown = false := by
        rcases hlast front last rfl with hblank | ⟨rfl, -⟩
        · exact hblank
        · exact hhead last rfl
      have hmask : mask s = (before ++ front) ++ last :: (c :: rest) := by
        rw [h]
        simp
      exact beginsCharacter_after hmask (eq_openCell_of_shown hmask hblank)
  · obtain ⟨blanks, hrest, -⟩ := dropBlank_suffix rest
    have hmask : mask s = (before ++ (label ++ c :: blanks)) ++ dropBlank rest := by
      rw [hafter, List.append_assoc, List.append_assoc, List.cons_append, ← hrest]
    exact isPart_of_sideAfter? findsSigns_lateShaft? hmask hright

/-- The last blank but one after a plain sign is cut out as it is. -/
theorem isPart_of_blanks {cell : Cell} {blanks rest : List Cell}
    (h : mask s = before ++ cell :: (blanks ++ rest)) (hplain : isPlain cell.shown = true)
    (hblank : isBlank cell.shown = false) (hblanks : ∀ b ∈ blanks, isBlank b.shown = true)
    (htwo : 2 ≤ blanks.length) : ∃ front after,
      IsPart s front ((blanks.drop (blanks.length - 2)).take 1) after ∧
        blanks.drop (blanks.length - 2) ++ rest =
          (blanks.drop (blanks.length - 2)).take 1 ++ after := by
  have hcell := h
  rw [eq_openCell_of_shown h hblank] at hcell
  obtain ⟨text, htext⟩ := exists_mask_after hcell hplain hblank
  obtain ⟨front, b, more, rfl, hdrop⟩ : ∃ front b more, blanks = front ++ b :: more ∧
      blanks.drop (blanks.length - 2) = b :: more := by
    obtain ⟨b, more, hmore⟩ : ∃ b more, blanks.drop (blanks.length - 2) = b :: more := by
      refine List.exists_cons_of_ne_nil (List.ne_nil_of_length_pos ?_)
      rw [List.length_drop]
      omega
    exact ⟨blanks.take (blanks.length - 2), b, more,
      by rw [← hmore, List.take_append_drop], hmore⟩
  have hb : b = openCell b.shown := by
    refine eq_openCell_of_mem_blanks (s := text) ?_
    rw [← htext, List.takeWhile_append_of_pos hblanks]
    exact List.mem_append_left _ (List.mem_append_right front List.mem_cons_self)
  have hmask : mask s = (before ++ cell :: front) ++ b :: (more ++ rest) := by
    rw [h]
    simp
  rw [hdrop]
  exact ⟨before ++ cell :: front, more ++ rest,
    ⟨hmask, beginsCharacter_cons hb _, beginsCharacter_after hmask hb⟩, rfl⟩

/-- A label inside an arrow is cut out between the halves of the arrow. -/
theorem isPart_of_innerRest? (h : mask s = before ++ cells)
    (hfound : innerRest? cells = some (label, right)) :
    (∃ front after, IsPart s front label after ∧ Sliced.fromInner cells = label ++ after) ∧
      ∃ gap, IsPart s gap right [] := by
  obtain ⟨shaft, blanks, rest, hshaft, hspan, hcase⟩ := of_innerRest? hfound
  obtain ⟨⟨tail, rfl⟩, hne, hsigns⟩ := findsSigns_earlyShaft? cells shaft hshaft
  obtain ⟨rfl, hblanks, hhead⟩ : tail = blanks ++ rest ∧ (∀ b ∈ blanks, isBlank b.shown = true) ∧
      ∀ cell ∈ rest.head?, isBlank cell.shown = false := by
    rw [List.drop_left] at hspan
    exact of_span hspan
  rcases hcase with hlabel | ⟨hlabel, hthree, hright, rfl⟩
  · have hmask : mask s = (before ++ (shaft ++ blanks)) ++ rest := by
      rw [h]
      simp
    obtain ⟨⟨after, hrest, hpart⟩, hright⟩ := isPart_of_innerLabel? hmask hhead hlabel
    refine ⟨⟨_, after, hpart, ?_⟩, hright⟩
    simp only [Sliced.fromInner, hshaft, hspan, hlabel]
    exact hrest
  · obtain ⟨front, cell, rfl⟩ := (List.eq_nil_or_concat' shaft).resolve_left hne
    have hcell := hsigns cell (List.mem_append_right front (List.mem_singleton_self cell))
    have hmask : mask s = (before ++ front) ++ cell :: (blanks ++ rest) := by
      rw [h]
      simp
    have hmask' : mask s = (before ++ front ++ cell :: blanks) ++ rest := by
      rw [hmask]
      simp
    obtain ⟨start, after, hpart, hafter⟩ := isPart_of_blanks hmask (isPlain_of_isArrowSign hcell)
      (isBlank_of_isArrowSign hcell) hblanks (Nat.le_of_succ_le hthree)
    refine ⟨⟨start, after, hpart, ?_⟩, isPart_of_sideAfter? findsSigns_lateShaft? hmask' hright⟩
    simp only [Sliced.fromInner, hshaft, hspan, hlabel]
    exact hafter

end Label

end Swimlane
