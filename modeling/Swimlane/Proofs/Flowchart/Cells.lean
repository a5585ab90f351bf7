import Swimlane.Proofs.Flowchart.EdgeLabels
import Swimlane.Proofs.Text.Slice

/-!
# Where a mask can be cut

A mask is made of the cells of whole characters (`isWhole_mask`), each character with as many
bytes in the shown text as it has itself.  So a mask that is cut where a character begins gives
the bytes of the statement on either side (`IsPart.slice?_eq`).  A character begins at each cell
that shows no blank, and after each cell in the open (`beginsCharacter_of_openCell`).
-/

namespace Swimlane

/-! ## Cells of whole characters -/

/-- Are the cells those of whole characters?  A character has its own size in what they show. -/
inductive IsWhole : List Cell → Prop
  | nil : IsWhole []
  | cons {shown c : Char} {blanks : Nat} {cells : List Cell}
      (hsize : shown.utf8Size + blanks = c.utf8Size) (h : IsWhole cells) :
      IsWhole (⟨shown, some c⟩ :: (List.replicate blanks ⟨' ', none⟩ ++ cells))

theorem IsWhole.cellsOf_append {cells : List Cell} (h : IsWhole cells) (hidden : Bool) (c : Char) :
    IsWhole (cellsOf hidden c ++ cells) := by
  cases hidden with
  | false => exact @IsWhole.cons c c 0 cells rfl h
  | true => exact .cons (Nat.add_sub_cancel' c.utf8Size_pos) h

theorem isWhole_maskFrom (state : Nat × Bool) (s : Text) :
    IsWhole (maskFrom state.1 state.2 s) := by
  induction s generalizing state with
  | nil => exact .nil
  | cons c s ih =>
    rw [maskFrom_cons]
    exact (ih _).cellsOf_append _ c

theorem isWhole_mask (s : Text) : IsWhole (mask s) := isWhole_maskFrom (0, false) s

/-- Whole characters have their own size in what is shown. -/
theorem IsWhole.shownSize_eq {cells : List Cell} (h : IsWhole cells) :
    shownSize cells = byteCount (sourceText cells) := by
  induction h with
  | nil => rfl
  | @cons shown c blanks cells hsize _ ih =>
    have hshown : shownText (⟨shown, some c⟩ :: (List.replicate blanks ⟨' ', none⟩ ++ cells)) =
        shown :: (List.replicate blanks ' ' ++ shownText cells) := by
      simp [shownText]
    have hsource : sourceText (⟨shown, some c⟩ :: (List.replicate blanks ⟨' ', none⟩ ++ cells)) =
        c :: sourceText cells := by
      simp [sourceText]
    rw [shownSize] at ih ⊢
    rw [hshown, hsource, byteCount_cons, byteCount_append, byteCount_replicate rfl, byteCount_cons,
      ih, ← Nat.add_assoc, hsize]

theorem shownSize_mask (s : Text) : shownSize (mask s) = byteCount s := by
  rw [(isWhole_mask s).shownSize_eq, sourceText_mask]

theorem shownText_append (xs ys : List Cell) :
    shownText (xs ++ ys) = shownText xs ++ shownText ys := List.map_append

theorem shownSize_append (xs ys : List Cell) :
    shownSize (xs ++ ys) = shownSize xs + shownSize ys := by
  rw [shownSize, shownText_append, byteCount_append]
  rfl

theorem shownText_cellsOf (hidden : Bool) (c : Char) :
    shownText (cellsOf hidden c) = if hidden then List.replicate c.utf8Size ' ' else [c] := by
  cases hidden with
  | false => rfl
  | true =>
    have hsize : c.utf8Size = (c.utf8Size - 1) + 1 := (Nat.sub_add_cancel c.utf8Size_pos).symm
    rw [if_pos rfl, hsize, List.replicate_succ]
    simp [shownText, cellsOf, hiddenCells]

/-- Each character has its own bytes in the shown text, where it is itself or blanks. -/
theorem slice?_shownText_mask (before : Text) (c : Char) (after : Text) :
    slice? (byteCount before) (byteCount before + c.utf8Size)
        (shownText (mask (before ++ c :: after))) =
      some (if isShown (before.foldl openAfter (0, false)) c then [c]
        else List.replicate c.utf8Size ' ') := by
  generalize hstate : before.foldl openAfter (0, false) = state
  have hmask : shownText (mask (before ++ c :: after)) = shownText (mask before) ++
      (shownText (cellsOf (!isShown state c) c) ++
        shownText (maskFrom (openAfter state c).1 (openAfter state c).2 after)) := by
    rw [mask, maskFrom_append_foldl (0, false), hstate, maskFrom_cons, shownText_append,
      shownText_append]
    rfl
  have hcells : shownText (cellsOf (!isShown state c) c) =
      if isShown state c then [c] else List.replicate c.utf8Size ' ' := by
    rw [shownText_cellsOf]
    cases isShown state c <;> rfl
  have hsize : byteCount (if isShown state c then [c] else List.replicate c.utf8Size ' ') =
      c.utf8Size := by
    cases isShown state c
    · exact byteCount_replicate rfl _
    · exact Nat.zero_add _
  have hbefore : byteCount (shownText (mask before)) = byteCount before := shownSize_mask before
  rw [hmask, hcells]
  exact slice?_eq_some_iff.2 ⟨_, _, rfl, hbefore, by rw [hsize]⟩

/-! ## Cuts between characters -/

/-- Do the cells begin with those of a character, if there are any? -/
def BeginsCharacter (cells : List Cell) : Prop := ∀ cell ∈ cells.head?, cell.source.isSome = true

theorem beginsCharacter_nil : BeginsCharacter [] := fun _ h => by cases h

theorem IsWhole.beginsCharacter {cells : List Cell} (h : IsWhole cells) :
    BeginsCharacter cells := by
  cases h with
  | nil => exact beginsCharacter_nil
  | cons => exact fun _ hcell => Option.some.inj hcell ▸ rfl

/-- Cells that are cut where a character begins are whole on either side. -/
theorem IsWhole.of_append {xs ys : List Cell} (h : IsWhole (xs ++ ys)) (hys : BeginsCharacter ys) :
    IsWhole xs ∧ IsWhole ys := by
  generalize hcells : xs ++ ys = cells at h
  induction h generalizing xs with
  | nil =>
    obtain ⟨rfl, rfl⟩ := List.append_eq_nil_iff.1 hcells
    exact ⟨.nil, .nil⟩
  | @cons shown c blanks cells hsize h ih =>
    cases xs with
    | nil =>
      rw [List.nil_append] at hcells
      exact ⟨.nil, hcells ▸ .cons hsize h⟩
    | cons x xs =>
      obtain ⟨rfl, htail⟩ := List.cons_eq_cons.1 hcells
      rcases List.append_eq_append_iff.1 htail with ⟨more, hblanks, rfl⟩ | ⟨more, rfl, hmore⟩
      · cases more with
        | nil =>
          rw [List.append_nil] at hblanks
          refine ⟨?_, h⟩
          rw [← hblanks, ← List.append_nil (List.replicate _ _)]
          exact .cons hsize .nil
        | cons blank more =>
          have hmem : blank ∈ List.replicate blanks (⟨' ', none⟩ : Cell) :=
            hblanks ▸ List.mem_append_right xs List.mem_cons_self
          have hsome := hys blank rfl
          rw [List.eq_of_mem_replicate hmem] at hsome
          cases hsome
      · obtain ⟨hxs, hys⟩ := ih hmore.symm
        exact ⟨.cons hsize hxs, hys⟩

/-- A character begins after each cell in the open. -/
theorem IsWhole.beginsCharacter_of_openCell {xs ys : List Cell} {c : Char}
    (h : IsWhole (xs ++ openCell c :: ys)) : BeginsCharacter ys := by
  generalize hcells : xs ++ openCell c :: ys = cells at h
  induction h generalizing xs with
  | nil => simp at hcells
  | @cons shown d blanks cells hsize h ih =>
    cases xs with
    | nil =>
      -- A blank in the open may be a hidden one as well, but takes a single cell either way.
      obtain ⟨hcell, rfl⟩ := List.cons_eq_cons.1 hcells
      obtain ⟨rfl, hsource⟩ := Cell.mk.inj hcell
      obtain rfl := Option.some.inj hsource
      obtain rfl : blanks = 0 := Nat.add_eq_left.1 hsize
      exact h.beginsCharacter
    | cons x xs =>
      obtain ⟨-, htail⟩ := List.cons_eq_cons.1 hcells
      rcases List.append_eq_append_iff.1 htail with ⟨more, hblanks, hmore⟩ | ⟨more, -, hmore⟩
      · cases more with
        | nil => exact @ih [] hmore
        | cons blank more =>
          obtain ⟨rfl, -⟩ := List.cons_eq_cons.1 hmore
          have hmem : openCell c ∈ List.replicate blanks (⟨' ', none⟩ : Cell) :=
            hblanks ▸ List.mem_append_right xs List.mem_cons_self
          cases List.eq_of_mem_replicate hmem
      · exact ih hmore.symm

/-! ## Cells in the open -/

section Open

variable {s : Text} {before cells : List Cell} {cell : Cell}

/-- The first character of a statement is shown. -/
theorem eq_openCell_of_mask_cons (h : mask s = cell :: cells) : cell = openCell cell.shown := by
  cases s with
  | nil => cases h
  | cons c s =>
    obtain ⟨more, hmask⟩ := mask_cons c s
    rw [hmask] at h
    obtain ⟨rfl, -⟩ := List.cons_eq_cons.1 h
    rfl

theorem beginsCharacter_cons (hcell : cell = openCell cell.shown) (cells : List Cell) :
    BeginsCharacter (cell :: cells) := by
  intro d hd
  rw [← Option.some.inj hd, hcell]
  rfl

theorem eq_openCell_of_shown (h : mask s = before ++ cell :: cells)
    (hblank : isBlank cell.shown = false) : cell = openCell cell.shown := by
  have hmem : cell ∈ mask s := h ▸ List.mem_append_right before List.mem_cons_self
  exact eq_openCell_of_mem_mask hmem hblank

theorem beginsCharacter_of_shown (h : mask s = before ++ cell :: cells)
    (hblank : isBlank cell.shown = false) : BeginsCharacter (cell :: cells) :=
  beginsCharacter_cons (eq_openCell_of_shown h hblank) cells

theorem beginsCharacter_after (h : mask s = before ++ cell :: cells)
    (hcell : cell = openCell cell.shown) : BeginsCharacter cells := by
  have hwhole := isWhole_mask s
  rw [h, hcell] at hwhole
  exact hwhole.beginsCharacter_of_openCell

/-- Only in the open a character shows itself, if it is not blank. -/
theorem of_openCell_mem_cellsOf {hidden : Bool} {c d : Char} (hblank : isBlank c = false)
    (h : openCell c ∈ cellsOf hidden d) : hidden = false ∧ d = c := by
  cases hidden with
  | false => exact ⟨rfl, (congrArg Cell.shown (List.mem_singleton.1 h)).symm⟩
  | true =>
    have hspace : c = ' ' := by
      rcases List.mem_cons.1 h with h | h
      · exact congrArg Cell.shown h
      · exact congrArg Cell.shown (List.eq_of_mem_replicate h)
    rw [hspace] at hblank
    exact absurd hblank (by decide)

/-- A plain character is shown only where no bracket and no quote is open. -/
theorem eq_of_isShown {state : Nat × Bool} {c : Char} (hplain : isPlain c = true)
    (h : isShown state c = true) : state = (0, false) := by
  simp only [isPlain, Bool.not_eq_true', Bool.or_eq_false_iff] at hplain
  simp only [isShown, hplain, Bool.or_false, Bool.and_eq_true, Bool.not_eq_true',
    decide_eq_true_eq] at h
  exact Prod.ext h.2 h.1

/-- After a plain character that is shown nothing is open. -/
theorem exists_mask_after {c : Char} (h : mask s = before ++ openCell c :: cells)
    (hplain : isPlain c = true) (hblank : isBlank c = false) : ∃ rest, cells = mask rest := by
  have hfrom (state : Nat × Bool) (before : List Cell)
      (h : maskFrom state.1 state.2 s = before ++ openCell c :: cells) :
      ∃ rest, cells = mask rest := by
    clear * - h hplain hblank
    induction s generalizing state before with
    | nil => simp [maskFrom] at h
    | cons d s ih =>
      rw [maskFrom_cons] at h
      rcases List.append_eq_append_iff.1 h with ⟨more, -, hmore⟩ | ⟨more, hcells, hmore⟩
      · exact ih _ more hmore
      · cases more with
        | nil => exact ih _ [] hmore.symm
        | cons first more =>
          obtain ⟨rfl, rfl⟩ := List.cons_eq_cons.1 hmore
          have hmem : openCell c ∈ cellsOf (!isShown state d) d :=
            hcells ▸ List.mem_append_right before List.mem_cons_self
          obtain ⟨hshown, rfl⟩ := of_openCell_mem_cellsOf hblank hmem
          have hmore : more = [] := by
            have hlength := congrArg List.length hcells
            rw [hshown, List.length_append, List.length_cons] at hlength
            exact List.length_eq_zero_iff.1 (by simp [cellsOf] at hlength; omega)
          have hstate := eq_of_isShown hplain (by simpa using hshown)
          refine ⟨s, ?_⟩
          rw [hmore, openAfter_of_isPlain hplain, hstate]
          rfl
  exact hfrom (0, false) before h

/-- Blanks at the beginning of a statement are shown as they are. -/
theorem eq_openCell_of_mem_blanks {c : Cell}
    (hc : c ∈ (mask s).takeWhile (isBlank ·.shown)) : c = openCell c.shown := by
  induction s with
  | nil => cases hc
  | cons d s ih =>
    have hshown : isShown (0, false) d = true := by simp [isShown]
    rw [mask, maskFrom_cons (0, false), hshown] at hc
    by_cases hblank : isBlank d = true
    · rw [openAfter_of_isPlain (isPlain_of_isBlank hblank)] at hc
      change c ∈ (openCell d :: mask s).takeWhile (isBlank ·.shown) at hc
      rw [List.takeWhile_cons_of_pos (p := fun cell : Cell => isBlank cell.shown) hblank] at hc
      rcases List.mem_cons.1 hc with rfl | hc
      · rfl
      · exact ih hc
    · change c ∈ (openCell d :: _).takeWhile (isBlank ·.shown) at hc
      rw [List.takeWhile_cons_of_neg (p := fun cell : Cell => isBlank cell.shown) hblank] at hc
      cases hc

end Open

/-! ## Parts of a statement -/

/-- Part of a mask that is cut between characters, and what stands before and after it. -/
structure IsPart (s : Text) (before part after : List Cell) : Prop where
  mask_eq : mask s = before ++ (part ++ after)
  begins : BeginsCharacter (part ++ after)
  ends : BeginsCharacter after

/-- Such a part stands for the slice of the statement where it is shown. -/
theorem IsPart.slice?_eq {s : Text} {before part after : List Cell}
    (h : IsPart s before part after) :
    slice? (shownSize before) (shownSize before + shownSize part) s = some (sourceText part) := by
  have hwhole := isWhole_mask s
  rw [h.mask_eq] at hwhole
  obtain ⟨hbefore, hrest⟩ := hwhole.of_append h.begins
  obtain ⟨hpart, -⟩ := hrest.of_append h.ends
  have hs : s = sourceText before ++ (sourceText part ++ sourceText after) := by
    rw [← sourceText_append, ← sourceText_append, ← h.mask_eq, sourceText_mask]
  rw [hbefore.shownSize_eq, hpart.shownSize_eq, hs]
  exact slice?_append _ _ _

end Swimlane
