import Mathlib.Data.List.Infix
import Swimlane.Proofs.Flowchart.Label
import Swimlane.Proofs.Flowchart.Quoting

/-!
# Masks of texts that are put together

A mask is made from left to right, and all that it remembers is how many brackets are open and
whether a quote is.  So a text that leaves nothing open has its own mask wherever it stands
(`mask_append`); and it shows its first and its last character if these are parts of names or
brackets.
-/

namespace Swimlane

/-! ## Masks from left to right -/

/-- Does the text leave no bracket and no quote open? -/
def closesAll (s : Text) : Bool := s.foldl openAfter (0, false) = (0, false)

/-- A mask goes on as the text before leaves it. -/
theorem maskFrom_append_foldl (state : Nat × Bool) (s rest : Text) :
    maskFrom state.1 state.2 (s ++ rest) = maskFrom state.1 state.2 s ++
      maskFrom (s.foldl openAfter state).1 (s.foldl openAfter state).2 rest := by
  induction s generalizing state with
  | nil => rfl
  | cons c s ih =>
    rw [List.cons_append, maskFrom_cons, maskFrom_cons, ih, List.append_assoc, List.foldl_cons]

theorem closesAll_iff {s : Text} : closesAll s = true ↔ s.foldl openAfter (0, false) = (0, false) :=
  decide_eq_true_iff

/-- After a text that leaves nothing open the mask begins anew. -/
theorem mask_append {s : Text} (h : closesAll s = true) (rest : Text) :
    mask (s ++ rest) = mask s ++ mask rest := by
  rw [mask, maskFrom_append_foldl (0, false), closesAll_iff.1 h]
  rfl

theorem closesAll_append {s t : Text} (hs : closesAll s = true) (ht : closesAll t = true) :
    closesAll (s ++ t) = true := by
  rw [closesAll_iff] at hs ht ⊢
  rw [List.foldl_append, hs, ht]

/-- Is the character neither a quote nor a bracket? -/
def isPlain (c : Char) : Bool := !(c = '"' || isOpening c || isClosing c)

theorem openAfter_of_isPlain {c : Char} (hc : isPlain c = true) (state : Nat × Bool) :
    openAfter state c = state := by
  simp only [isPlain, Bool.not_eq_true', Bool.or_eq_false_iff, decide_eq_false_iff_not] at hc
  simp [openAfter, hc.1.1, hc.1.2, hc.2]

theorem closesAll_of_isPlain {s : Text} (h : ∀ c ∈ s, isPlain c = true) : closesAll s = true := by
  rw [closesAll_iff]
  induction s with
  | nil => rfl
  | cons c s ih =>
    rw [List.foldl_cons, openAfter_of_isPlain (h c List.mem_cons_self)]
    exact ih fun d hd => h d (List.mem_cons_of_mem c hd)

/-- A plain character opens neither a quote nor a bracket. -/
theorem isOpen_of_isPlain {c : Char} (hc : isPlain c = true) : c ≠ '"' ∧ isOpening c = false := by
  simp only [isPlain, Bool.not_eq_true', Bool.or_eq_false_iff, decide_eq_false_iff_not] at hc
  exact hc.1

theorem mask_of_isPlain {s : Text} (h : ∀ c ∈ s, isPlain c = true) : mask s = s.map openCell :=
  mask_eq_map fun c hc => isOpen_of_isPlain (h c hc)

/-- The characters of a class without quotes and brackets are neither. -/
theorem isPlain_of_class {p : Char → Bool} {c : Char} (hc : p c = true)
    (hp : ∀ d ∈ ['"', '[', '(', '\x7b', ']', ')', '\x7d'], p d = false) : isPlain c = true := by
  have hne : c ∉ ['"', '[', '(', '\x7b', ']', ')', '\x7d'] := fun hmem =>
    Bool.false_ne_true ((hp c hmem).symm.trans hc)
  simpa [isPlain, isOpening, isClosing, and_assoc] using hne

theorem isPlain_of_isBlank {c : Char} (hc : isBlank c = true) : isPlain c = true :=
  isPlain_of_class hc (forall_mem_of_all (by decide))

theorem isPlain_of_isWordChar {c : Char} (hc : isWordChar c = true) : isPlain c = true :=
  isPlain_of_class hc (forall_mem_of_all (by decide))

/-! ## The ends of a mask -/

/-- A mask shows the character that stands at its beginning. -/
theorem mask_cons (c : Char) (s : Text) : ∃ cells, mask (c :: s) = openCell c :: cells := by
  have hshown : isShown (0, false) c = true := by simp [isShown]
  exact ⟨_, by rw [mask, maskFrom_cons (0, false), hshown]; rfl⟩

/-- A mask that ends with nothing open shows a character of a name or a closing bracket that
stands at its end. -/
theorem mask_concat {s : Text} {c : Char} (hc : isWordChar c = true ∨ isClosing c = true)
    (hopen : closesAll (s ++ [c]) = true) : ∃ cells, mask (s ++ [c]) = cells ++ [openCell c] := by
  obtain ⟨depth, quoted, hstate⟩ : ∃ depth quoted,
      s.foldl openAfter (0, false) = (depth, quoted) := ⟨_, _, rfl⟩
  rw [closesAll_iff, List.foldl_append, hstate, List.foldl_cons, List.foldl_nil] at hopen
  have hshown : isShown (depth, quoted) c = true := by
    rcases hc with hc | hc
    · rw [openAfter_of_isPlain (isPlain_of_isWordChar hc)] at hopen
      obtain ⟨rfl, rfl⟩ := Prod.mk.inj hopen
      simp [isShown]
    · have hquote : c ≠ '"' := by
        rintro rfl
        exact Bool.false_ne_true hc
      cases quoted with
      | true =>
        rw [openAfter, if_neg hquote, if_pos rfl] at hopen
        cases hopen
      | false => simp [isShown, hc]
  refine ⟨mask s, ?_⟩
  rw [mask, maskFrom_append_foldl (0, false), hstate, maskFrom_cons (depth, quoted), hshown]
  rfl

/-! ## What a mask stands for -/

@[simp] theorem sourceText_mask (s : Text) : sourceText (mask s) = s :=
  sourceText_maskFrom 0 false s

/-- What a mask shows other than blanks is in the open. -/
theorem eq_openCell_of_mem_maskFrom {depth : Nat} {quoted : Bool} {s : Text} :
    ∀ cell ∈ maskFrom depth quoted s, cell.shown = ' ' ∨ cell = openCell cell.shown := by
  induction s generalizing depth quoted with
  | nil => exact fun cell hcell => absurd hcell List.not_mem_nil
  | cons c rest ih =>
    intro cell hcell
    rw [maskFrom_cons (depth, quoted)] at hcell
    rcases List.mem_append.1 hcell with hcell | hcell
    · exact (shown_of_mem_cellsOf hcell).imp_right fun ⟨_, hopen⟩ => by rw [hopen]; rfl
    · exact ih cell hcell

theorem eq_openCell_of_mem_mask {s : Text} {cell : Cell} (hcell : cell ∈ mask s)
    (hblank : isBlank cell.shown = false) : cell = openCell cell.shown := by
  refine (eq_openCell_of_mem_maskFrom cell hcell).resolve_left fun hshown => ?_
  rw [hshown] at hblank
  revert hblank
  decide

theorem mem_of_mem_openChars {quoted : Bool} {s : Text} {c : Char} (h : c ∈ openChars quoted s) :
    c ∈ s := by
  induction s generalizing quoted with
  | nil => exact h
  | cons d s ih =>
    rw [openChars] at h
    split at h
    · exact List.mem_cons_of_mem d (ih h)
    · split at h
      · exact List.mem_cons_of_mem d (ih h)
      · rcases List.mem_cons.1 h with rfl | h
        · exact List.mem_cons_self
        · exact List.mem_cons_of_mem d (ih h)

/-- Of a character that a text does not have its mask shows nothing, blanks and quotes apart. -/
theorem shown_ne_of_not_mem {s : Text} {c : Char} (hc : c ∉ s) (hblank : c ≠ ' ') (hquote : c ≠ '"')
    (cell : Cell) (hcell : cell ∈ mask s) : cell.shown ≠ c :=
  shown_ne_of_not_mem_openChars (fun hopen => hc (mem_of_mem_openChars hopen)) hblank hquote cell
    hcell

/-! ## Pieces between separators -/

/-- What is not blank and shows no separator stands in a piece. -/
theorem exists_mem_splitOpen_go {separator : Char} {done cells : List Cell}
    (h : (∃ cell ∈ done, ∃ c, cell.source = some c ∧ isBlank c = false) ∨
      ∃ cell ∈ cells, cell.shown ≠ separator ∧ ∃ c, cell.source = some c ∧ isBlank c = false) :
    ∃ piece ∈ splitOpen.go separator done cells, piece ≠ [] := by
  have hdone {done : List Cell}
      (h : ∃ cell ∈ done, ∃ c, cell.source = some c ∧ isBlank c = false) :
      cellText done.reverse ≠ [] := by
    obtain ⟨cell, hcell, c, hsource, hblank⟩ := h
    have hmem : c ∈ sourceText done.reverse :=
      List.mem_filterMap.2 ⟨cell, List.mem_reverse.2 hcell, hsource⟩
    exact List.ne_nil_of_mem (mem_trim hmem hblank)
  induction cells generalizing done with
  | nil =>
    rcases h with h | ⟨cell, hcell, -⟩
    · exact ⟨_, List.mem_cons_self, hdone h⟩
    · exact absurd hcell List.not_mem_nil
  | cons d cells ih =>
    rw [splitOpen.go]
    split
    · next hd =>
      rcases h with h | ⟨cell, hcell, hshown, hsource⟩
      · exact ⟨_, List.mem_cons_self, hdone h⟩
      · rcases List.mem_cons.1 hcell with rfl | hcell
        · exact absurd hd hshown
        · have hmore : ∃ piece ∈ splitOpen.go separator [] cells, piece ≠ [] :=
            ih (Or.inr ⟨cell, hcell, hshown, hsource⟩)
          obtain ⟨piece, hpiece, hne⟩ := hmore
          exact ⟨piece, List.mem_cons_of_mem _ hpiece, hne⟩
    · rcases h with ⟨cell, hcell, hsource⟩ | ⟨cell, hcell, hshown, hsource⟩
      · exact ih (Or.inl ⟨cell, List.mem_cons_of_mem d hcell, hsource⟩)
      · rcases List.mem_cons.1 hcell with rfl | hcell
        · exact ih (Or.inl ⟨cell, List.mem_cons_self, hsource⟩)
        · exact ih (Or.inr ⟨cell, hcell, hshown, hsource⟩)

end Swimlane
