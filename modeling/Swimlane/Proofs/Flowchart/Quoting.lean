import Swimlane.Flowchart.Mask
import Swimlane.Flowchart.Outline
import Swimlane.Proofs.Text.Basic

/-!
# What stands in quotes

Comments, semicolons, brackets and arrows only count outside double quotes.  The functions
that look for them walk along a text and remember whether a quote is open; `openChars`
collects what such a walk meets in the open.  What a walk does not meet there it does not
find, whatever the quoted labels hold.  A mask is such a walk as well: it is made character by
character, and all that it remembers is how many brackets are open and whether a quote is
(`maskFrom_cons`).
-/

namespace Swimlane

/-- The characters of a text that stand outside quotes; `quoted` tells whether a quote is
open at the beginning. -/
def openChars (quoted : Bool) : Text → List Char
  | [] => []
  | c :: rest =>
      if c = '"' then openChars (!quoted) rest
      else if quoted then openChars true rest
      else c :: openChars false rest

/-- A text without quotes is open altogether. -/
theorem openChars_append {s : Text} (h : '"' ∉ s) (rest : Text) :
    openChars false (s ++ rest) = s ++ openChars false rest := by
  induction s with
  | nil => rfl
  | cons c s ih =>
    rw [List.mem_cons, not_or] at h
    rw [List.cons_append, openChars, if_neg (Ne.symm h.1), ih h.2]
    rfl

theorem openChars_eq_self {s : Text} (h : '"' ∉ s) : openChars false s = s := by
  simpa [openChars] using openChars_append h []

/-- Inside quotes nothing is open. -/
theorem openChars_quoted {s : Text} (h : '"' ∉ s) (rest : Text) :
    openChars true (s ++ '"' :: rest) = openChars false rest := by
  induction s with
  | nil => rfl
  | cons c s ih =>
    rw [List.mem_cons, not_or] at h
    rw [List.cons_append, openChars, if_neg (Ne.symm h.1), if_pos rfl, ih h.2]

/-- A quoted label is passed over. -/
theorem openChars_inQuotes {label : Text} (h : '"' ∉ label) (rest : Text) :
    openChars false (inQuotes label ++ rest) = openChars false rest := by
  rw [inQuotes, List.append_assoc, List.cons_append, openChars, if_pos rfl]
  exact openChars_quoted h rest

/-! ## Comments and semicolons -/

/-- Without a percent sign in the open there is no comment. -/
theorem beforeComment_eq_self {quoted : Bool} {s : Text} (h : '%' ∉ openChars quoted s) :
    beforeComment quoted s = s := by
  induction s generalizing quoted with
  | nil => rfl
  | cons c rest ih =>
    rw [openChars] at h
    rw [beforeComment]
    by_cases hc : c = '"'
    · rw [if_pos hc] at h
      cases quoted with
      | true =>
        rw [Bool.not_true] at h
        rw [if_pos rfl, decide_eq_false (not_not_intro hc), ih h]
      | false =>
        rw [Bool.not_false] at h
        rw [if_neg Bool.false_ne_true, if_pos hc, ih h]
    · rw [if_neg hc] at h
      cases quoted with
      | true => rw [if_pos rfl, decide_eq_true hc, ih h]
      | false =>
        rw [if_neg Bool.false_ne_true, List.mem_cons, not_or] at h
        rw [if_neg Bool.false_ne_true, if_neg hc, if_neg fun hcomment => h.1 hcomment.1.symm,
          ih h.2]

/-- Without a semicolon in the open a line is one piece. -/
theorem semicolonPieces_eq_singleton {depth : Nat} {quoted : Bool} {done s : Text}
    (h : ';' ∉ openChars quoted s) :
    semicolonPieces depth quoted done s = [done.reverse ++ s] := by
  induction s generalizing depth quoted done with
  | nil => rw [semicolonPieces, List.append_nil]
  | cons c rest ih =>
    have hdone : (c :: done).reverse ++ rest = done.reverse ++ c :: rest := by simp
    rw [openChars] at h
    rw [semicolonPieces]
    by_cases hc : c = '"'
    · rw [if_pos hc] at h
      cases quoted with
      | true =>
        rw [Bool.not_true] at h
        rw [if_pos rfl, decide_eq_false (not_not_intro hc), ih h, hdone]
      | false =>
        rw [Bool.not_false] at h
        rw [if_neg Bool.false_ne_true, if_pos hc, ih h, hdone]
    · rw [if_neg hc] at h
      cases quoted with
      | true => rw [if_pos rfl, decide_eq_true hc, ih h, hdone]
      | false =>
        rw [if_neg Bool.false_ne_true, List.mem_cons, not_or] at h
        have hsemicolon : ¬ (c = ';' ∧ depth = 0) := fun hc => h.1 hc.1.symm
        rw [if_neg Bool.false_ne_true, if_neg hc, if_neg hsemicolon]
        simp only [ih h.2, hdone, ite_self]

/-- Without quotes a comment begins at any two percent signs. -/
theorem beforeComment_eq_self_of_no_comment {s : Text} (hquote : '"' ∉ s)
    (h : ¬ ['%', '%'] <:+: s) : beforeComment false s = s := by
  induction s with
  | nil => rfl
  | cons c rest ih =>
    rw [List.mem_cons, not_or] at hquote
    rw [List.infix_cons_iff, not_or] at h
    have hcomment : ¬ (c = '%' ∧ rest.head? = some '%') := by
      rintro ⟨rfl, hhead⟩
      obtain ⟨more, rfl⟩ : ∃ more, rest = '%' :: more :=
        ⟨rest.tail, (List.cons_head?_tail hhead).symm⟩
      exact h.1 ⟨more, rfl⟩
    rw [beforeComment, if_neg Bool.false_ne_true, if_neg (Ne.symm hquote.1), if_neg hcomment,
      ih hquote.2 h.2]

/-- Without quotes and brackets a line is cut at every semicolon. -/
theorem semicolonPieces_eq_pieces {s : Text} (h : ∀ c ∈ s, c ≠ '"' ∧ isOpening c = false)
    {done : Text} (hdone : ';' ∉ done) :
    semicolonPieces 0 false done s = pieces (· = ';') (done.reverse ++ s) := by
  have hopen : ∀ c ∈ done.reverse, decide (c = ';') = false := by
    intro c hc
    refine decide_eq_false ?_
    rintro rfl
    exact hdone (List.mem_reverse.1 hc)
  induction s generalizing done with
  | nil => rw [semicolonPieces, List.append_nil, pieces_eq_singleton hopen]
  | cons c rest ih =>
    obtain ⟨hquote, hopening⟩ := h c List.mem_cons_self
    have hrest := fun d hd => h d (List.mem_cons_of_mem c hd)
    rw [semicolonPieces, if_neg Bool.false_ne_true, if_neg hquote, hopening,
      if_neg Bool.false_ne_true]
    by_cases hc : c = ';'
    · have hnone : ';' ∉ ([] : Text) := List.not_mem_nil
      have hpieces := ih hrest hnone (fun d hd => absurd hd List.not_mem_nil)
      rw [List.reverse_nil, List.nil_append] at hpieces
      rw [if_neg (by rw [hc]; decide), if_pos ⟨hc, rfl⟩, hpieces,
        pieces_append_cons hopen (decide_eq_true hc)]
    · have hmore : ';' ∉ c :: done := by
        rw [List.mem_cons, not_or]
        exact ⟨Ne.symm hc, hdone⟩
      have hpieces := ih hrest hmore fun d hd => by
        refine decide_eq_false ?_
        rintro rfl
        exact hmore (List.mem_reverse.1 hd)
      rw [List.reverse_cons, List.append_assoc, List.singleton_append] at hpieces
      simp only [hpieces, hc, false_and, if_false, Nat.zero_sub, ite_self]

/-! ## Lines that are statements -/

section Ends

variable {line : Text} (hhead : ∃ c rest, line = c :: rest ∧ isBlank c = false ∧ c ≠ '%')
  (hlast : ∀ c ∈ line.getLast?, isBlank c = false)

include hhead hlast

theorem trim_eq_of_ends : trim line = line := by
  obtain ⟨c, rest, rfl, hblank, -⟩ := hhead
  refine trim_eq_self (fun d hd => ?_) hlast
  rw [← Option.some.inj hd]
  exact hblank

/-- A line is code, and all of it, if it has no blanks at its ends and no comment. -/
theorem lineContent_eq_code (hcomment : beforeComment false line = line) :
    lineContent line = .code line := by
  have htrim := trim_eq_of_ends hhead hlast
  obtain ⟨c, rest, hline, -, hpercent⟩ := hhead
  have hdirective : directive? line = none := by
    rw [hline, directive?]
    rintro rest' heq
    exact hpercent (List.cons_eq_cons.1 heq).1
  have hstart : startsWith ['%', '%'] line = false := by
    rw [hline, startsWith, List.isPrefixOf, beq_false_of_ne (Ne.symm hpercent), Bool.false_and]
  simp only [lineContent, htrim, hdirective, hstart, hcomment]
  rw [hline]
  rfl

end Ends

/-- Is a line a statement as it stands? -/
structure IsStatementLine (line : Text) : Prop where
  head : ∃ c rest, line = c :: rest ∧ isBlank c = false ∧ c ≠ '%'
  last : ∀ c ∈ line.getLast?, isBlank c = false
  no_feed : '\n' ∉ line
  no_comment : '%' ∉ openChars false line
  no_semicolon : ';' ∉ openChars false line

namespace IsStatementLine

variable {line : Text}

theorem ne_nil (h : IsStatementLine line) : line ≠ [] := by
  obtain ⟨c, rest, rfl, -⟩ := h.head
  exact List.cons_ne_nil c rest

theorem trim_eq (h : IsStatementLine line) : trim line = line := trim_eq_of_ends h.head h.last

/-- Such a line does not end in a carriage return, which is a blank. -/
theorem getLast?_ne (h : IsStatementLine line) : line.getLast? ≠ some '\r' := by
  intro hlast
  have hblank := h.last '\r' hlast
  revert hblank
  decide

theorem lineContent_eq (h : IsStatementLine line) : lineContent line = .code line :=
  lineContent_eq_code h.head h.last (beforeComment_eq_self h.no_comment)

theorem lineStatements_eq (h : IsStatementLine line) : lineStatements line = [line] := by
  rw [lineStatements, semicolonPieces_eq_singleton h.no_semicolon, List.reverse_nil,
    List.nil_append, List.map_singleton, h.trim_eq, List.filter_cons_of_pos (by simp [h.ne_nil]),
    List.filter_nil]

end IsStatementLine

/-- Each such line is a statement with its number. -/
theorem statementsFrom_cons {line : Text} (h : IsStatementLine line) (number : Nat)
    (rest : List Text) :
    statementsFrom number (line :: rest) = ⟨number, line⟩ :: statementsFrom (number + 1) rest := by
  simp only [statementsFrom, h.lineContent_eq, h.lineStatements_eq]
  rfl

/-- Statements hold no settings. -/
theorem lastSettings_eq {before : Option Json} {ls : List Text}
    (h : ∀ l ∈ ls, IsStatementLine l) : lastSettings before ls = before := by
  induction ls with
  | nil => rfl
  | cons l rest ih =>
    simp only [lastSettings, (h l List.mem_cons_self).lineContent_eq]
    exact ih fun m hm => h m (List.mem_cons_of_mem l hm)

/-! ## Masks -/

/-- A hidden character is shown as blanks. -/
theorem shown_hiddenCells (c : Char) : ∀ cell ∈ hiddenCells c, cell.shown = ' ' := by
  intro cell hcell
  rcases List.mem_cons.1 hcell with rfl | hcell
  · rfl
  · rw [List.eq_of_mem_replicate hcell]

/-- How many brackets are open, and whether a quote is, after one more character. -/
def openAfter (state : Nat × Bool) (c : Char) : Nat × Bool :=
  if c = '"' then (state.1, !state.2)
  else if state.2 then state
  else if isOpening c then (state.1 + 1, false)
  else if isClosing c then (state.1 - 1, false)
  else state

/-- Only a quote opens a quote or closes it. -/
theorem openAfter_snd (state : Nat × Bool) (c : Char) :
    (openAfter state c).2 = if c = '"' then !state.2 else state.2 := by
  obtain ⟨depth, quoted⟩ := state
  cases quoted <;> simp only [openAfter] <;> split_ifs <;> rfl

/-- Is the character shown where so many brackets, and perhaps a quote, are open?  An opening
quote is, outside brackets, and a bracket is outside quotes. -/
def isShown (state : Nat × Bool) (c : Char) : Bool :=
  !state.2 && (state.1 = 0 || isOpening c || isClosing c)

/-- A mask, character by character. -/
theorem maskFrom_cons (state : Nat × Bool) (c : Char) (rest : Text) :
    maskFrom state.1 state.2 (c :: rest) = cellsOf (!isShown state c) c ++
      maskFrom (openAfter state c).1 (openAfter state c).2 rest := by
  obtain ⟨depth, quoted⟩ := state
  by_cases hquote : c = '"'
  · subst hquote
    cases quoted <;> cases depth <;> rfl
  · cases quoted with
    | true => simp [maskFrom, isShown, openAfter, hquote]
    | false =>
      cases hopen : isOpening c <;> cases hclose : isClosing c <;> cases depth <;>
        simp [maskFrom, isShown, openAfter, hquote, hopen, hclose, cellsOf]

/-- The cells of a character show blanks, or the character itself. -/
theorem shown_of_mem_cellsOf {hidden : Bool} {c : Char} {cell : Cell}
    (h : cell ∈ cellsOf hidden c) : cell.shown = ' ' ∨ (hidden = false ∧ cell = openCell c) := by
  cases hidden with
  | false => exact Or.inr ⟨rfl, List.mem_singleton.1 h⟩
  | true => exact Or.inl (shown_hiddenCells c cell h)

/-- A character that is shown is a quote or stands in the open. -/
theorem mem_openChars_of_isShown {depth : Nat} {quoted : Bool} {c : Char}
    (h : isShown (depth, quoted) c = true) (rest : Text) :
    c = '"' ∨ c ∈ openChars quoted (c :: rest) := by
  rw [or_iff_not_imp_left]
  intro hquote
  have hopen : quoted = false := by
    cases quoted with
    | false => rfl
    | true => cases h
  rw [openChars, if_neg hquote, hopen, if_neg Bool.false_ne_true]
  exact List.mem_cons_self

/-- What stands in the open after a character stands there in the whole text. -/
theorem openChars_subset_cons (state : Nat × Bool) (c : Char) (rest : Text) :
    openChars (openAfter state c).2 rest ⊆ openChars state.2 (c :: rest) := by
  rw [openAfter_snd, openChars]
  split
  · exact List.Subset.refl _
  · cases state.2 with
    | true => exact List.Subset.refl _
    | false => exact List.subset_cons_self c _

/-- A mask shows blanks, quotes and characters in the open. -/
theorem shown_maskFrom {depth : Nat} {quoted : Bool} {s : Text} :
    ∀ cell ∈ maskFrom depth quoted s,
      cell.shown = ' ' ∨ cell.shown = '"' ∨ cell.shown ∈ openChars quoted s := by
  induction s generalizing depth quoted with
  | nil => exact fun cell hcell => absurd hcell List.not_mem_nil
  | cons c rest ih =>
    intro cell hcell
    rw [maskFrom_cons (depth, quoted)] at hcell
    rcases List.mem_append.1 hcell with hcell | hcell
    · rcases shown_of_mem_cellsOf hcell with hblank | ⟨hshown, rfl⟩
      · exact Or.inl hblank
      · rw [Bool.not_eq_false'] at hshown
        exact Or.inr (mem_openChars_of_isShown hshown rest)
    · exact (ih cell hcell).imp_right
        (Or.imp_right fun hmem => openChars_subset_cons (depth, quoted) c rest hmem)

/-- Of a character that does not stand in the open a mask shows nothing, blanks and quotes apart. -/
theorem shown_ne_of_not_mem_openChars {depth : Nat} {quoted : Bool} {s : Text} {c : Char}
    (hc : c ∉ openChars quoted s) (hblank : c ≠ ' ') (hquote : c ≠ '"') :
    ∀ cell ∈ maskFrom depth quoted s, cell.shown ≠ c := by
  rintro cell hcell rfl
  rcases shown_maskFrom cell hcell with hshown | hshown | hshown
  · exact hblank hshown
  · exact hquote hshown
  · exact hc hshown

@[simp] theorem sourceText_append (xs ys : List Cell) :
    sourceText (xs ++ ys) = sourceText xs ++ sourceText ys := List.filterMap_append

@[simp] theorem sourceText_cons_openCell (c : Char) (cells : List Cell) :
    sourceText (openCell c :: cells) = c :: sourceText cells := by
  simp [sourceText, openCell]

@[simp] theorem sourceText_map_openCell (s : Text) : sourceText (s.map openCell) = s := by
  simp [sourceText, List.filterMap_map, Function.comp_def, openCell]

/-- The text of cells in the open is what they show, without the blanks at its ends. -/
theorem cellText_map_openCell (s : Text) : cellText (s.map openCell) = trim s := by
  rw [cellText, sourceText_map_openCell]

/-- Text without quotes and brackets is shown as it is. -/
theorem maskFrom_append {s : Text} (h : ∀ c ∈ s, c ≠ '"' ∧ isOpening c = false) (rest : Text) :
    maskFrom 0 false (s ++ rest) = s.map openCell ++ maskFrom 0 false rest := by
  induction s with
  | nil => rfl
  | cons c s ih =>
    have hc := h c List.mem_cons_self
    have hs := ih fun d hd => h d (List.mem_cons_of_mem c hd)
    simp [maskFrom, hc.1, hc.2, hs, cellsOf]

theorem mask_eq_map {s : Text} (h : ∀ c ∈ s, c ≠ '"' ∧ isOpening c = false) :
    mask s = s.map openCell := by
  simpa [mask, maskFrom] using maskFrom_append h []

/-- Inside quotes everything is hidden, also the closing quote. -/
theorem maskFrom_quoted {label : Text} (h : '"' ∉ label) (rest : Text) :
    maskFrom 0 true (label ++ '"' :: rest) =
      (label ++ ['"']).flatMap hiddenCells ++ maskFrom 0 false rest := by
  induction label with
  | nil => simp [maskFrom, cellsOf]
  | cons c label ih =>
    rw [List.mem_cons, not_or] at h
    simp [maskFrom, Ne.symm h.1, ih h.2, cellsOf]

/-- Of a quoted label the mask shows the opening quote. -/
theorem maskFrom_inQuotes {label : Text} (h : '"' ∉ label) (rest : Text) :
    maskFrom 0 false (inQuotes label ++ rest) =
      openCell '"' :: ((label ++ ['"']).flatMap hiddenCells ++ maskFrom 0 false rest) := by
  rw [inQuotes, List.append_assoc, List.cons_append, maskFrom, if_pos rfl, List.singleton_append,
    Bool.not_false, maskFrom_quoted h]
  rfl

end Swimlane
