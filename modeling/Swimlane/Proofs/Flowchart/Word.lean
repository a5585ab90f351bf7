import Mathlib.Data.List.TakeWhile
import Swimlane.Flowchart.Line
import Swimlane.Proofs.Flowchart.Quoting

/-!
# Words as references

A word is made of letters, digits and underscores.  It has no blank, no bracket and no colon, so
trimming and taking off a class leave it as it is, and as a reference it is a name and nothing
else.
-/

namespace Swimlane

theorem isBlank_of_isWordChar {c : Char} (h : isWordChar c = true) : isBlank c = false := by
  have hrange : 48 ≤ c.toNat ∧ c.toNat ≤ 122 := by
    rw [isWordChar, Bool.or_eq_true, decide_eq_true_eq] at h
    rcases h with h | rfl
    · have hranges : ((decide ('A'.val ≤ c.val ∧ c.val ≤ 'Z'.val) ||
          (decide ('a'.val ≤ c.val) && decide (c.val ≤ 'z'.val))) ||
          (decide ('0'.val ≤ c.val) && decide (c.val ≤ '9'.val))) = true := h
      simp only [Bool.or_eq_true, Bool.and_eq_true, decide_eq_true_eq, UInt32.le_iff_toNat_le]
        at hranges
      have hval : c.toNat = c.val.toNat := rfl
      have hZ : 'Z'.val.toNat = 90 := rfl
      have hz : 'z'.val.toNat = 122 := rfl
      have h9 : '9'.val.toNat = 57 := rfl
      have hA : 'A'.val.toNat = 65 := rfl
      have ha : 'a'.val.toNat = 97 := rfl
      have h0 : '0'.val.toNat = 48 := rfl
      omega
    · decide
  simp only [isBlank, blankRanges, inRanges]
  rw [if_neg (by omega), if_neg (by omega), if_neg (by omega), if_neg (by omega),
    if_pos (by omega)]

/-- A character of words opens neither a quote nor a bracket. -/
theorem isOpen_of_isWordChar {c : Char} (h : isWordChar c = true) :
    c ≠ '"' ∧ isOpening c = false := by
  have hne (d : Char) (hd : isWordChar d = false) : c ≠ d := by
    rintro rfl
    exact Bool.false_ne_true (hd.symm.trans h)
  simp [isOpening, hne '"' (by decide), hne '[' (by decide), hne '(' (by decide),
    hne '\x7b' (by decide)]

/-- A text without brackets is a name without a label. -/
theorem ofText_eq_name {s : Text} (hopen : ∀ c ∈ s, isOpening c = false) (hclose : ']' ∉ s) :
    NodeRef.ofText s = ⟨some s, none, none⟩ := by
  have hlast : s.getLast? ≠ some ']' := fun hlast => hclose (List.mem_of_getLast? hlast)
  have hbracket : ∀ c ∈ s, (!(c = '[' || c = '(' || c = '{')) = true := fun c hc =>
    congrArg Bool.not (hopen c hc)
  have hspan : s.span (fun c => !(c = '[' || c = '(' || c = '{')) = (s, []) := by
    rw [List.span_eq_takeWhile_dropWhile, List.takeWhile_eq_self_iff.2 hbracket,
      List.dropWhile_eq_nil_iff.2 hbracket]
  rw [NodeRef.ofText, splitAsymmetric?, if_pos (Or.inr hlast)]
  simp only [splitBrackets?, hspan]

/-! ## Words -/

/-- A word of letters, digits and underscores of ASCII. -/
structure IsWord (w : Text) : Prop where
  ne_nil : w ≠ []
  word : ∀ c ∈ w, isWordChar c = true

instance (w : Text) : Decidable (IsWord w) :=
  decidable_of_iff (w ≠ [] ∧ w.all isWordChar = true)
    ⟨fun h => ⟨h.1, List.all_eq_true.1 h.2⟩, fun h => ⟨h.ne_nil, List.all_eq_true.2 h.word⟩⟩

namespace IsWord

variable {w : Text} (h : IsWord w)

include h

/-- A character that is not of words is not in a word. -/
theorem not_mem {c : Char} (hc : isWordChar c = false) : c ∉ w :=
  fun hmem => Bool.false_ne_true (hc.symm.trans (h.word c hmem))

theorem ne_of_mem {c d : Char} (hc : c ∈ w) (hd : isWordChar d = false) : c ≠ d := by
  rintro rfl
  exact h.not_mem hd hc

theorem not_blank : ∀ c ∈ w, isBlank c = false := fun c hc => isBlank_of_isWordChar (h.word c hc)

/-- No character of a word opens a quote or a bracket. -/
theorem isOpen : ∀ c ∈ w, c ≠ '"' ∧ isOpening c = false :=
  fun c hc => isOpen_of_isWordChar (h.word c hc)

theorem exists_cons : ∃ c rest, w = c :: rest ∧ isWordChar c = true := by
  obtain ⟨c, rest, rfl⟩ := List.exists_cons_of_ne_nil h.ne_nil
  exact ⟨c, rest, rfl, h.word c List.mem_cons_self⟩

/-- What begins with a word begins with no blank, and no comment. -/
theorem head_append (rest : Text) :
    ∃ c tail, w ++ rest = c :: tail ∧ isBlank c = false ∧ c ≠ '%' := by
  obtain ⟨c, tail, rfl, hc⟩ := h.exists_cons
  exact ⟨c, tail ++ rest, rfl, isBlank_of_isWordChar hc,
    h.ne_of_mem List.mem_cons_self (by decide)⟩

theorem not_blank_of_head?_append (rest : Text) :
    ∀ c ∈ (w ++ rest).head?, isBlank c = false := by
  intro c hc
  obtain ⟨d, tail, hcons, hblank, -⟩ := h.head_append rest
  rw [hcons] at hc
  exact Option.some.inj hc ▸ hblank

/-- What ends with a word ends with no blank. -/
theorem not_blank_of_getLast?_append (front : Text) :
    ∀ c ∈ (front ++ w).getLast?, isBlank c = false := by
  intro c hc
  rw [List.getLast?_append_of_ne_nil front h.ne_nil] at hc
  exact h.not_blank c (List.mem_of_getLast? hc)

theorem trim_eq : trim w = w := trim_eq_self_of_all h.not_blank

/-- The blanks around a word are trimmed away. -/
theorem trim_append {before after : Text} (hbefore : ∀ c ∈ before, isBlank c = true)
    (hafter : ∀ c ∈ after, isBlank c = true) : trim (before ++ w ++ after) = w := by
  rw [List.append_assoc, trim, trimStart_append hbefore (h.not_blank_of_head?_append after),
    trimEnd_append hafter fun c hc => h.not_blank c (List.mem_of_getLast? hc)]

theorem isNodeId : isNodeId w = true := by
  obtain ⟨c, rest, rfl, hc⟩ := h.exists_cons
  rw [Swimlane.isNodeId, hc, Bool.true_and, List.all_eq_true]
  intro d hd
  rw [h.word d (List.mem_cons_of_mem c hd), Bool.true_or]

/-- No character of a word is a bracket. -/
theorem no_bracket : ∀ d ∈ w, (!(d = '[' || d = '(' || d = '{')) = true := fun d hd =>
  congrArg Bool.not (h.isOpen d hd).2

/-- A word ends at the bracket after it. -/
theorem span_bracket {c : Char} (hc : isOpening c = true) (rest : Text) :
    (w ++ c :: rest).span (fun c => !(c = '[' || c = '(' || c = '{')) = (w, c :: rest) := by
  have hstop : (!(c = '[' || c = '(' || c = '{')) = false := by
    rw [Bool.not_eq_false']
    exact hc
  exact span_append_cons h.no_bracket hstop rest

/-- Words do not count for the balance of brackets. -/
theorem balancedFrom_append (lenient : Bool) (expected : List Char) (rest : Text) :
    balancedFrom lenient expected false (w ++ rest) =
      balancedFrom lenient expected false rest := by
  have hword := h.word
  clear h
  induction w with
  | nil => rfl
  | cons c w ih =>
    have hne (d : Char) (hd : isWordChar d = false) : c ≠ d := by
      rintro rfl
      exact Bool.false_ne_true (hd.symm.trans (hword c List.mem_cons_self))
    have hrest := ih fun d hd => hword d (List.mem_cons_of_mem c hd)
    simp [balancedFrom, hrest, hne '"' (by decide), hne '[' (by decide), hne '(' (by decide),
      hne '\x7b' (by decide), hne ']' (by decide), hne ')' (by decide), hne '\x7d' (by decide)]

theorem isBalanced : isBalanced w = true := by
  have hfrom := h.balancedFrom_append (w.contains '>') [] []
  rw [List.append_nil] at hfrom
  rw [Swimlane.isBalanced, hfrom]
  rfl

/-- A word is a statement. -/
theorem isStatementLine : IsStatementLine w where
  head := List.append_nil w ▸ h.head_append []
  last := h.not_blank_of_getLast?_append []
  no_feed := h.not_mem (by decide)
  no_comment := by
    rw [openChars_eq_self (h.not_mem (by decide))]
    exact h.not_mem (by decide)
  no_semicolon := by
    rw [openChars_eq_self (h.not_mem (by decide))]
    exact h.not_mem (by decide)

/-- A word has no class. -/
theorem withoutClass_eq : withoutClass w = w := by
  rw [withoutClass, beforeFirst_eq_self (not_infix_of_not_mem List.mem_cons_self
    (h.not_mem (by decide))), h.trim_eq]

/-- A word is a name without a label. -/
theorem ofText_eq : NodeRef.ofText w = ⟨some w, none, none⟩ :=
  ofText_eq_name (fun c hc => (h.isOpen c hc).2) (h.not_mem (by decide))

end IsWord

/-- A text with a character that is neither of words nor a hyphen is no identifier. -/
theorem isNodeId_eq_false {s : Text} {c : Char} (hmem : c ∈ s) (hc : isWordChar c = false)
    (hhyphen : c ≠ '-') : isNodeId s = false := by
  cases s with
  | nil => rfl
  | cons d s =>
    rw [Swimlane.isNodeId, Bool.and_eq_false_iff]
    rcases List.mem_cons.1 hmem with rfl | hmem
    · exact Or.inl hc
    · exact Or.inr (List.all_eq_false.2 ⟨c, hmem, by simp [hc, hhyphen]⟩)

/-! ## Words side by side -/

/-- Cells in the open are cut at every separator. -/
theorem splitOpen_go_eq_pieces {separator : Char} {done : Text} (rest : Text)
    (hdone : separator ∉ done) :
    splitOpen.go separator (done.map openCell).reverse (rest.map openCell) =
      (pieces (· = separator) (done ++ rest)).map trim := by
  have hall {done : Text} (hdone : separator ∉ done) :
      ∀ c ∈ done, decide (c = separator) = false := by
    intro c hc
    refine decide_eq_false ?_
    rintro rfl
    exact hdone hc
  induction rest generalizing done with
  | nil =>
    rw [List.map_nil, splitOpen.go, List.reverse_reverse, cellText_map_openCell, List.append_nil,
      pieces_eq_singleton (hall hdone), List.map_singleton]
  | cons c rest ih =>
    rw [List.map_cons, splitOpen.go]
    by_cases hc : c = separator
    · have hrest := @ih [] List.not_mem_nil
      rw [List.map_nil, List.reverse_nil, List.nil_append] at hrest
      rw [if_pos (show (openCell c).shown = separator from hc), List.reverse_reverse,
        cellText_map_openCell, hrest, pieces_append_cons (hall hdone) (decide_eq_true hc),
        List.map_cons]
    · have hmore : separator ∉ done ++ [c] := by
        rw [List.mem_append, List.mem_singleton, not_or]
        exact ⟨hdone, Ne.symm hc⟩
      have hrest := ih hmore
      rw [List.map_append, List.reverse_append, List.append_assoc] at hrest
      rw [if_neg (show ¬ (openCell c).shown = separator from hc)]
      exact hrest

/-- A text without quotes and brackets is cut at every separator. -/
theorem splitOpen_eq_pieces {separator : Char} {s : Text}
    (h : ∀ c ∈ s, c ≠ '"' ∧ isOpening c = false) :
    splitOpen separator s = ((pieces (· = separator) s).map trim).filter (· ≠ []) := by
  rw [splitOpen, mask_eq_map h]
  exact congrArg (List.filter _) (splitOpen_go_eq_pieces s (List.not_mem_nil (a := separator)))

/-- Names with ampersands between them have no other characters than words and these. -/
theorem mem_joinNames {names : List Text} (hnames : ∀ w ∈ names, IsWord w) {c : Char}
    (hc : c ∈ joinNames names) : isWordChar c = true ∨ c = ' ' ∨ c = '&' := by
  have hseparator : ∀ d ∈ " & ".toList, d = ' ' ∨ d = '&' := forall_mem_of_all (by decide)
  rcases of_mem_joinWith hc with hc | ⟨w, hw, hc⟩
  · exact Or.inr (hseparator c hc)
  · exact Or.inl ((hnames w hw).word c hc)

/-- The pieces between the ampersands are the names with blanks around them. -/
theorem pieces_joinNames {names : List Text} (hne : names ≠ []) (hnames : ∀ w ∈ names, IsWord w)
    (blanks : Text) (hblanks : ∀ c ∈ blanks, c = ' ') :
    (pieces (· = '&') (blanks ++ joinNames names)).map trim = names := by
  induction names generalizing blanks with
  | nil => exact absurd rfl hne
  | cons w rest ih =>
    have hw := hnames w List.mem_cons_self
    have hblank : ∀ c ∈ blanks, isBlank c = true := by
      intro c hc
      rw [hblanks c hc]
      decide
    have hopen : ∀ c ∈ blanks ++ w, decide (c = '&') = false := by
      intro c hc
      refine decide_eq_false ?_
      rcases List.mem_append.1 hc with hc | hc
      · rw [hblanks c hc]
        decide
      · exact hw.ne_of_mem hc (by decide)
    cases rest with
    | nil =>
      have htrim := hw.trim_append hblank fun c (hc : c ∈ []) => absurd hc List.not_mem_nil
      rw [List.append_nil] at htrim
      rw [joinNames, joinWith, pieces_eq_singleton hopen, List.map_singleton, htrim]
    | cons next rest =>
      have hnext := ih (List.cons_ne_nil _ _) (fun v hv => hnames v (List.mem_cons_of_mem w hv))
        [' '] (by simp)
      have hjoin : blanks ++ joinNames (w :: next :: rest) =
          (blanks ++ w ++ [' ']) ++ '&' :: ([' '] ++ joinNames (next :: rest)) := by
        simp [joinNames, joinWith]
      have hopen' : ∀ c ∈ blanks ++ w ++ [' '], decide (c = '&') = false := by
        intro c hc
        rcases List.mem_append.1 hc with hc | hc
        · exact hopen c hc
        · rw [List.mem_singleton.1 hc]
          decide
      rw [hjoin, pieces_append_cons hopen' (decide_eq_true rfl), List.map_cons, hnext,
        hw.trim_append hblank (forall_mem_of_all (by decide))]

/-- Names with ampersands between them are cut into these names. -/
theorem splitOpen_joinNames {names : List Text} (hne : names ≠ [])
    (hnames : ∀ w ∈ names, IsWord w) : splitOpen '&' (joinNames names) = names := by
  have hopen : ∀ c ∈ joinNames names, c ≠ '"' ∧ isOpening c = false := by
    intro c hc
    rcases mem_joinNames hnames hc with hc | rfl | rfl
    · exact isOpen_of_isWordChar hc
    · decide
    · decide
  have hpieces := pieces_joinNames hne hnames [] (by simp)
  rw [List.nil_append] at hpieces
  rw [splitOpen_eq_pieces hopen, hpieces, List.filter_eq_self]
  exact fun w hw => decide_eq_true (hnames w hw).ne_nil

/-- A word is cut nowhere. -/
theorem IsWord.splitOpen_eq {w : Text} (h : IsWord w) : splitOpen '&' w = [w] := by
  have hjoin : splitOpen '&' (joinNames [w]) = [w] :=
    splitOpen_joinNames (List.cons_ne_nil w []) (List.forall_mem_singleton.2 h)
  exact hjoin

end Swimlane
