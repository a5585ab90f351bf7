import Swimlane.Proofs.Flowchart.Arrow
import Swimlane.Proofs.Flowchart.Mask

/-!
# Chains that are well written

References begin and end with names and brackets, labels between bars leave nothing open and show
no arrow, and all else around an arrow is blank.  The mask of a chain is then put together from
the masks of its parts (`ChainLink.IsWritten.mask_text_append`).
-/

namespace Swimlane

/-! ## What may stand in a chain -/

/-- A reference, or several, as an arrow leads to it: it begins with a name or a bracket, leaves
nothing open and shows no part of an arrow. -/
structure IsStop (s : Text) : Prop where
  head : ∃ c ∈ s.head?, isWordChar c = true ∨ isOpening c = true
  last : ∀ c ∈ s.getLast?, isBlank c = false
  closes : closesAll s = true
  quiet : ShowsNoArrow (mask s)

/-- A reference from which an arrow leads on also ends with a name or a bracket. -/
structure IsStart (s : Text) : Prop extends IsStop s where
  ends : ∃ c ∈ s.getLast?, isWordChar c = true ∨ isClosing c = true

/-- A label between bars has no bar itself, leaves nothing open and shows no arrow. -/
structure IsBarLabel (s : Text) : Prop where
  no_bar : '|' ∉ s
  closes : closesAll s = true
  quiet : hasArrow (mask s) = false

/-- The head of an arrow is decorated with a circle or a cross and a blank after it, or not at
all. -/
def IsDecoration : Text → Prop
  | [] => True
  | c :: blanks => (c = 'o' ∨ c = 'x') ∧ blanks ≠ [] ∧ ∀ d ∈ blanks, isBlank d = true

/-- Is the link well written? -/
structure ChainLink.IsWritten (l : ChainLink) : Prop where
  before : ∀ c ∈ l.before, isBlank c = true
  label : ∀ label ∈ l.label, IsBarLabel label
  gap : ∀ c ∈ l.gap, isBlank c = true
  decoration : IsDecoration l.decoration
  stop : IsStop l.stop

/-- Are the links well written that lead on from a reference, one after another?  Only the last
arrow is decorated. -/
def AreWritten (start : Text) : List ChainLink → Prop
  | [] => True
  | l :: rest =>
      IsStart start ∧ l.IsWritten ∧ (rest ≠ [] → l.decoration = []) ∧ AreWritten l.stop rest

/-- Is the chain well written? -/
def Chain.IsWritten (c : Chain) : Prop := AreWritten c.first c.links

/-! ## Deciding what is well written -/

instance (s : Text) : Decidable (IsStop s) :=
  decidable_of_iff (s.head?.any (fun c => isWordChar c || isOpening c) = true ∧
      s.getLast?.all (fun c => !isBlank c) = true ∧ closesAll s = true ∧ ShowsNoArrow (mask s))
    ⟨fun h => ⟨by simpa [Option.any_eq_true] using h.1,
        by simpa [Option.all_eq_true] using h.2.1, h.2.2.1, h.2.2.2⟩,
      fun h => ⟨by simpa [Option.any_eq_true] using h.head,
        by simpa [Option.all_eq_true] using h.last, h.closes, h.quiet⟩⟩

instance (s : Text) : Decidable (IsStart s) :=
  decidable_of_iff (IsStop s ∧ s.getLast?.any (fun c => isWordChar c || isClosing c) = true)
    ⟨fun h => ⟨h.1, by simpa [Option.any_eq_true] using h.2⟩,
      fun h => ⟨h.toIsStop, by simpa [Option.any_eq_true] using h.ends⟩⟩

instance (s : Text) : Decidable (IsBarLabel s) :=
  decidable_of_iff ('|' ∉ s ∧ closesAll s = true ∧ hasArrow (mask s) = false)
    ⟨fun h => ⟨h.1, h.2.1, h.2.2⟩, fun h => ⟨h.no_bar, h.closes, h.quiet⟩⟩

instance : (s : Text) → Decidable (IsDecoration s)
  | [] => inferInstanceAs (Decidable True)
  | c :: blanks =>
      decidable_of_iff ((c = 'o' ∨ c = 'x') ∧ blanks ≠ [] ∧ blanks.all isBlank = true)
        (by rw [IsDecoration, List.all_eq_true])

instance (l : ChainLink) : Decidable l.IsWritten :=
  decidable_of_iff (l.before.all isBlank = true ∧ (∀ label ∈ l.label, IsBarLabel label) ∧
      l.gap.all isBlank = true ∧ IsDecoration l.decoration ∧ IsStop l.stop)
    ⟨fun h => ⟨List.all_eq_true.1 h.1, h.2.1, List.all_eq_true.1 h.2.2.1, h.2.2.2.1, h.2.2.2.2⟩,
      fun h => ⟨List.all_eq_true.2 h.before, h.label, List.all_eq_true.2 h.gap, h.decoration,
        h.stop⟩⟩

instance decidableAreWritten : (start : Text) → (links : List ChainLink) →
    Decidable (AreWritten start links)
  | _, [] => inferInstanceAs (Decidable True)
  | start, l :: rest =>
      have := decidableAreWritten l.stop rest
      inferInstanceAs (Decidable (IsStart start ∧ l.IsWritten ∧ (rest ≠ [] → l.decoration = []) ∧
        AreWritten l.stop rest))

instance (c : Chain) : Decidable c.IsWritten := decidableAreWritten c.first c.links

/-! ## The links of a chain -/

namespace AreWritten

variable {start : Text} {l : ChainLink} {rest : List ChainLink} (h : AreWritten start (l :: rest))

include h

theorem isStart : IsStart start := h.1

theorem head : l.IsWritten := h.2.1

theorem tail : AreWritten l.stop rest := h.2.2.2

/-- Where a chain goes on, the right side of an arrow is the reference to which it leads. -/
theorem right_eq (hne : rest ≠ []) : l.right = l.stop := by
  rw [ChainLink.right, h.2.2.1 hne, List.nil_append]

end AreWritten

theorem AreWritten.isWritten {start : Text} {links : List ChainLink} (h : AreWritten start links)
    {l : ChainLink} (hl : l ∈ links) : l.IsWritten := by
  induction links generalizing start with
  | nil => exact absurd hl List.not_mem_nil
  | cons first rest ih =>
    rcases List.mem_cons.1 hl with rfl | hl
    · exact h.head
    · exact ih h.tail hl

/-! ## The ends of references -/

/-- Is the character one of those that references begin and end with? -/
def isRefChar (c : Char) : Bool := isWordChar c || isOpening c || isClosing c

theorem ne_of_isRefChar {c d : Char} (hc : isRefChar c = true) (hd : isRefChar d = false) :
    c ≠ d := by
  rintro rfl
  exact Bool.false_ne_true (hd.symm.trans hc)

theorem isArrowSign_of_isRefChar {c : Char} (hc : isRefChar c = true) : isArrowSign c = false :=
  isArrowSign_of_class hc (forall_mem_of_all (by decide))

theorem isBlank_of_isRefChar {c : Char} (hc : isRefChar c = true) : isBlank c = false := by
  simp only [isRefChar, isOpening, isClosing, Bool.or_eq_true, decide_eq_true_eq] at hc
  rcases hc with (hc | (rfl | rfl) | rfl) | (rfl | rfl) | rfl
  · exact isBlank_of_isWordChar hc
  all_goals decide

section Stop

variable {s : Text}

/-- A reference and its mask begin with the same character. -/
theorem IsStop.exists_cons (h : IsStop s) : ∃ c rest cells, s = c :: rest ∧ isRefChar c = true ∧
    mask s = openCell c :: cells := by
  obtain ⟨c, hhead, hc⟩ := h.head
  obtain ⟨rest, rfl⟩ : ∃ rest, s = c :: rest := ⟨s.tail, (List.cons_head?_tail hhead).symm⟩
  obtain ⟨cells, hcells⟩ := mask_cons c rest
  refine ⟨c, rest, cells, rfl, ?_, hcells⟩
  rcases hc with hc | hc <;> simp [isRefChar, hc]

/-- A reference from which an arrow leads on and its mask end with the same character. -/
theorem IsStart.exists_concat (h : IsStart s) : ∃ front c cells, s = front ++ [c] ∧
    isRefChar c = true ∧ mask s = cells ++ [openCell c] := by
  obtain ⟨c, hlast, hc⟩ := h.ends
  obtain ⟨front, rfl⟩ := List.getLast?_eq_some_iff.1 hlast
  obtain ⟨cells, hcells⟩ := mask_concat hc h.closes
  refine ⟨front, c, cells, rfl, ?_, hcells⟩
  rcases hc with hc | hc <;> simp [isRefChar, hc]

/-- Whatever follows it, a reference begins with no blank. -/
theorem IsStop.head_append (h : IsStop s) (more : Text) :
    ∀ d ∈ (s ++ more).head?, isBlank d = false := by
  obtain ⟨c, rest, -, rfl, hc, -⟩ := h.exists_cons
  intro d hd
  rw [← Option.some.inj hd]
  exact isBlank_of_isRefChar hc

theorem IsStop.trim_eq (h : IsStop s) : trim s = s :=
  trim_eq_self (by simpa using h.head_append []) h.last

theorem IsStop.head_mask (h : IsStop s) : ∀ cell ∈ (mask s).head?, isBlank cell.shown = false := by
  obtain ⟨c, -, cells, -, hc, hcells⟩ := h.exists_cons
  intro cell hcell
  rw [hcells] at hcell
  rw [← Option.some.inj hcell]
  exact isBlank_of_isRefChar hc

theorem IsStart.last_mask (h : IsStart s) :
    ∀ cell ∈ (mask s).getLast?, isRefChar cell.shown = true := by
  obtain ⟨-, c, cells, -, hc, hcells⟩ := h.exists_concat
  intro cell hcell
  rw [hcells, List.getLast?_concat] at hcell
  rw [← Option.some.inj hcell]
  exact hc

theorem IsStop.ne_nil (h : IsStop s) : s ≠ [] := by
  obtain ⟨c, rest, -, rfl, -⟩ := h.exists_cons
  exact List.cons_ne_nil c rest

/-- Whatever stands before it, a reference ends with no blank. -/
theorem IsStop.last_append (h : IsStop s) (front : Text) :
    ∀ d ∈ (front ++ s).getLast?, isBlank d = false := by
  intro d hd
  rw [List.getLast?_append_of_ne_nil front h.ne_nil] at hd
  exact h.last d hd

theorem IsStop.endsArrow (h : IsStop s) (more : List Cell) : EndsArrow (mask s ++ more) := by
  obtain ⟨c, -, cells, -, hc, hcells⟩ := h.exists_cons
  rw [hcells]
  exact endsArrow_cons (isArrowSign_of_isRefChar hc) _

/-! ## Blanks around references -/

variable {blanks : Text} (hblank : ∀ c ∈ blanks, isBlank c = true)

include hblank

theorem mask_blanks : mask blanks = blanks.map openCell :=
  mask_of_isPlain fun c hc => isPlain_of_isBlank (hblank c hc)

theorem closesAll_blanks : closesAll blanks = true :=
  closesAll_of_isPlain fun c hc => isPlain_of_isBlank (hblank c hc)

theorem endsArrow_blanks {cells : List Cell} (h : EndsArrow cells) :
    EndsArrow (blanks.map openCell ++ cells) := by
  cases blanks with
  | nil => exact h
  | cons b blanks =>
    exact endsArrow_cons (isArrowSign_of_isBlank (hblank b List.mem_cons_self)) _

end Stop

/-- With what decorates the head of an arrow a reference stays one. -/
theorem IsStop.decorated {stop decoration : Text} (h : IsStop stop)
    (hdecoration : IsDecoration decoration) : IsStop (decoration ++ stop) := by
  cases decoration with
  | nil => exact h
  | cons c blanks =>
    obtain ⟨hc, -, hblank⟩ := hdecoration
    have hword : isWordChar c = true := by
      rcases hc with rfl | rfl <;> rfl
    have hplain : ∀ d ∈ [c], isPlain d = true := by
      simpa using isPlain_of_isWordChar hword
    have hcloses : closesAll (blanks ++ stop) = true :=
      closesAll_append (closesAll_blanks hblank) h.closes
    have htext : c :: blanks ++ stop = [c] ++ (blanks ++ stop) := rfl
    rw [htext]
    refine ⟨⟨c, rfl, Or.inl hword⟩, ?_, closesAll_append (closesAll_of_isPlain hplain) hcloses, ?_⟩
    · rw [← List.append_assoc]
      exact h.last_append ([c] ++ blanks)
    · rw [mask_append (closesAll_of_isPlain hplain), mask_of_isPlain hplain,
        mask_append (closesAll_blanks hblank), mask_blanks hblank]
      have hquiet := ShowsNoArrow.blanks_append hblank h.quiet
      refine .cons ?_ hquiet
      rcases hc with rfl | rfl <;> rfl

/-! ## The cells of a link -/

/-- The cells of a label between bars. -/
def barCells : Option Text → List Cell
  | some label => openCell '|' :: (mask label ++ [openCell '|'])
  | none => []

namespace ChainLink

/-- The cells after an arrow. -/
def cellsAfter (l : ChainLink) : List Cell :=
  barCells l.label ++ (l.gap.map openCell ++ mask l.right)

namespace IsWritten

variable {l : ChainLink} (h : l.IsWritten)

include h

theorem right : IsStop l.right := h.stop.decorated h.decoration

theorem endsArrow_after (more : List Cell) : EndsArrow (l.cellsAfter ++ more) := by
  rw [cellsAfter, List.append_assoc, List.append_assoc]
  cases l.label with
  | none => exact endsArrow_blanks h.gap (h.right.endsArrow more)
  | some label => exact endsArrow_cons rfl _

/-- The mask of a link with whatever follows it. -/
theorem mask_text_append (more : Text) : mask (l.text ++ more) =
    l.before.map openCell ++ (l.arrow.text.map openCell ++ (l.cellsAfter ++ mask more)) := by
  have harrow : ∀ c ∈ l.arrow.text, isPlain c = true := by
    intro c hc
    have hsign := isArrowSign_of_mem_text hc
    simp only [isArrowSign, Bool.or_eq_true, decide_eq_true_eq] at hsign
    rcases hsign with (((rfl | rfl) | rfl) | rfl) | rfl <;> rfl
  have hbar : ∀ c ∈ ['|'], isPlain c = true := forall_mem_of_all (by decide)
  have hbars (rest : Text) : mask (inBars l.label ++ rest) = barCells l.label ++ mask rest := by
    cases hcase : l.label with
    | none => rfl
    | some label =>
      have htext : inBars (some label) ++ rest = ['|'] ++ (label ++ (['|'] ++ rest)) := by
        simp [inBars]
      rw [htext, mask_append (closesAll_of_isPlain hbar), mask_append (h.label label hcase).closes,
        mask_append (closesAll_of_isPlain hbar), mask_of_isPlain hbar]
      simp [barCells]
  simp only [text, List.append_assoc]
  rw [mask_append (closesAll_blanks h.before), mask_blanks h.before,
    mask_append (closesAll_of_isPlain harrow), mask_of_isPlain harrow, hbars,
    mask_append (closesAll_blanks h.gap), mask_blanks h.gap, mask_append h.right.closes, cellsAfter]
  simp only [List.append_assoc]

/-- The mask of a segment. -/
theorem mask_segment {start : Text} (hstart : IsStart start) : mask (start ++ l.text) =
    mask start ++ (l.before.map openCell ++ (l.arrow.text.map openCell ++ l.cellsAfter)) := by
  have htext := h.mask_text_append []
  have hnil : mask [] = [] := rfl
  rw [List.append_nil, hnil, List.append_nil] at htext
  rw [mask_append hstart.closes, htext]

end IsWritten

end ChainLink

end Swimlane
