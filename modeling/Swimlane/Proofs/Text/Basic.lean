import Mathlib.Data.List.Infix
import Mathlib.Data.List.TakeWhile
import Swimlane.Text.Basic

/-!
# Facts about texts

When the operations on texts leave a text as it is: trimming one that begins and ends
with no blank, cutting or replacing at a mark that does not occur, and taking a text apart
into the lines that it was joined from.
-/

namespace Swimlane

/-- What is checked of the members of a list one by one holds of all of them. -/
theorem forall_mem_of_all {β : Type} {P : β → Prop} [DecidablePred P] {l : List β}
    (h : l.all (fun b => decide (P b)) = true) : ∀ b ∈ l, P b :=
  fun b hb => of_decide_eq_true (List.all_eq_true.1 h b hb)

/-- A span goes as far as to the first item that is not in it. -/
theorem span_append_cons {α : Type} {p : α → Bool} {xs : List α} (h : ∀ x ∈ xs, p x = true) {y : α}
    (hy : p y = false) (rest : List α) : (xs ++ y :: rest).span p = (xs, y :: rest) := by
  have hneg : ¬p y = true := by simp [hy]
  rw [List.span_eq_takeWhile_dropWhile, List.takeWhile_append_of_pos h,
    List.dropWhile_append_of_pos h, List.takeWhile_cons_of_neg hneg,
    List.dropWhile_cons_of_neg hneg, List.append_nil]

/-- A span is made of what belongs to it, and what it leaves begins with something else. -/
theorem of_span {α : Type} {p : α → Bool} {xs front rest : List α}
    (h : xs.span p = (front, rest)) : xs = front ++ rest ∧ (∀ x ∈ front, p x = true) ∧
      ∀ x ∈ rest.head?, p x = false := by
  rw [List.span_eq_takeWhile_dropWhile] at h
  obtain ⟨rfl, rfl⟩ := Prod.mk.inj h
  refine ⟨List.takeWhile_append_dropWhile.symm, fun x hx => List.mem_takeWhile_imp hx, ?_⟩
  intro x hx
  have hhead := List.head?_dropWhile_not p xs
  rw [hx] at hhead
  exact hhead

theorem eq_of_span {α : Type} {p : α → Bool} {xs front rest : List α} {y : α}
    (h : xs.span p = (front, y :: rest)) : xs = front ++ y :: rest ∧ p y = false := by
  obtain ⟨hxs, -, hrest⟩ := of_span h
  exact ⟨hxs, hrest y rfl⟩

/-! ## Trimming -/

theorem trimStart_eq_self {s : Text} (h : ∀ c ∈ s.head?, isBlank c = false) : trimStart s = s := by
  cases s with
  | nil => rfl
  | cons c rest =>
    have hc : isBlank c = false := h c rfl
    rw [trimStart, List.dropWhile_cons_of_neg (by simp [hc])]

theorem trimEnd_eq_self {s : Text} (h : ∀ c ∈ s.getLast?, isBlank c = false) : trimEnd s = s := by
  have hreverse : trimStart s.reverse = s.reverse :=
    trimStart_eq_self fun c hc => h c (by rwa [List.head?_reverse] at hc)
  rw [trimEnd, ← trimStart, hreverse, List.reverse_reverse]

/-- A text with no blank at either end is trimmed. -/
theorem trim_eq_self {s : Text} (hhead : ∀ c ∈ s.head?, isBlank c = false)
    (hlast : ∀ c ∈ s.getLast?, isBlank c = false) : trim s = s := by
  rw [trim, trimStart_eq_self hhead, trimEnd_eq_self hlast]

theorem trim_eq_self_of_all {s : Text} (h : ∀ c ∈ s, isBlank c = false) : trim s = s :=
  trim_eq_self (fun c hc => h c (List.mem_of_mem_head? hc))
    (fun c hc => h c (List.mem_of_getLast? hc))

theorem trimStart_append {blanks s : Text} (hblanks : ∀ c ∈ blanks, isBlank c = true)
    (h : ∀ c ∈ s.head?, isBlank c = false) : trimStart (blanks ++ s) = s := by
  rw [trimStart, List.dropWhile_append_of_pos hblanks]
  exact trimStart_eq_self h

theorem trimEnd_append {blanks s : Text} (hblanks : ∀ c ∈ blanks, isBlank c = true)
    (h : ∀ c ∈ s.getLast?, isBlank c = false) : trimEnd (s ++ blanks) = s := by
  rw [trimEnd, List.reverse_append,
    List.dropWhile_append_of_pos fun c hc => hblanks c (List.mem_reverse.1 hc)]
  exact trimEnd_eq_self h

/-- Of blanks nothing is left. -/
theorem trim_eq_nil {s : Text} (h : ∀ c ∈ s, isBlank c = true) : trim s = [] := by
  rw [trim, trimStart, List.dropWhile_eq_nil_iff.2 h]
  rfl

/-- Only blanks are trimmed away. -/
theorem mem_trim {s : Text} {c : Char} (hc : c ∈ s) (hblank : isBlank c = false) : c ∈ trim s := by
  have hdrop {s : Text} (hc : c ∈ s) : c ∈ s.dropWhile isBlank := by
    rw [← List.takeWhile_append_dropWhile (p := isBlank) (l := s), List.mem_append] at hc
    refine hc.resolve_left fun hmem => ?_
    have htrue : isBlank c = true := List.mem_takeWhile_imp hmem
    rw [hblank] at htrue
    cases htrue
  rw [trim, trimEnd, List.mem_reverse]
  exact hdrop (List.mem_reverse.2 (hdrop hc))

/-- A text of which nothing is left is blank. -/
theorem isBlank_of_trim_eq_nil {s : Text} (h : trim s = []) {c : Char} (hc : c ∈ s) :
    isBlank c = true := by
  by_contra hblank
  rw [Bool.not_eq_true] at hblank
  exact List.ne_nil_of_mem (mem_trim hc hblank) h

/-- Nothing is added where blanks are trimmed away. -/
theorem mem_of_mem_trim {s : Text} {c : Char} (hc : c ∈ trim s) : c ∈ s := by
  rw [trim, trimEnd, List.mem_reverse] at hc
  have hstart := List.mem_reverse.1 ((List.dropWhile_suffix isBlank).subset hc)
  exact (List.dropWhile_suffix isBlank).subset hstart

/-- No blank stands at either end of what was trimmed. -/
theorem trim_trim (s : Text) : trim (trim s) = trim s := by
  have hhead (t : Text) : ∀ c ∈ (t.dropWhile isBlank).head?, isBlank c = false := by
    intro c hc
    have hnot := List.head?_dropWhile_not isBlank t
    rw [hc] at hnot
    exact hnot
  refine trim_eq_self (fun c hc => ?_) fun c hc => ?_
  · obtain ⟨rest, hrest⟩ : trim s <+: trimStart s := by
      rw [trim, trimEnd, ← List.reverse_suffix, List.reverse_reverse]
      exact List.dropWhile_suffix _
    refine hhead s c ?_
    rw [← trimStart, ← hrest, List.head?_append, hc]
    rfl
  · rw [trim, trimEnd, List.getLast?_reverse] at hc
    exact hhead _ c hc

/-- Between characters that are not blank nothing is trimmed away. -/
theorem trim_append_cons {c : Char} (hc : isBlank c = false) {s : Text}
    (hhead : ∀ d ∈ s.head?, isBlank d = false) (rest : Text) :
    trim (s ++ c :: rest) = s ++ c :: trimEnd rest := by
  have hstart : ∀ d ∈ (s ++ c :: rest).head?, isBlank d = false := by
    cases s with
    | nil =>
      intro d hd
      rw [← Option.some.inj hd]
      exact hc
    | cons e s => exact hhead
  have hreverse : (s ++ c :: rest).reverse = rest.reverse ++ c :: s.reverse := by simp
  rw [trim, trimStart_eq_self hstart, trimEnd, trimEnd, hreverse, List.dropWhile_append]
  split
  · next hblank =>
    rw [List.isEmpty_iff.1 hblank, List.dropWhile_cons_of_neg (by simp [hc])]
    simp
  · simp

/-- A blank at the end makes no difference to what is trimmed. -/
theorem trim_append_blank {c : Char} (hc : isBlank c = true) (s : Text) :
    trim (s ++ [c]) = trim s := by
  rw [trim, trim, trimStart, trimStart, List.dropWhile_append]
  split
  · next hblank =>
    rw [List.isEmpty_iff.1 hblank, List.dropWhile_cons_of_pos hc]
    rfl
  · rw [trimEnd, trimEnd, List.reverse_append, List.reverse_singleton, List.singleton_append,
      List.dropWhile_cons_of_pos hc]

/-- Blanks before a text make no difference to what is trimmed. -/
theorem trim_blanks_append {blanks : Text} (hblanks : ∀ c ∈ blanks, isBlank c = true) (s : Text) :
    trim (blanks ++ s) = trim s := by
  rw [trim, trimStart, List.dropWhile_append_of_pos hblanks]
  rfl

/-- Blanks after a text make no difference to what is trimmed. -/
theorem trim_append_blanks {blanks : Text} (hblanks : ∀ c ∈ blanks, isBlank c = true) (s : Text) :
    trim (s ++ blanks) = trim s := by
  induction blanks generalizing s with
  | nil => rw [List.append_nil]
  | cons c blanks ih =>
    obtain ⟨hc, hblanks⟩ := List.forall_mem_cons.1 hblanks
    rw [← List.singleton_append, ← List.append_assoc, ih hblanks, trim_append_blank hc]

/-- Trimming takes blanks away at either end. -/
theorem exists_eq_append_trim (s : Text) : ∃ front back, (∀ c ∈ front, isBlank c = true) ∧
    (∀ c ∈ back, isBlank c = true) ∧ s = front ++ (trim s ++ back) := by
  refine ⟨s.takeWhile isBlank, ((trimStart s).reverse.takeWhile isBlank).reverse,
    fun c hc => List.mem_takeWhile_imp hc,
    fun c hc => List.mem_takeWhile_imp (List.mem_reverse.1 hc), ?_⟩
  rw [trim, trimEnd, ← List.reverse_append, List.takeWhile_append_dropWhile, List.reverse_reverse,
    trimStart, List.takeWhile_append_dropWhile]

theorem trim_dropReturn (line : Text) : trim (dropReturn line) = trim line := by
  unfold dropReturn
  split
  · next hreturn =>
    obtain ⟨front, rfl⟩ := List.getLast?_eq_some_iff.1 hreturn
    rw [List.dropLast_concat, trim_append_blank (by decide)]
  · rfl

/-! ## Occurrences -/

/-- To occur in a list is to be an infix of it. -/
theorem occursIn_iff {α : Type} [BEq α] [LawfulBEq α] {part s : List α} :
    occursIn part s = true ↔ part <:+: s := by
  induction s with
  | nil => simp [occursIn, List.infix_nil]
  | cons c rest ih =>
    rw [occursIn, Bool.or_eq_true, ih, List.isPrefixOf_iff_prefix, List.infix_cons_iff]

/-- What occurs in two texts with a mark between them occurs in one of them, if it does not
have the mark. -/
theorem infix_or_of_append_cons {α : Type} {part before after : List α} {mark : α}
    (hmark : mark ∉ part) (h : part <:+: before ++ mark :: after) :
    part <:+: before ∨ part <:+: after := by
  obtain ⟨front, back, heq⟩ := h
  rw [List.append_assoc, List.append_eq_append_iff] at heq
  rcases heq with ⟨between, rfl, hpart⟩ | ⟨between, rfl, hpart⟩
  · rw [List.append_eq_append_iff] at hpart
    rcases hpart with ⟨rest, rfl, -⟩ | ⟨rest, rfl, hrest⟩
    · exact Or.inl ⟨front, rest, by rw [List.append_assoc]⟩
    · cases rest with
      | nil => exact Or.inl ⟨front, [], by simp⟩
      | cons d rest =>
        obtain ⟨rfl, -⟩ := List.cons_eq_cons.1 hrest
        exact absurd (List.mem_append_right _ List.mem_cons_self) hmark
  · cases between with
    | nil =>
      cases part with
      | nil => exact Or.inl (List.nil_infix)
      | cons d part =>
        obtain ⟨rfl, -⟩ := List.cons_eq_cons.1 hpart
        exact absurd List.mem_cons_self hmark
    | cons d between =>
      obtain ⟨rfl, hafter⟩ := List.cons_eq_cons.1 hpart
      exact Or.inr ⟨between, back, by rw [List.append_assoc, hafter]; rfl⟩

/-- A word without a character that a text has begins the text if it begins anything longer. -/
theorem prefix_of_prefix_append {w s : Text} {c : Char} (hw : c ∉ w) (hc : c ∈ s) {more : Text}
    (h : w <+: s ++ more) : w <+: s := by
  rcases List.prefix_or_prefix_of_prefix h (List.prefix_append s more) with h | h
  · exact h
  · exact absurd (h.subset hc) hw

/-- What has a character that a text has not does not occur in the text. -/
theorem not_infix_of_not_mem {α : Type} {part s : List α} {c : α} (hpart : c ∈ part) (hs : c ∉ s) :
    ¬ part <:+: s :=
  fun h => hs (h.subset hpart)

/-- Where the mark does not occur, all of the text is before it. -/
theorem beforeFirst_eq_self {mark s : Text} (h : ¬ mark <:+: s) : beforeFirst mark s = s := by
  induction s with
  | nil => rfl
  | cons c rest ih =>
    rw [List.infix_cons_iff, not_or, ← List.isPrefixOf_iff_prefix] at h
    rw [beforeFirst, if_neg h.1, ih h.2]

/-- A text without the first character of the mark stands before it. -/
theorem beforeFirst_append {c : Char} {mark s : Text} (hc : c ∉ s) (rest : Text) :
    beforeFirst (c :: mark) (s ++ rest) = s ++ beforeFirst (c :: mark) rest := by
  induction s with
  | nil => rfl
  | cons d s ih =>
    rw [List.mem_cons, not_or] at hc
    have hstart : ¬ (c :: mark).isPrefixOf (d :: (s ++ rest)) = true := by
      simp [List.isPrefixOf, hc.1]
    rw [List.cons_append, beforeFirst, if_neg hstart, ih hc.2]
    rfl

theorem mem_of_mem_beforeFirst {mark s : Text} {c : Char} (h : c ∈ beforeFirst mark s) : c ∈ s := by
  induction s with
  | nil => cases h
  | cons d s ih =>
    rw [beforeFirst] at h
    split at h
    · cases h
    · exact (List.mem_cons.1 h).elim (fun heq => heq ▸ List.mem_cons_self)
        fun hmem => List.mem_cons_of_mem d (ih hmem)

/-- What is before a mark that occurs in a text is a part of the text, whatever follows it. -/
theorem beforeFirst_isPrefix {mark s : Text} (h : mark <:+: s) (rest : Text) :
    beforeFirst mark (s ++ rest) <+: s := by
  induction s with
  | nil =>
    obtain rfl := List.infix_nil.1 h
    cases rest <;> exact List.prefix_refl []
  | cons d s ih =>
    rw [List.cons_append, beforeFirst]
    split
    · exact List.nil_prefix
    · next hstart =>
      rw [List.isPrefixOf_iff_prefix] at hstart
      rw [List.infix_cons_iff] at h
      have hrest := h.resolve_left fun hbegin =>
        hstart (hbegin.trans (List.prefix_append (d :: s) rest))
      exact List.cons_prefix_cons.2 ⟨rfl, ih hrest⟩

/-- Where the old text does not occur, nothing is replaced. -/
theorem replaceAll_eq_self {old new s : Text} (h : ¬ old <:+: s) : replaceAll old new s = s := by
  rw [replaceAll]
  induction s with
  | nil => rfl
  | cons c rest ih =>
    rw [List.infix_cons_iff, not_or, ← List.isPrefixOf_iff_prefix] at h
    rw [replaceFrom, if_neg h.1, ih h.2]

/-! ## Pieces and lines -/

/-- A text without separators is one piece. -/
theorem pieces_eq_singleton {p : Char → Bool} {s : Text} (h : ∀ c ∈ s, p c = false) :
    pieces p s = [s] := by
  induction s with
  | nil => rfl
  | cons c rest ih =>
    rw [pieces, h c List.mem_cons_self, ih fun d hd => h d (List.mem_cons_of_mem c hd)]
    rfl

/-- A separator ends a piece, whatever comes before and after it. -/
theorem pieces_append {p : Char → Bool} {c : Char} (hc : p c = true) (s rest : Text) :
    pieces p (s ++ c :: rest) = pieces p s ++ pieces p rest := by
  induction s with
  | nil =>
    show pieces p (c :: rest) = [] :: pieces p rest
    rw [pieces, if_pos hc]
  | cons d s ih =>
    rw [List.cons_append, pieces, pieces, ih]
    split
    · rw [List.cons_append]
    · cases hpieces : pieces p s with
      | nil => exact absurd hpieces (pieces_ne_nil p s)
      | cons first others => rfl

/-- Every piece stands in the text, and the first one begins it. -/
theorem prefix_and_infix_of_pieces {p : Char → Bool} {s first : Text} {others : List Text}
    (h : pieces p s = first :: others) : first <+: s ∧ ∀ w ∈ others, w <:+: s := by
  induction s generalizing first others with
  | nil =>
    cases h
    exact ⟨List.prefix_refl [], List.forall_mem_nil _⟩
  | cons c s ih =>
    obtain ⟨next, more, hpieces⟩ := List.exists_cons_of_ne_nil (pieces_ne_nil p s)
    obtain ⟨hnext, hmore⟩ := ih hpieces
    have hlater : ∀ w ∈ more, w <:+: c :: s := fun w hw => List.infix_cons (hmore w hw)
    rw [pieces, hpieces] at h
    split at h
    · cases h
      exact ⟨List.nil_prefix, List.forall_mem_cons.2 ⟨List.infix_cons hnext.isInfix, hlater⟩⟩
    · cases h
      exact ⟨List.cons_prefix_cons.2 ⟨rfl, hnext⟩, hlater⟩

theorem infix_of_mem_pieces {p : Char → Bool} {s w : Text} (hw : w ∈ pieces p s) : w <:+: s := by
  obtain ⟨first, others, hpieces⟩ := List.exists_cons_of_ne_nil (pieces_ne_nil p s)
  obtain ⟨hfirst, hothers⟩ := prefix_and_infix_of_pieces hpieces
  rw [hpieces] at hw
  rcases List.mem_cons.1 hw with rfl | hw
  · exact hfirst.isInfix
  · exact hothers w hw

/-- The characters of a piece are those of the text that are no separators. -/
theorem of_mem_pieces {p : Char → Bool} {s w : Text} (hw : w ∈ pieces p s) {c : Char}
    (hc : c ∈ w) : c ∈ s ∧ p c = false := by
  induction s generalizing w with
  | nil =>
    obtain rfl := List.mem_singleton.1 hw
    exact absurd hc List.not_mem_nil
  | cons d s ih =>
    have hrest {v : Text} (hv : v ∈ pieces p s) (hcv : c ∈ v) : c ∈ d :: s ∧ p c = false :=
      ⟨List.mem_cons_of_mem d (ih hv hcv).1, (ih hv hcv).2⟩
    rw [pieces] at hw
    split at hw
    · rcases List.mem_cons.1 hw with rfl | hw
      · exact absurd hc List.not_mem_nil
      · exact hrest hw hc
    · next hd =>
      cases hcase : pieces p s with
      | nil => exact absurd hcase (pieces_ne_nil p s)
      | cons first others =>
        rw [hcase] at hw
        rcases List.mem_cons.1 hw with rfl | hw
        · rcases List.mem_cons.1 hc with rfl | hc
          · exact ⟨List.mem_cons_self, by simpa using hd⟩
          · exact hrest (hcase ▸ List.mem_cons_self) hc
        · exact hrest (hcase ▸ List.mem_cons_of_mem first hw) hc

/-- A character that is no separator stands in a piece. -/
theorem exists_mem_pieces {p : Char → Bool} {s : Text} {c : Char} (hc : c ∈ s) (hp : p c = false) :
    ∃ w ∈ pieces p s, c ∈ w := by
  induction s with
  | nil => exact absurd hc List.not_mem_nil
  | cons d s ih =>
    rw [pieces]
    rcases List.mem_cons.1 hc with rfl | hc
    · rw [if_neg (by simp [hp])]
      split
      · exact ⟨[c], List.mem_cons_self, List.mem_cons_self⟩
      · exact ⟨_, List.mem_cons_self, List.mem_cons_self⟩
    · obtain ⟨w, hw, hcw⟩ := ih hc
      split
      · exact ⟨w, List.mem_cons_of_mem _ hw, hcw⟩
      · cases hcase : pieces p s with
        | nil => exact absurd hcase (pieces_ne_nil p s)
        | cons first others =>
          rw [hcase] at hw
          rcases List.mem_cons.1 hw with rfl | hw
          · exact ⟨d :: w, List.mem_cons_self, List.mem_cons_of_mem d hcw⟩
          · exact ⟨w, List.mem_cons_of_mem _ hw, hcw⟩

/-- A character that is not blank stands in a word. -/
theorem exists_mem_words {s : Text} {c : Char} (hc : c ∈ s) (hblank : isBlank c = false) :
    ∃ w ∈ words s, c ∈ w := by
  obtain ⟨w, hw, hcw⟩ := exists_mem_pieces hc hblank
  exact ⟨w, List.mem_filter.2 ⟨hw, decide_eq_true (List.ne_nil_of_mem hcw)⟩, hcw⟩

/-- The first piece of a text goes on from its beginning. -/
theorem exists_pieces_append {p : Char → Bool} {s : Text} (h : ∀ c ∈ s, p c = false)
    (rest : Text) : ∃ t ws, pieces p (s ++ rest) = (s ++ t) :: ws := by
  induction s with
  | nil =>
    obtain ⟨t, ws, hpieces⟩ := List.exists_cons_of_ne_nil (pieces_ne_nil p rest)
    exact ⟨t, ws, hpieces⟩
  | cons c s ih =>
    obtain ⟨t, ws, hpieces⟩ := ih fun d hd => h d (List.mem_cons_of_mem c hd)
    refine ⟨t, ws, ?_⟩
    rw [List.cons_append, pieces, hpieces, h c List.mem_cons_self]
    rfl

/-- The first piece ends at the first separator. -/
theorem pieces_append_cons {p : Char → Bool} {s : Text} (h : ∀ c ∈ s, p c = false) {c : Char}
    (hc : p c = true) (rest : Text) : pieces p (s ++ c :: rest) = s :: pieces p rest := by
  rw [pieces_append hc, pieces_eq_singleton h, List.singleton_append]

theorem joinWith_cons {separator first : Text} {rest : List Text} (hrest : rest ≠ []) :
    joinWith separator (first :: rest) = first ++ separator ++ joinWith separator rest := by
  rw [joinWith]
  exact hrest

/-- What stands in a joined text stands in one of its parts or between them. -/
theorem of_mem_joinWith {separator : Text} {ws : List Text} {c : Char}
    (hc : c ∈ joinWith separator ws) : c ∈ separator ∨ ∃ w ∈ ws, c ∈ w := by
  induction ws with
  | nil => exact absurd hc List.not_mem_nil
  | cons w rest ih =>
    cases rest with
    | nil => exact Or.inr ⟨w, List.mem_cons_self, hc⟩
    | cons next rest =>
      rw [joinWith, List.mem_append, List.mem_append] at hc
      · rcases hc with (hw | hseparator) | hrest
        · exact Or.inr ⟨w, List.mem_cons_self, hw⟩
        · exact Or.inl hseparator
        · refine (ih hrest).imp_right fun hparts => ?_
          obtain ⟨v, hv, hcv⟩ := hparts
          exact ⟨v, List.mem_cons_of_mem w hv, hcv⟩
      · exact List.cons_ne_nil _ _

/-- What stands in a part stands in the joined text. -/
theorem mem_joinWith {separator : Text} {ws : List Text} {w : Text} {c : Char} (hw : w ∈ ws)
    (hc : c ∈ w) : c ∈ joinWith separator ws := by
  induction ws with
  | nil => exact absurd hw List.not_mem_nil
  | cons v rest ih =>
    cases rest with
    | nil =>
      rw [List.mem_singleton.1 hw] at hc
      exact hc
    | cons next rest =>
      rw [joinWith, List.append_assoc, List.mem_append]
      · rcases List.mem_cons.1 hw with rfl | hrest
        · exact Or.inl hc
        · exact Or.inr (List.mem_append_right _ (ih hrest))
      · exact List.cons_ne_nil _ _

section Joined

variable {separator : Text} {ws : List Text} {c : Char}

theorem joinWith_ne_nil (hws : ws ≠ []) (hne : ∀ w ∈ ws, w ≠ []) : joinWith separator ws ≠ [] := by
  obtain ⟨w, rest, rfl⟩ := List.exists_cons_of_ne_nil hws
  obtain ⟨d, hd⟩ := List.exists_mem_of_ne_nil w (hne w List.mem_cons_self)
  exact List.ne_nil_of_mem (mem_joinWith List.mem_cons_self hd)

/-- A joined text begins as a part of it begins. -/
theorem exists_of_head?_joinWith (hne : ∀ w ∈ ws, w ≠ [])
    (hc : (joinWith separator ws).head? = some c) : ∃ w ∈ ws, c ∈ w := by
  cases ws with
  | nil => cases hc
  | cons w rest =>
    have hw := hne w List.mem_cons_self
    refine ⟨w, List.mem_cons_self, List.mem_of_mem_head? ?_⟩
    by_cases hrest : rest = []
    · subst hrest
      exact hc
    · rwa [joinWith_cons hrest, List.append_assoc, List.head?_append_of_ne_nil _ hw] at hc

/-- A joined text ends as a part of it ends. -/
theorem exists_of_getLast?_joinWith (hne : ∀ w ∈ ws, w ≠ [])
    (hc : (joinWith separator ws).getLast? = some c) : ∃ w ∈ ws, c ∈ w := by
  induction ws with
  | nil => cases hc
  | cons w rest ih =>
    by_cases hrest : rest = []
    · subst hrest
      exact ⟨w, List.mem_cons_self, List.mem_of_mem_getLast? hc⟩
    · have hmore : ∀ v ∈ rest, v ≠ [] := fun v hv => hne v (List.mem_cons_of_mem w hv)
      rw [joinWith_cons hrest, List.getLast?_append_of_ne_nil _ (joinWith_ne_nil hrest hmore)] at hc
      obtain ⟨v, hv, hcv⟩ := ih hmore hc
      exact ⟨v, List.mem_cons_of_mem w hv, hcv⟩

theorem joinWith_concat (hws : ws ≠ []) (w : Text) :
    joinWith separator (ws ++ [w]) = joinWith separator ws ++ separator ++ w := by
  induction ws with
  | nil => exact absurd rfl hws
  | cons v rest ih =>
    by_cases hrest : rest = []
    · subst hrest
      rfl
    · rw [List.cons_append, joinWith_cons (List.append_ne_nil_of_left_ne_nil hrest _), ih hrest,
        joinWith_cons hrest]
      simp only [List.append_assoc]

end Joined

/-- Texts without separators are the pieces of what they are joined to by one. -/
theorem pieces_joinWith_of_open {p : Char → Bool} {c : Char} (hc : p c = true) {ls : List Text}
    (hne : ls ≠ []) (hopen : ∀ l ∈ ls, ∀ d ∈ l, p d = false) :
    pieces p (joinWith [c] ls) = ls := by
  induction ls with
  | nil => exact absurd rfl hne
  | cons l rest ih =>
    have hl := hopen l List.mem_cons_self
    cases rest with
    | nil => exact pieces_eq_singleton hl
    | cons next rest =>
      rw [joinWith, List.append_assoc, List.singleton_append, pieces_append_cons hl hc,
        ih (List.cons_ne_nil _ _) fun m hm => hopen m (List.mem_cons_of_mem l hm)]
      exact List.cons_ne_nil _ _

/-- Texts without line feeds are the pieces of what they are joined to. -/
theorem pieces_joinWith {ls : List Text} (hne : ls ≠ []) (hfeed : ∀ l ∈ ls, '\n' ∉ l) :
    pieces (· = '\n') (joinWith ['\n'] ls) = ls := by
  refine pieces_joinWith_of_open (decide_eq_true rfl) hne fun l hl c hc => decide_eq_false ?_
  rintro rfl
  exact hfeed l hl hc

/-- The lines that a text is joined from are read as lines. -/
theorem lines_joinWith_eq {ls : List Text} (hfeed : ∀ l ∈ ls, '\n' ∉ l) :
    lines (joinWith ['\n'] ls) = linesOfPieces ls := by
  cases ls with
  | nil => rfl
  | cons l ls => rw [lines, pieces_joinWith (List.cons_ne_nil l ls) hfeed]

theorem dropReturn_eq_self {l : Text} (h : '\r' ∉ l) : dropReturn l = l :=
  if_neg fun hlast => h (List.mem_of_getLast? hlast)

/-- All lines but the last lose a carriage return at their end. -/
theorem linesOfPieces_append {xs ys : List Text} (hys : ys ≠ []) :
    linesOfPieces (xs ++ ys) = xs.map dropReturn ++ linesOfPieces ys := by
  induction xs with
  | nil => rfl
  | cons x xs ih =>
    have hmore : xs ++ ys ≠ [] := List.append_ne_nil_of_right_ne_nil xs hys
    rw [List.cons_append, linesOfPieces, ih, List.map_cons, List.cons_append]
    exact hmore

/-- Pieces that are not empty and do not end in a carriage return are lines as they are. -/
theorem linesOfPieces_eq_self {ls : List Text} (hne : ∀ l ∈ ls, l ≠ [])
    (hreturn : ∀ l ∈ ls, l.getLast? ≠ some '\r') : linesOfPieces ls = ls := by
  induction ls with
  | nil => rfl
  | cons l rest ih =>
    cases rest with
    | nil => rw [linesOfPieces, if_neg (hne l List.mem_cons_self)]
    | cons next rest =>
      rw [linesOfPieces, dropReturn, if_neg (hreturn l List.mem_cons_self),
        ih (fun m hm => hne m (List.mem_cons_of_mem l hm))
          fun m hm => hreturn m (List.mem_cons_of_mem l hm)]
      exact List.cons_ne_nil _ _

/-- The lines of a text are those that it was joined from. -/
theorem lines_joinWith {ls : List Text} (hfeed : ∀ l ∈ ls, '\n' ∉ l) (hne : ∀ l ∈ ls, l ≠ [])
    (hreturn : ∀ l ∈ ls, l.getLast? ≠ some '\r') : lines (joinWith ['\n'] ls) = ls := by
  cases ls with
  | nil => rfl
  | cons l rest =>
    rw [lines, pieces_joinWith (List.cons_ne_nil _ _) hfeed, linesOfPieces_eq_self hne hreturn]

end Swimlane
