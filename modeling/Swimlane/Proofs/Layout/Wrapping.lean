import Mathlib.Data.List.Chain
import Swimlane.Layout.Label
import Swimlane.Proofs.Text.Basic

/-!
# Wrapped lines

A line that is not within the limit is filled again from its words.  No word is lost, no line of
several words is too wide, and each line takes as many words as it can: with the first word of the
next line it would be too wide (`isWrapping_wrapLine`).  Nothing is asked of the widths of texts
but that what is within a limit is not too wide for it.
-/

namespace Swimlane

/-! ## Words of a line -/

theorem words_nil : words [] = [] := rfl

/-- A blank ends a word, whatever comes before and after it. -/
theorem words_append_blank {c : Char} (hc : isBlank c = true) (s t : Text) :
    words (s ++ c :: t) = words s ++ words t := by
  rw [words, pieces_append hc, List.filter_append]
  rfl

/-- A word of a text is its own only word. -/
theorem words_of_mem_words {s w : Text} (hw : w ∈ words s) : words w = [w] := by
  obtain ⟨hpiece, hne⟩ := List.mem_filter.1 hw
  rw [words, pieces_eq_singleton fun c hc => (of_mem_pieces hpiece hc).2]
  exact List.filter_cons_of_pos hne

/-! ## Filled lines -/

/-- The current line with one more word. -/
def lengthened (current word : Text) : Text := if current = [] then word else current ++ ' ' :: word

theorem words_lengthened {word : Text} (hword : words word = [word]) (current : Text) :
    words (lengthened current word) = words current ++ [word] := by
  unfold lengthened
  split
  · next hempty => rw [hempty, words_nil, hword, List.nil_append]
  · rw [words_append_blank (by decide), hword]

section Filled

variable {tooWide : Text → Bool} {current word : Text} {ws : List Text}

/-- The three things that become of a word: it begins the first line, it ends the current line
and begins the next, or it is taken into the current one. -/
theorem fillLines_cons : fillLines tooWide current (word :: ws) =
    if tooWide (lengthened current word) then
      if current = [] then fillLines tooWide word ws else current :: fillLines tooWide word ws
    else fillLines tooWide (lengthened current word) ws := rfl

/-- No word is lost. -/
theorem flatMap_words_fillLines (hws : ∀ w ∈ ws, words w = [w]) :
    (fillLines tooWide current ws).flatMap words = words current ++ ws := by
  induction ws generalizing current with
  | nil =>
    rw [fillLines, List.append_nil]
    split
    · next hempty => rw [hempty, words_nil, List.flatMap_nil]
    · rw [List.flatMap_singleton]
  | cons word rest ih =>
    obtain ⟨hword, hrest⟩ := List.forall_mem_cons.1 hws
    rw [fillLines_cons]
    split
    · split
      · next hempty => rw [ih hrest, hword, hempty, words_nil]; rfl
      · rw [List.flatMap_cons, ih hrest, hword]; rfl
    · rw [ih hrest, words_lengthened hword, List.append_assoc]; rfl

/-- A line of several words is not too wide: it was tried before its last word was taken in. -/
theorem fits_of_mem_fillLines (hws : ∀ w ∈ ws, words w = [w])
    (hcurrent : 2 ≤ (words current).length → tooWide current = false) :
    ∀ l ∈ fillLines tooWide current ws, 2 ≤ (words l).length → tooWide l = false := by
  induction ws generalizing current with
  | nil =>
    intro l hl
    rw [fillLines] at hl
    split at hl
    · exact absurd hl List.not_mem_nil
    · rwa [List.mem_singleton.1 hl]
  | cons word rest ih =>
    obtain ⟨hword, hrest⟩ := List.forall_mem_cons.1 hws
    have hsingle : 2 ≤ (words word).length → tooWide word = false := by
      intro htwo
      rw [hword, List.length_singleton] at htwo
      exact absurd htwo (by decide)
    intro l hl
    rw [fillLines_cons] at hl
    split at hl
    · split at hl
      · exact ih hrest hsingle l hl
      · rcases List.mem_cons.1 hl with rfl | hl
        · exact hcurrent
        · exact ih hrest hsingle l hl
    · next hfits =>
      rw [Bool.not_eq_true] at hfits
      exact ih hrest (fun _ => hfits) l hl

/-- The first line begins with the word that the current one begins with. -/
theorem head?_words_of_head?_fillLines (hws : ∀ w ∈ ws, words w = [w])
    (hcurrent : words current ≠ []) :
    ∀ l ∈ (fillLines tooWide current ws).head?, (words l).head? = (words current).head? := by
  induction ws generalizing current with
  | nil =>
    intro l hl
    rw [fillLines] at hl
    split at hl
    · exact absurd hl (Option.not_mem_none l)
    · rw [← Option.some.inj hl]
  | cons word rest ih =>
    obtain ⟨hword, hrest⟩ := List.forall_mem_cons.1 hws
    intro l hl
    rw [fillLines_cons] at hl
    split at hl
    · split at hl
      · next hempty =>
        rw [hempty] at hcurrent
        exact absurd words_nil hcurrent
      · rw [← Option.some.inj hl]
    · have hne : words (lengthened current word) ≠ [] := by
        rw [words_lengthened hword]
        exact List.append_ne_nil_of_left_ne_nil hcurrent [word]
      rw [ih hrest hne l hl, words_lengthened hword, List.head?_append_of_ne_nil _ hcurrent]

/-- With the first word of the next line each line is too wide. -/
theorem isChain_fillLines (hws : ∀ w ∈ ws, words w = [w]) :
    (fillLines tooWide current ws).IsChain fun l next =>
      ∃ w, (words next).head? = some w ∧ tooWide (l ++ ' ' :: w) = true := by
  induction ws generalizing current with
  | nil =>
    rw [fillLines]
    split
    · exact List.IsChain.nil
    · exact List.IsChain.singleton current
  | cons word rest ih =>
    obtain ⟨hword, hrest⟩ := List.forall_mem_cons.1 hws
    rw [fillLines_cons]
    split
    · next hwide =>
      split
      · exact ih hrest
      · next hne =>
        -- the current line is ended by this word, with which the next one begins
        refine List.isChain_cons.2 ⟨fun next hnext => ⟨word, ?_, ?_⟩, ih hrest⟩
        · have hbegins : words word ≠ [] := by
            rw [hword]
            exact List.cons_ne_nil word []
          rw [head?_words_of_head?_fillLines hrest hbegins next hnext, hword, List.head?_cons]
        · rwa [lengthened, if_neg hne] at hwide
    · exact ih hrest

end Filled

/-! ## Wrapped lines -/

section Wrapped

variable {α : Type} [Length α]

/-- Is a line wrapped into these lines, each of which takes as many words as it can? -/
structure IsWrapping (width : Text → α) (limit : α) (line : Text) (ls : List Text) : Prop where
  /-- The words are those of the line, in their order. -/
  words_eq : ls.flatMap words = words line
  /-- A line of several words is not too wide. -/
  within : ∀ l ∈ ls, 2 ≤ (words l).length → Length.less limit (width l) = false
  /-- With the first word of the next line a line is too wide. -/
  full : ls.IsChain fun l next =>
    ∃ w, (words next).head? = some w ∧ Length.less limit (width (l ++ ' ' :: w)) = true

/-- Lines are wrapped greedily and without loss, however the widths of texts are measured. -/
theorem isWrapping_wrapLine
    (hless : ∀ a b : α, Length.atMost a b = true → Length.less b a = false)
    (width : Text → α) (limit : α) (line : Text) :
    IsWrapping width limit line (wrapLine width limit line) := by
  unfold wrapLine
  split
  · next hfits =>
    refine ⟨List.flatMap_singleton words line, fun l hl _ => ?_, List.IsChain.singleton line⟩
    rw [List.mem_singleton.1 hl]
    exact hless _ _ hfits
  · let tooWide (s : Text) : Bool := Length.less limit (width s)
    have hws : ∀ w ∈ words line, words w = [w] := fun w hw => words_of_mem_words hw
    have hempty : 2 ≤ (words []).length → tooWide [] = false := fun htwo => absurd htwo (by decide)
    have hfits : ∀ l ∈ fillLines tooWide [] (words line),
        2 ≤ (words l).length → tooWide l = false := fits_of_mem_fillLines hws hempty
    have hfull : (fillLines tooWide [] (words line)).IsChain fun l next =>
        ∃ w, (words next).head? = some w ∧ tooWide (l ++ ' ' :: w) = true := isChain_fillLines hws
    exact ⟨flatMap_words_fillLines hws, hfits, hfull⟩

/-- A label of several words, the first of which is wider than its lines may be. -/
def wideLabel : Text := "documentation of  the orders".toList

theorem isWrapping_wideLabel :
    (∀ a b : Rat, Length.atMost a b = true → Length.less b a = false) ∧
      wrapLine (textWidth (10 : Rat)) 50 wideLabel =
        ["documentation".toList, "of the".toList, "orders".toList] ∧
      IsWrapping (textWidth (10 : Rat)) 50 wideLabel
        (wrapLine (textWidth (10 : Rat)) 50 wideLabel) := by
  have hless : ∀ a b : Rat, Length.atMost a b = true → Length.less b a = false := by
    intro a b hab
    exact decide_eq_false (Rat.not_lt.2 (of_decide_eq_true hab))
  exact ⟨hless, by decide +kernel, isWrapping_wrapLine hless (textWidth (10 : Rat)) 50 wideLabel⟩

end Wrapped

end Swimlane
