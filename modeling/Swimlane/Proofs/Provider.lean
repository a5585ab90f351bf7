import Mathlib.Data.List.Find
import Mathlib.Data.List.Infix
import Swimlane.Classification.Rule
import Swimlane.Proofs.Text.Words

/-!
# The provider that names mention

Words are looked for in one text, in which the words of the identifier and then those of the
label stand between blanks.  To be found there is to stand among the words one after another
(`infix_padded_iff`).  So a provider is found that one of the two names mentions, and one more that
neither does: the words of `google cloud` may be the last of the identifier and the first of the
label (`provider?_eq`).
-/

namespace Swimlane

/-! ## Words between blanks -/

section Padded

variable {w : Text} {ws part : List Text}

/-- Words, each with a blank after it. -/
def blankEnded (ws : List Text) : Text := ws.flatMap fun w => w ++ [' ']

/-- Words with a blank before the first and after each. -/
def padded (ws : List Text) : Text := ' ' :: blankEnded ws

theorem blankEnded_cons (w : Text) (ws : List Text) :
    blankEnded (w :: ws) = w ++ ' ' :: blankEnded ws := by
  rw [blankEnded, List.flatMap_cons, List.append_assoc]
  rfl

theorem blankEnded_append (front back : List Text) :
    blankEnded (front ++ back) = blankEnded front ++ blankEnded back :=
  List.flatMap_append

/-- A text of padded words ends with a blank. -/
theorem exists_padded_eq (ws : List Text) : ∃ s, padded ws = s ++ [' '] := by
  induction ws using List.reverseRecOn with
  | nil => exact ⟨[], rfl⟩
  | append_singleton ws w ih =>
    refine ⟨padded ws ++ w, ?_⟩
    rw [padded, blankEnded_append, padded, List.append_assoc, blankEnded_cons]
    rfl

/-- Texts that are equal up to a character that neither has before it are equal before and after
it. -/
theorem append_cons_inj {c : Char} {s t front back : Text} (hs : c ∉ s) (ht : c ∉ t)
    (h : s ++ c :: front = t ++ c :: back) : s = t ∧ front = back := by
  have hspan : ∀ {u rest : Text}, c ∉ u → (u ++ c :: rest).span (· ≠ c) = (u, c :: rest) := by
    intro u rest hu
    apply span_append_cons
    · intro d hd
      exact decide_eq_true fun heq => hu (heq ▸ hd)
    · simp
  have hparts := (hspan hs).symm.trans (h ▸ hspan ht)
  rw [Prod.mk.injEq, List.cons_inj_right] at hparts
  exact hparts

/-- Words begin padded words exactly if they begin as a text. -/
theorem prefix_blankEnded_iff (hpart : ∀ w ∈ part, ' ' ∉ w) (hws : ∀ w ∈ ws, ' ' ∉ w) :
    blankEnded part <+: blankEnded ws ↔ part <+: ws := by
  induction part generalizing ws with
  | nil => simp [blankEnded]
  | cons v part ih =>
    rw [List.forall_mem_cons] at hpart
    cases ws with
    | nil =>
      rw [blankEnded_cons]
      simp [blankEnded]
    | cons w ws =>
      rw [List.forall_mem_cons] at hws
      rw [List.cons_prefix_cons, ← ih hpart.2 hws.2, blankEnded_cons, blankEnded_cons]
      constructor
      · rintro ⟨rest, heq⟩
        rw [List.append_assoc, List.cons_append] at heq
        obtain ⟨hword, heq⟩ := append_cons_inj hpart.1 hws.1 heq
        exact ⟨hword, rest, heq⟩
      · rintro ⟨rfl, h⟩
        exact (List.prefix_append_right_inj v).2 (List.cons_prefix_cons.2 ⟨rfl, h⟩)

/-- What begins with a character that a text does not have occurs only after the text. -/
theorem infix_of_cons_infix_append {c : Char} {s rest more : Text} (hs : c ∉ s)
    (h : c :: more <:+: s ++ rest) : c :: more <:+: rest := by
  induction s with
  | nil => exact h
  | cons d s ih =>
    rw [List.mem_cons, not_or] at hs
    rw [List.cons_append, List.infix_cons_iff] at h
    rcases h with h | h
    · exact absurd (List.cons_prefix_cons.1 h).1 hs.1
    · exact ih hs.2 h

/-- Padded words occur in padded words exactly if they stand there one after another. -/
theorem infix_padded_iff (hpart : ∀ w ∈ part, ' ' ∉ w) (hws : ∀ w ∈ ws, ' ' ∉ w) :
    padded part <:+: padded ws ↔ part <:+: ws := by
  constructor
  · intro h
    induction ws with
    | nil =>
      refine List.IsPrefix.isInfix ((prefix_blankEnded_iff hpart hws).1 ?_)
      rw [padded, padded, List.infix_cons_iff] at h
      rcases h with h | h
      · exact (List.cons_prefix_cons.1 h).2
      · exact absurd (List.infix_nil.1 h) (List.cons_ne_nil _ _)
    | cons w ws ih =>
      rw [padded, padded, List.infix_cons_iff] at h
      rcases h with h | h
      · exact ((prefix_blankEnded_iff hpart hws).1 (List.cons_prefix_cons.1 h).2).isInfix
      · rw [List.forall_mem_cons] at hws
        rw [blankEnded_cons] at h
        exact List.infix_cons (ih hws.2 (infix_of_cons_infix_append hws.1 h))
  · rintro ⟨front, back, rfl⟩
    obtain ⟨s, hs⟩ := exists_padded_eq front
    refine ⟨s, blankEnded back, ?_⟩
    show s ++ ([' '] ++ blankEnded part) ++ blankEnded back = _
    rw [← List.append_assoc s, ← hs, padded, padded, blankEnded_append, blankEnded_append,
      List.cons_append, List.cons_append]

end Padded

/-! ## The text that is searched -/

section Spelled

variable {base s w : Text}

/-- A text with a blank at its end. -/
def endBlank (s : Text) : Text := if s.getLast? = some ' ' then s else s ++ [' ']

/-- A text and one more character: a letter or digit in lower case, and anything else as a blank,
unless there is one already. -/
def spell (s : Text) (c : Char) : Text :=
  if isLetterDigit c then s ++ lowerCase c else endBlank s

/-- The names spelled one after another, with a blank at the end of each. -/
def spelled (names : List Text) : Text :=
  names.foldl (fun s name => endBlank (name.foldl spell s)) [' ']

/-- No letter or digit has a blank in its lower-case form. -/
theorem blank_not_mem_lowerCase {c : Char} (hc : isLetterDigit c = true) : ' ' ∉ lowerCase c := by
  by_cases hdotted : c = dottedCapital
  · subst hdotted
    decide +kernel
  · intro hmem
    have hblank := isBlank_eq_false_of_isLetterDigit
      (isSmall_of_mem_lowerCase hc hdotted hmem).letterDigit
    exact absurd hblank (by decide)

/-- Words are without blanks. -/
theorem blank_not_mem_of_mem_nameWords {name : Text} (hw : w ∈ nameWords name) : ' ' ∉ w := by
  obtain ⟨run, hrun, rfl⟩ := List.mem_map.1 hw
  intro hmem
  obtain ⟨c, hc, hblank⟩ := List.mem_flatMap.1 hmem
  exact blank_not_mem_lowerCase ((of_mem_runs hrun).2 c hc).2 hblank

theorem nameWords_append_cons {c : Char} (hc : isLetterDigit c = false) (front back : Text) :
    nameWords (front ++ c :: back) = nameWords front ++ nameWords back := by
  rw [nameWords, nameWords, nameWords, runs, pieces_append (by rw [hc]; rfl), List.filter_append,
    List.map_append]
  rfl

/-- After letters and digits, which continue a word, a blank ends the word, if there is one. -/
theorem endBlank_append (hbase : base.getLast? = some ' ')
    (hw : ∀ c ∈ w, isLetterDigit c = true) :
    endBlank (base ++ w.flatMap lowerCase) = base ++ blankEnded (nameWords w) := by
  have hpieces : pieces (fun c => !isLetterDigit c) w = [w] :=
    pieces_eq_singleton fun c hc => by rw [hw c hc]; rfl
  rw [nameWords, runs, hpieces]
  by_cases hnil : w = []
  · subst hnil
    rw [List.flatMap_nil, List.append_nil, endBlank, if_pos hbase]
    simp [blankEnded]
  · have hspelled : w.flatMap lowerCase ≠ [] := by
      obtain ⟨c, rest, rfl⟩ := List.exists_cons_of_ne_nil hnil
      rw [List.flatMap_cons]
      exact List.append_ne_nil_of_left_ne_nil (lowerCase_ne_nil c) _
    have hlast : (base ++ w.flatMap lowerCase).getLast? ≠ some ' ' := by
      rw [List.getLast?_append_of_ne_nil _ hspelled]
      intro hblank
      obtain ⟨c, hc, hmem⟩ := List.mem_flatMap.1 (List.mem_of_getLast? hblank)
      exact blank_not_mem_lowerCase (hw c hc) hmem
    rw [endBlank, if_neg hlast, List.filter_cons_of_pos (by simpa using hnil)]
    simp [blankEnded]

/-- A text that ends with a blank goes on with the words of a name; `w` is the word that has
begun. -/
theorem endBlank_foldl_spell (hbase : base.getLast? = some ' ')
    (hw : ∀ c ∈ w, isLetterDigit c = true) :
    endBlank (s.foldl spell (base ++ w.flatMap lowerCase)) =
      base ++ blankEnded (nameWords (w ++ s)) := by
  -- A letter or digit goes on with the word that has begun; what is neither ends it, and the base
  -- is then the longer text.
  induction s generalizing base w with
  | nil =>
    rw [List.append_nil]
    exact endBlank_append hbase hw
  | cons c s ih =>
    rw [List.foldl_cons, spell]
    by_cases hc : isLetterDigit c
    · rw [if_pos hc, List.append_assoc]
      have hlonger : ∀ d ∈ w ++ [c], isLetterDigit d = true := by
        intro d hd
        rcases List.mem_append.1 hd with hd | hd
        · exact hw d hd
        · exact List.mem_singleton.1 hd ▸ hc
      have hstep := ih hbase hlonger
      rw [List.flatMap_append, List.flatMap_singleton, List.append_assoc w] at hstep
      exact hstep
    · rw [if_neg hc, endBlank_append hbase hw, nameWords_append_cons (by simpa using hc),
        blankEnded_append, ← List.append_assoc]
      have hlast : (base ++ blankEnded (nameWords w)).getLast? = some ' ' := by
        obtain ⟨front, rfl⟩ := List.getLast?_eq_some_iff.1 hbase
        obtain ⟨s, hs⟩ := exists_padded_eq (nameWords w)
        rw [List.append_assoc]
        show (front ++ padded (nameWords w)).getLast? = _
        rw [hs, ← List.append_assoc, List.getLast?_concat]
      have hstep := ih (w := []) hlast fun d hd => absurd hd List.not_mem_nil
      rw [List.flatMap_nil, List.append_nil, List.nil_append] at hstep
      exact hstep

/-- What is searched are the words of the names, padded. -/
theorem spelled_eq (names : List Text) : spelled names = padded (names.flatMap nameWords) := by
  induction names using List.reverseRecOn with
  | nil => rfl
  | append_singleton names name ih =>
    have hlast : (spelled names).getLast? = some ' ' := by
      obtain ⟨s, hs⟩ := exists_padded_eq (names.flatMap nameWords)
      rw [ih, hs, List.getLast?_concat]
    have hstep := endBlank_foldl_spell (s := name) (w := []) hlast
      fun d hd => absurd hd List.not_mem_nil
    rw [List.flatMap_nil, List.append_nil, List.nil_append] at hstep
    rw [spelled, List.foldl_append, List.foldl_cons, List.foldl_nil]
    show endBlank (name.foldl spell (spelled names)) = _
    rw [hstep, ih, List.flatMap_append, List.flatMap_singleton, padded, padded, blankEnded_append,
      List.cons_append]

end Spelled

/-! ## Providers -/

namespace GroupFacts

/-- The provider whose words are found in the text of both names. -/
def spelledProvider? (f : GroupFacts) : Option Text :=
  (providerWords.find? fun entry => occursIn (padded entry.1) (spelled [f.id, f.label])).map (·.2)

/-- The provider that one of the names mentions by itself. -/
def ownProvider? (f : GroupFacts) : Option Text :=
  (providerWords.find? fun entry =>
    occursIn entry.1 (nameWords f.id) || occursIn entry.1 (nameWords f.label)).map (·.2)

/-- The identifier ends with `google`, and the label begins with `cloud`. -/
def SplitsGoogleCloud (f : GroupFacts) : Prop :=
  (nameWords f.id).getLast? = some "google".toList ∧
    (nameWords f.label).head? = some "cloud".toList

instance (f : GroupFacts) : Decidable f.SplitsGoogleCloud :=
  inferInstanceAs (Decidable (_ ∧ _))

/-- To search the text of the names is to look for words among theirs. -/
theorem spelledProvider?_eq (f : GroupFacts) : f.spelledProvider? = f.provider? := by
  have hpart : ∀ entry ∈ providerWords, ∀ w ∈ entry.1, ' ' ∉ w := by
    decide +kernel
  have hws : ∀ w ∈ f.words, ' ' ∉ w := by
    intro w hw
    exact (List.mem_append.1 hw).elim blank_not_mem_of_mem_nameWords blank_not_mem_of_mem_nameWords
  have hspelled : spelled [f.id, f.label] = padded f.words := by
    rw [spelled_eq, List.flatMap_cons, List.flatMap_singleton]
    rfl
  rw [spelledProvider?, provider?, hspelled]
  refine congrArg _ (List.find?_congr fun entry hentry => Bool.eq_iff_iff.2 ?_)
  rw [occursIn_iff, occursIn_iff]
  exact infix_padded_iff (hpart entry hentry) hws

/-- A word is among those of the names if it is among those of one of them. -/
theorem occursIn_singleton_words (f : GroupFacts) (w : Text) :
    occursIn [w] f.words =
      (occursIn [w] (nameWords f.id) || occursIn [w] (nameWords f.label)) := by
  rw [Bool.eq_iff_iff, Bool.or_eq_true, occursIn_iff, occursIn_iff, occursIn_iff,
    List.singleton_infix_iff, List.singleton_infix_iff, List.singleton_infix_iff, words,
    List.mem_append]

/-- Two words stand one after another in one of the names, or one at the end of the first and one
at the beginning of the second. -/
theorem occursIn_pair_words_iff (f : GroupFacts) (v w : Text) :
    occursIn [v, w] f.words = true ↔
      (occursIn [v, w] (nameWords f.id) || occursIn [v, w] (nameWords f.label)) = true ∨
        ((nameWords f.id).getLast? = some v ∧ (nameWords f.label).head? = some w) := by
  rw [Bool.or_eq_true, occursIn_iff, occursIn_iff, occursIn_iff, words,
    List.infix_append_iff_ne_nil, or_assoc]
  refine or_congr_right (or_congr_right ⟨?_, ?_⟩)
  · rintro ⟨front, back, hfront, hback, heq, hend, hstart⟩
    obtain ⟨a, front, rfl⟩ := List.exists_cons_of_ne_nil hfront
    obtain ⟨b, back, rfl⟩ := List.exists_cons_of_ne_nil hback
    have hlength := congrArg List.length heq
    simp only [List.length_cons, List.length_append, List.length_nil] at hlength
    obtain rfl := List.eq_nil_of_length_eq_zero (show front.length = 0 by omega)
    obtain rfl := List.eq_nil_of_length_eq_zero (show back.length = 0 by omega)
    cases heq
    exact ⟨List.singleton_suffix_iff_getLast?_eq_some.1 hend,
      List.singleton_prefix_iff_head?_eq_some.1 hstart⟩
  · rintro ⟨hend, hstart⟩
    exact ⟨[v], [w], List.cons_ne_nil _ _, List.cons_ne_nil _ _, rfl,
      List.singleton_suffix_iff_getLast?_eq_some.2 hend,
      List.singleton_prefix_iff_head?_eq_some.2 hstart⟩

end GroupFacts

/-- The entries for a provider that is known by one word, and the last one. -/
theorem exists_providerWords_eq : ∃ singles : List (List Text × Text),
    providerWords = singles ++ [(["google".toList, "cloud".toList], "google_cloud".toList)] ∧
      ∀ entry ∈ singles, ∃ w, entry.1 = [w] := by
  refine ⟨providerWords.take 5, rfl, ?_⟩
  show ∀ entry ∈ [_, _, _, _, _], _
  simp only [List.forall_mem_cons]
  exact ⟨⟨_, rfl⟩, ⟨_, rfl⟩, ⟨_, rfl⟩, ⟨_, rfl⟩, ⟨_, rfl⟩, List.forall_mem_nil _⟩

/-- The provider of a group is that of the first entry whose words stand one after another in the
identifier or in the label.  Only where there is none can it be one more: `google_cloud`, if the
identifier ends with `google` and the label begins with `cloud`. -/
theorem provider?_eq (f : GroupFacts) :
    f.spelledProvider? = f.provider? ∧
      f.provider? =
        if f.ownProvider? = none ∧ f.SplitsGoogleCloud then some "google_cloud".toList
        else f.ownProvider? := by
  refine ⟨f.spelledProvider?_eq, ?_⟩
  obtain ⟨singles, hwords, hsingles⟩ := exists_providerWords_eq
  have hfind : (singles.find? fun entry => occursIn entry.1 f.words) = singles.find? fun entry =>
      occursIn entry.1 (nameWords f.id) || occursIn entry.1 (nameWords f.label) := by
    refine List.find?_congr fun entry hentry => ?_
    obtain ⟨w, hw⟩ := hsingles entry hentry
    rw [hw, f.occursIn_singleton_words]
  have hpair := f.occursIn_pair_words_iff "google".toList "cloud".toList
  rw [GroupFacts.provider?, GroupFacts.ownProvider?, hwords, List.find?_append, List.find?_append,
    hfind]
  cases singles.find? fun entry =>
    occursIn entry.1 (nameWords f.id) || occursIn entry.1 (nameWords f.label) with
  | some entry => simp
  | none =>
    simp only [List.find?_singleton, Option.none_or]
    by_cases hown : (occursIn ["google".toList, "cloud".toList] (nameWords f.id) ||
        occursIn ["google".toList, "cloud".toList] (nameWords f.label)) = true
    · rw [if_pos hown, if_pos (hpair.2 (.inl hown))]
      rfl
    · rw [if_neg hown]
      by_cases hsplit : f.SplitsGoogleCloud
      · rw [if_pos (hpair.2 (.inr hsplit)), if_pos ⟨rfl, hsplit⟩]
        rfl
      · rw [if_neg fun h => (hpair.1 h).elim hown hsplit, if_neg fun h => hsplit h.2]

/-- A provider that neither of the names mentions. -/
theorem provider?_ne_ownProvider? :
    let f : GroupFacts := ⟨"google".toList, "cloud".toList, 0, []⟩
    f.ownProvider? = none ∧ f.provider? = some "google_cloud".toList := by
  decide +kernel

end Swimlane
