import Swimlane.Proofs.Text.LowerCase
import Swimlane.Text.Words

/-!
# Keys of names

The key of a name is its words in small letters, with underscores between them, so that it is its
own key.  Only a name with the dotted capital has a key that is not (`nameKey_nameKey_iff`), with a
mark in it that belongs to no word (`dotAbove_mem_nameKey_iff`).
-/

namespace Swimlane

/-! ## Runs -/

section Runs

variable {p : Char → Bool} {s w : Text} {c : Char}

/-- A run is not empty, and its characters are those of the text that it is made of. -/
theorem of_mem_runs (hw : w ∈ runs p s) : w ≠ [] ∧ ∀ c ∈ w, c ∈ s ∧ p c = true := by
  obtain ⟨hpiece, hne⟩ := List.mem_filter.1 hw
  refine ⟨of_decide_eq_true hne, fun c hc => ?_⟩
  obtain ⟨hmem, hp⟩ := of_mem_pieces hpiece hc
  exact ⟨hmem, by simpa using hp⟩

/-- A run stands in the text. -/
theorem infix_of_mem_runs (hw : w ∈ runs p s) : w <:+: s :=
  infix_of_mem_pieces (List.mem_filter.1 hw).1

/-- Every character that runs are made of stands in a run. -/
theorem exists_mem_runs (hc : c ∈ s) (hp : p c = true) : ∃ w ∈ runs p s, c ∈ w := by
  obtain ⟨w, hw, hcw⟩ := exists_mem_pieces (p := fun c => !p c) hc (by rw [hp]; rfl)
  exact ⟨w, List.mem_filter.2 ⟨hw, decide_eq_true (List.ne_nil_of_mem hcw)⟩, hcw⟩

/-- A character that no run has ends a run, whatever comes before and after it. -/
theorem runs_append (hc : p c = false) (s rest : Text) :
    runs p (s ++ c :: rest) = runs p s ++ runs p rest := by
  rw [runs, pieces_append (by rw [hc]; rfl), List.filter_append]
  rfl

theorem runs_eq_nil (h : ∀ c ∈ s, p c = false) : runs p s = [] := by
  refine List.eq_nil_iff_forall_not_mem.2 fun w hw => ?_
  obtain ⟨hne, hchars⟩ := of_mem_runs hw
  obtain ⟨c, hc⟩ := List.exists_mem_of_ne_nil w hne
  have hp := (hchars c hc).2
  rw [h c (hchars c hc).1] at hp
  cases hp

/-- What no run has makes no difference after a text. -/
theorem runs_append_eq (h : ∀ c ∈ w, p c = false) (s : Text) : runs p (s ++ w) = runs p s := by
  cases w with
  | nil => rw [List.append_nil]
  | cons c w =>
    obtain ⟨hc, hw⟩ := List.forall_mem_cons.1 h
    rw [runs_append hc, runs_eq_nil hw, List.append_nil]

/-- What no run has makes no difference before a text. -/
theorem runs_eq_of_append (h : ∀ c ∈ w, p c = false) (s : Text) : runs p (w ++ s) = runs p s := by
  induction w with
  | nil => rfl
  | cons c w ih =>
    obtain ⟨hc, hw⟩ := List.forall_mem_cons.1 h
    exact (runs_append hc [] (w ++ s)).trans (ih hw)

/-- Texts of characters that runs are made of are the runs of what they are joined to. -/
theorem runs_joinWith (hc : p c = false) {ws : List Text} (hne : ∀ w ∈ ws, w ≠ [])
    (hws : ∀ w ∈ ws, ∀ d ∈ w, p d = true) : runs p (joinWith [c] ws) = ws := by
  cases ws with
  | nil => rfl
  | cons w rest =>
    rw [runs, pieces_joinWith_of_open (by rw [hc]; rfl) (List.cons_ne_nil w rest),
      List.filter_eq_self]
    · exact fun v hv => decide_eq_true (hne v hv)
    · intro v hv d hd
      rw [hws v hv d hd]
      rfl

end Runs

/-! ## Words -/

/-- A text of small letters and digits. -/
def IsSmallWord (w : Text) : Prop := w ≠ [] ∧ ∀ c ∈ w, IsSmall c

/-- The lower-case form of a small word is the word. -/
theorem IsSmallWord.flatMap_lowerCase {w : Text} (h : IsSmallWord w) : w.flatMap lowerCase = w := by
  rw [List.flatMap_congr fun c hc => (h.2 c hc).lowerCase]
  exact List.flatMap_singleton' w

theorem flatMap_lowerCase_ne_nil {w : Text} (hw : w ≠ []) : w.flatMap lowerCase ≠ [] := by
  obtain ⟨c, rest, rfl⟩ := List.exists_cons_of_ne_nil hw
  rw [List.flatMap_cons]
  exact List.append_ne_nil_of_left_ne_nil (lowerCase_ne_nil c) _

/-- Without a dotted capital the words of a name are small. -/
theorem isSmallWord_of_mem_nameWords {s w : Text} (hs : dottedCapital ∉ s)
    (hw : w ∈ nameWords s) : IsSmallWord w := by
  obtain ⟨v, hv, rfl⟩ := List.mem_map.1 hw
  obtain ⟨hne, hletters⟩ := of_mem_runs hv
  refine ⟨flatMap_lowerCase_ne_nil hne, fun d hd => ?_⟩
  obtain ⟨c, hc, hdc⟩ := List.mem_flatMap.1 hd
  obtain ⟨hmem, hletter⟩ := hletters c hc
  exact isSmall_of_mem_lowerCase hletter (fun heq => hs (heq ▸ hmem)) hdc

/-- Blanks are in no word, so that trimming makes no difference to a key. -/
theorem nameKey_trim (s : Text) : nameKey (trim s) = nameKey s := by
  have hblank : ∀ c, isBlank c = true → isLetterDigit c = false := by
    intro c hc
    by_contra hletter
    rw [isBlank_eq_false_of_isLetterDigit (eq_true_of_ne_false hletter)] at hc
    cases hc
  obtain ⟨front, back, hfront, hback, hs⟩ := exists_eq_append_trim s
  have hruns : runs isLetterDigit s = runs isLetterDigit (trim s) := by
    conv_lhs => rw [hs]
    rw [runs_eq_of_append fun c hc => hblank c (hfront c hc),
      runs_append_eq fun c hc => hblank c (hback c hc)]
  rw [nameKey, nameKey, nameWords, nameWords, hruns]

/-- Small words joined by underscores are their own key. -/
theorem nameKey_joinWith {ws : List Text} (hws : ∀ w ∈ ws, IsSmallWord w) :
    nameKey (joinWith ['_'] ws) = joinWith ['_'] ws := by
  rw [nameKey, nameWords, runs_joinWith (by decide +kernel) (fun w hw => (hws w hw).1)
    fun w hw c hc => ((hws w hw).2 c hc).letterDigit]
  rw [List.map_congr_left fun w hw => (hws w hw).flatMap_lowerCase, List.map_id']

/-- Without a dotted capital the key of a name is its own key. -/
theorem nameKey_nameKey {s : Text} (hs : dottedCapital ∉ s) : nameKey (nameKey s) = nameKey s :=
  nameKey_joinWith fun _ => isSmallWord_of_mem_nameWords hs

/-- A key has underscores, and what the letters and digits of a name are in lower case. -/
theorem mem_nameKey {s : Text} {c : Char} (hc : c ∈ nameKey s) :
    c = '_' ∨ ∃ d ∈ s, isLetterDigit d = true ∧ c ∈ lowerCase d := by
  refine (of_mem_joinWith hc).imp List.mem_singleton.1 ?_
  rintro ⟨w, hw, hcw⟩
  obtain ⟨v, hv, rfl⟩ := List.mem_map.1 hw
  obtain ⟨d, hd, hcd⟩ := List.mem_flatMap.1 hcw
  exact ⟨d, ((of_mem_runs hv).2 d hd).1, ((of_mem_runs hv).2 d hd).2, hcd⟩

/-- What a letter or digit is in lower case is in the key. -/
theorem mem_nameKey_of_mem_lowerCase {s : Text} {c d : Char} (hd : d ∈ s)
    (hletter : isLetterDigit d = true) (hc : c ∈ lowerCase d) : c ∈ nameKey s := by
  obtain ⟨w, hw, hdw⟩ := exists_mem_runs hd hletter
  exact mem_joinWith (List.mem_map_of_mem hw) (List.mem_flatMap.2 ⟨d, hdw, hc⟩)

/-- A key has the mark exactly if the name has the dotted capital. -/
theorem dotAbove_mem_nameKey_iff {s : Text} : dotAbove ∈ nameKey s ↔ dottedCapital ∈ s := by
  constructor
  · intro hmem
    rcases mem_nameKey hmem with hunderscore | ⟨d, hd, hletter, hdot⟩
    · exact absurd hunderscore (by decide)
    · rw [dotAbove_mem_lowerCase_iff hletter] at hdot
      exact hdot ▸ hd
  · intro hs
    have hletter : isLetterDigit dottedCapital = true := by decide +kernel
    exact mem_nameKey_of_mem_lowerCase hs hletter ((dotAbove_mem_lowerCase_iff hletter).2 rfl)

/-- No key has the dotted capital. -/
theorem dottedCapital_not_mem_nameKey (s : Text) : dottedCapital ∉ nameKey s := by
  intro hmem
  rcases mem_nameKey hmem with hunderscore | ⟨d, -, hletter, hcapital⟩
  · exact absurd hunderscore (by decide)
  · exact dottedCapital_not_mem_lowerCase hletter hcapital

/-- The key of a key is the key, unless the name has a dotted capital. -/
theorem nameKey_nameKey_iff {s : Text} : nameKey (nameKey s) = nameKey s ↔ dottedCapital ∉ s := by
  refine ⟨fun hself hs => ?_, nameKey_nameKey⟩
  rw [← dotAbove_mem_nameKey_iff, ← hself, dotAbove_mem_nameKey_iff] at hs
  exact dottedCapital_not_mem_nameKey s hs

end Swimlane
