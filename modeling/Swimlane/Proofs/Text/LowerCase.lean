import Swimlane.Proofs.Text.Basic
import Swimlane.Text.LetterDigit
import Swimlane.Text.LowerCase

/-!
# Small letters

The small letter for a capital is a letter, and small itself; so to make a letter small twice is
to do it once.  There is one exception, the capital I with a dot above (`dottedCapital`): of the
two characters that it becomes, the second is a mark that belongs to no word.  Letters and
capitals are listed as ranges and runs of code points, and what holds of them is checked range by
range and run by run.
-/

namespace Swimlane

/-! ## Ranges of code points -/

/-- A code point in a list of ranges is in one of them. -/
theorem exists_range_of_inRanges {n : Nat} {ranges : List (Nat × Nat)}
    (h : inRanges n ranges = true) : ∃ r ∈ ranges, r.1 ≤ n ∧ n ≤ r.2 := by
  induction ranges with
  | nil => cases h
  | cons r rest ih =>
    obtain ⟨lo, hi⟩ := r
    rw [inRanges] at h
    split at h
    · cases h
    · next hlo =>
      split at h
      · next hhi => exact ⟨(lo, hi), List.mem_cons_self, not_lt.1 hlo, hhi⟩
      · obtain ⟨r, hr, hn⟩ := ih h
        exact ⟨r, List.mem_cons_of_mem _ hr, hn⟩

/-- Is one of the ranges, sought as a code point is, all of those from `lo` to `hi`? -/
def holdsRange (lo hi : Nat) : List (Nat × Nat) → Bool
  | [] => false
  | (first, last) :: rest => Nat.ble first lo && (Nat.ble hi last || holdsRange lo hi rest)

theorem inRanges_of_holdsRange {lo hi n : Nat} {ranges : List (Nat × Nat)}
    (h : holdsRange lo hi ranges = true) (hlo : lo ≤ n) (hhi : n ≤ hi) :
    inRanges n ranges = true := by
  induction ranges with
  | nil => cases h
  | cons r rest ih =>
    obtain ⟨first, last⟩ := r
    simp only [holdsRange, Bool.and_eq_true, Bool.or_eq_true, Nat.ble_eq] at h
    obtain ⟨hfirst, hlast⟩ := h
    rw [inRanges, if_neg (not_lt.2 (hfirst.trans hlo))]
    rcases hlast with hlast | hrest
    · exact if_pos (hhi.trans hlast)
    · rw [ih hrest]
      exact ite_self _

/-- Letters and digits are not blank. -/
theorem isBlank_eq_false_of_isLetterDigit {c : Char} (h : isLetterDigit c = true) :
    isBlank c = false := by
  have hblanks : ∀ r ∈ blankRanges, ∀ k < r.2 + 1 - r.1,
      inRanges (r.1 + k) letterDigitRanges = false := by
    decide +kernel
  by_contra hblank
  obtain ⟨r, hr, hlo, hhi⟩ := exists_range_of_inRanges (eq_true_of_ne_false hblank)
  have hnone := hblanks r hr (c.toNat - r.1) (by omega)
  rw [Nat.add_sub_of_le hlo, ← isLetterDigit, h] at hnone
  cases hnone

/-! ## Runs of capitals -/

namespace CaseRun

/-- The code point is one of the run. -/
def HasCapital (run : CaseRun) (n : Nat) : Prop :=
  run.first ≤ n ∧ n ≤ run.last ∧ (n - run.first) % run.step = 0

/-- The end of the small letters of a run. -/
def lastImage (run : CaseRun) : Nat := run.image + (run.last - run.first)

/-- Do the small letters of a run stand before another run or after it, or between its capitals? -/
def misses (run other : CaseRun) : Bool :=
  Nat.blt run.lastImage other.first || Nat.blt other.last run.image ||
    (Nat.beq run.step 2 || Nat.beq run.last run.first) && Nat.beq other.step 2 &&
      Nat.beq ((run.image + other.first) % 2) 1

/-- The small letter of a capital is no capital of a run that is missed. -/
theorem not_hasCapital_of_misses {run other : CaseRun} (h : run.misses other = true) {n : Nat}
    (hn : run.HasCapital n) : ¬other.HasCapital (run.image + (n - run.first)) := by
  obtain ⟨hfirst, hlast, hstep⟩ := hn
  rintro ⟨hofirst, holast, hostep⟩
  simp only [misses, lastImage, Bool.or_eq_true, Bool.and_eq_true, Nat.blt_eq, Nat.beq_eq] at h
  rcases h with (hbefore | hafter) | ⟨⟨hkind, hotwo⟩, hparity⟩
  · omega
  · omega
  · have heven : (n - run.first) % 2 = 0 := by
      rcases hkind with htwo | hone
      · rw [← htwo]
        exact hstep
      · omega
    rw [hotwo] at hostep
    omega

end CaseRun

/-- A code point is its own small letter, or a capital of a run. -/
theorem smallCode_cases (n : Nat) (runs : List CaseRun) : smallCode n runs = n ∨
    ∃ run ∈ runs, run.HasCapital n ∧ smallCode n runs = run.image + (n - run.first) := by
  induction runs with
  | nil => exact Or.inl rfl
  | cons run rest ih =>
    rw [smallCode]
    split
    · exact Or.inl rfl
    · next hfirst =>
      split
      · next hlast =>
        split
        · next hstep =>
          exact Or.inr ⟨run, List.mem_cons_self, ⟨not_lt.1 hfirst, hlast, hstep⟩, rfl⟩
        · exact Or.inl rfl
      · rcases ih with hself | ⟨other, hother, hcapital⟩
        · exact Or.inl hself
        · exact Or.inr ⟨other, List.mem_cons_of_mem _ hother, hcapital⟩

/-- The small letter of a small letter is itself. -/
theorem smallCode_smallCode (n : Nat) :
    smallCode (smallCode n caseRuns) caseRuns = smallCode n caseRuns := by
  have hmisses : (caseRuns.all fun run => caseRuns.all run.misses) = true := by decide +kernel
  rcases smallCode_cases n caseRuns with hself | ⟨run, hrun, hcapital, himage⟩
  · rw [hself, hself]
  · rcases smallCode_cases (smallCode n caseRuns) caseRuns with hself | ⟨other, hother, hagain, -⟩
    · exact hself
    · rw [himage] at hagain
      have hmiss := List.all_eq_true.1 (List.all_eq_true.1 hmisses run hrun) other hother
      exact absurd hagain (CaseRun.not_hasCapital_of_misses hmiss hcapital)

/-- What holds of the small letters of every run holds of the small letter of a code point, if it
holds of the code point. -/
theorem smallCode_induction {P : Nat → Prop} {n : Nat} (hself : P n)
    (hruns : ∀ run ∈ caseRuns, ∀ m, run.image ≤ m → m ≤ run.lastImage → P m) :
    P (smallCode n caseRuns) := by
  rcases smallCode_cases n caseRuns with hsame | ⟨run, hrun, ⟨hfirst, hlast, -⟩, himage⟩
  · rw [hsame]
    exact hself
  · rw [himage]
    refine hruns run hrun _ (Nat.le_add_right _ _) ?_
    rw [CaseRun.lastImage]
    omega

/-- The small letter of a character is a character. -/
theorem isValidChar_smallCode (c : Char) : (smallCode c.toNat caseRuns).isValidChar := by
  have hvalid : ∀ run ∈ caseRuns, run.lastImage < 0xD800 ∨
      0xDFFF < run.image ∧ run.lastImage < 0x110000 := by
    decide +kernel
  refine smallCode_induction c.valid fun run hrun m hlo hhi => ?_
  rcases hvalid run hrun with hlow | ⟨hhigh, hlast⟩
  · exact Or.inl (hhi.trans_lt hlow)
  · exact Or.inr ⟨hhigh.trans_le hlo, hhi.trans_lt hlast⟩

/-! ## Small letters -/

/-- The letter with a small form of two characters. -/
def dottedCapital : Char := '\u0130'

/-- The mark that is the second of these characters. -/
def dotAbove : Char := '\u0307'

/-- A letter or digit that is its own lower-case form. -/
structure IsSmall (c : Char) : Prop where
  letterDigit : isLetterDigit c = true
  lowerCase : lowerCase c = [c]

/-- Every character but one has one small letter. -/
theorem lowerCase_eq {c : Char} (hc : c ≠ dottedCapital) :
    lowerCase c = [Char.ofNat (smallCode c.toNat caseRuns)] := by
  refine if_neg fun hcode => hc ?_
  rw [← Char.ofNat_toNat c, hcode]
  rfl

/-- No lower-case form is empty. -/
theorem lowerCase_ne_nil (c : Char) : lowerCase c ≠ [] := by
  rw [lowerCase]
  split
  · exact List.cons_ne_nil _ _
  · exact List.cons_ne_nil _ _

/-- The small letter of a letter is a small letter. -/
theorem isSmall_of_mem_lowerCase {c d : Char} (hletter : isLetterDigit c = true)
    (hc : c ≠ dottedCapital) (hd : d ∈ lowerCase c) : IsSmall d := by
  have hruns : ∀ run ∈ caseRuns,
      holdsRange run.image run.lastImage letterDigitRanges = true ∧
        (Nat.blt run.lastImage 0x130 || Nat.blt 0x130 run.image) = true := by
    decide +kernel
  have hcode : d.toNat = smallCode c.toNat caseRuns := by
    rw [lowerCase_eq hc, List.mem_singleton] at hd
    rw [hd, Char.ofNat, dif_pos (isValidChar_smallCode c)]
    rfl
  have hne : d ≠ dottedCapital := by
    have hcodes : smallCode c.toNat caseRuns ≠ 0x130 := by
      refine smallCode_induction (P := (· ≠ 0x130)) (fun hself => hc ?_) ?_
      · rw [← Char.ofNat_toNat c, hself]
        rfl
      · intro run hrun m hlo hhi
        have hclear := (hruns run hrun).2
        simp only [Bool.or_eq_true, Nat.blt_eq] at hclear
        omega
    rw [← hcode] at hcodes
    rintro rfl
    exact hcodes rfl
  constructor
  · rw [isLetterDigit, hcode]
    refine smallCode_induction (P := (inRanges · letterDigitRanges = true)) hletter ?_
    intro run hrun m hlo hhi
    exact inRanges_of_holdsRange (hruns run hrun).1 hlo hhi
  · rw [lowerCase_eq hne, hcode, smallCode_smallCode, ← hcode, Char.ofNat_toNat]

/-- The mark is no letter, so it comes from the dotted capital alone. -/
theorem dotAbove_mem_lowerCase_iff {c : Char} (hletter : isLetterDigit c = true) :
    dotAbove ∈ lowerCase c ↔ c = dottedCapital := by
  constructor
  · intro hmem
    by_contra hc
    have hdot := (isSmall_of_mem_lowerCase hletter hc hmem).letterDigit
    exact absurd hdot (by decide +kernel)
  · rintro rfl
    decide +kernel

/-- No lower-case form of a letter has the dotted capital. -/
theorem dottedCapital_not_mem_lowerCase {c : Char} (hletter : isLetterDigit c = true) :
    dottedCapital ∉ lowerCase c := by
  by_cases hc : c = dottedCapital
  · subst hc
    decide +kernel
  · intro hmem
    have hself := (isSmall_of_mem_lowerCase hletter hc hmem).lowerCase
    exact absurd hself (by decide +kernel)

end Swimlane
