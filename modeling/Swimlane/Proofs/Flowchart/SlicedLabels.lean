import Swimlane.Flowchart.Sliced
import Swimlane.Proofs.Text.Basic
import Swimlane.Proofs.Text.Slice

/-!
# Labels by slices

The brackets and quotes around a label are single bytes.  So a reference or a header that is taken
apart at their offsets is taken apart between characters, and gives what it gives otherwise
(`nodeRef_eq`, `readGroupHeader_eq`).
-/

namespace Swimlane.Sliced

theorem endsWith_singleton {c : Char} {s : Text} : endsWith [c] s = true ↔ s.getLast? = some c := by
  rw [endsWith, List.isSuffixOf_iff_suffix, List.getLast?_eq_some_iff]
  exact ⟨fun ⟨t, ht⟩ => ⟨t, ht.symm⟩, fun ⟨t, ht⟩ => ⟨t, ht.symm⟩⟩

/-- A text that ends with another character than `c` goes on after it up to that one. -/
theorem exists_of_getLast?_append_cons {c d : Char} {before after : Text} (hne : c ≠ d)
    (h : (before ++ c :: after).getLast? = some d) : ∃ mid, after = mid ++ [d] := by
  rcases List.eq_nil_or_concat' after with rfl | ⟨mid, e, rfl⟩
  · rw [List.getLast?_concat] at h
    exact absurd (Option.some.inj h) hne
  · rw [← List.cons_append, ← List.append_assoc, List.getLast?_concat] at h
    exact ⟨mid, by rw [Option.some.inj h]⟩

/-! ## Quotes and brackets -/

/-- What stands between a part of `n` bytes at the beginning and one at the end. -/
theorem inside_append {first mid last : Text} {n : Nat} (hfirst : byteCount first = n)
    (hlast : byteCount last = n) : inside n (first ++ (mid ++ last)) = some mid := by
  rw [inside]
  refine slice?_eq_some_iff.2 ⟨first, last, rfl, hfirst, ?_⟩
  rw [byteCount_append, byteCount_append, hfirst, hlast, ← Nat.add_assoc, Nat.add_sub_cancel]

theorem unquote_eq (s : Text) : unquote s = some (Swimlane.unquote s) := by
  simp only [unquote, Swimlane.unquote]
  generalize trim s = t
  cases t with
  | nil => rfl
  | cons c rest =>
    by_cases hc : c = '"'
    · subst hc
      rcases List.eq_nil_or_concat' rest with rfl | ⟨mid, d, rfl⟩
      · rfl
      · have hlast : ('"' :: (mid ++ [d])).getLast? = some d := by
          rw [← List.cons_append, List.getLast?_concat]
        by_cases hd : d = '"'
        · subst hd
          have hslice : inside 1 (['"'] ++ (mid ++ ['"'])) = some mid := inside_append rfl rfl
          have hquotes : 2 ≤ byteCount ('"' :: (mid ++ ['"'])) ∧
              startsWith ['"'] ('"' :: (mid ++ ['"'])) = true ∧
              endsWith ['"'] ('"' :: (mid ++ ['"'])) = true := by
            refine ⟨?_, rfl, endsWith_singleton.2 hlast⟩
            have hsize : ('"' : Char).utf8Size = 1 := rfl
            simp only [byteCount_cons, byteCount_append, byteCount_nil, hsize]
            omega
          rw [if_pos hquotes]
          simp only [List.getLast?_concat, if_true, List.dropLast_concat]
          exact hslice
        · have hends : ¬ endsWith ['"'] ('"' :: (mid ++ [d])) = true := fun h =>
            hd (Option.some.inj (hlast.symm.trans (endsWith_singleton.1 h)))
          rw [if_neg fun h => hends h.2.2]
          simp [hd]
    · have hstart : startsWith ['"'] (c :: rest) = false := by
        simp [startsWith, List.isPrefixOf, Ne.symm hc]
      rw [if_neg fun h => by rw [hstart] at h; cases h.2.1]
      split
      · next heq => exact absurd (List.cons_eq_cons.1 heq).1 hc
      · rfl

theorem cleanLabel_eq (s : Text) : cleanLabel s = some (Swimlane.cleanLabel s) := by
  rw [cleanLabel, unquote_eq, Option.map_some, Swimlane.cleanLabel]

/-! ## Shapes -/

theorem sizes_of_mem_doubleDelimiters : ∀ d ∈ doubleDelimiters,
    byteCount d.opening = d.opening.length ∧ byteCount d.closing = d.opening.length ∧
      d.closing.length = d.opening.length :=
  forall_mem_of_all (by decide)

/-- The opening brackets, each a single byte like the one that closes it. -/
theorem sizes_of_isOpening {c : Char} (hc : isOpening c = true) :
    byteCount [c] = 1 ∧ byteCount [closingOf c] = 1 ∧ c ≠ closingOf c := by
  have hmem : c ∈ ['[', '(', '\x7b'] := by simpa [isOpening, or_assoc] using hc
  have hsizes : ∀ c ∈ ['[', '(', '\x7b'],
      byteCount [c] = 1 ∧ byteCount [closingOf c] = 1 ∧ c ≠ closingOf c :=
    forall_mem_of_all (by decide)
  exact hsizes c hmem

/-- Does the text stand in brackets? -/
def IsBracketed (s : Text) : Prop :=
  ∃ c mid, s = c :: (mid ++ [closingOf c]) ∧ isOpening c = true

theorem readBrackets_eq {s : Text} (h : IsBracketed s) :
    readBrackets s = some (Swimlane.readBrackets s) := by
  rw [readBrackets, Swimlane.readBrackets]
  cases hfind : doubleDelimiters.find? (·.enclose s) with
  | some d =>
    obtain ⟨hopening, hclosing, hlength⟩ :=
      sizes_of_mem_doubleDelimiters d (List.mem_of_find?_eq_some hfind)
    have henclose := List.find?_some hfind
    simp only [Delimiters.enclose, startsWith, endsWith, Bool.and_eq_true, decide_eq_true_eq,
      List.isPrefixOf_iff_prefix, List.isSuffixOf_iff_suffix] at henclose
    obtain ⟨⟨hlong, rest, rfl⟩, hlast⟩ := henclose
    obtain ⟨mid, rfl⟩ : d.closing <:+ rest := by
      refine List.suffix_of_suffix_length_le hlast (List.suffix_append d.opening rest) ?_
      rw [List.length_append] at hlong
      omega
    have hinside : Swimlane.inside d.opening.length (d.opening ++ (mid ++ d.closing)) = mid := by
      rw [Swimlane.inside, List.drop_left]
      refine List.take_left' ?_
      rw [List.length_append, List.length_append, hlength]
      omega
    simp [inside_append hopening hclosing, cleanLabel_eq, hinside]
  | none =>
    obtain ⟨c, mid, rfl, hc⟩ := h
    obtain ⟨hopening, hclosing, -⟩ := sizes_of_isOpening hc
    have hinside : inside 1 (c :: (mid ++ [closingOf c])) =
        some (Swimlane.inside 1 (c :: (mid ++ [closingOf c]))) := by
      have hslice : inside 1 ([c] ++ (mid ++ [closingOf c])) = some mid :=
        inside_append hopening hclosing
      rw [← List.singleton_append, hslice, Swimlane.inside]
      simp
    simp [hinside, cleanLabel_eq]

/-! ## References and headers -/

theorem splitBrackets?_eq (s : Text) : splitBrackets? s = some (Swimlane.splitBrackets? s) := by
  rw [splitBrackets?, Swimlane.splitBrackets?]
  obtain ⟨before, brackets, hspan⟩ : ∃ before brackets,
      s.span (!isOpening ·) = (before, brackets) := ⟨_, _, rfl⟩
  have hspan' : s.span (fun c => !(c = '[' || c = '(' || c = '\x7b')) = (before, brackets) := hspan
  rw [hspan, hspan']
  cases brackets with
  | nil => rfl
  | cons c after =>
    obtain ⟨rfl, hc⟩ := eq_of_span hspan
    dsimp only
    split
    · next hlast =>
      have hopening : isOpening c = true := by simpa using hc
      have hbracketed : IsBracketed (c :: after) := by
        obtain ⟨mid, rfl⟩ :=
          exists_of_getLast?_append_cons (sizes_of_isOpening hopening).2.2 hlast
        exact ⟨c, mid, rfl, hopening⟩
      rw [slice?_start, slice?_end]
      simp [readBrackets_eq hbracketed]
    · rfl

theorem splitAsymmetric?_eq (s : Text) :
    splitAsymmetric? s = some (Swimlane.splitAsymmetric? s) := by
  rw [splitAsymmetric?, Swimlane.splitAsymmetric?]
  split
  · rfl
  · next hends =>
    obtain ⟨before, rest, hspan⟩ : ∃ before rest,
        s.span (· ≠ '>') = (before, rest) := ⟨_, _, rfl⟩
    rw [hspan]
    cases rest with
    | nil => rfl
    | cons c after =>
      obtain ⟨rfl, hc⟩ := eq_of_span hspan
      obtain rfl : c = '>' := by simpa using hc
      rw [not_or, not_not] at hends
      obtain ⟨mid, rfl⟩ := exists_of_getLast?_append_cons (by decide) hends.2
      have hlabel : slice? (byteCount before + 1)
          (byteCount (before ++ '>' :: (mid ++ [']'])) - 1) (before ++ '>' :: (mid ++ [']'])) =
          some mid := by
        have hsize : ('>' : Char).utf8Size = 1 ∧ (']' : Char).utf8Size = 1 := ⟨rfl, rfl⟩
        refine slice?_eq_some_iff.2 ⟨before ++ ['>'], [']'], by simp, ?_, ?_⟩
        · simp [hsize]
        · simp only [byteCount_append, byteCount_cons, byteCount_nil, hsize]
          omega
      dsimp only
      rw [slice?_start, hlabel, List.dropLast_concat]
      simp only [Option.bind_eq_bind, Option.bind_some, cleanLabel_eq]
      split <;> rfl

theorem nodeRef_eq (s : Text) : nodeRef s = some (.ofText s) := by
  rw [nodeRef, splitAsymmetric?_eq, NodeRef.ofText]
  cases Swimlane.splitAsymmetric? s with
  | some found => rfl
  | none =>
    simp only [Option.bind_eq_bind, Option.bind_some, splitBrackets?_eq]
    cases Swimlane.splitBrackets? s <;> rfl

theorem readGroupHeader_eq (s : Text) :
    readGroupHeader s = some (Swimlane.readGroupHeader s) := by
  simp only [readGroupHeader, Swimlane.readGroupHeader]
  split
  · rfl
  · rw [splitBrackets?_eq, unquote_eq, Option.bind_eq_bind, Option.bind_some]
    cases Swimlane.splitBrackets? (withoutClass s) with
    | none =>
      dsimp only
      split <;> rfl
    | some found =>
      obtain ⟨_ | id, label, shape⟩ := found
      · dsimp only
        split <;> rfl
      · rfl

end Swimlane.Sliced
