import Mathlib.Data.List.DropRight
import Swimlane.Proofs.Text.Words

/-!
# Keys written in one pass

`nameKey` cuts a name into words and joins them.  The same key comes of one pass over the name that
writes as it reads: a letter or digit in lower case, and one underscore for whatever stands
between them, unless nothing has been written yet; what was written after the last word is taken
back.  `scanKey_eq` shows the two equal: the pass writes piece by piece, and after each piece it
has written the words so far, with or without an underscore behind them.
-/

namespace Swimlane

/-! ## The pass -/

/-- Writes the underscore after a word, if there is one that it has not been written after. -/
def endWord (key : Text) : Text :=
  if key ≠ [] ∧ key.getLast? ≠ some '_' then key ++ ['_'] else key

/-- Reads one more character of a name. -/
def scanChar (key : Text) (c : Char) : Text :=
  if isLetterDigit c then key ++ lowerCase c else endWord key

/-- The key that a pass over a name writes. -/
def scanKey (s : Text) : Text := (s.foldl scanChar []).rdropWhile (· = '_')

/-- Reads what stands between two characters that are neither letter nor digit. -/
def scanPiece (key piece : Text) : Text := endWord key ++ piece.flatMap lowerCase

/-- The pass goes from piece to piece. -/
theorem foldl_scanChar {s first : Text} {others : List Text}
    (h : pieces (fun c => !isLetterDigit c) s = first :: others) (key : Text) :
    s.foldl scanChar key = others.foldl scanPiece (key ++ first.flatMap lowerCase) := by
  -- The key before is arbitrary, because the first piece goes on with whatever it ends in.
  induction s generalizing first others key with
  | nil =>
    cases h
    rw [List.flatMap_nil, List.append_nil]
    rfl
  | cons c s ih =>
    obtain ⟨next, more, hpieces⟩ := List.exists_cons_of_ne_nil (pieces_ne_nil _ s)
    rw [pieces, hpieces] at h
    rw [List.foldl_cons, scanChar, ih hpieces]
    by_cases hletter : isLetterDigit c = true
    · rw [hletter] at h
      cases h
      rw [if_pos hletter, List.flatMap_cons, List.append_assoc]
    · rw [Bool.not_eq_true] at hletter
      rw [hletter] at h
      cases h
      rw [if_neg (by rw [hletter]; exact Bool.false_ne_true), List.flatMap_nil, List.append_nil]
      rfl

/-! ## What has been written -/

/-- A word as it stands in a key: some characters, and no underscore. -/
def IsKeyPart (w : Text) : Prop := w ≠ [] ∧ '_' ∉ w

/-- The key has the words, with or without an underscore behind them. -/
def HasWords (ws : List Text) (key : Text) : Prop :=
  key = joinWith ['_'] ws ∨ ws ≠ [] ∧ key = joinWith ['_'] ws ++ ['_']

section Parts

variable {ws : List Text} {key : Text}

theorem head?_joinWith_ne (hws : ∀ w ∈ ws, IsKeyPart w) :
    (joinWith ['_'] ws).head? ≠ some '_' := by
  intro hhead
  obtain ⟨w, hw, hmem⟩ := exists_of_head?_joinWith (fun w hw => (hws w hw).1) hhead
  exact (hws w hw).2 hmem

theorem getLast?_joinWith_ne (hws : ∀ w ∈ ws, IsKeyPart w) :
    (joinWith ['_'] ws).getLast? ≠ some '_' := by
  intro hlast
  obtain ⟨w, hw, hmem⟩ := exists_of_getLast?_joinWith (fun w hw => (hws w hw).1) hlast
  exact (hws w hw).2 hmem

/-- What is behind the last word is taken back. -/
theorem HasWords.rdropWhile_eq (h : HasWords ws key) (hws : ∀ w ∈ ws, IsKeyPart w) :
    key.rdropWhile (· = '_') = joinWith ['_'] ws := by
  have hself : (joinWith ['_'] ws).rdropWhile (· = '_') = joinWith ['_'] ws := by
    rw [List.rdropWhile_eq_self_iff]
    intro hne hlast
    refine getLast?_joinWith_ne hws ?_
    rw [List.getLast?_eq_getLast_of_ne_nil hne, of_decide_eq_true hlast]
  rcases h with rfl | ⟨-, rfl⟩
  · exact hself
  · rw [List.rdropWhile_concat_pos (· = '_') _ '_' rfl, hself]

/-- Once a word has ended, there is one underscore behind the words, if there are any. -/
theorem HasWords.endWord_eq (h : HasWords ws key) (hws : ∀ w ∈ ws, IsKeyPart w) :
    endWord key = if ws = [] then [] else joinWith ['_'] ws ++ ['_'] := by
  rcases h with rfl | ⟨hne, rfl⟩
  · by_cases hnil : ws = []
    · subst hnil
      rfl
    · rw [endWord, if_neg hnil]
      exact if_pos ⟨joinWith_ne_nil hnil fun w hw => (hws w hw).1, getLast?_joinWith_ne hws⟩
  · rw [endWord, if_neg hne]
    exact if_neg fun hopen => hopen.2 List.getLast?_concat

theorem HasWords.read_nil (h : HasWords ws key) (hws : ∀ w ∈ ws, IsKeyPart w) :
    HasWords ws (scanPiece key []) := by
  rw [scanPiece, List.flatMap_nil, List.append_nil, h.endWord_eq hws]
  by_cases hnil : ws = []
  · subst hnil
    exact Or.inl rfl
  · exact Or.inr ⟨hnil, if_neg hnil⟩

theorem HasWords.read (h : HasWords ws key) (hws : ∀ w ∈ ws, IsKeyPart w) (piece : Text) :
    HasWords (ws ++ [piece.flatMap lowerCase]) (scanPiece key piece) := by
  rw [scanPiece, h.endWord_eq hws]
  by_cases hnil : ws = []
  · subst hnil
    exact Or.inl rfl
  · rw [if_neg hnil]
    exact Or.inl (joinWith_concat hnil _).symm

/-- Read piece by piece, the pieces that are not empty are written as words. -/
theorem HasWords.read_all (h : HasWords ws key) (hws : ∀ w ∈ ws, IsKeyPart w)
    {parts : List Text} (hparts : ∀ w ∈ parts, w ≠ [] → IsKeyPart (w.flatMap lowerCase)) :
    (parts.foldl scanPiece key).rdropWhile (· = '_') =
      joinWith ['_'] (ws ++ (parts.filter (· ≠ [])).map (·.flatMap lowerCase)) := by
  induction parts generalizing ws key with
  | nil =>
    rw [List.filter_nil, List.map_nil, List.append_nil]
    exact h.rdropWhile_eq hws
  | cons piece parts ih =>
    obtain ⟨hpiece, hrest⟩ := List.forall_mem_cons.1 hparts
    rw [List.foldl_cons]
    by_cases hnil : piece = []
    · subst hnil
      exact ih (h.read_nil hws) hws hrest
    · have hmore : ∀ w ∈ ws ++ [piece.flatMap lowerCase], IsKeyPart w :=
        List.forall_mem_append.2 ⟨hws, List.forall_mem_singleton.2 (hpiece hnil)⟩
      have hkept : decide (piece ≠ []) = true := decide_eq_true hnil
      rw [ih (h.read hws piece) hmore hrest, List.filter_cons, if_pos hkept, List.map_cons,
        List.append_assoc, List.singleton_append]

end Parts

/-! ## The key -/

theorem underscore_not_mem_lowerCase {c : Char} (hletter : isLetterDigit c = true) :
    '_' ∉ lowerCase c := by
  by_cases hc : c = dottedCapital
  · subst hc
    decide +kernel
  · intro hmem
    have hunderscore := (isSmall_of_mem_lowerCase hletter hc hmem).letterDigit
    exact absurd hunderscore (by decide +kernel)

/-- Letters and digits in lower case can stand in a key. -/
theorem isKeyPart_flatMap_lowerCase {w : Text} (hne : w ≠ [])
    (hletters : ∀ c ∈ w, isLetterDigit c = true) : IsKeyPart (w.flatMap lowerCase) := by
  refine ⟨flatMap_lowerCase_ne_nil hne, fun hmem => ?_⟩
  obtain ⟨c, hc, hunderscore⟩ := List.mem_flatMap.1 hmem
  exact underscore_not_mem_lowerCase (hletters c hc) hunderscore

/-- The pass writes the key. -/
theorem scanKey_eq (s : Text) : scanKey s = nameKey s := by
  obtain ⟨first, others, hpieces⟩ :=
    List.exists_cons_of_ne_nil (pieces_ne_nil (fun c => !isLetterDigit c) s)
  have hparts : ∀ w ∈ first :: others, w ≠ [] → IsKeyPart (w.flatMap lowerCase) := by
    intro w hw hne
    refine isKeyPart_flatMap_lowerCase hne fun c hc => ?_
    rw [← hpieces] at hw
    simpa using (of_mem_pieces hw hc).2
  have hstart : HasWords [] [] := Or.inl rfl
  calc scanKey s = ((first :: others).foldl scanPiece []).rdropWhile (· = '_') := by
        rw [scanKey, foldl_scanChar hpieces]
        rfl
    _ = joinWith ['_'] (((first :: others).filter (· ≠ [])).map (·.flatMap lowerCase)) :=
        hstart.read_all (List.forall_mem_nil _) hparts
    _ = nameKey s := by rw [nameKey, nameWords, runs, hpieces]

/-- The words of a key. -/
theorem isKeyPart_of_mem_nameWords {s w : Text} (hw : w ∈ nameWords s) : IsKeyPart w := by
  obtain ⟨v, hv, rfl⟩ := List.mem_map.1 hw
  obtain ⟨hne, hletters⟩ := of_mem_runs hv
  exact isKeyPart_flatMap_lowerCase hne fun c hc => (hletters c hc).2

end Swimlane
