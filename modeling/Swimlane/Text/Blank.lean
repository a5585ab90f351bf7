/-!
# Blank characters

White space in the sense of the character standard: twenty-five code points, of which
the six of ASCII are the ones that people type.  Every trimming and every splitting into
words in this library goes by `isBlank`.
-/

namespace Swimlane

/-- A text is the list of its characters. -/
abbrev Text := List Char

/-- The code points of white space, as ranges in ascending order. -/
def blankRanges : List (Nat × Nat) :=
  [(0x09, 0x0D), (0x20, 0x20), (0x85, 0x85), (0xA0, 0xA0), (0x1680, 0x1680),
   (0x2000, 0x200A), (0x2028, 0x2029), (0x202F, 0x202F), (0x205F, 0x205F), (0x3000, 0x3000)]

/-- Membership in a list of ranges; the list ascends, so the search stops at the first
range that begins after the code point. -/
def inRanges (n : Nat) : List (Nat × Nat) → Bool
  | [] => false
  | (lo, hi) :: rest => if n < lo then false else if n ≤ hi then true else inRanges n rest

/-- Is the character white space? -/
def isBlank (c : Char) : Bool := inRanges c.toNat blankRanges

/-! ## Trimming and words -/

/-- The text from its first character that is not blank. -/
def trimStart (s : Text) : Text := s.dropWhile isBlank

/-- The text up to its last character that is not blank. -/
def trimEnd (s : Text) : Text := (s.reverse.dropWhile isBlank).reverse

/-- The text without the blanks at either end. -/
def trim (s : Text) : Text := trimEnd (trimStart s)

/-- The pieces of a text between the characters that satisfy `p`, empty pieces
included: a text with `n` separators has `n + 1` pieces. -/
def pieces (p : Char → Bool) : Text → List Text
  | [] => [[]]
  | c :: rest =>
      if p c then [] :: pieces p rest
      else
        match pieces p rest with
        | [] => [[c]]
        | first :: others => (c :: first) :: others

/-- The words of a text: its maximal runs of characters that are not blank. -/
def words (s : Text) : List Text := (pieces isBlank s).filter (· ≠ [])

/-- A text has at least one piece. -/
theorem pieces_ne_nil (p : Char → Bool) (s : Text) : pieces p s ≠ [] := by
  induction s with
  | nil => simp [pieces]
  | cons c rest ih =>
    unfold pieces
    split
    · simp
    · split <;> simp

end Swimlane
