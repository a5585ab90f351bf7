import Swimlane.Flowchart.Statement

/-!
# Masked statements

Arrows are looked for where no bracket and no quote is open.  A statement is therefore
seen through a mask: as a list of cells, each of which shows either its own character or,
inside brackets and quotes, a blank.  A hidden character takes as many cells as its UTF-8
form has bytes, so that the shown text is as long as the statement; the first of them
stands for the character and the others for nothing.
-/

namespace Swimlane

/-- A cell of a masked statement. -/
structure Cell where
  /-- The character that the mask shows. -/
  shown : Char
  /-- The character of the statement that the cell stands for. -/
  source : Option Char
deriving DecidableEq

/-- The cell of a character in the open. -/
def openCell (c : Char) : Cell := ⟨c, some c⟩

/-- The cells of a hidden character. -/
def hiddenCells (c : Char) : List Cell :=
  ⟨' ', some c⟩ :: List.replicate (c.utf8Size - 1) ⟨' ', none⟩

/-- The cells of a character that may be hidden. -/
def cellsOf (hidden : Bool) (c : Char) : List Cell := if hidden then hiddenCells c else [openCell c]

/-- The mask from a place on, with `depth` brackets and perhaps a quote open there.  An
opening quote in the open is shown, a closing one is hidden. -/
def maskFrom (depth : Nat) (quoted : Bool) : Text → List Cell
  | [] => []
  | c :: rest =>
      let hidden := quoted || decide (0 < depth)
      if c = '"' then cellsOf hidden c ++ maskFrom depth (!quoted) rest
      else if !quoted && isOpening c then openCell c :: maskFrom (depth + 1) quoted rest
      else if !quoted && isClosing c && decide (0 < depth) then
        openCell c :: maskFrom (depth - 1) quoted rest
      else cellsOf hidden c ++ maskFrom depth quoted rest

/-- The masked form of a statement. -/
def mask (s : Text) : List Cell := maskFrom 0 false s

/-- The part of the statement that cells stand for. -/
def sourceText (cells : List Cell) : Text := cells.filterMap (·.source)

/-- The text that cells show. -/
def shownText (cells : List Cell) : Text := cells.map (·.shown)

/-- The number of bytes of the text that cells show. -/
def shownSize (cells : List Cell) : Nat := byteCount (shownText cells)

/-- The part of the statement that cells stand for, without the blanks around it. -/
def cellText (cells : List Cell) : Text := trim (sourceText cells)

/-- The cells from the first that shows no blank. -/
def dropBlank (cells : List Cell) : List Cell := cells.dropWhile (isBlank ·.shown)

/-- A hidden character stands for itself. -/
theorem sourceText_hiddenCells (c : Char) : sourceText (hiddenCells c) = [c] := by
  simp [sourceText, hiddenCells]

/-- The mask of a text stands for the text. -/
theorem sourceText_maskFrom (depth : Nat) (quoted : Bool) (s : Text) :
    sourceText (maskFrom depth quoted s) = s := by
  have cells (hidden : Bool) (c : Char) : sourceText (cellsOf hidden c) = [c] := by
    cases hidden
    · simp [cellsOf, sourceText, openCell]
    · simp only [cellsOf, if_true]
      exact sourceText_hiddenCells c
  induction s generalizing depth quoted with
  | nil => rfl
  | cons c rest ih =>
    have append (xs ys : List Cell) : sourceText (xs ++ ys) = sourceText xs ++ sourceText ys :=
      List.filterMap_append
    have single (ys : List Cell) : sourceText (openCell c :: ys) = c :: sourceText ys := by
      simp [sourceText, openCell]
    unfold maskFrom
    simp only
    split
    · rw [append, cells, ih]; rfl
    · split
      · rw [single, ih]
      · split
        · rw [single, ih]
        · rw [append, cells, ih]; rfl

/-! ## Pieces at a separator in the open -/

/-- The pieces of a text between the separators that its mask shows, without blanks around
them and without empty ones. -/
def splitOpen (separator : Char) (s : Text) : List Text :=
  let rec go (done : List Cell) : List Cell → List Text
    | [] => [cellText done.reverse]
    | c :: rest =>
        if c.shown = separator then cellText done.reverse :: go [] rest else go (c :: done) rest
  (go [] (mask s)).filter (· ≠ [])

end Swimlane
