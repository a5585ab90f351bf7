import Swimlane.Layout.Box
import Swimlane.Settings.Basic
import Swimlane.Text.Basic

/-!
# Measuring labels

A label is broken into lines at its line breaks, and lines that are too long are wrapped
between words.  The width of a line is estimated from the widths of its characters, as
shares of the font size.
-/

namespace Swimlane

variable {α : Type} [Length α]

/-! ## Widths -/

/-- The width of a character in thousandths of the font size. -/
def charWidth (c : Char) : Nat :=
  if c = ' ' then 306
  else if ['\\', '.', ',', ':', ';', '|', '!', '(', ')', '[', ']', '{', '}'].contains c then 321
  else if ['i', 'j', 'l', 'I'].contains c then 250
  else if ['f', 't', 'r'].contains c then 340
  else if ['m', 'w'].contains c then 840
  else if ['M', 'W'].contains c then 930
  else if c.isUpper then 660
  else if c.isLower then 560
  else if c.isDigit then 556
  else if ['-', '_', '/'].contains c then 400
  else if ['@', '#', '%', '&'].contains c then 946
  else if 2 < c.utf8Size then 1000
  else 568

/-- The width of a text. -/
def textWidth (fontSize : α) (s : Text) : α :=
  Length.sum (s.map fun c => Length.thousandths (charWidth c)) * fontSize

/-- The width of an average character. -/
def averageCharWidth (fontSize : α) : α := fontSize * Length.thousandths 560

/-! ## Lines -/

/-- The lines of a label, as its line breaks, its break tags and its backslashes with an n
divide it. -/
def labelLines (label : Text) : List Text :=
  let marked := replaceAll ['\\', 'n'] ['\n']
    (replaceAll "<br>".toList ['\n'] (replaceAll "<br/>".toList ['\n'] label))
  (pieces (· = '\n') marked).map trim

/-- The words of a line, put into lines one after another: a word begins a new line if the
current one would become too wide with it. -/
def fillLines (tooWide : Text → Bool) (current : Text) : List Text → List Text
  | [] => if current = [] then [] else [current]
  | word :: rest =>
      let longer := if current = [] then word else current ++ ' ' :: word
      if tooWide longer then
        if current = [] then fillLines tooWide word rest
        else current :: fillLines tooWide word rest
      else fillLines tooWide longer rest

/-- A line wrapped between its words if it is not within the limit.  Of widths that cannot be
compared a text is neither within the limit nor too wide. -/
def wrapLine (width : Text → α) (limit : α) (line : Text) : List Text :=
  if Length.atMost (width line) limit then [line]
  else fillLines (fun s => Length.less limit (width s)) [] (words line)

/-! ## Sizes -/

/-- The greatest width of a line of a label. -/
def LayoutSettings.lineLimit (s : LayoutSettings α) : α :=
  Length.ofInt (max 1 s.maxLabelWidthChars) * averageCharWidth s.fontSize

/-- The wrapped lines of a label, at least one. -/
def wrappedLabel (s : LayoutSettings α) (label : Text) : List Text :=
  match (labelLines label).flatMap (wrapLine (textWidth s.fontSize) s.lineLimit) with
  | [] => [[]]
  | lines => lines

/-- The size of a label. -/
def labelSize (s : LayoutSettings α) (label : Text) : Size α :=
  let lines := wrappedLabel s label
  ⟨Length.largest Length.zero (lines.map (textWidth s.fontSize)),
    Length.ofInt lines.length * s.fontSize * s.labelLineHeight⟩

/-- The size of a node with a label: the label and the padding around it, within the
bounds that are set. -/
def nodeSize (s : LayoutSettings α) (label : Text) : Size α :=
  let size := labelSize s label
  ⟨Length.clamp s.minNodeWidth (Length.larger s.maxNodeWidth s.minNodeWidth)
      (size.width + Length.twice s.nodePaddingX),
    Length.larger (size.height + Length.twice s.nodePaddingY) s.minNodeHeight⟩

/-- The space on either side of the text of a badge. -/
def badgeTextPadding : α := Length.ofInt 8

/-- The size of a badge. -/
def badgeSize (s : LayoutSettings α) (label : Text) : Size α :=
  ⟨Length.larger (textWidth s.fontSize label + Length.twice badgeTextPadding) s.grid.badgeWidth,
    s.grid.badgeHeight⟩

end Swimlane
