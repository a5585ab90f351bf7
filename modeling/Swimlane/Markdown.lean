import Swimlane.Text.Basic

/-!
# Diagrams in Markdown

A Markdown text holds diagrams between fences.  A fence opens with at least three equal
marks and the word mermaid, and closes with exactly three of them on a line of their own;
the marks are backticks, tildes or colons.  What stands between is taken line by line as it
is.  A fence that is never closed holds no diagram.
-/

namespace Swimlane

/-- The marks of fences, three of each. -/
def fences : List Text := ["```".toList, "~~~".toList, ":::".toList]

/-- Does the line, without the blanks around it, open a diagram with this fence? -/
def opensWith (fence line : Text) : Bool :=
  startsWith fence line
    && startsWith "mermaid".toList (trim (line.dropWhile fun c => fence.contains c))

/-- The fence with which a line opens a diagram. -/
def openingFence? (line : Text) : Option Text := fences.find? (opensWith · line)

/-- Does the line, without the blanks around it, close the fence? -/
def closesFence (fence line : Text) : Bool :=
  startsWith fence line && trim (line.drop fence.length) = []

/-- The diagrams in the lines from here on: within a fence, `body` holds its lines so far,
the last first. -/
def diagramsFrom : Option Text → List Text → List Text → List Text
  | _, _, [] => []
  | none, _, line :: rest => diagramsFrom (openingFence? (trim line)) [] rest
  | some fence, body, line :: rest =>
      if closesFence fence (trim line) then
        joinWith ['\n'] body.reverse :: diagramsFrom none [] rest
      else diagramsFrom (some fence) (line :: body) rest

/-- The texts of the diagrams in a Markdown text. -/
def markdownDiagrams (s : Text) : List Text := diagramsFrom none [] (lines s)

end Swimlane
