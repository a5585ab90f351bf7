import Swimlane.Flowchart.Draft

/-!
# Reading a flowchart

The first statement of a text is its header, a word and perhaps a direction.  The others
are read one after another into a draft.
-/

namespace Swimlane

/-- A flowchart and the initial settings of its text. -/
structure Flowchart where
  graph : Graph
  settings : Option Json

/-- The direction of a header: `none` if the statement is no header, and none of its own
if it names none. -/
def headerDirection? (statement : Text) : Option (Option Text) :=
  match words statement with
  | [word] => if isHeaderWord word then some none else none
  | [word, direction] => if isHeaderWord word then some (some direction) else none
  | _ => none
where
  /-- Is the word one that begins a header, in letters of either case? -/
  isHeaderWord (word : Text) : Bool :=
    asciiLower word = "flowchart".toList || asciiLower word = "graph".toList

/-- The draft after the header. -/
def readHeader (s : Statement) : Except SyntaxError Draft :=
  match headerDirection? s.text with
  | none => .error ⟨s.line, .missingHeader⟩
  | some none => .ok (.start .topDown)
  | some (some word) =>
      match Direction.ofWord? word with
      | some direction => .ok (.start direction)
      | none => .error ⟨s.line, .unknownDirection word⟩

/-- The draft after the statements of a text. -/
def draftOf : List Statement → Except SyntaxError Draft
  | [] => .error ⟨1, .missingHeader⟩
  | header :: rest => do rest.foldlM Draft.read (← readHeader header)

/-- The flowchart that a text describes. -/
def Flowchart.ofText (s : Text) : Except SyntaxError Flowchart := do
  let graph ← (← draftOf (statements s)).finish
  return ⟨graph, initialSettings s⟩

end Swimlane
