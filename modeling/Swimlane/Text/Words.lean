import Swimlane.Text.Basic
import Swimlane.Text.LetterDigit
import Swimlane.Text.LowerCase

/-!
# Words and keys

Names in a flowchart are compared by their words: the runs of letters and digits, in
lower case.  Joined by underscores, the words make the *key* under which a name is looked
up; the *slug* of a name is the same for ASCII alone and serves as an identifier.
-/

namespace Swimlane

/-- The maximal runs of characters that satisfy `p`, in order. -/
def runs (p : Char → Bool) (s : Text) : List Text := (pieces (fun c => !p c) s).filter (· ≠ [])

/-- The words of a name: its runs of letters and digits, in lower case. -/
def nameWords (s : Text) : List Text := (runs isLetterDigit s).map (·.flatMap lowerCase)

/-- The key of a name: its words joined by underscores. -/
def nameKey (s : Text) : Text := joinWith ['_'] (nameWords s)

/-- The words of a key. -/
def keyWords (key : Text) : List Text := runs (· ≠ '_') key

/-- The slug of a name: its runs of ASCII letters and digits, in lower case and joined by
underscores; `fallback` if there is none. -/
def slug (fallback s : Text) : Text :=
  match joinWith ['_'] ((runs Char.isAlphanum s).map asciiLower) with
  | [] => fallback
  | key => key

end Swimlane
