import Swimlane.Text.Blank

/-!
# Texts

The operations on texts that the rest of the library shares: counting bytes, finding and
replacing one text in another, cutting into lines, joining, and writing numbers.
-/

namespace Swimlane

/-! ## Size -/

/-- The number of bytes of a text in UTF-8. -/
def byteCount (s : Text) : Nat := s.foldl (fun n c => n + c.utf8Size) 0

/-! ## Finding and replacing -/

/-- Does `part` occur somewhere in the list, its items one after another? -/
def occursIn {α : Type} [BEq α] (part : List α) : List α → Bool
  | [] => part.isEmpty
  | c :: rest => part.isPrefixOf (c :: rest) || occursIn part rest

/-- Does the text begin with `start`? -/
def startsWith (start s : Text) : Bool := start.isPrefixOf s

/-- Does the text end with `finish`? -/
def endsWith (finish s : Text) : Bool := finish.isSuffixOf s

/-- The walk of `replaceAll`: `skip` counts the characters of an occurrence that has
already been replaced. -/
def replaceFrom (old new : Text) : Nat → Text → Text
  | _, [] => []
  | skip + 1, _ :: rest => replaceFrom old new skip rest
  | 0, c :: rest =>
      if old.isPrefixOf (c :: rest) then new ++ replaceFrom old new (old.length - 1) rest
      else c :: replaceFrom old new 0 rest

/-- Every occurrence of `old` replaced by `new`, taken from the left without overlap.
`old` must not be empty. -/
def replaceAll (old new : Text) (s : Text) : Text := replaceFrom old new 0 s

/-- The text before the first occurrence of `mark`, or the whole text. -/
def beforeFirst (mark : Text) : Text → Text
  | [] => []
  | c :: rest => if mark.isPrefixOf (c :: rest) then [] else c :: beforeFirst mark rest

/-! ## Lines -/

/-- A line without the carriage return that precedes its line feed. -/
def dropReturn (line : Text) : Text :=
  if line.getLast? = some '\r' then line.dropLast else line

/-- The pieces between line feeds, as lines: each but the last loses one carriage return
at its end, and a last piece that is empty is no line. -/
def linesOfPieces : List Text → List Text
  | [] => []
  | [last] => if last = [] then [] else [last]
  | line :: rest => dropReturn line :: linesOfPieces rest

/-- The lines of a text. -/
def lines (s : Text) : List Text := linesOfPieces (pieces (· = '\n') s)

/-- The texts one after another with `separator` between them. -/
def joinWith (separator : Text) : List Text → Text
  | [] => []
  | [last] => last
  | first :: rest => first ++ separator ++ joinWith separator rest

/-! ## Letters and numbers of ASCII -/

/-- The text with its ASCII capitals made small. -/
def asciiLower (s : Text) : Text := s.map Char.toLower

/-- An ASCII letter, digit or underscore. -/
def isWordChar (c : Char) : Bool := c.isAlphanum || c = '_'

/-- The decimal digits of a number. -/
def decimal (n : Nat) : Text := Nat.toDigits 10 n

end Swimlane
