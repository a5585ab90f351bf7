import Swimlane.Text.Words

/-!
# Ordering tokens

Lanes and sections are numbered by the names of their groups.  Digits and one letter, as
in `1a`, order a lane; digits alone order a section.  A token is a part of the group's
identifier or the first part of its label.
-/

namespace Swimlane

/-- The parts of an identifier between underscores, hyphens and blanks. -/
def idParts (id : Text) : List Text :=
  (pieces (fun c => c = '_' || c = '-' || isBlank c) id).filter (· ≠ [])

/-- Does the character end the first part of a label? -/
def endsLabelPart (c : Char) : Bool :=
  isBlank c || c = '-' || c = '_' || c = ':' || c = '.' || c = ')'

/-- The first part of a label. -/
def firstLabelPart (label : Text) : Text := (trimStart label).takeWhile (!endsLabelPart ·)

/-- Is the text made of at least one digit and one letter after them? -/
def isLaneToken (s : Text) : Bool :=
  match s.getLast? with
  | none => false
  | some c => c.isAlpha && s.dropLast ≠ [] && s.dropLast.all Char.isDigit

/-- Is the text made of at least one digit? -/
def isSectionToken (s : Text) : Bool := s ≠ [] && s.all Char.isDigit

/-- The first part of an identifier that is a token, or else the first part of the label
if it is one. -/
def findToken (isToken : Text → Bool) (id label : Text) : Option Text :=
  ((idParts id).find? isToken).or ([firstLabelPart label].find? isToken)

/-- The token that orders a lane, in small letters. -/
def laneToken? (id label : Text) : Option Text := (findToken isLaneToken id label).map asciiLower

/-- The token that orders a section. -/
def sectionToken? (id label : Text) : Option Text := findToken isSectionToken id label

end Swimlane
