import Swimlane.Flowchart.Link

/-!
# Written chains

A chain is a statement of several arrows: a reference to nodes, and then arrow after arrow,
each with the reference where it leads.  An arrow may be longer than it needs to be and may have
an angle bracket at either end; a label between bars may follow it, and a circle or a cross that
decorates its head.  Two references that follow each other, with what stands between them, are
a segment of the chain, and a statement of their own.
-/

namespace Swimlane

/-! ## Arrows -/

/-- The shaft of an arrow, and how many of its signs are more than it needs. -/
inductive Shaft
  | plain (more : Nat)
  | thick (more : Nat)
  | dotted (more : Nat)
deriving DecidableEq

/-- A shaft is at least two hyphens, at least two equals signs, or dots between hyphens. -/
def Shaft.text : Shaft → Text
  | .plain more => List.replicate (more + 2) '-'
  | .thick more => List.replicate (more + 2) '='
  | .dotted more => '-' :: List.replicate (more + 1) '.' ++ ['-']

/-- An arrow: does it begin and does it end with an angle bracket? -/
structure Arrow where
  tail : Bool
  shaft : Shaft
  head : Bool
deriving DecidableEq

/-- The arrow as it is written. -/
def Arrow.text (a : Arrow) : Text :=
  (if a.tail then ['<'] else []) ++ (a.shaft.text ++ if a.head then ['>'] else [])

/-- A label between bars, if there is one. -/
def inBars : Option Text → Text
  | some label => '|' :: label ++ ['|']
  | none => []

/-! ## Chains -/

/-- An arrow of a chain with the blanks before it, the label and the blanks after it, and the
reference where it leads, which a circle or cross with blanks may precede. -/
structure ChainLink where
  before : Text
  arrow : Arrow
  label : Option Text
  gap : Text
  decoration : Text
  stop : Text
deriving DecidableEq

namespace ChainLink

/-- The right side of the arrow; what decorates the arrow counts to it. -/
def right (l : ChainLink) : Text := l.decoration ++ l.stop

/-- The link as it is written. -/
def text (l : ChainLink) : Text :=
  l.before ++ (l.arrow.text ++ (inBars l.label ++ (l.gap ++ l.right)))

/-- The arrow with its label and its right side, as a chain is taken apart. -/
def segment (l : ChainLink) : Segment := ⟨l.arrow.text ++ inBars l.label, l.right⟩

end ChainLink

/-- A chain: a reference, and the arrows that follow it one after another. -/
structure Chain where
  first : Text
  links : List ChainLink
deriving DecidableEq

/-- The segments of a chain from a reference on. -/
def segmentsFrom (start : Text) : List ChainLink → List Text
  | [] => []
  | l :: rest => (start ++ l.text) :: segmentsFrom l.stop rest

/-- The segments of a chain, each a statement of its own. -/
def Chain.segments (c : Chain) : List Text := segmentsFrom c.first c.links

/-- A chain as a statement. -/
def Chain.text (c : Chain) : Text := c.first ++ c.links.flatMap ChainLink.text

end Swimlane
