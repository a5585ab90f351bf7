import Swimlane.Flowchart.Graph

/-!
# Labels and node references

A node is referred to by its identifier, by its label in the brackets of a shape, or by
both; a class may follow after three colons and is ignored.  A label may stand in double
quotes and may mark the ends of its lines by a backslash and an n or by a break tag.
-/

namespace Swimlane

/-! ## Labels -/

/-- The text without the quotes around it, if it stands in quotes; blanks around it are
dropped first. -/
def unquote (s : Text) : Text :=
  match trim s with
  | '"' :: rest => if rest.getLast? = some '"' then rest.dropLast else '"' :: rest
  | s => s

/-- The text with a line feed for each mark of the end of a line. -/
def breakLines (s : Text) : Text :=
  replaceAll "<br>".toList ['\n']
    (replaceAll "<br/>".toList ['\n'] (replaceAll ['\\', 'n'] ['\n'] s))

/-- The label that is written as `s`. -/
def cleanLabel (s : Text) : Text := trim (breakLines (unquote s))

/-- The text before the three colons of a class. -/
def withoutClass (s : Text) : Text := trim (beforeFirst [':', ':', ':'] s)

/-! ## Brackets -/

/-- The bracket that closes an opening bracket. -/
def closingOf (c : Char) : Char := if c = '[' then ']' else if c = '(' then ')' else '}'

/-- Do the brackets outside quotes pair up, and are the quotes closed?  `expected` holds
the closing brackets still to come, innermost first.  A square bracket may close where
none is open, if the text opens it by an angle bracket. -/
def balancedFrom (lenient : Bool) (expected : List Char) (quoted : Bool) : Text → Bool
  | [] => expected.isEmpty && !quoted
  | c :: rest =>
      if c = '"' then balancedFrom lenient expected (!quoted) rest
      else if quoted then balancedFrom lenient expected true rest
      else if c = '[' || c = '(' || c = '{' then
        balancedFrom lenient (closingOf c :: expected) false rest
      else if c = ']' || c = ')' || c = '}' then
        match expected with
        | [] => c = ']' && lenient && balancedFrom lenient [] false rest
        | d :: others => c = d && balancedFrom lenient others false rest
      else balancedFrom lenient expected false rest

/-- Are the brackets and quotes of a text balanced? -/
def isBalanced (s : Text) : Bool := balancedFrom (s.contains '>') [] false s

/-! ## Shapes -/

/-- The text without `n` characters at either end. -/
def inside (n : Nat) (s : Text) : Text := (s.drop n).take (s.length - 2 * n)

/-- A pair of delimiters and the shape of a node whose label stands between them. -/
structure Delimiters where
  opening : Text
  closing : Text
  shape : Shape

/-- The delimiters of two and three brackets, in the order in which they are tried. -/
def doubleDelimiters : List Delimiters :=
  [⟨['[', '/'], ['/', ']'], .parallelogram⟩,
   ⟨['[', '\\'], ['\\', ']'], .parallelogramAlt⟩,
   ⟨['[', '/'], ['\\', ']'], .trapezoid⟩,
   ⟨['[', '\\'], ['/', ']'], .trapezoidAlt⟩,
   ⟨['[', '['], [']', ']'], .subroutine⟩,
   ⟨['[', '('], [')', ']'], .cylinder⟩,
   ⟨['(', '(', '('], [')', ')', ')'], .circle⟩,
   ⟨['(', '('], [')', ')'], .circle⟩,
   ⟨['(', '['], [']', ')'], .stadium⟩,
   ⟨['{', '{'], ['}', '}'], .hexagon⟩]

/-- Does the text stand between the delimiters? -/
def Delimiters.enclose (d : Delimiters) (s : Text) : Bool :=
  decide (2 * d.opening.length ≤ s.length) && startsWith d.opening s && endsWith d.closing s

/-- The shape of single brackets, by the opening one. -/
def singleShape (c : Char) : Shape :=
  if c = '[' then .rectangle else if c = '(' then .roundRect else .diamond

/-- The label and the shape of a text in brackets. -/
def readBrackets (s : Text) : Text × Shape :=
  match doubleDelimiters.find? (·.enclose s) with
  | some d => (cleanLabel (inside d.opening.length s), d.shape)
  | none => (cleanLabel (inside 1 s), singleShape (s.headD '['))

/-- An identifier with a label in brackets after it: the identifier, which may be missing,
the label and the shape. -/
def splitBrackets? (s : Text) : Option (Option Text × Text × Shape) :=
  let (before, brackets) := s.span (fun c => !(c = '[' || c = '(' || c = '{'))
  match brackets with
  | [] => none
  | c :: _ =>
      if s.getLast? = some (closingOf c) then
        let id := trim before
        let (label, shape) := readBrackets brackets
        some (if id = [] then none else some id, label, shape)
      else none

/-- An identifier and a label between an angle bracket and a square one. -/
def splitAsymmetric? (s : Text) : Option (Text × Text) :=
  if s.contains '[' ∨ s.getLast? ≠ some ']' then none
  else
    match s.span (· ≠ '>') with
    | (_, []) => none
    | (before, _ :: after) =>
        let id := trim before
        let label := trim after.dropLast
        if id = [] ∨ label = [] then none else some (id, cleanLabel label)

/-! ## References -/

/-- A reference to a node, as it is written. -/
structure NodeRef where
  id : Option Text
  label : Option Text
  shape : Option Shape
deriving DecidableEq

/-- The reference that a text without class and with balanced brackets stands for. -/
def NodeRef.ofText (s : Text) : NodeRef :=
  match splitAsymmetric? s with
  | some (id, label) => ⟨some id, some label, some .asymmetric⟩
  | none =>
      match splitBrackets? s with
      | some (id, label, shape) => ⟨id, some label, some shape⟩
      | none => ⟨some s, none, none⟩

/-- Does the reference say more than an identifier? -/
def NodeRef.hasBody (r : NodeRef) : Bool := r.label.isSome || r.shape.isSome

/-- Is the text an identifier of a node: letters, digits and underscores of ASCII, with
hyphens after the first? -/
def isNodeId : Text → Bool
  | [] => false
  | c :: rest => isWordChar c && rest.all (fun d => isWordChar d || d = '-')

/-- The header of a group: an identifier, which may be missing, and a label. -/
def readGroupHeader (s : Text) : Option Text × Text :=
  let s := withoutClass s
  if s = [] then (none, "Subgraph".toList)
  else
    match splitBrackets? s with
    | some (some id, label, _) => (some id, label)
    | _ => if !s.contains '"' && !s.any isBlank then (some s, s) else (none, unquote s)

end Swimlane
