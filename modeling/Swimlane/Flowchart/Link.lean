import Swimlane.Flowchart.Mask
import Swimlane.Flowchart.Label

/-!
# Links

An edge is written as an arrow between two sides.  Arrows are runs of hyphens or of equals
signs, or dots between hyphens, with angle brackets at the ends if need be.  The label of
an edge stands between bars after the arrow or, between blanks, inside the arrow.  Several
arrows in a statement make a chain.  All recognition goes by the masked statement.
-/

namespace Swimlane

/-! ## Arrows -/

/-- The cells at the head that show a character. -/
def runOf (c : Char) (cells : List Cell) : List Cell := cells.takeWhile (·.shown = c)

/-- The shaft of an arrow at the head of some cells: at least two hyphens, at least two
equals signs, or a hyphen, dots and a hyphen. -/
def shaft? (cells : List Cell) : Option (List Cell) :=
  let hyphens := runOf '-' cells
  let equals := runOf '=' cells
  if 2 ≤ hyphens.length then some hyphens
  else if 2 ≤ equals.length then some equals
  else if hyphens.length = 1 then
    let dots := runOf '.' (cells.drop 1)
    if dots = [] then none
    else if ((cells.drop (1 + dots.length)).head?.map (·.shown)) = some '-' then
      some (cells.take (dots.length + 2))
    else none
  else none

/-- The cells at the head as far as they are one cell that shows a character. -/
def optional (c : Char) (cells : List Cell) : List Cell :=
  if cells.head?.map (·.shown) = some c then cells.take 1 else []

/-- The arrow at the head of some cells. -/
def arrow? (cells : List Cell) : Option (List Cell) :=
  let start := optional '<' cells
  match shaft? (cells.drop start.length) with
  | none => none
  | some shaft =>
      let finish := optional '>' (cells.drop (start.length + shaft.length))
      some (cells.take (start.length + shaft.length + finish.length))

/-- The text cut at its arrows, from the left: what stands before each arrow, and the
arrow; and what stands after the last.  `skip` counts the cells of an arrow that are still
to be passed over, `before` holds the cells since the last arrow, last cell first. -/
def cutArrows (skip : Nat) (before : List Cell) :
    List Cell → List (List Cell × List Cell) × List Cell
  | [] => ([], before.reverse)
  | c :: rest =>
      match skip with
      | skip + 1 => cutArrows skip before rest
      | 0 =>
          match arrow? (c :: rest) with
          | some arrow =>
              let (more, last) := cutArrows (arrow.length - 1) [] rest
              ((before.reverse, arrow) :: more, last)
          | none => cutArrows 0 (c :: before) rest

/-- Is there an arrow among the cells? -/
def hasArrow (cells : List Cell) : Bool := (cutArrows 0 [] cells).1 ≠ []

/-- Do the cells show three tildes in a row, the mark of an invisible link? -/
def hasTildes (cells : List Cell) : Bool := occursIn ['~', '~', '~'] (shownText cells)

/-! ## The two sides -/

/-- The shortest left side, of at least one cell, after which and after blanks `right?`
finds the rest of a link; `before` holds the cells passed over, last cell first. -/
def shortestLeft {β : Type} (right? : List Cell → Option β) (before : List Cell) :
    List Cell → Option (List Cell × β)
  | [] => none
  | c :: rest =>
      match right? (dropBlank rest) with
      | some found => some ((c :: before).reverse, found)
      | none => shortestLeft right? (c :: before) rest

/-- A right side: what stands after blanks or, if nothing does, the last of the blanks. -/
def rightSide? (cells : List Cell) : Option (List Cell) :=
  match dropBlank cells with
  | [] => cells.getLast?.map ([·])
  | right => some right

/-- A shaft as `shaft?` finds it, and a right side.  Where nothing follows, the last cell of the
shaft counts as the right side if the shaft can do without it.  Such a side is never accepted. -/
def sideAfter? (shaft? : List Cell → Option (List Cell)) (cells : List Cell) :
    Option (List Cell) :=
  match shaft? cells with
  | none => none
  | some shaft =>
      match rightSide? (cells.drop shaft.length) with
      | some right => some right
      | none =>
          if (shaft? shaft.dropLast).isSome then some (shaft.drop (shaft.length - 1)) else none

/-- An arrow and a right side. -/
def plainRest? (cells : List Cell) : Option (List Cell) := sideAfter? arrow? cells

/-- An arrow, a label between bars and a right side: the label and the side. -/
def barRest? (cells : List Cell) : Option (List Cell × List Cell) :=
  match arrow? cells with
  | none => none
  | some arrow =>
      match cells.drop arrow.length with
      | [] => none
      | c :: rest =>
          if c.shown ≠ '|' then none
          else
            match rest.span (·.shown ≠ '|') with
            | (_, []) => none
            | (label, _ :: right) => (rightSide? right).map (label, ·)

/-! ## Labels inside an arrow -/

/-- The second half of an arrow with a label inside: at least two hyphens, at least two
equals signs, or dots and a hyphen, and perhaps an angle bracket. -/
def lateShaft? (cells : List Cell) : Option (List Cell) :=
  let dots := runOf '.' cells
  let shaft? :=
    if 2 ≤ (runOf '-' cells).length then some (runOf '-' cells)
    else if 2 ≤ (runOf '=' cells).length then some (runOf '=' cells)
    else if dots ≠ [] ∧ (cells.drop dots.length).head?.map (·.shown) = some '-' then
      some (cells.take (dots.length + 1))
    else none
  shaft?.map fun shaft => shaft ++ optional '>' (cells.drop shaft.length)

/-- The second half of an arrow and a right side.  A statement for which it is found is no chain,
even if the side is not accepted. -/
def lateRest? (cells : List Cell) : Option (List Cell) := sideAfter? lateShaft? cells

/-- The first half of an arrow with a label inside: two hyphens, two equals signs, or a
hyphen and a dot, perhaps after an angle bracket. -/
def earlyShaft? (cells : List Cell) : Option (List Cell) :=
  let start := optional '<' cells
  let two := (cells.drop start.length).take 2
  let shown := shownText two
  if shown = ['-', '-'] ∨ shown = ['=', '='] ∨ shown = ['-', '.'] then some (start ++ two)
  else none

/-- May a label inside an arrow have the character? -/
def allowedInside (c : Char) : Bool := !(c = '<' || c = '>' || c = '=' || c = '|')

/-- The shortest label, of at least one cell, after which blanks, the second half of an
arrow and a right side follow; `label` holds its cells so far, last cell first. -/
def innerLabel? (label : List Cell) : List Cell → Option (List Cell × List Cell)
  | [] => none
  | c :: rest =>
      let here :=
        if label ≠ [] ∧ isBlank c.shown then lateRest? (dropBlank rest) else none
      match here with
      | some right => some (label.reverse, right)
      | none => if allowedInside c.shown then innerLabel? (c :: label) rest else none

/-- An arrow with a label inside, and a right side.  The label begins after all the blanks
that follow the first half or, if none is found there, is itself the last blank but one of at
least three. -/
def innerRest? (cells : List Cell) : Option (List Cell × List Cell) :=
  match earlyShaft? cells with
  | none => none
  | some shaft =>
      let (blanks, rest) := (cells.drop shaft.length).span (isBlank ·.shown)
      if blanks = [] then none
      else
        match innerLabel? [] rest with
        | some found => some found
        | none =>
            if 3 ≤ blanks.length then
              (lateRest? rest).map ((blanks.drop (blanks.length - 2)).take 1, ·)
            else none

/-- Does the text end in a part of an arrow? -/
def endsInArrow (s : Text) : Bool :=
  match s.getLast? with
  | some c => c = '-' || c = '=' || c = '.'
  | none => false

/-- The left side, the label and the right side of a link with a label inside its arrow.
A left side that ends in a part of an arrow shows that the arrow has no label inside. -/
def innerLink? (cells : List Cell) : Option (List Cell × List Cell × List Cell) :=
  match shortestLeft innerRest? [] cells with
  | none => none
  | some (left, found) =>
      if endsInArrow (trimEnd (shownText left)) then none else some (left, found)

/-! ## Links -/

/-- A link: its two sides and its label. -/
structure Link where
  left : Text
  label : Option Text
  right : Text
deriving DecidableEq

/-- Are both sides there, and free of parts of an arrow where they meet it? -/
def sidesOk (left right : Text) : Bool :=
  left ≠ [] && right ≠ []
    && !endsInArrow left && left.getLast? ≠ some '<'
    && !(right.head? = some '-' || right.head? = some '=' || right.head? = some '.'
      || right.head? = some '>')

/-- The right side without the circle or cross that decorates the head of its arrow. -/
def dropDecoration (right : Text) : Text :=
  match right with
  | c :: d :: rest =>
      if (c = 'o' || c = 'x') && isBlank d && trim (d :: rest) ≠ [] then trimStart (d :: rest)
      else right
  | _ => right

/-- A link with its label between bars. -/
def barLink? (cells : List Cell) : Option Link :=
  match shortestLeft barRest? [] cells with
  | none => none
  | some (left, label, right) =>
      let (left, right) := (cellText left, cellText right)
      let label := unquote (cellText label)
      if sidesOk left right then some ⟨left, if label = [] then none else some label, right⟩
      else none

/-- A link with its label inside the arrow. -/
def innerLabelLink? (cells : List Cell) : Option Link :=
  match innerLink? cells with
  | none => none
  | some (left, label, right) =>
      let (left, right) := (cellText left, cellText right)
      let label := unquote (cellText label)
      if label ≠ [] ∧ sidesOk left right then some ⟨left, some label, right⟩ else none

/-- A link without a label. -/
def plainLink? (cells : List Cell) : Option Link :=
  match shortestLeft plainRest? [] cells with
  | none => none
  | some (left, right) =>
      let (left, right) := (cellText left, dropDecoration (cellText right))
      if sidesOk left right then some ⟨left, none, right⟩ else none

/-- The link that a statement is, if it is one. -/
def link? (s : Text) : Option Link :=
  let cells := mask s
  (barLink? cells).or ((innerLabelLink? cells).or (plainLink? cells))

/-! ## Chains -/

/-- A label between bars at the head of a text, with its bars, and what follows it. -/
def leadingBars? (s : Text) : Option (Text × Text) :=
  match s with
  | '|' :: rest =>
      match rest.span (· ≠ '|') with
      | (_, []) => none
      | (label, _ :: after) => some ('|' :: label ++ ['|'], trimStart after)
  | _ => none

/-- An arrow of a chain, with the label between bars that follows it, and the text after
it. -/
structure Segment where
  arrow : Text
  after : Text
deriving DecidableEq

/-- A segment whose text begins with a label between bars gives the label to its arrow. -/
def Segment.takeLabel (s : Segment) : Segment :=
  match leadingBars? s.after with
  | some (label, after) => ⟨s.arrow ++ label, after⟩
  | none => s

/-- The segments of a text that was cut at its arrows. -/
def segmentsOf : List (List Cell × List Cell) → List Cell → List Segment
  | [], _ => []
  | [(_, arrow)], last => [⟨cellText arrow, cellText last⟩]
  | (_, arrow) :: (between, next) :: more, last =>
      ⟨cellText arrow, cellText between⟩ :: segmentsOf ((between, next) :: more) last

/-- The statements of the single links of a chain that begins with `first`. -/
def chainLinks (first : Text) : List Segment → List Text
  | [] => []
  | s :: rest => (first ++ ' ' :: s.arrow ++ ' ' :: s.after) :: chainLinks s.after rest

/-- The statements of the single links, if the statement is a chain: it has at least two
arrows, none of them with a label inside, and something before, between and after them. -/
def chain? (s : Text) : Option (List Text) :=
  let cells := mask s
  if (innerLink? cells).isSome then none
  else
    match cutArrows 0 [] cells with
    | ((first, arrow) :: second :: more, last) =>
        let segments := (segmentsOf ((first, arrow) :: second :: more) last).map (·.takeLabel)
        if cellText first = [] ∨ segments.any (·.after = []) then none
        else some (chainLinks (cellText first) segments)
    | _ => none

end Swimlane
