import Swimlane.Flowchart.Reading
import Swimlane.Text.Slice

/-!
# Reading by slices

A mask shows a text of the size of the statement.  So what is found in the shown text can be
cut out of the statement by the byte offsets at which it was found.  Here a flowchart is read
in that way.  Each reader has the name of the one that it follows, and gives `none` where a
slice does not exist.
-/

namespace Swimlane.Sliced

/-! ## Labels -/

/-- The text without the quotes around it, if it stands in quotes. -/
def unquote (s : Text) : Option Text :=
  let s := trim s
  if 2 ≤ byteCount s ∧ startsWith ['"'] s ∧ endsWith ['"'] s then slice? 1 (byteCount s - 1) s
  else some s

/-- The label that is written as `s`. -/
def cleanLabel (s : Text) : Option Text := (unquote s).map fun s => trim (breakLines s)

/-- The text without `n` bytes at either end. -/
def inside (n : Nat) (s : Text) : Option Text := slice? n (byteCount s - n) s

/-- The label and the shape of a text in brackets. -/
def readBrackets (s : Text) : Option (Text × Shape) :=
  match doubleDelimiters.find? (·.enclose s) with
  | some d => do return (← cleanLabel (← inside d.opening.length s), d.shape)
  | none => do return (← cleanLabel (← inside 1 s), singleShape (s.headD '['))

/-- An identifier with a label in brackets after it. -/
def splitBrackets? (s : Text) : Option (Option (Option Text × Text × Shape)) :=
  match s.span (!isOpening ·) with
  | (_, []) => some none
  | (before, c :: _) =>
      if s.getLast? = some (closingOf c) then do
        let id := trim (← slice? 0 (byteCount before) s)
        let (label, shape) ← readBrackets (← slice? (byteCount before) (byteCount s) s)
        return some (if id = [] then none else some id, label, shape)
      else some none

/-- An identifier and a label between an angle bracket and a square one. -/
def splitAsymmetric? (s : Text) : Option (Option (Text × Text)) :=
  if s.contains '[' ∨ s.getLast? ≠ some ']' then some none
  else
    match s.span (· ≠ '>') with
    | (_, []) => some none
    | (before, _ :: _) => do
        let id := trim (← slice? 0 (byteCount before) s)
        let label := trim (← slice? (byteCount before + 1) (byteCount s - 1) s)
        if id = [] ∨ label = [] then return none else return some (id, ← cleanLabel label)

/-- The reference that a text without class and with balanced brackets stands for. -/
def nodeRef (s : Text) : Option NodeRef := do
  match ← splitAsymmetric? s with
  | some (id, label) => return ⟨some id, some label, some .asymmetric⟩
  | none =>
      match ← splitBrackets? s with
      | some (id, label, shape) => return ⟨id, some label, some shape⟩
      | none => return ⟨some s, none, none⟩

/-- The header of a group. -/
def readGroupHeader (s : Text) : Option (Option Text × Text) :=
  let s := withoutClass s
  if s = [] then some (none, "Subgraph".toList)
  else do
    match ← splitBrackets? s with
    | some (some id, label, _) => return (some id, label)
    | _ =>
        if !s.contains '"' && !s.any isBlank then return (some s, s)
        else return (none, ← unquote s)

/-! ## Offsets -/

/-- Where cells at the end of others begin. -/
def offsetOf (cells rest : List Cell) : Nat := shownSize cells - shownSize rest

/-- The pieces of a text between the separators that its mask shows: `start` is where the
current piece begins, and the shown text goes on from `offset`. -/
def piecesFrom (separator : Char) (s : Text) (start offset : Nat) : Text → Option (List Text)
  | [] => do return [trim (← slice? start (byteCount s) s)]
  | c :: rest =>
      let next := offset + c.utf8Size
      if c = separator then do
        let piece := trim (← slice? start offset s)
        return piece :: (← piecesFrom separator s next next rest)
      else piecesFrom separator s start next rest

/-- The pieces of a text between the separators that its mask shows. -/
def splitOpen (separator : Char) (s : Text) : Option (List Text) :=
  (piecesFrom separator s 0 0 (shownText (mask s))).map (·.filter (· ≠ []))

/-! ## Links -/

/-- The cells of an arrow with a label between bars, from the label on. -/
def fromBars (cells : List Cell) : List Cell := cells.drop (((arrow? cells).getD []).length + 1)

/-- The cells of an arrow with a label inside, from the label on. -/
def fromInner (cells : List Cell) : List Cell :=
  match earlyShaft? cells with
  | none => cells
  | some shaft =>
      let (blanks, rest) := (cells.drop shaft.length).span (isBlank ·.shown)
      match innerLabel? [] rest with
      | some _ => rest
      | none => blanks.drop (blanks.length - 2) ++ rest

/-- The left side of a link. -/
def leftSide (s : Text) (left : List Cell) : Option Text := (slice? 0 (shownSize left) s).map trim

/-- The right side of a link. -/
def rightSide (s : Text) (right : List Cell) : Option Text :=
  (slice? (offsetOf (mask s) right) (shownSize (mask s)) s).map trim

/-- The label of a link; `fromLabel` finds it in the cells that follow the left side and
blanks. -/
def labelOf (s : Text) (fromLabel : List Cell → List Cell) (left label : List Cell) :
    Option Text := do
  let start := offsetOf (mask s) (fromLabel (dropBlank ((mask s).drop left.length)))
  unquote (trim (← slice? start (start + shownSize label) s))

/-- A link with its label between bars. -/
def barLink? (s : Text) : Option (Option Link) :=
  match shortestLeft barRest? [] (mask s) with
  | none => some none
  | some (left, label, right) => do
      let label ← labelOf s fromBars left label
      let left ← leftSide s left
      let right ← rightSide s right
      return if sidesOk left right then some ⟨left, if label = [] then none else some label, right⟩
        else none

/-- A link with its label inside the arrow. -/
def innerLabelLink? (s : Text) : Option (Option Link) :=
  match innerLink? (mask s) with
  | none => some none
  | some (left, label, right) => do
      let label ← labelOf s fromInner left label
      let left ← leftSide s left
      let right ← rightSide s right
      return if label ≠ [] ∧ sidesOk left right then some ⟨left, some label, right⟩ else none

/-- A link without a label. -/
def plainLink? (s : Text) : Option (Option Link) :=
  match shortestLeft plainRest? [] (mask s) with
  | none => some none
  | some (left, right) => do
      let left ← leftSide s left
      let right := dropDecoration (← rightSide s right)
      return if sidesOk left right then some ⟨left, none, right⟩ else none

/-- The link that a statement is, if it is one. -/
def link? (s : Text) : Option (Option Link) := do
  match ← barLink? s with
  | some link => return some link
  | none =>
      match ← innerLabelLink? s with
      | some link => return some link
      | none => plainLink? s

/-! ## Chains -/

/-- A label between bars at the head of a text, with its bars, and what follows it. -/
def leadingBars? (s : Text) : Option (Option (Text × Text)) :=
  match s with
  | '|' :: rest =>
      match rest.span (· ≠ '|') with
      | (_, []) => some none
      | (label, _ :: _) => do
          let size := byteCount label + 2
          return some (← slice? 0 size s, trimStart (← slice? size (byteCount s) s))
  | _ => some none

/-- A segment whose text begins with a label between bars gives the label to its arrow. -/
def takeLabel (x : Segment) : Option Segment := do
  match ← leadingBars? x.after with
  | some (label, after) => return ⟨x.arrow ++ label, after⟩
  | none => return x

/-- The segments of a text that was cut at its arrows from an offset on. -/
def segmentsFrom (s : Text) (offset : Nat) : List (List Cell × List Cell) → Option (List Segment)
  | [] => some []
  | (before, arrow) :: more => do
      let start := offset + shownSize before
      let stop := start + shownSize arrow
      let next :=
        match more with
        | [] => byteCount s
        | (between, _) :: _ => stop + shownSize between
      let arrow := trim (← slice? start stop s)
      let after := trim (← slice? stop next s)
      return ⟨arrow, after⟩ :: (← segmentsFrom s stop more)

/-- The statements of the single links, if the statement is a chain. -/
def chain? (s : Text) : Option (Option (List Text)) :=
  if (innerLink? (mask s)).isSome then some none
  else
    match (cutArrows 0 [] (mask s)).1 with
    | (first, arrow) :: second :: more => do
        let segments ← segmentsFrom s 0 ((first, arrow) :: second :: more)
        let first := trim (← slice? 0 (shownSize first) s)
        let segments ← segments.mapM takeLabel
        return if first = [] ∨ segments.any (·.after = []) then none
          else some (chainLinks first segments)
    | _ => some none

/-! ## Drafts -/

/-- Opens a group with a header. -/
def openGroup (d : Draft) (line : Nat) (header : Text) : ExceptT SyntaxFault Option Draft :=
  if !isBalanced header then throw (.unbalancedBrackets header)
  else do
    let (id, label) ← readGroupHeader header
    return d.enter line (d.groupName id label) label

/-- The reference that a text stands for. -/
def readRef (s : Text) : ExceptT SyntaxFault Option NodeRef :=
  match withoutClass s with
  | [] => throw (.missingEndpoint s)
  | text => if isBalanced text then nodeRef text else throw (.unbalancedBrackets text)

/-- Refers to the nodes of one side of a link. -/
def referSide (d : Draft) : List Text → ExceptT SyntaxFault Option (List Text × Draft)
  | [] => return ([], d)
  | part :: rest => do
      let (id, d) ← ofExcept (d.refer false (← readRef part))
      let (ids, d) ← referSide d rest
      return (id :: ids, d)

/-- Adds an edge from each node of the left side of a link to each of the right side. -/
def addLink (d : Draft) (link : Link) : ExceptT SyntaxFault Option Draft := do
  let (sources, d) ← referSide d (← splitOpen '&' link.left)
  let (targets, d) ← referSide d (← splitOpen '&' link.right)
  let pairs := sources.flatMap fun source => targets.map fun target => (source, target)
  return pairs.foldl (·.addEdge link.label ·) d

/-- Adds the links of a chain. -/
def addChain (d : Draft) (statement : Text) : List Text → ExceptT SyntaxFault Option Draft
  | [] => return d
  | part :: rest => do
      match ← link? part with
      | none => throw (.missingEndpoint statement)
      | some link => addChain (← addLink d link) statement rest

/-- Adds the edges of a statement; `none` inside if there is no arrow in it. -/
def addEdges (d : Draft) (statement : Text) : ExceptT SyntaxFault Option (Option Draft) :=
  if hasTildes (mask statement) then return some d
  else do
    match ← chain? statement with
    | some parts => return some (← addChain d statement parts)
    | none =>
        match ← link? statement with
        | some link => return some (← addLink d link)
        | none =>
            if hasArrow (mask statement) then throw (.missingEndpoint statement) else return none

/-- Reads a statement. -/
def readStatement (d : Draft) (line : Nat) (statement : Text) :
    ExceptT SyntaxFault Option Draft :=
  if statement = "end".toList then
    match d.openGroups with
    | [] => throw .unmatchedEnd
    | _ :: outer => return { d with openGroups := outer }
  else
    match Draft.subgraphHeader? statement with
    | some header => openGroup d line header
    | none =>
        match Draft.directionLine? statement with
        | some direction =>
            return if d.openGroups = [] then { d with graph := { d.graph with direction } } else d
        | none =>
            if Draft.isStyle statement then return d
            else do
              match ← addEdges d statement with
              | some d => return d
              | none => return (← ofExcept (d.refer true (← readRef statement))).2

/-- Reads a statement of a text. -/
def read (d : Draft) (s : Statement) : ExceptT SyntaxError Option Draft :=
  (readStatement d s.line s.text).adapt (⟨s.line, ·⟩)

/-- The draft after the statements of a text. -/
def draftOf : List Statement → ExceptT SyntaxError Option Draft
  | [] => throw ⟨1, .missingHeader⟩
  | header :: rest => do rest.foldlM read (← ofExcept (readHeader header))

/-- The flowchart that a text describes. -/
def ofText (s : Text) : ExceptT SyntaxError Option Flowchart := do
  let graph ← ofExcept (← draftOf (statements s)).finish
  return ⟨graph, initialSettings s⟩

end Swimlane.Sliced
