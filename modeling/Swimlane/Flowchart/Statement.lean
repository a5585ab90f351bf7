import Swimlane.Json.Relaxed

/-!
# From lines to statements

A flowchart text is a sequence of lines.  A line that begins with two percent signs is a
comment, or a directive with initial settings; elsewhere a comment begins with two percent
signs outside quotes.  What remains of a line is cut into statements at its semicolons
outside quotes and brackets.  Each statement remembers the number of its line.
-/

namespace Swimlane

/-! ## Comments -/

/-- The text of a line before its comment. -/
def beforeComment (quoted : Bool) : Text → Text
  | [] => []
  | c :: rest =>
      if quoted then c :: beforeComment (c ≠ '"') rest
      else if c = '"' then c :: beforeComment true rest
      else if c = '%' ∧ rest.head? = some '%' then []
      else c :: beforeComment false rest

/-! ## The directive -/

/-- After the opening brace of the settings in a directive, the settings up to the last
closing brace that the end of a directive follows. -/
def settingsBody : Text → Option Text
  | [] => none
  | c :: rest =>
      match settingsBody rest with
      | some body => some (c :: body)
      | none =>
          if c = '}' && startsWith ['}', '%', '%'] (trimStart rest) then some ['}'] else none

/-- The settings that a line holds if it is a directive. -/
def directive? (line : Text) : Option Text :=
  match line with
  | '%' :: '%' :: '{' :: rest =>
      match trimStart rest with
      | 'i' :: 'n' :: 'i' :: 't' :: rest =>
          match trimStart rest with
          | ':' :: rest =>
              match trimStart rest with
              | '{' :: rest => (settingsBody rest).map ('{' :: ·)
              | _ => none
          | _ => none
      | _ => none
  | _ => none

/-- The value of settings, strictly or failing that relaxedly read. -/
def readSettings? (settings : Text) : Option Json :=
  (Json.read? settings).or (Json.Relaxed.read? settings)

/-! ## Lines -/

/-- What a line holds. -/
inductive LineContent
  | nothing
  | settings (value : Option Json)
  | code (text : Text)

/-- The content of a line. -/
def lineContent (line : Text) : LineContent :=
  let line := trim line
  match directive? line with
  | some settings => .settings (readSettings? settings)
  | none =>
      if startsWith ['%', '%'] line then .nothing
      else
        match trim (beforeComment false line) with
        | [] => .nothing
        | text => .code text

/-! ## Statements -/

/-- Is the character an opening bracket? -/
def isOpening (c : Char) : Bool := c = '[' || c = '(' || c = '{'

/-- Is the character a closing bracket? -/
def isClosing (c : Char) : Bool := c = ']' || c = ')' || c = '}'

/-- The pieces of a line between the semicolons outside quotes and brackets; `done` is the
current piece so far, last character first.  A closing bracket with none open does not
count. -/
def semicolonPieces (depth : Nat) (quoted : Bool) (done : Text) : Text → List Text
  | [] => [done.reverse]
  | c :: rest =>
      if quoted then semicolonPieces depth (c ≠ '"') (c :: done) rest
      else if c = '"' then semicolonPieces depth true (c :: done) rest
      else if isOpening c then semicolonPieces (depth + 1) false (c :: done) rest
      else if isClosing c then semicolonPieces (depth - 1) false (c :: done) rest
      else if c = ';' ∧ depth = 0 then done.reverse :: semicolonPieces 0 false [] rest
      else semicolonPieces depth false (c :: done) rest

/-- The statements of a line. -/
def lineStatements (line : Text) : List Text :=
  ((semicolonPieces 0 false [] line).map trim).filter (· ≠ [])

/-- A statement and the number of its line. -/
structure Statement where
  line : Nat
  text : Text
deriving DecidableEq

/-- The statements of lines of which the first has the given number. -/
def statementsFrom (number : Nat) : List Text → List Statement
  | [] => []
  | line :: rest =>
      match lineContent line with
      | .code text => (lineStatements text).map (⟨number, ·⟩) ++ statementsFrom (number + 1) rest
      | _ => statementsFrom (number + 1) rest

/-- The statements of a text, with lines counted from one. -/
def statements (s : Text) : List Statement := statementsFrom 1 (lines s)

/-- The settings of the last directive among lines that can be read. -/
def lastSettings (before : Option Json) : List Text → Option Json
  | [] => before
  | line :: rest =>
      match lineContent line with
      | .settings (some value) => lastSettings (some value) rest
      | _ => lastSettings before rest

/-- The initial settings of a text. -/
def initialSettings (s : Text) : Option Json := lastSettings none (lines s)

end Swimlane
