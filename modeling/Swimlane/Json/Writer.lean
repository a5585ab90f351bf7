import Swimlane.Json.Value
import Swimlane.Decimal.Style

/-!
# Writing JSON

Compact text has no white space at all; spread text has one item or field to a line,
indented by two blanks for each enclosing list or object.  An empty list or object is
written without a line break in either form.
-/

namespace Swimlane.Json

/-- How values are written. -/
structure Format where
  /-- One item to a line? -/
  spread : Bool
  /-- The layout of numbers that are not whole. -/
  numbers : Decimal.Style
  /-- Characters to be written by their code point, besides those that must be. -/
  escaped : Char → Bool

/-- Four hexadecimal digits. -/
def hexDigits (n : Nat) : Text :=
  let digits := Nat.toDigits 16 n
  List.replicate (4 - digits.length) '0' ++ digits

/-- A character inside a quoted text. -/
def writeChar (escaped : Char → Bool) (c : Char) : Text :=
  match c with
  | '"' => ['\\', '"']
  | '\\' => ['\\', '\\']
  | '\x08' => ['\\', 'b']
  | '\t' => ['\\', 't']
  | '\n' => ['\\', 'n']
  | '\x0c' => ['\\', 'f']
  | '\r' => ['\\', 'r']
  | _ => if c.toNat < 0x20 || escaped c then '\\' :: 'u' :: hexDigits c.toNat else [c]

/-- A quoted text. -/
def writeText (escaped : Char → Bool) (s : Text) : Text :=
  '"' :: s.flatMap (writeChar escaped) ++ ['"']

/-- The text of a whole number. -/
def writeInt (n : Int) : Text := if n < 0 then '-' :: decimal n.natAbs else decimal n.natAbs

/-- The text of a number; one that is not finite is written as null. -/
def writeNumber (style : Decimal.Style) : Number → Text
  | .whole n => writeInt n
  | .double x => (style.text? (Decimal.partsOfDouble x)).getD "null".toList
  | .single x => (style.text? (Decimal.partsOfSingle x)).getD "null".toList

/-- A line break and the indentation of a depth, in spread text. -/
def Format.newline (f : Format) (depth : Nat) : Text :=
  if f.spread then '\n' :: List.replicate (2 * depth) ' ' else []

/-- What stands between a field's name and its value. -/
def Format.colon (f : Format) : Text := if f.spread then [':', ' '] else [':']

mutual

/-- The text of a value at a depth. -/
def write (f : Format) (depth : Nat) : Json → Text
  | .null => "null".toList
  | .bool true => "true".toList
  | .bool false => "false".toList
  | .number n => writeNumber f.numbers n
  | .text s => writeText f.escaped s
  | .list [] => ['[', ']']
  | .list (first :: rest) =>
      '[' :: f.newline (depth + 1) ++ write f (depth + 1) first
        ++ writeItems f (depth + 1) rest ++ f.newline depth ++ [']']
  | .object [] => ['{', '}']
  | .object ((name, value) :: rest) =>
      '{' :: f.newline (depth + 1) ++ writeText f.escaped name ++ f.colon
        ++ write f (depth + 1) value ++ writeFields f (depth + 1) rest ++ f.newline depth ++ ['}']

/-- The items of a list after the first. -/
def writeItems (f : Format) (depth : Nat) : List Json → Text
  | [] => []
  | item :: rest => ',' :: f.newline depth ++ write f depth item ++ writeItems f depth rest

/-- The fields of an object after the first. -/
def writeFields (f : Format) (depth : Nat) : List (Text × Json) → Text
  | [] => []
  | (name, value) :: rest =>
      ',' :: f.newline depth ++ writeText f.escaped name ++ f.colon
        ++ write f depth value ++ writeFields f depth rest

end

/-- The whole text of a value. -/
def toText (f : Format) (value : Json) : Text := write f 0 value

end Swimlane.Json
