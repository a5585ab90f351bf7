import Swimlane.Decimal.Style
import Swimlane.Json.Sketch
import Swimlane.Json.Writer
import Swimlane.Text.Visible

/-!
# Faults in a settings file

A settings file can fail to be JSON, or its values can be of the wrong kind.  Either way
the fault is told together with the line and the column where it was found; columns count
bytes, and a line break counts with the line that it ends.
-/

namespace Swimlane

/-! ## Wording -/

/-- The wording of a flaw in JSON text. -/
def Json.Flaw.message : Json.Flaw → Text
  | endInList => "EOF while parsing a list".toList
  | endInObject => "EOF while parsing an object".toList
  | endInText => "EOF while parsing a string".toList
  | endInValue => "EOF while parsing a value".toList
  | noColon => "expected `:`".toList
  | noListComma => "expected `,` or `]`".toList
  | noObjectComma => "expected `,` or `\x7d`".toList
  | badWord => "expected ident".toList
  | noValue => "expected value".toList
  | badEscape => "invalid escape".toList
  | badNumber => "invalid number".toList
  | outOfRange => "number out of range".toList
  | controlCharacter =>
      "control character (\\u0000-\\u001F) found while parsing a string".toList
  | noKey => "key must be a string".toList
  | loneSurrogate => "lone leading surrogate in hex escape".toList
  | brokenSurrogate => "unexpected end of hex escape".toList
  | trailingComma => "trailing comma".toList
  | trailingCharacters => "trailing characters".toList

/-- A character of a text that is shown within a message. -/
def shownChar (c : Char) : Text :=
  match c with
  | '"' => ['\\', '"']
  | '\\' => ['\\', '\\']
  | '\x00' => ['\\', '0']
  | '\t' => ['\\', 't']
  | '\n' => ['\\', 'n']
  | '\r' => ['\\', 'r']
  | _ =>
      if isVisible c then [c]
      else "\\u\x7b".toList ++ Nat.toDigits 16 c.toNat ++ "\x7d".toList

/-- The style of doubles within a message. -/
def messageStyle : Decimal.Style := ⟨-5, 15⟩

/-- What a value is, in the words of a message. -/
def Json.Sketch.description : Json.Sketch → Text
  | .null _ => "null".toList
  | .bool _ true _ => "boolean `true`".toList
  | .bool _ false _ => "boolean `false`".toList
  | .number _ (.whole n) _ => "integer `".toList ++ Json.writeInt n ++ "`".toList
  | .number _ x _ => "floating point `".toList ++ Json.writeNumber messageStyle x ++ "`".toList
  | .text s _ => "string \"".toList ++ s.flatMap shownChar ++ "\"".toList
  | .list _ _ => "sequence".toList
  | .object _ _ => "map".toList
  | .unreadable _ _ _ => []

/-! ## Faults -/

/-- What is wrong with a settings file. -/
inductive SettingsFault
  /-- The text is not JSON. -/
  | notJson (flaw : Json.Flaw)
  /-- A value is of the wrong kind. -/
  | wrongType (found expected : Text)
  /-- A value is of the right kind but out of bounds. -/
  | wrongValue (found expected : Text)
  /-- A list that stands for a block has too few items. -/
  | tooFew (count : Nat) (expected : Text)
  /-- A key occurs twice in a block. -/
  | repeated (key : Text)
  /-- A word is none of those to choose from. -/
  | unknownChoice (word expected : Text)

/-- Is the text JSON, and only its values are wrong? -/
def SettingsFault.isAboutValues : SettingsFault → Bool
  | notJson _ => false
  | _ => true

/-- The wording of a fault. -/
def SettingsFault.message : SettingsFault → Text
  | notJson flaw => flaw.message
  | wrongType found expected =>
      "invalid type: ".toList ++ found ++ ", expected ".toList ++ expected
  | wrongValue found expected =>
      "invalid value: ".toList ++ found ++ ", expected ".toList ++ expected
  | tooFew count expected =>
      "invalid length ".toList ++ decimal count ++ ", expected ".toList ++ expected
  | repeated key => "duplicate field `".toList ++ key ++ "`".toList
  | unknownChoice word expected =>
      "unknown variant `".toList ++ word ++ "`, expected ".toList ++ expected

/-- A fault and the place where it was found. -/
structure Misfit where
  fault : SettingsFault
  place : Json.Place

/-- The misfit of a break. -/
def Misfit.ofBreak (b : Json.Break) : Misfit := ⟨.notJson b.flaw, b.place⟩

/-- A fault with the line and the column where it was found. -/
structure SettingsError where
  fault : SettingsFault
  line : Nat
  column : Nat

/-- The wording of an error. -/
def SettingsError.message (e : SettingsError) : Text :=
  e.fault.message ++ " at line ".toList ++ decimal e.line ++ " column ".toList ++ decimal e.column

/-! ## Places -/

/-- The number of bytes of a text that come before a place. -/
def Json.Place.offset (p : Json.Place) (text : Text) : Nat :=
  min (byteCount text) (byteCount text - byteCount p.rest + p.ahead)

/-- The line and the column after so many bytes of a text. -/
def lineAndColumn (line column : Nat) : Text → Nat → Nat × Nat
  | [], offset => (line, column + offset)
  | c :: rest, offset =>
      if offset < c.utf8Size then (line, column + offset)
      else if c = '\n' then lineAndColumn (line + 1) 0 rest (offset - 1)
      else lineAndColumn line (column + c.utf8Size) rest (offset - c.utf8Size)

/-- The error of a misfit in a text. -/
def Misfit.error (m : Misfit) (text : Text) : SettingsError :=
  let (line, column) := lineAndColumn 1 0 text (m.place.offset text)
  ⟨m.fault, line, column⟩

end Swimlane
