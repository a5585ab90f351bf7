import Swimlane.Json.Token

/-!
# Sketches of JSON text

A reader that wants to complain about the first thing wrong has to see a text in order:
a number where a list is expected counts before a comma that is missing further on.  A
*sketch* is what can be seen of a text: the tree of its values up to the place where the
text stops being JSON, the places where each value begins and ends, and, for everything
that is wrong, the breaks that reading and passing over find there.  `Sketch.value?` is the
value of a text that is JSON throughout.
-/

namespace Swimlane.Json

/-! ## Sketches -/

/-- The name of a field, and what is left of the text after it. -/
structure FieldName where
  value : Except Break Text
  after : Text

mutual

/-- What can be seen of a value. -/
inductive Sketch
  | null (after : Text)
  | bool (before : Text) (value : Bool) (after : Text)
  | number (before : Text) (value : Number) (after : Text)
  | text (value : Text) (after : Text)
  /-- No value can be read here.  What was meant as one may still be passed over. -/
  | unreadable (before : Text) (reading : Break) (passing : Except Break Text)
  | list (before : Text) (items : Items)
  | object (before : Text) (fields : Fields)

/-- What can be seen of the items of a list. -/
inductive Items
  | closed (after : Text)
  /-- The text goes wrong where the next item or the end should be. -/
  | cut (reading passing : Break)
  | item (value : Sketch) (next : Items)

/-- What can be seen of the fields of an object. -/
inductive Fields
  | closed (after : Text)
  /-- The text goes wrong where the next name or the end should be. -/
  | cut (reading passing : Break)
  /-- The text goes wrong after a name. -/
  | bare (name : FieldName) (missing : Break)
  | field (name : FieldName) (value : Sketch) (next : Fields)

end

/-! ## Values -/

/-- A sketch, and what is left of the text after it if it can be passed over. -/
abbrev Sketched (α : Type) := α × Except Break Text

/-- Nothing that could be a value. -/
def sketchNothing (before : Text) (found : Break) : Sketched Sketch :=
  (.unreadable before found (.error found), .error found)

/-- The sketch of a word, after its first letter. -/
def sketchWord (before word s : Text) (make : Text → Sketch) : Sketched Sketch :=
  match readWord word s with
  | .ok rest => (make rest, .ok rest)
  | .error found => sketchNothing before found

/-- The sketch of a number.  Passed over, one that ends too early is malformed. -/
def sketchNumber (s : Text) : Sketched Sketch :=
  match readNumeral s with
  | .ok (t, rest) =>
      match t.numeral.value? with
      | some n => (.number s n rest, .ok rest)
      | none => (.unreadable s ⟨.outOfRange, .before (t.excess.getD rest)⟩ (.ok rest), .ok rest)
  | .error found =>
      let passing : Except Break Text := .error ⟨.badNumber, found.place⟩
      (.unreadable s found passing, passing)

/-- The sketch of a quoted text, after its opening quote. -/
def sketchText (before s : Text) : Sketched Sketch :=
  match readText [] s with
  | .ok (value, rest) => (.text value rest, .ok rest)
  | .error found => (.unreadable before found (passText s), passText s)

/-- Items that go wrong with what both reading and passing over find. -/
def lostItems (found : Break) : Sketched Items := (.cut found found, .error found)

/-- Fields that go wrong with what both reading and passing over find. -/
def lostFields (found : Break) : Sketched Fields := (.cut found found, .error found)

mutual

/-- The sketch of the value at the head of a text.  At most three steps take a character
off the text, so that `fuel` beyond three times its length is never used. -/
def sketchValue (fuel : Nat) (s : Text) : Sketched Sketch :=
  match fuel with
  | 0 => sketchNothing [] ⟨.endInValue, .onto []⟩
  | fuel + 1 =>
      match skipGap s with
      | [] => sketchNothing [] ⟨.endInValue, .onto []⟩
      | 'n' :: rest => sketchWord ('n' :: rest) "ull".toList rest .null
      | 't' :: rest => sketchWord ('t' :: rest) "rue".toList rest (.bool ('t' :: rest) true)
      | 'f' :: rest => sketchWord ('f' :: rest) "alse".toList rest (.bool ('f' :: rest) false)
      | '"' :: rest => sketchText ('"' :: rest) rest
      | '[' :: rest =>
          let (items, ending) := sketchItems fuel true rest
          (.list ('[' :: rest) items, ending)
      | '{' :: rest =>
          let (fields, ending) := sketchFields fuel true rest
          (.object ('{' :: rest) fields, ending)
      | c :: rest =>
          if c = '-' || c.isDigit then sketchNumber (c :: rest)
          else sketchNothing (c :: rest) ⟨.noValue, .onto (c :: rest)⟩

/-- The items of a list from here on. -/
def sketchItems (fuel : Nat) (first : Bool) (s : Text) : Sketched Items :=
  match fuel with
  | 0 => lostItems ⟨.endInList, .onto []⟩
  | fuel + 1 =>
      match skipGap s with
      | [] => lostItems ⟨.endInList, .onto []⟩
      | ']' :: rest => (.closed rest, .ok rest)
      | c :: rest =>
          if first then sketchItem fuel (c :: rest)
          else if c = ',' then
            match skipGap rest with
            | ']' :: rest =>
                let passing : Break := ⟨.noValue, .onto (']' :: rest)⟩
                (.cut ⟨.trailingComma, .onto (']' :: rest)⟩ passing, .error passing)
            | rest => sketchItem fuel rest
          else lostItems ⟨.noListComma, .onto (c :: rest)⟩

/-- An item of a list and those after it. -/
def sketchItem (fuel : Nat) (s : Text) : Sketched Items :=
  match fuel with
  | 0 => lostItems ⟨.endInList, .onto []⟩
  | fuel + 1 =>
      match sketchValue fuel s with
      | (item, .error found) => (.item item (.cut found found), .error found)
      | (item, .ok rest) =>
          let (next, ending) := sketchItems fuel false rest
          (.item item next, ending)

/-- The fields of an object from here on. -/
def sketchFields (fuel : Nat) (first : Bool) (s : Text) : Sketched Fields :=
  match fuel with
  | 0 => lostFields ⟨.endInObject, .onto []⟩
  | fuel + 1 =>
      match skipGap s with
      | [] => lostFields ⟨.endInObject, .onto []⟩
      | '}' :: rest => (.closed rest, .ok rest)
      | c :: rest =>
          if first then sketchField fuel (c :: rest)
          else if c = ',' then
            match skipGap rest with
            | [] =>
                let passing : Break := ⟨.endInObject, .onto []⟩
                (.cut ⟨.endInValue, .onto []⟩ passing, .error passing)
            | '}' :: rest =>
                let passing : Break := ⟨.noKey, .onto ('}' :: rest)⟩
                (.cut ⟨.trailingComma, .onto ('}' :: rest)⟩ passing, .error passing)
            | rest => sketchField fuel rest
          else lostFields ⟨.noObjectComma, .onto (c :: rest)⟩

/-- A field of an object and those after it. -/
def sketchField (fuel : Nat) (s : Text) : Sketched Fields :=
  match fuel with
  | 0 => lostFields ⟨.endInObject, .onto []⟩
  | fuel + 1 =>
      match s with
      | '"' :: rest =>
          match readText [] rest, passText rest with
          | .error reading, .error passing => (.cut reading passing, .error passing)
          | .ok _, .error passing => lostFields passing
          | name, .ok afterName =>
              let name : FieldName := ⟨name.map (·.1), afterName⟩
              match skipGap afterName with
              | [] =>
                  let found : Break := ⟨.endInObject, .onto []⟩
                  (.bare name found, .error found)
              | ':' :: rest =>
                  match sketchValue fuel rest with
                  | (value, .error found) => (.field name value (.cut found found), .error found)
                  | (value, .ok rest) =>
                      let (next, ending) := sketchFields fuel false rest
                      (.field name value next, ending)
              | rest =>
                  let found : Break := ⟨.noColon, .onto rest⟩
                  (.bare name found, .error found)
      | rest => lostFields ⟨.noKey, .onto rest⟩

end

/-- The sketch of a whole text, and what is left after its value. -/
def sketch (s : Text) : Sketched Sketch := sketchValue (3 * s.length + 3) s

/-! ## Passing over -/

mutual

/-- What is left of the text after a value that is passed over. -/
def Sketch.passed : Sketch → Except Break Text
  | .null after | .bool _ _ after | .number _ _ after | .text _ after => .ok after
  | .unreadable _ _ passing => passing
  | .list _ items => items.passed
  | .object _ fields => fields.passed

/-- What is left of the text after items that are passed over. -/
def Items.passed : Items → Except Break Text
  | .closed after => .ok after
  | .cut _ passing => .error passing
  | .item value next =>
      match value.passed with
      | .ok _ => next.passed
      | .error found => .error found

/-- What is left of the text after fields that are passed over. -/
def Fields.passed : Fields → Except Break Text
  | .closed after => .ok after
  | .cut _ passing => .error passing
  | .bare _ missing => .error missing
  | .field _ value next =>
      match value.passed with
      | .ok _ => next.passed
      | .error found => .error found

end

/-! ## Values of sketches -/

mutual

/-- The value of a sketch without flaws, at most `room - 1` lists and objects deep. -/
def Sketch.value? (room : Nat) : Sketch → Option Json
  | .null _ => some .null
  | .bool _ value _ => some (.bool value)
  | .number _ value _ => some (.number value)
  | .text value _ => some (.text value)
  | .unreadable _ _ _ => none
  | .list _ items => if room ≤ 1 then none else (items.values? (room - 1)).map .list
  | .object _ fields => if room ≤ 1 then none else (fields.values? (room - 1)).map .ofFields

/-- The values of the items of a list. -/
def Items.values? (room : Nat) : Items → Option (List Json)
  | .closed _ => some []
  | .cut _ _ => none
  | .item value next =>
      match value.value? room, next.values? room with
      | some value, some values => some (value :: values)
      | _, _ => none

/-- The names and values of the fields of an object. -/
def Fields.values? (room : Nat) : Fields → Option (List (Text × Json))
  | .closed _ => some []
  | .cut _ _ | .bare _ _ => none
  | .field name value next =>
      match name.value, value.value? room, next.values? room with
      | .ok name, some value, some values => some ((name, value) :: values)
      | _, _, _ => none

end

/-- How deep the values in a text may be nested, and one more. -/
def depthLimit : Nat := 128

/-- The value of a text that is JSON throughout. -/
def read? (s : Text) : Option Json :=
  match sketch s with
  | (found, .ok rest) => if skipGap rest = [] then found.value? depthLimit else none
  | (_, .error _) => none

/-! ## Values as sketches -/

mutual

/-- A value seen as a text of it would be. -/
def toSketch : Json → Sketch
  | .null => .null []
  | .bool value => .bool [] value []
  | .number value => .number [] value []
  | .text value => .text value []
  | .list items => .list [] (itemSketches items)
  | .object fields => .object [] (fieldSketches fields)

/-- The sketches of items. -/
def itemSketches : List Json → Items
  | [] => .closed []
  | item :: rest => .item item.toSketch (itemSketches rest)

/-- The sketches of fields. -/
def fieldSketches : List (Text × Json) → Fields
  | [] => .closed []
  | (name, value) :: rest => .field ⟨.ok name, []⟩ value.toSketch (fieldSketches rest)

end

end Swimlane.Json
