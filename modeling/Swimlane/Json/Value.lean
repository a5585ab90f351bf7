import Swimlane.Text.Basic

/-!
# JSON values

A value keeps the fields of an object in the order in which they are written.  Values that
were read have their fields in ascending order of the names, each name once: `putField`
keeps that order, and a field that is put again replaces the earlier one.
-/

namespace Swimlane

/-- A number: whole, or a double- or single-precision one. -/
inductive Json.Number
  | whole (value : Int)
  | double (value : Float)
  | single (value : Float32)

/-- A JSON value. -/
inductive Json
  | null
  | bool (value : Bool)
  | number (value : Json.Number)
  | text (value : Text)
  | list (items : List Json)
  | object (fields : List (Text × Json))

namespace Json

/-- A natural number as a value. -/
def ofNat (n : Nat) : Json := .number (.whole n)

/-- The value of a field of an object. -/
def field? (name : Text) : Json → Option Json
  | .object fields => fields.lookup name
  | _ => none

/-- Puts a field among fields in ascending order of their names. -/
def putField (name : Text) (value : Json) : List (Text × Json) → List (Text × Json)
  | [] => [(name, value)]
  | (n, v) :: rest =>
      if name < n then (name, value) :: (n, v) :: rest
      else if name = n then (name, value) :: rest
      else (n, v) :: putField name value rest

/-- The object with these fields, of which the last of each name counts. -/
def ofFields (fields : List (Text × Json)) : Json :=
  .object (fields.foldl (fun done field => putField field.1 field.2 done) [])

end Json

end Swimlane
