import Swimlane.Json.Value

/-!
# Numbers in JSON text

A number of a JSON text is an optional minus sign, whole digits without a leading zero,
and optionally a fraction and an exponent.  Without fraction and exponent it is a whole
number if it fits sixty-four bits.  Any other is a double, computed from as many leading
digits as fit sixty-four bits and from one power of ten.
-/

namespace Swimlane.Json

/-- The parts of a number, as they are written. -/
structure Numeral where
  negative : Bool
  whole : Text
  fraction : Text
  /-- The exponent, if there is one. -/
  exponent : Option Int
  /-- Does the text have a point? -/
  pointed : Bool

/-! ## Values -/

/-- The value of a decimal digit. -/
def digitValue (c : Char) : Nat := c.toNat - '0'.toNat

/-- The value of a run of decimal digits. -/
def digitsValue (digits : Text) : Nat := digits.foldl (fun n c => 10 * n + digitValue c) 0

/-- The greatest whole number that is kept digit by digit. -/
def greatestWhole : Nat := UInt64.size - 1

/-- Adds whole digits to a significand as long as they fit; each digit from the first that
does not counts as a power of ten instead. -/
def gatherWhole (significand : Nat) (power : Nat) : Text → Nat × Nat
  | [] => (significand, power)
  | c :: rest =>
      let next := 10 * significand + digitValue c
      if power = 0 ∧ next ≤ greatestWhole then gatherWhole next 0 rest
      else gatherWhole significand (power + 1) rest

/-- Adds the digits of a fraction to a significand, up to the first that does not fit. -/
def gatherFraction (significand : Nat) (power : Int) : Text → Nat × Int
  | [] => (significand, power)
  | c :: rest =>
      let next := 10 * significand + digitValue c
      if next ≤ greatestWhole then gatherFraction next (power - 1) rest else (significand, power)

/-- The double of a power of ten. -/
def powerOfTen (n : Nat) : Float := Float.ofScientific 1 false n

/-- A double divided by ten to the power `n`, in steps of at most 308. -/
def divideByPower (x : Float) (n : Nat) : Nat → Float
  | 0 => 0
  | steps + 1 =>
      if n ≤ 308 then x / powerOfTen n else divideByPower (x / powerOfTen 308) (n - 308) steps

/-- The double `significand * 10 ^ power`, if it is finite.  The quotient is zero after
three steps at most. -/
def doubleOf? (significand : Nat) (power : Int) : Option Float :=
  let x := Float.ofNat significand
  if power < 0 then some (divideByPower x power.natAbs 4)
  else if power.natAbs ≤ 308 then
    let y := x * powerOfTen power.natAbs
    if y.isFinite then some y else none
  else if significand = 0 then some x
  else none

/-- The value of a number, unless it is a double out of range. -/
def Numeral.value? (t : Numeral) : Option Number :=
  let (significand, excess) := gatherWhole 0 0 t.whole
  if !t.pointed && t.exponent.isNone && excess = 0 then
    if !t.negative then some (.whole significand)
    else if significand = 0 ∨ UInt64.size / 2 < significand then
      some (.double (-(Float.ofNat significand)))
    else some (.whole (-(significand : Int)))
  else
    let (significand, power) := gatherFraction significand excess t.fraction
    (doubleOf? significand (power + t.exponent.getD 0)).map fun x =>
      .double (if t.negative then -x else x)

end Swimlane.Json
